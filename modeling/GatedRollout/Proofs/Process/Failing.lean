import GatedRollout.Proofs.Process.Ends

/-!
# What an attempt fails with

An attempt fails as the first of its parts that fails, in the world that this part has left, so what
holds of the failures of the parts holds of its own if it is no matter how early the attempt began.
-/

namespace GatedRollout

variable {ι : Interface} {S σ ε ε' α β : Type}

/-- This holds of every failure of the attempt, and of the worlds in which it begins and fails. -/
def Attempt.Fails (env : Environment ι S) (token : Token) (actor : Option Nat)
    (why : ε → World ι S → World ι S → Prop) (m : Attempt ι σ ε α) : Prop :=
  ∀ s w e t w', run env token actor m.run s w = ⟨.returned (.error e), t, w'⟩ → why e w w'

namespace Attempt.Fails

variable {env : Environment ι S} {token : Token} {actor : Option Nat}
  {why : ε → World ι S → World ι S → Prop}

theorem bind {m : Attempt ι σ ε α} {f : α → Attempt ι σ ε β} (h : m.Fails env token actor why)
    (next : ∀ a, (f a).Fails env token actor why)
    (later : ∀ {e w v w'}, v.Follows w → why e v w' → why e w w') :
    (m >>= f).Fails env token actor why := by
  intro s w e t w' hrun
  rcases run_attempt_returned_iff.mp hrun with ⟨e', he, hfailed⟩ | ⟨a, u, v, hfirst, hrest⟩
  · cases he
    exact h _ _ _ _ _ hfailed
  · have hfollows := run_follows env token actor m.run s w
    rw [hfirst] at hfollows
    exact later hfollows (next a _ _ _ _ _ hrest)

theorem done (a : α) : (pure a : Attempt ι σ ε α).Fails env token actor why := by
  intro s w e t w' hrun
  cases hrun

theorem lift (p : Process ι σ α) :
    Attempt.Fails env token actor why (ExceptT.lift p : Attempt ι σ ε α) := by
  intro s w e t w' hrun
  obtain ⟨a, u, v, -, hrest⟩ := run_bind_returned_iff.mp hrun
  cases hrest

/-- What comes after the attempt does not fail. -/
theorem bind_sure {m : Attempt ι σ ε α} {f : α → Attempt ι σ ε β} (h : m.Fails env token actor why)
    (sure : ∀ a, (f a).Fails env token actor fun _ _ _ => False) :
    (m >>= f).Fails env token actor why := by
  intro s w e t w' hrun
  rcases run_attempt_returned_iff.mp hrun with ⟨e', he, hfailed⟩ | ⟨a, u, v, -, hrest⟩
  · cases he
    exact h _ _ _ _ _ hfailed
  · exact (sure a _ _ _ _ _ hrest).elim

theorem known {result : Except ε α} (h : ∀ e w, result = .error e → why e w w) :
    (liftM result : Attempt ι σ ε α).Fails env token actor why := by
  intro s w e t w' hrun
  cases result with
  | ok a => cases hrun
  | error e' =>
      cases hrun
      exact h e w rfl

theorem ask {r : ι.Request} {fault : ClientError → ε}
    (h : ∀ e w, why (fault e) w (w.told env actor r (.error e))) :
    (Attempt.ask r fault : Attempt ι σ ε _).Fails env token actor why := by
  intro s w e t w' hrun
  obtain ⟨answer, -, hrest⟩ := run_call_returned_iff.mp hrun
  cases answer with
  | ok reply => cases hrest
  | error refusal =>
      cases hrest
      exact h refusal w

theorem within {why' : ε' → World ι S → World ι S → Prop} {m : Attempt ι σ ε α} {wrap : ε → ε'}
    (h : m.Fails env token actor fun e => why' (wrap e)) :
    (m.within wrap).Fails env token actor why' := by
  intro s w e t w' hrun
  obtain ⟨inner, hinner, hresult⟩ := run_within_returned_iff.mp hrun
  cases inner with
  | ok a => cases hresult
  | error e' =>
      cases hresult
      exact h _ _ _ _ _ hinner

end Attempt.Fails

end GatedRollout
