import GatedRollout.Proofs.Process.Discipline
import GatedRollout.Proofs.Process.Ends

/-!
# The last step of a run

The steps of a run are its calls and its pauses, and the last of them turns out well, is a call that
is answered with an error, or is a pause that the token cuts short. `Process.Leaves` says of a
process which of these goes with which of its results, whatever it is answered; an attempt blames
its last step if its errors alone tell how that step turned out.
-/

namespace GatedRollout

variable {ι : Interface} {S σ ε ε' α β γ : Type}

/-- How a step turned out. -/
inductive Turnout
  | fine
  /-- The call was answered with an error. -/
  | refused
  /-- The token had fired when the pause ended. -/
  | cut
  deriving DecidableEq

namespace Turnout

def ofAnswer {ρ : Type} : Except ClientError ρ → Turnout
  | .ok _ => fine
  | .error _ => refused

def ofRest : Rest → Turnout
  | .elapsed => fine
  | .cancelled => cut

end Turnout

/-- How the last step of a watch turned out that ended so. -/
def Watched.turnout : Watched β γ → Turnout
  | .settled _ => .fine
  | .overdue _ => .fine
  | .cancelled => .cut
  | .failed _ => .refused

/-- How the last step of a run turned out; `last` tells it of a run without steps. -/
def lastTurnout (env : Environment ι S) (token : Token) (actor : Option Nat) :
    Process ι σ α → σ → World ι S → Turnout → Turnout
  | .done _, _, _, last => last
  | .call r next, s, w, last =>
      match (w.issue env actor r).1.effect with
      | .answer answer =>
          lastTurnout env token actor (next answer) s (w.told env actor r answer)
            (.ofAnswer answer)
      | .panic _ => last
      | .hang => last
  | .pause d next, s, w, _ =>
      let (rest, w) := w.rested env token actor d
      lastTurnout env token actor (next rest) s w (.ofRest rest)
  | .look next, s, w, last =>
      lastTurnout env token actor (next ⟨w.clock, w.cancelled token, s⟩) s w last
  | .put t next, _, w, last => lastTurnout env token actor next t w last
  | .panic _, _, _, last => last
  | .stall, _, _, last => last

/-- What the world shows of a last step that turned out so. -/
def Turnout.Shows (token : Token) (actor : Option Nat) (w : World ι S) : Turnout → Prop
  | .fine => True
  | .refused =>
      ∃ r refusal, w.history.head? = some ⟨w.clock, actor, .returned r (.error refusal)⟩
  | .cut => w.cancelled token = true

theorem Turnout.shows_rested (env : Environment ι S) (token : Token) (actor : Option Nat)
    (w : World ι S) (d : Duration) :
    (ofRest (w.rested env token actor d).1).Shows token actor
      (w.rested env token actor d).2 := by
  unfold World.rested World.restEnd
  split
  · assumption
  · dsimp only
    split
    · assumption
    · trivial

/-- A run that returns does nothing more after its last step. -/
theorem shows_lastTurnout {env : Environment ι S} {token : Token} {actor : Option Nat}
    {p : Process ι σ α} {s t : σ} {w w' : World ι S} {a : α} (last : Turnout)
    (h : last.Shows token actor w) (hrun : run env token actor p s w = ⟨.returned a, t, w'⟩) :
    (lastTurnout env token actor p s w last).Shows token actor w' := by
  induction p generalizing s w last with
  | done b =>
      cases hrun
      exact h
  | call r next ih =>
      obtain ⟨answer, htells, hrest⟩ := run_call_returned_iff.mp hrun
      unfold World.Tells at htells
      rw [lastTurnout, htells]
      refine ih answer _ ?_ hrest
      cases answer with
      | ok reply => trivial
      | error refusal => exact ⟨r, refusal, rfl⟩
  | pause d next ih =>
      rw [run_pause_rested] at hrun
      exact ih _ _ (Turnout.shows_rested env token actor w d) hrun
  | look next ih => exact ih _ last h hrun
  | put u next ih => exact ih last h hrun
  | panic message => cases hrun
  | stall => cases hrun

/-! ## Processes -/

/-- The account is how the last step turned out. -/
def Discipline.turning : Discipline ι σ Turnout where
  call _ _ K := ∀ answer, K answer (.ofAnswer answer)
  pause _ _ K := ∀ rest, K rest (.ofRest rest)
  look _ K := ∀ glimpse, K glimpse
  put _ last K := K last
  panic _ _ := True
  stall _ := True
  call_mono hK h := fun answer => hK _ _ (h answer)
  pause_mono hK h := fun rest => hK _ _ (h rest)
  look_mono hK h := fun glimpse => hK _ (h glimpse)
  put_mono hK h := hK _ h

/-- However it is answered and whatever it sees, this holds of what the process returns and of how
its last step turned out. -/
def Process.Leaves (post : α → Turnout → Prop) (p : Process ι σ α) (last : Turnout) : Prop :=
  p.Obeys .turning post last

namespace Process.Leaves

variable {last : Turnout}

/-- What a run returns goes with how its last step turned out. -/
theorem run {post : α → Turnout → Prop} {p : Process ι σ α} (h : p.Leaves post last)
    {env : Environment ι S} {token : Token} {actor : Option Nat} {s t : σ} {w w' : World ι S}
    {a : α} (hrun : GatedRollout.run env token actor p s w = ⟨.returned a, t, w'⟩) :
    post a (lastTurnout env token actor p s w last) := by
  induction p generalizing s w last with
  | done b =>
      cases hrun
      exact h
  | call r next ih =>
      obtain ⟨answer, htells, hrest⟩ := run_call_returned_iff.mp hrun
      unfold World.Tells at htells
      rw [lastTurnout, htells]
      exact ih answer (h answer) hrest
  | pause d next ih =>
      rw [run_pause_rested] at hrun
      exact ih _ (h _) hrun
  | look next ih => exact ih _ (h _) hrun
  | put u next ih => exact ih h hrun
  | panic message => cases hrun
  | stall => cases hrun

/-- The last step of a watch tells whether a request failed, a pause was cut short or a reply ended
it; and what settles it is what its judge made of a reply. -/
theorem watch (watch : Watch ι β γ) (patience : Nat) :
    (watch.run patience : Process ι σ _).Leaves (fun watched last => last = watched.turnout ∧
      ∀ b, watched = .settled b → ∃ seen reply, watch.judge seen reply = .settled b) last := by
  refine fun glimpse => Obeys.poll (fun _ _ _ => True) (fun _ _ _ => trivial) ?_ trivial
  intro n seen last _ answer
  cases answer with
  | error e => exact ⟨rfl, nofun⟩
  | ok reply =>
      dsimp only [Watch.Requires]
      cases hjudge : watch.judge seen reply with
      | settled b =>
          refine ⟨rfl, ?_⟩
          rintro _ ⟨⟩
          exact ⟨seen, reply, hjudge⟩
      | pending seen' =>
          intro glimpse
          dsimp only
          split
          · exact ⟨rfl, nofun⟩
          · intro rest
            cases rest with
            | elapsed => trivial
            | cancelled => exact ⟨rfl, nofun⟩

end Process.Leaves

/-! ## Attempts -/

/-- How the last step turned out of an attempt whose errors are blamed so. -/
def Turnout.ofResult (blame : ε → Turnout) : Except ε α → Turnout
  | .ok _ => fine
  | .error e => blame e

/-- After a step that turned out well, the attempt succeeds with such a step or fails with one that
its error is blamed on. -/
def Attempt.Blames (blame : ε → Turnout) (m : Attempt ι σ ε α) : Prop :=
  m.run.Leaves (fun result last => last = .ofResult blame result) .fine

namespace Attempt.Blames

variable {blame : ε → Turnout}

theorem run {m : Attempt ι σ ε α} (h : m.Blames blame) {env : Environment ι S} {token : Token}
    {actor : Option Nat} {s t : σ} {w w' : World ι S} {result : Except ε α}
    (hrun : GatedRollout.run env token actor m.run s w = ⟨.returned result, t, w'⟩) :
    lastTurnout env token actor m.run s w .fine = .ofResult blame result :=
  Process.Leaves.run h hrun

theorem pure (a : α) : (Pure.pure a : Attempt ι σ ε α).Blames blame := rfl

theorem known {result : Except ε α} (h : ∀ e, result = .error e → blame e = .fine) :
    (liftM result : Attempt ι σ ε α).Blames blame := by
  cases result with
  | ok a => rfl
  | error e => exact (h e rfl).symm

theorem bind {m : Attempt ι σ ε α} {f : α → Attempt ι σ ε β} (h : m.Blames blame)
    (next : ∀ a, (f a).Blames blame) : (m >>= f).Blames blame := by
  refine Process.Obeys.bind h fun result last hlast => ?_
  subst hlast
  cases result with
  | ok a => exact next a
  | error e => rfl

theorem within {blame' : ε' → Turnout} {m : Attempt ι σ ε α} {wrap : ε → ε'} (h : m.Blames blame)
    (hwrap : ∀ e, blame' (wrap e) = blame e) : (m.within wrap).Blames blame' := by
  refine Process.Obeys.bind h fun result last hlast => ?_
  subst hlast
  cases result with
  | ok a => rfl
  | error e => exact (hwrap e).symm

theorem ask {r : ι.Request} {fault : ClientError → ε} (h : ∀ e, blame (fault e) = .refused) :
    (Attempt.ask r fault : Attempt ι σ ε _).Blames blame := by
  intro answer
  cases answer with
  | ok reply => rfl
  | error e => exact (h e).symm

theorem modify (f : σ → σ) : (Attempt.modify f : Attempt ι σ ε _).Blames blame := fun _ => rfl

theorem state : (Attempt.state : Attempt ι σ ε _).Blames blame := fun _ => rfl

theorem now : (Attempt.now : Attempt ι σ ε _).Blames blame := fun _ => rfl

end Attempt.Blames

end GatedRollout
