import GatedRollout.Proofs.Process.Discipline
import GatedRollout.Proofs.Process.Watch

/-!
# What processes leave alone

A process `Maintains` a property of its state if the property stays true wherever the process
waits, is stuck or returns, and `Spares` a part of the state if it leaves that part as it was.
Reading, asking and resting change no state, so that only the writes of a process have to be looked
at. Of any process, every reply among its deeds belongs to a request among them.
-/

namespace GatedRollout

variable {ι : Interface} {S X σ κ α : Type} {k : σ → κ}

/-! ## Properties of the state -/

/-- Whatever happens, what is true of the state stays true of it. -/
def Process.Maintains (P : σ → Prop) (p : Process ι σ α) : Prop :=
  p.Conforms { finds := P, writes := P }

theorem Process.Maintains.secures {P : σ → Prop} {E : Setting ι X} {p : Process ι σ α}
    (h : p.Maintains P) {s : σ} (hs : P s) (x : X) :
    Secures E (fun t _ => P t) (fun _ t _ => P t) p s x := by
  induction p generalizing s x with
  | done a => exact hs
  | call r next ih =>
      exact fun y _ => ⟨hs, fun answer z _ => ih answer (h.2 answer trivial) hs z⟩
  | pause d next ih =>
      exact ⟨ih _ (h _) hs x, fun y _ => ⟨hs, fun rest => ih rest (h rest) hs y⟩⟩
  | look next ih => exact fun now cancelled => ih _ (h _ hs) hs x
  | put t next ih => exact ih h.2 h.1 x
  | panic message => exact hs
  | stall => exact hs

/-! ## Parts of the state -/

/-- Whatever happens, this part of the state stays as it was. -/
def Process.Spares (k : σ → κ) (p : Process ι σ α) : Prop :=
  ∀ (s : σ) (x : List (Event ι)),
    Secures recorded (fun t _ => k t = k s) (fun _ t _ => k t = k s) p s x

namespace Process.Spares

/-- A part is spared where each value of it stays. -/
theorem of_maintains {p : Process ι σ α} (h : ∀ v, p.Maintains fun t => k t = v) : p.Spares k :=
  fun s x => (h (k s)).secures rfl x

/-- A run leaves what its process spares. -/
theorem run {p : Process ι σ α} (h : p.Spares k) (env : Environment ι S) (token : Token)
    (actor : Option Nat) (s : σ) (w : World ι S) :
    k (GatedRollout.run env token actor p s w).state = k s := by
  obtain ⟨y, -, hsecured⟩ := (h s []).run env token actor (List.append_nil (w.deeds actor)).symm
  exact hsecured.elim

end Process.Spares

/-! ## Requests and replies -/

/-- Every reply among the deeds belongs to a request among them. -/
def Answered (x : List (Event ι)) : Prop :=
  ∀ r answer, Event.returned r answer ∈ x → Event.issued r ∈ x

theorem answered_nil : Answered ([] : List (Event ι)) := nofun

theorem Answered.append {x y : List (Event ι)} (h : Answered x)
    (hy : ∀ r answer, Event.returned r answer ∈ y → Event.issued r ∈ x ++ y) :
    Answered (x ++ y) := by
  intro r answer hmem
  rcases List.mem_append.mp hmem with hx | hmem
  · exact List.mem_append_left _ (h r answer hx)
  · exact hy r answer hmem

/-- The deeds of any process are answered. -/
theorem secures_answered (p : Process ι σ α) {s : σ} {x : List (Event ι)} (hx : Answered x) :
    Secures recorded (fun _ y => Answered y) (fun _ _ y => Answered y) p s x := by
  induction p generalizing s x with
  | done a => exact hx
  | call r next ih =>
      rintro _ rfl
      have hissued : Answered (x ++ [Event.issued r]) := hx.append (by simp)
      refine ⟨hissued, ?_⟩
      rintro answer _ rfl
      refine ih answer (hissued.append fun r' answer' hmem => ?_)
      cases List.mem_singleton.mp hmem
      simp
  | pause d next ih =>
      refine ⟨ih _ hx, ?_⟩
      rintro _ rfl
      have hslept : Answered (x ++ [Event.slept d]) := hx.append (by simp)
      exact ⟨hslept, fun rest => ih rest hslept⟩
  | look next ih => exact fun now cancelled => ih _ hx
  | put t next ih => exact ih hx
  | panic message => exact hx
  | stall => exact hx

/-- Since an earlier world, what the request was answered with satisfies this. -/
def World.Answers {r : ι.Request} (given : Except ClientError (ι.Reply r) → Prop)
    (actor : Option Nat) (earlier w : World ι S) : Prop :=
  ∃ y, w.deeds actor = earlier.deeds actor ++ y ∧
    ∀ answer, Event.returned r answer ∈ y → given answer

theorem World.Answers.deed {r : ι.Request} {given : Except ClientError (ι.Reply r) → Prop}
    {actor : Option Nat} {earlier w later : World ι S} (h : World.Answers given actor earlier w)
    {e : Event ι} (hlater : later.deeds actor = w.deeds actor ++ [e])
    (he : ∀ answer, e = .returned r answer → given answer) :
    World.Answers given actor earlier later := by
  obtain ⟨y, hy, hgiven⟩ := h
  refine ⟨y ++ [e], by rw [hlater, hy, List.append_assoc], fun answer hmem => ?_⟩
  rcases List.mem_append.mp hmem with hmem | hmem
  · exact hgiven answer hmem
  · exact he answer (List.mem_singleton.mp hmem).symm

/-- A run has the answers to a request from its environment. -/
theorem answers_run {env : Environment ι S} {r : ι.Request}
    {given : Except ClientError (ι.Reply r) → Prop}
    (h : ∀ s now answer, (env.react s now r).1.effect = .answer answer → given answer)
    (token : Token) (actor : Option Nat) (p : Process ι σ α) (s : σ) (w : World ι S) :
    World.Answers given actor w (run env token actor p s w).world := by
  let anything : Setting ι Unit := ⟨fun _ _ _ => True, fun _ _ _ _ => True, fun _ _ _ => True⟩
  have hissue : ∀ later r', World.Answers given actor w later →
      World.Answers given actor w (later.issue env actor r').2 := fun later r' hlater =>
    hlater.deed (e := .issued r') (by rw [World.deeds_issue, if_pos rfl]) nofun
  have tracks : Tracks anything env actor fun later _ => World.Answers given actor w later := by
    refine ⟨fun {later _ r' answer} hlater heffect => ⟨(), (), trivial, trivial, ?_⟩,
      fun hlater => ⟨(), trivial, fun _ => hissue _ _ hlater⟩, fun {later _ d} hlater =>
        ⟨(), trivial, hlater.deed (e := .slept d) ?_ nofun⟩⟩
    · refine (hissue later r' hlater).deed (e := .returned r' answer) ?_ fun answer' heq => ?_
      · rw [World.deeds_note, if_pos ⟨rfl, rfl⟩]
      · cases heq
        exact h _ _ _ heffect
    · rw [World.deeds_sleep, if_pos rfl]
  obtain ⟨_, hkept, -⟩ := tracks.run_visits token p (s := s) (x := ())
    ⟨[], (List.append_nil _).symm, nofun⟩
  exact hkept

end GatedRollout
