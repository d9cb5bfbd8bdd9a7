import GatedRollout.Proofs.Process.Frame
import GatedRollout.Proofs.Process.Trace
import Mathlib.Data.List.Chain

/-!
# The states that processes write

A process writes its state at the moment of each change, and it may be abandoned at any of its calls
and pauses, so every state that it writes may be its last. `Passes` lists the states of one way
through a process, and `Process.Treads` says of all of these ways that each step from one state to
the next is of one kind.
-/

namespace GatedRollout

variable {ι : Interface} {S σ ε α β : Type}

/-! ## Ways through a process -/

/-- From a state on, a process may write these states one after another, until it returns, in which
case the answer is given, gets stuck, or is abandoned at a call or in a pause. -/
inductive Passes : Process ι σ α → σ → List σ → Option α → Prop
  | done (a : α) (s : σ) : Passes (.done a) s [] (some a)
  | panic (message : String) (s : σ) : Passes (.panic message) s [] none
  | stall (s : σ) : Passes .stall s [] none
  | waiting (r : ι.Request) (next : Except ClientError (ι.Reply r) → Process ι σ α) (s : σ) :
      Passes (.call r next) s [] none
  | answered {r next s ts found} (answer : Except ClientError (ι.Reply r))
      (later : Passes (next answer) s ts found) : Passes (.call r next) s ts found
  | resting (d : Duration) (next : Rest → Process ι σ α) (s : σ) : Passes (.pause d next) s [] none
  | rested {d next s ts found} (rest : Rest) (later : Passes (next rest) s ts found) :
      Passes (.pause d next) s ts found
  | looked {next s ts found} (now : Instant) (cancelled : Bool)
      (later : Passes (next ⟨now, cancelled, s⟩) s ts found) : Passes (.look next) s ts found
  | wrote {t next s ts found} (later : Passes next t ts found) :
      Passes (.put t next) s (t :: ts) found

/-- Every run goes one of these ways, and leaves the last state that was written. -/
theorem run_passes (env : Environment ι S) (token : Token) (actor : Option Nat)
    (p : Process ι σ α) (s : σ) (w : World ι S) :
    let out := run env token actor p s w
    ∃ ts, Passes p s ts out.ending.answer? ∧ ts.getLastD s = out.state := by
  induction p generalizing s w with
  | done a => exact ⟨[], .done a s, rfl⟩
  | call r next ih =>
      rw [run_call]
      dsimp only
      split
      · next answer _ =>
          obtain ⟨ts, hpasses, hlast⟩ := ih answer s ((w.issue env actor r).2.note actor _)
          exact ⟨ts, .answered answer hpasses, hlast⟩
      · exact ⟨[], .waiting r next s, rfl⟩
      · exact ⟨[], .waiting r next s, rfl⟩
  | pause d next ih =>
      rw [run_pause]
      split
      · obtain ⟨ts, hpasses, hlast⟩ := ih .cancelled s w
        exact ⟨ts, .rested .cancelled hpasses, hlast⟩
      · obtain ⟨ts, hpasses, hlast⟩ := ih _ s (w.sleep env actor d).2
        exact ⟨ts, .rested _ hpasses, hlast⟩
  | look next ih =>
      obtain ⟨ts, hpasses, hlast⟩ := ih _ s w
      exact ⟨ts, .looked _ _ hpasses, hlast⟩
  | put t next ih =>
      obtain ⟨ts, hpasses, hlast⟩ := ih t w
      exact ⟨t :: ts, .wrote hpasses, (List.getLastD_cons ..).trans hlast⟩
  | panic message => exact ⟨[], .panic message s, rfl⟩
  | stall => exact ⟨[], .stall s, rfl⟩

/-- Two chains of states, the second of which goes on from the last state of the first. -/
theorem isChain_cons_append {step : σ → σ → Prop} {s : σ} {ts us : List σ}
    (h : List.IsChain step (s :: ts)) (hnext : List.IsChain step (ts.getLastD s :: us)) :
    List.IsChain step (s :: (ts ++ us)) := by
  induction ts generalizing s with
  | nil => exact hnext
  | cons t ts ih =>
      obtain ⟨hstep, htail⟩ := List.isChain_cons_cons.mp h
      rw [List.getLastD_cons] at hnext
      exact List.isChain_cons_cons.mpr ⟨hstep, ih htail hnext⟩

/-- What every step leads to holds of all states of a chain but the first. -/
theorem forall_mem_of_isChain {step : σ → σ → Prop} {P : σ → Prop} (lead : ∀ s t, step s t → P t)
    {s : σ} {ts : List σ} (h : List.IsChain step (s :: ts)) : ∀ t ∈ ts, P t := by
  induction ts generalizing s with
  | nil => exact nofun
  | cons t ts ih =>
      obtain ⟨hstep, htail⟩ := List.isChain_cons_cons.mp h
      exact List.forall_mem_cons.mpr ⟨lead s t hstep, ih htail⟩

/-! ## Steps of one kind -/

/-- Each state that is written is a step of this kind from the one before. -/
def Discipline.treading (step : σ → σ → Prop) : Discipline ι σ σ where
  call _ s K := ∀ answer, K answer s
  pause _ s K := ∀ rest, K rest s
  look s K := ∀ now cancelled, K ⟨now, cancelled, s⟩
  put t s K := step s t ∧ K t
  panic _ _ := True
  stall _ := True
  call_mono hK h := fun answer => hK _ _ (h answer)
  pause_mono hK h := fun rest => hK _ _ (h rest)
  look_mono hK h := fun now cancelled => hK _ (h now cancelled)
  put_mono hK h := ⟨h.1, hK _ h.2⟩

/-- From this state on, whatever the answers, the clock and the token, each state that the process
writes is a step of this kind from the one before, and where it returns, this holds of the last. -/
def Process.Treads (step : σ → σ → Prop) (post : α → σ → Prop) (p : Process ι σ α) (s : σ) : Prop :=
  p.Obeys (.treading step) post s

/-- The process writes no state. -/
def Process.Still (p : Process ι σ α) : Prop := p.Conforms { writes := fun _ => False }

/-- After a process that writes nothing, the state is the same. -/
theorem Process.Still.treads {step : σ → σ → Prop} {p : Process ι σ α} (h : p.Still) (s : σ) :
    p.Treads step (fun _ t => t = s) s := by
  induction p with
  | done a => rfl
  | call r next ih => exact fun answer => ih answer (h.2 answer trivial)
  | pause d next ih => exact fun rest => ih rest (h rest)
  | look next ih => exact fun now cancelled => ih _ (h _ trivial)
  | put t next ih => exact h.1.elim
  | panic message => trivial
  | stall => trivial

/-- Between states with a property that the process maintains, any writes are steps. -/
theorem Process.Maintains.treads {P : σ → Prop} {step : σ → σ → Prop} {p : Process ι σ α}
    (h : p.Maintains P) (hstep : ∀ t u, P t → P u → step t u) {s : σ} (hs : P s) :
    p.Treads step (fun _ t => P t) s := by
  induction p generalizing s with
  | done a => exact hs
  | call r next ih => exact fun answer => ih answer (h.2 answer trivial) hs
  | pause d next ih => exact fun rest => ih rest (h rest) hs
  | look next ih => exact fun now cancelled => ih _ (h _ hs) hs
  | put t next ih => exact ⟨hstep s t hs h.1, ih h.2 h.1⟩
  | panic message => trivial
  | stall => trivial

namespace Process.Treads

variable {step : σ → σ → Prop} {s : σ}

/-- The states of every way through the process are a chain of such steps. -/
theorem passes {post : α → σ → Prop} {p : Process ι σ α} (h : p.Treads step post s) {ts : List σ}
    {found : Option α} (passes : Passes p s ts found) :
    List.IsChain step (s :: ts) ∧ ∀ a, found = some a → post a (ts.getLastD s) := by
  induction passes with
  | done a s =>
      refine ⟨.singleton s, fun b hb => ?_⟩
      cases hb
      exact h
  | panic | stall | waiting | resting => exact ⟨.singleton _, nofun⟩
  | answered answer _ ih => exact ih (h answer)
  | rested rest _ ih => exact ih (h rest)
  | looked now cancelled _ ih => exact ih (h now cancelled)
  | wrote _ ih =>
      obtain ⟨hchain, hpost⟩ := ih h.2
      refine ⟨List.isChain_cons_cons.mpr ⟨h.1, hchain⟩, fun a ha => ?_⟩
      rw [List.getLastD_cons]
      exact hpost a ha

/-! ### Composition -/

theorem modify_bind {post : β → σ → Prop} {g : σ → σ} {f : Unit → Process ι σ β}
    (hstep : step s (g s)) (h : (f ()).Treads step post (g s)) :
    (Process.modify g >>= f).Treads step post s :=
  fun _ _ => ⟨hstep, h⟩

theorem still_bind {post : β → σ → Prop} {p : Process ι σ α} {f : α → Process ι σ β} (h : p.Still)
    (next : ∀ a, (f a).Treads step post s) : (p >>= f).Treads step post s := by
  refine Obeys.bind (h.treads s) ?_
  rintro a _ rfl
  exact next a

/-- An attempt that writes nothing ends where it began. -/
theorem of_still {post : α → σ → Prop} {p : Process ι σ α} (h : p.Still) (hpost : ∀ a, post a s) :
    p.Treads step post s := by
  refine Obeys.weaken (h.treads s) ?_
  rintro a _ rfl
  exact hpost a

/-! ### Attempts -/

theorem still_then {post : Except ε β → σ → Prop} {m : Attempt ι σ ε α} {f : α → Attempt ι σ ε β}
    (h : m.run.Still) (ok : ∀ a, (f a).run.Treads step post s) (error : ∀ e, post (.error e) s) :
    (m >>= f).run.Treads step post s := by
  refine still_bind h fun result => ?_
  cases result with
  | ok a => exact ok a
  | error e => exact error e

theorem state_then {post : Except ε β → σ → Prop} {f : σ → Attempt ι σ ε β}
    (h : (f s).run.Treads step post s) : (Attempt.state >>= f).run.Treads step post s :=
  fun _ _ => h

theorem attempt_modify {post : Except ε Unit → σ → Prop} {f : σ → σ} (hstep : step s (f s))
    (h : post (.ok ()) (f s)) : (Attempt.modify f : Attempt ι σ ε Unit).run.Treads step post s :=
  fun _ _ => ⟨hstep, h⟩

theorem modify_then {post : Except ε β → σ → Prop} {g : σ → σ} {f : Unit → Attempt ι σ ε β}
    (hstep : step s (g s)) (h : (f ()).run.Treads step post (g s)) :
    (Attempt.modify g >>= f).run.Treads step post s :=
  fun _ _ => ⟨hstep, h⟩

end Process.Treads

end GatedRollout
