import GatedRollout.Process.World

/-!
# Running one process

`drive` runs a process to its end. Wherever the process yields, which a call does as often as its
environment says and a pause once more than that, `drive` lets an interlude happen: the turns of
the processes that run beside it. `run` is the case in which nothing runs beside it.
-/

namespace GatedRollout

variable {ι : Interface} {S σ α ρ : Type}

inductive Ending (α : Type)
  | returned (a : α)
  | panicked (message : String)
  /-- Nothing can ever make progress again. -/
  | hung

structure Aftermath (ι : Interface) (S σ α : Type) where
  ending : Ending α
  state : σ
  world : World ι S

/-! ## Interludes -/

/-- What happens to the other processes, and to the world, while one has yielded. A message says
that one of them panicked. -/
abbrev Interlude (ι : Interface) (S ρ : Type) :=
  ρ → World ι S → Option String × ρ × World ι S

namespace Interlude

def nothing : Interlude ι S Unit := fun x w => (none, x, w)

def times (relax : Interlude ι S ρ) : Nat → Interlude ι S ρ
  | 0, x, w => (none, x, w)
  | n + 1, x, w =>
      match relax x w with
      | (none, x, w) => relax.times n x w
      | (some message, x, w) => (some message, x, w)

theorem times_nothing (n : Nat) (x : Unit) (w : World ι S) :
    (nothing : Interlude ι S Unit).times n x w = (none, x, w) := by
  induction n with
  | zero => rfl
  | succ n ih => exact ih

end Interlude

/-! ## Driving -/

structure Driven (ι : Interface) (S σ α ρ : Type) where
  ending : Ending α
  state : σ
  others : ρ
  world : World ι S

/-- Run a process to its end, with an interlude wherever it yields. -/
def drive (env : Environment ι S) (token : Token) (actor : Option Nat) (relax : Interlude ι S ρ) :
    Process ι σ α → σ → ρ → World ι S → Driven ι S σ α ρ
  | .done a, s, x, w => ⟨.returned a, s, x, w⟩
  | .call r next, s, x, w =>
      let (reaction, w) := w.issue env actor r
      match relax.times reaction.yields x w with
      | (some message, x, w) => ⟨.panicked message, s, x, w⟩
      | (none, x, w) =>
          match reaction.effect with
          | .answer a => drive env token actor relax (next a) s x (w.note actor (.returned r a))
          | .panic message => ⟨.panicked message, s, x, w⟩
          | .hang => ⟨.hung, s, x, w⟩
  | .pause d next, s, x, w =>
      if w.cancelled token then drive env token actor relax (next .cancelled) s x w
      else
        let (waking, w) := w.sleep env actor d
        match relax.times (waking.yields + 1) x w with
        | (some message, x, w) => ⟨.panicked message, s, x, w⟩
        | (none, x, w) => drive env token actor relax (next (w.restEnd token)) s x w
  | .look next, s, x, w =>
      drive env token actor relax (next ⟨w.clock, w.cancelled token, s⟩) s x w
  | .put s next, _, x, w => drive env token actor relax next s x w
  | .panic message, s, x, w => ⟨.panicked message, s, x, w⟩
  | .stall, s, x, w => ⟨.hung, s, x, w⟩

/-! ## Running alone -/

def run (env : Environment ι S) (token : Token) (actor : Option Nat) (p : Process ι σ α) (s : σ)
    (w : World ι S) : Aftermath ι S σ α :=
  let d := drive env token actor Interlude.nothing p s () w
  ⟨d.ending, d.state, d.world⟩

section Equations

variable (env : Environment ι S) (token : Token) (actor : Option Nat) (s : σ) (w : World ι S)

theorem run_done (a : α) :
    run env token actor (.done a : Process ι σ α) s w = ⟨.returned a, s, w⟩ := rfl

theorem run_call (r : ι.Request) (next : Except ClientError (ι.Reply r) → Process ι σ α) :
    run env token actor (.call r next) s w =
      let (reaction, w) := w.issue env actor r
      match reaction.effect with
      | .answer a => run env token actor (next a) s (w.note actor (.returned r a))
      | .panic message => ⟨.panicked message, s, w⟩
      | .hang => ⟨.hung, s, w⟩ := by
  simp only [run, drive, Interlude.times_nothing]
  cases (w.issue env actor r).1.effect <;> rfl

theorem run_pause (d : Duration) (next : Rest → Process ι σ α) :
    run env token actor (.pause d next) s w =
      if w.cancelled token then run env token actor (next .cancelled) s w
      else
        let (_, w) := w.sleep env actor d
        run env token actor (next (w.restEnd token)) s w := by
  simp only [run, drive, Interlude.times_nothing]
  split <;> rfl

theorem run_look (next : Glimpse σ → Process ι σ α) :
    run env token actor (.look next) s w =
      run env token actor (next ⟨w.clock, w.cancelled token, s⟩) s w := rfl

end Equations

end GatedRollout
