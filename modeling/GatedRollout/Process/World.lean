import GatedRollout.Process.Basic

/-!
# The world of a process

A process runs against an environment, which answers its calls, and a world, which holds the one
clock, the caller's token and the history of what has happened. The environment is an arbitrary
state machine: it may take time over an answer, fire the token, let other processes go first,
refuse, crash its caller or never answer.

The clock is the one that its user sets, at an instant outside the leap seconds: a pause moves it
by its own length, whatever other pauses go on at the same time, and the answers move it as the
environment says. Real time is the environment's affair, and shows only where a budget of it runs
out.
-/

namespace GatedRollout

variable {ι : Interface} {S : Type}

/-! ## Environments -/

inductive Effect (ρ : Type)
  | answer (a : Except ClientError ρ)
  /-- The call crashes, which unwinds to whoever runs the process. -/
  | panic (message : String)
  | hang

structure Reaction (ρ : Type) where
  /-- The time that passes before anything else happens. -/
  advance : Duration
  fires : Bool
  /-- How often the caller lets every other process take a turn before the call ends. -/
  yields : Nat
  effect : Effect ρ

/-- How an environment reacts to a pause, once the clock has been moved over it. -/
structure Waking where
  fires : Bool
  /-- How often the sleeper lets every other process take a turn before the pause ends, beyond the
  one time that every pause does. -/
  yields : Nat := 0

structure Environment (ι : Interface) (S : Type) where
  react : S → Instant → (r : ι.Request) → Reaction (ι.Reply r) × S
  wake : S → Instant → Waking × S
  /-- How many rounds after the first a budget of real time runs out for the fan-out that begins
  here. If there is no such number, it lasts until nothing is left that could happen. -/
  expires : S → Instant → Duration → Option Nat := fun _ _ _ => none

/-! ## Histories -/

inductive Event (ι : Interface)
  | issued (r : ι.Request)
  | returned (r : ι.Request) (answer : Except ClientError (ι.Reply r))
  | slept (d : Duration)
  | fired

/-- An event, with its instant and the process of a fan-out that it belongs to. -/
structure Entry (ι : Interface) where
  time : Instant
  actor : Option Nat
  event : Event ι

structure World (ι : Interface) (S : Type) where
  clock : Instant
  fired : Bool
  env : S
  /-- What has happened so far, the latest first. -/
  history : List (Entry ι)

/-- The token that a process looks at: the caller's, or one of its own that never fires. -/
inductive Token
  | caller
  | shielded
  deriving DecidableEq, Repr

namespace World

def start (clock : Instant) (fired : Bool) (env : S) : World ι S := ⟨clock, fired, env, []⟩

def note (w : World ι S) (actor : Option Nat) (event : Event ι) : World ι S :=
  { w with history := ⟨w.clock, actor, event⟩ :: w.history }

/-- Fire the caller's token. A token fires once. -/
def fire (w : World ι S) : World ι S :=
  if w.fired then w else { w.note none .fired with fired := true }

def fireIf (w : World ι S) (fires : Bool) : World ι S := if fires then w.fire else w

def renewToken (w : World ι S) : World ι S := { w with fired := false }

def cancelled (w : World ι S) : Token → Bool
  | .caller => w.fired
  | .shielded => false

def restEnd (w : World ι S) (token : Token) : Rest :=
  if w.cancelled token then .cancelled else .elapsed

def issue (env : Environment ι S) (actor : Option Nat) (r : ι.Request) (w : World ι S) :
    Reaction (ι.Reply r) × World ι S :=
  let w := w.note actor (.issued r)
  let (reaction, s) := env.react w.env w.clock r
  (reaction, { w with clock := w.clock.advance reaction.advance, env := s }.fireIf reaction.fires)

/-- Move the clock over a pause, and let the environment react to it. Pauses add up, also those of
processes that run side by side: this is the clock that is moved by hand, not the system's. -/
def sleep (env : Environment ι S) (actor : Option Nat) (d : Duration) (w : World ι S) :
    Waking × World ι S :=
  let w := w.note actor (.slept d)
  let clock := w.clock.advance d
  let (waking, s) := env.wake w.env clock
  (waking, { w with clock, env := s }.fireIf waking.fires)

/-- How many rounds a fan-out that begins here goes on after its first before the budget runs out.
A budget of nothing is over with the first. -/
def roundsWithin (env : Environment ι S) (budget : Duration) (w : World ι S) : Option Nat :=
  if budget.isZero then some 0 else env.expires w.env w.clock budget

end World

end GatedRollout
