import GatedRollout.Time.Instant

/-!
# Processes

A process is what the engine does, as a tree: it makes calls, pauses, looks at the clock and at
its cancellation token, and keeps a state of its own. What a call is answered with and how a pause
ends is left open, so a statement about the tree holds for every control plane and every moment of
cancellation.

A call fails because something does not exist, because the request was refused, or because the call
itself did not go through. Calls are never repeated.

The state is written at the moment of a change and not at the end, because a process may be
abandoned at any of its calls and pauses.
-/

namespace GatedRollout

/-! ## Failed calls -/

inductive ClientError
  | notFound (resource id : String)
  | rejected (operation message : String)
  | api (operation message : String)
  deriving DecidableEq, Repr

namespace ClientError

def message : ClientError → String
  | notFound resource id => s!"{resource} not found: {id}"
  | rejected operation message => s!"{operation} rejected: {message}"
  | api operation message => s!"{operation} failed: {message}"

def isNotFound : ClientError → Bool
  | notFound _ _ => true
  | _ => false

end ClientError

/-! ## Trees -/

/-- A kind of conversation: what may be asked, and what an accepted question is answered with. -/
structure Interface where
  Request : Type
  Reply : Request → Type

/-- How a pause ended: after its whole time, or because the token had fired. -/
inductive Rest
  | elapsed
  | cancelled
  deriving DecidableEq, Repr

structure Glimpse (σ : Type) where
  now : Instant
  cancelled : Bool
  state : σ

inductive Process (ι : Interface) (σ α : Type)
  | done (a : α)
  | call (r : ι.Request) (next : Except ClientError (ι.Reply r) → Process ι σ α)
  | pause (d : Duration) (next : Rest → Process ι σ α)
  | look (next : Glimpse σ → Process ι σ α)
  | put (s : σ) (next : Process ι σ α)
  /-- A failure of the process itself, which unwinds to whoever runs it. -/
  | panic (message : String)
  | stall

namespace Process

variable {ι : Interface} {σ α β γ : Type}

def bind : Process ι σ α → (α → Process ι σ β) → Process ι σ β
  | done a, f => f a
  | call r next, f => call r fun answer => (next answer).bind f
  | pause d next, f => pause d fun rest => (next rest).bind f
  | look next, f => look fun glimpse => (next glimpse).bind f
  | put s next, f => put s (next.bind f)
  | panic message, _ => panic message
  | stall, _ => stall

instance : Monad (Process ι σ) where
  pure := done
  bind := bind

/-! ## Single steps -/

def ask (r : ι.Request) : Process ι σ (Except ClientError (ι.Reply r)) := call r done

def now : Process ι σ Instant := look fun glimpse => done glimpse.now

def cancelled : Process ι σ Bool := look fun glimpse => done glimpse.cancelled

def state : Process ι σ σ := look fun glimpse => done glimpse.state

def modify (f : σ → σ) : Process ι σ Unit := look fun glimpse => put (f glimpse.state) (done ())

/-! ## Laws -/

theorem bind_done (p : Process ι σ α) : p.bind done = p := by
  induction p with
  | done | panic | stall => rfl
  | call r next ih => exact congrArg (call r) (funext ih)
  | pause d next ih => exact congrArg (pause d) (funext ih)
  | look next ih => exact congrArg look (funext ih)
  | put s next ih => exact congrArg (put s) ih

theorem bind_assoc (p : Process ι σ α) (f : α → Process ι σ β) (g : β → Process ι σ γ) :
    (p.bind f).bind g = p.bind fun a => (f a).bind g := by
  induction p with
  | done | panic | stall => rfl
  | call r next ih => exact congrArg (call r) (funext ih)
  | pause d next ih => exact congrArg (pause d) (funext ih)
  | look next ih => exact congrArg look (funext ih)
  | put s next ih => exact congrArg (put s) ih

instance : LawfulMonad (Process ι σ) :=
  LawfulMonad.mk' (Process ι σ) bind_done (fun _ _ => rfl) bind_assoc

end Process

/-! ## Attempts -/

/-- A process that may give up with an error. -/
abbrev Attempt (ι : Interface) (σ ε α : Type) := ExceptT ε (Process ι σ) α

namespace Attempt

variable {ι : Interface} {σ ε α : Type}

/-- Make a call, and give up where it fails. -/
def ask (r : ι.Request) (fault : ClientError → ε) : Attempt ι σ ε (ι.Reply r) :=
  ExceptT.mk (.call r fun
    | .ok reply => .done (.ok reply)
    | .error e => .done (.error (fault e)))

/-- Pause, and give up where the token has fired. -/
def rest (d : Duration) (cancelled : ε) : Attempt ι σ ε Unit :=
  ExceptT.mk (.pause d fun
    | .elapsed => .done (.ok ())
    | .cancelled => .done (.error cancelled))

def state : Attempt ι σ ε σ := ExceptT.lift Process.state

def modify (f : σ → σ) : Attempt ι σ ε Unit := ExceptT.lift (Process.modify f)

def now : Attempt ι σ ε Instant := ExceptT.lift Process.now

def cancelled : Attempt ι σ ε Bool := ExceptT.lift Process.cancelled

/-- The same attempt, with its error seen from further away. -/
def within {ε' : Type} (p : Attempt ι σ ε α) (wrap : ε → ε') : Attempt ι σ ε' α :=
  ExceptT.mk (p.run.bind fun
    | .ok a => .done (.ok a)
    | .error e => .done (.error (wrap e)))

end Attempt

end GatedRollout
