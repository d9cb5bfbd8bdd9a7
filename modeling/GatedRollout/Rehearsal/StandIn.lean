import GatedRollout.Canary.Task
import GatedRollout.Rehearsal.Script

/-!
# Stand-ins for canary tasks

A stand-in is a canary task that does nothing but ask its script how each of its actions goes. It
has no state, and its handle is that of a task that was never launched. The script knows it by its
place in the set; its number is a label for the reader of the log.
-/

namespace GatedRollout.Rehearsal

inductive Action
  | start | wait | stop
  deriving DecidableEq, Repr

def Action.name : Action → String
  | start => "start"
  | wait => "wait"
  | stop => "stop"

/-- A stand-in asks how one of its actions goes. -/
structure StandInRequest where
  action : Action
  place : Nat
  task : Int
  deriving DecidableEq, Repr

abbrev standIns : Interface := ⟨StandInRequest, fun _ => Unit⟩

def standInRepertoire : Repertoire standIns where
  operation r := r.action.name
  subject r := toString r.place
  reply? _ _ := some ()

def standIn (place : Nat) (task : Int) : CanaryTask standIns Unit :=
  let act (action : Action) : Attempt standIns Unit TaskError Unit :=
    Attempt.ask (ι := standIns) ⟨action, place, task⟩ TaskError.client
  { start := act .start
    wait := act .wait
    stop := act .stop
    handle _ := { placement := .onDemand }
    warnings _ := [] }

end GatedRollout.Rehearsal
