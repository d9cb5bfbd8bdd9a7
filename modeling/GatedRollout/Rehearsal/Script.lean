import GatedRollout.Process.World
import GatedRollout.Wire.Codec

/-!
# Scripted environments

A rehearsal runs the engine against a script instead of a control plane. The script holds queues
of cues, a queue for each operation or for each operation on one subject; a call takes the next
cue of its queue, and the last cue of a queue is taken again and again.
-/

namespace GatedRollout.Rehearsal

structure Cue where
  /-- Queues that are replaced when the cue is taken. -/
  follow : List (String × List Cue)
  /-- How many calls take the cue before the next one is due. -/
  times : Nat
  advance : Duration
  fires : Bool
  yields : Nat
  effect : Effect Json

instance : Inhabited Cue := ⟨⟨[], 1, .zero, false, 0, .answer (.ok .null)⟩⟩

/-- The cues of the operations, by operation or by operation and subject. -/
abbrev Script := List (String × List Cue)

namespace Script

def replace (script : Script) (name : String) (queue : List Cue) : Script :=
  (name, queue) :: script.filter (·.1 != name)

/-- The name of the queue that an operation on a subject uses: its own where there is one. -/
def queueName (script : Script) (operation subject : String) : String :=
  let own := operation ++ " " ++ subject
  if (script.lookup own).isSome then own else operation

def remaining : List Cue → List Cue
  | cue :: next :: rest =>
      if cue.times ≤ 1 then next :: rest
      else { cue with times := cue.times - 1 } :: next :: rest
  | queue => queue

def take (script : Script) (operation subject : String) : Option (Cue × Script) := do
  let name := script.queueName operation subject
  let queue ← script.lookup name
  let cue ← queue.head?
  let script := script.replace name (remaining queue)
  return (cue, cue.follow.foldl (fun script (name, queue) => script.replace name queue) script)

end Script

structure Repertoire (ι : Interface) where
  operation : ι.Request → String
  subject : ι.Request → String
  reply? : (r : ι.Request) → Json → Option (ι.Reply r)

structure Stage where
  script : Script
  start : Instant
  /-- The time after the start from which a pause finds the caller's token fired. -/
  cancelAfter : Option Duration

variable {ι : Interface}

def effectOn (repertoire : Repertoire ι) (r : ι.Request) : Effect Json → Effect (ι.Reply r)
  | .answer (.ok document) =>
      match repertoire.reply? r document with
      | some reply => .answer (.ok reply)
      | none => .answer (.error (.api (repertoire.operation r) "malformed reply"))
  | .answer (.error e) => .answer (.error e)
  | .panic message => .panic message
  | .hang => .hang

/-- The environment that follows the script. A call without a cue fails. -/
def environment (repertoire : Repertoire ι) : Environment ι Stage where
  react stage _ r :=
    let operation := repertoire.operation r
    match stage.script.take operation (repertoire.subject r) with
    | some (cue, script) =>
        (⟨cue.advance, cue.fires, cue.yields, effectOn repertoire r cue.effect⟩,
          { stage with script })
    | none => (⟨.zero, false, 0, .answer (.error (.api operation "unscripted"))⟩, stage)
  wake stage now :=
    let elapsed := now.elapsedSince stage.start
    ({ fires := stage.cancelAfter.any fun d => d.nanos ≤ elapsed.nanos }, stage)

def opening (start : Instant) (cancelled : Bool) (cancelAfter : Option Duration)
    (script : Script) : World ι Stage :=
  World.start start cancelled ⟨script, start, cancelAfter⟩

def renewToken (w : World ι Stage) : World ι Stage :=
  { w.renewToken with env := { w.env with cancelAfter := none } }

end GatedRollout.Rehearsal
