import GatedRollout.Process.Basic
import GatedRollout.Time.Instant

/-!
# Watches

A watch makes the same request again and again until a reply settles the matter or the time limit
is used up. Every reply is judged before the limit is, so the reply read at the limit still
counts; between two requests the watch pauses for its interval, or for what is left of the limit
if that is less.

Where the clock can represent the end of the limit, a watch makes at most
`limit / interval` requests, rounded up, and one more. `patience` is what a watch adds to that on
a clock that has come to its end and no longer moves; after that it stalls.
-/

namespace GatedRollout

/-- What a reply means: the matter is settled, or this is what has been seen of it. -/
inductive Judgement (β γ : Type)
  | settled (b : β)
  | pending (seen : γ)

inductive Watched (β γ : Type)
  | settled (b : β)
  /-- The limit is used up; `seen` is what the last reply showed. -/
  | overdue (seen : γ)
  | cancelled
  | failed (e : ClientError)

structure Watch (ι : Interface) (β γ : Type) where
  request : ι.Request
  interval : Duration
  limit : Duration
  /-- What counts as seen before the first reply. -/
  unseen : γ
  judge : γ → ι.Reply request → Judgement β γ

namespace Watch

variable {ι : Interface} {σ β γ : Type}

def poll (watch : Watch ι β γ) (deadline : Deadline) : Nat → γ → Process ι σ (Watched β γ)
  | 0, _ => .stall
  | n + 1, seen =>
      .call watch.request fun
        | .error e => .done (.failed e)
        | .ok reply =>
            match watch.judge seen reply with
            | .settled b => .done (.settled b)
            | .pending seen =>
                .look fun glimpse =>
                  if deadline.expired glimpse.now then .done (.overdue seen)
                  else
                    .pause (deadline.nextInterval glimpse.now watch.interval) fun
                      | .cancelled => .done .cancelled
                      | .elapsed => watch.poll deadline n seen

/-- The number of intervals that cover a limit. -/
def slices (limit interval : Duration) : Nat :=
  (limit.nanos + interval.nanos - 1) / interval.nanos

def run (watch : Watch ι β γ) (patience : Nat) : Process ι σ (Watched β γ) :=
  .look fun glimpse =>
    watch.poll ⟨glimpse.now, watch.limit⟩ (slices watch.limit watch.interval + 1 + patience)
      watch.unseen

end Watch

def idleSlices {ι : Interface} {σ : Type} (deadline : Deadline) (interval : Duration) :
    Nat → Process ι σ Rest
  | 0 => .stall
  | n + 1 =>
      .look fun glimpse =>
        if deadline.expired glimpse.now then .done .elapsed
        else
          .pause (deadline.nextInterval glimpse.now interval) fun
            | .cancelled => .done .cancelled
            | .elapsed => idleSlices deadline interval n

def idle {ι : Interface} {σ : Type} (limit interval : Duration) (patience : Nat) :
    Process ι σ Rest :=
  .look fun glimpse =>
    idleSlices ⟨glimpse.now, limit⟩ interval (Watch.slices limit interval + 1 + patience)

end GatedRollout
