import GatedRollout.Process.Watch
import GatedRollout.Proofs.Process.Stream
import Mathlib.Algebra.Order.Floor.Div

/-!
# Polling a stream

A watch that is answered from a stream ends whatever the stream is, and within the polls and the
pauses that its limit pays for.
-/

namespace GatedRollout

variable {ι : Interface} {σ α β γ : Type}

/-! ## Clocks and deadlines -/

/-- A clock takes every step that ends at an instant that exists. -/
theorem Instant.exists_add? {t : Instant} {d : Duration}
    (h : t.nanos + d.nanos ≤ Instant.latest) : ∃ u, t.add? d = some u := by
  have hearliest := t.earliest_le
  have hlatest : t.nanos + d.nanos ≤ 8210266876799999 * 1000000 + 999999 := h
  have hstep : d.nanos ≤ Instant.longestStep := by
    simp only [Instant.longestStep, UInt64.size, nanosPerMilli]
    omega
  have hrange : Instant.earliest ≤ t.nanos + d.nanos ∧ t.nanos + d.nanos ≤ Instant.latest := by
    refine ⟨?_, h⟩
    simp only [Instant.earliest]
    omega
  refine ⟨⟨t.nanos + d.nanos, hrange.1, hrange.2⟩, ?_⟩
  rw [Instant.add?, if_pos hstep, Instant.ofNanos?, dif_pos hrange]

theorem Instant.nanos_advance {t : Instant} {d : Duration}
    (h : t.nanos + d.nanos ≤ Instant.latest) : (t.advance d).nanos = t.nanos + d.nanos := by
  obtain ⟨u, hu⟩ := Instant.exists_add? h
  rw [Instant.advance, hu, Option.getD_some]
  exact Instant.nanos_add? hu

theorem Instant.advance_zero (t : Instant) : t.advance .zero = t := by
  apply Instant.ext
  have hlatest : t.nanos + (Duration.zero.nanos : Int) ≤ Instant.latest := by
    rw [Duration.nanos_zero, Int.natCast_zero, Int.add_zero]
    exact t.le_latest
  rw [Instant.nanos_advance hlatest]
  simp

namespace Deadline

theorem nanos_remaining (b : Deadline) (now : Instant) :
    (b.remaining now).nanos = b.limit.nanos - (now.nanos - b.started.nanos).toNat := rfl

theorem expired_iff_remaining (b : Deadline) (now : Instant) :
    b.expired now = true ↔ (b.remaining now).nanos = 0 := Duration.isZero_iff _

/-- A pause that the budget has left is taken from it. -/
theorem remaining_advance {b : Deadline} {now : Instant} {d : Duration}
    (hend : b.started.nanos + b.limit.nanos ≤ Instant.latest) (hstart : b.started.nanos ≤ now.nanos)
    (hd : d.nanos ≤ (b.remaining now).nanos) :
    (b.remaining (now.advance d)).nanos = (b.remaining now).nanos - d.nanos := by
  have hlatest : now.nanos ≤ Instant.latest := now.le_latest
  rw [nanos_remaining] at hd
  have hclock : now.nanos + d.nanos ≤ Instant.latest := by omega
  rw [nanos_remaining, nanos_remaining, Instant.nanos_advance hclock]
  omega

end Deadline

namespace Watch

/-! ## Polls in a stream -/

section Step

variable (watch : Watch ι β γ) (deadline : Deadline) (stream : Stream ι) (token : Token)
  (actor : Option Nat) (n : Nat) (seen : γ) (s : σ) (w : World ι Nat)

theorem run_poll_failed {e : ClientError} (h : (stream w.env watch.request).2 = .error e) :
    GatedRollout.run (.playing stream) token actor (watch.poll deadline (n + 1) seen) s w =
      ⟨.returned (.failed e), s, w.asked stream actor watch.request⟩ := by
  rw [poll, run_call_playing, h]
  rfl

theorem run_poll_settled {reply : ι.Reply watch.request} {b : β}
    (h : (stream w.env watch.request).2 = .ok reply)
    (hjudge : watch.judge seen reply = .settled b) :
    GatedRollout.run (.playing stream) token actor (watch.poll deadline (n + 1) seen) s w =
      ⟨.returned (.settled b), s, w.asked stream actor watch.request⟩ := by
  rw [poll, run_call_playing, h]
  simp only [hjudge]
  rfl

/-- A reply that settles nothing is followed by the end of the watch or by a pause. -/
theorem run_poll_pending {reply : ι.Reply watch.request} {seen' : γ}
    (h : (stream w.env watch.request).2 = .ok reply)
    (hjudge : watch.judge seen reply = .pending seen') (htoken : w.cancelled token = false) :
    let after := w.asked stream actor watch.request
    GatedRollout.run (.playing stream) token actor (watch.poll deadline (n + 1) seen) s w =
      if deadline.expired after.clock then ⟨.returned (.overdue seen'), s, after⟩
      else
        GatedRollout.run (.playing stream) token actor (watch.poll deadline n seen') s
          (after.napped stream actor (deadline.nextInterval after.clock watch.interval)) := by
  intro after
  have hafter : after.cancelled token = false := by simpa [after] using htoken
  rw [poll, run_call_playing, h]
  simp only [hjudge]
  rw [run_look]
  dsimp only
  split
  · rfl
  · exact run_pause_playing stream token actor s after _ _ hafter

end Step

/-! ## Within the limit -/

/-- A run that returned, with so many polls and so long a rest at most. -/
structure Within (most rest : Nat) (w : World ι Nat) (out : Aftermath ι Nat σ α) : Prop where
  returned : ∃ a, out.ending = .returned a
  polls_le : (polls (out.world.since w)).length ≤ most
  naps_le : (naps (out.world.since w)).sum ≤ rest

theorem Within.round {most rest left : Nat} {w : World ι Nat} {stream : Stream ι}
    {actor : Option Nat} {r : ι.Request} {d : Duration} {out : Aftermath ι Nat σ α}
    (h : Within most left ((w.asked stream actor r).napped stream actor d) out)
    (hfollows : out.world.Follows ((w.asked stream actor r).napped stream actor d))
    (hrest : d.nanos + left ≤ rest) : Within (most + 1) rest w out := by
  refine ⟨h.returned, ?_, ?_⟩
  · rw [w.polls_since_round stream actor r d hfollows, List.length_cons]
    exact Nat.succ_le_succ h.polls_le
  · rw [w.naps_since_round stream actor r d hfollows, List.sum_cons]
    exact Nat.le_trans (Nat.add_le_add_left h.naps_le _) hrest

end Watch

end GatedRollout
