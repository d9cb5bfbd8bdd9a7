import GatedRollout.Proofs.Process.Polling

/-!
# The schedule of a wait

`Rules` tells what a wait makes of its replies without the loop, its deadline or what it keeps in
mind between two replies, and `Rules.Govern` is what it means for a process to be such a wait.
Where the answers of a stream take no time, the polls of a watch come at fixed instants, and the
first answer that decides anything ends it. `Describe` is what it takes for a watch to be governed
by rules.
-/

namespace GatedRollout

variable {ι : Interface} {σ α β γ ρ : Type}

/-! ## Rules -/

/-- What a wait is to make of the replies that it reads. -/
structure Rules (ρ α : Type) where
  interval : Duration
  limit : Duration
  /-- What a reply decides, after the replies read before it, if it decides anything. -/
  decides : List ρ → ρ → Option α
  /-- What a failed request comes to. -/
  failure : ClientError → α
  /-- What the end of the limit comes to, where none of these replies has decided anything. -/
  timeout : List ρ → α

namespace Rules

variable (rules : Rules ρ α) (answers : Nat → Except ClientError ρ)

/-- The replies among the first answers. -/
def replies (k : Nat) : List ρ := (List.range k).filterMap fun j => (answers j).toOption

/-- What the answer with this number decides. -/
def verdict (k : Nat) : Option α :=
  match answers k with
  | .error e => some (rules.failure e)
  | .ok reply => rules.decides (replies answers k) reply

/-- The number of intervals that cover the limit. -/
def cover : Nat := rules.limit.nanos ⌈/⌉ rules.interval.nanos

/-- The instant of a poll, where no answer takes any time. -/
def pollTime (start : Instant) (k : Nat) : Int :=
  start.nanos + (min (k * rules.interval.nanos) rules.limit.nanos : Nat)

theorem replies_succ {k : Nat} {reply : ρ} (h : answers k = .ok reply) :
    replies answers (k + 1) = replies answers k ++ [reply] := by
  simp [replies, List.range_succ, h, Except.toOption]

theorem verdict_error {k : Nat} {e : ClientError} (h : answers k = .error e) :
    rules.verdict answers k = some (rules.failure e) := by simp [verdict, h]

theorem verdict_ok {k : Nat} {reply : ρ} (h : answers k = .ok reply) :
    rules.verdict answers k = rules.decides (replies answers k) reply := by simp [verdict, h]

theorem cover_le_iff (hinterval : 0 < rules.interval.nanos) (k : Nat) :
    rules.cover ≤ k ↔ rules.limit.nanos ≤ k * rules.interval.nanos := by
  rw [cover, ceilDiv_le_iff_le_mul hinterval, Nat.mul_comm]

/-- A wait ends with the poll of this number and comes to this: either the answer decides it, or
the limit passes undecided. -/
def EndsAt (k : Nat) (a : α) : Prop :=
  (∀ j < k, rules.verdict answers j = none) ∧
    (k ≤ rules.cover ∧ rules.verdict answers k = some a ∨
      k = rules.cover ∧ rules.verdict answers k = none ∧
        a = rules.timeout (replies answers (k + 1)))

/-- How a run went that ended with the poll of this number and came to this. -/
structure Polled (rules : Rules ρ α) (w : World ι Nat) (k : Nat) (a : α)
    (out : Aftermath ι Nat σ α) : Prop where
  ending : out.ending = .returned a
  polls : GatedRollout.polls (out.world.since w) =
    (List.range (k + 1)).map (rules.pollTime w.clock)
  clock : out.world.clock.nanos = rules.pollTime w.clock k

/-- A world at the start of a stream, with a token that has not fired and a clock that can come to
the end of the limit. It stands outside the leap seconds, as every instant does: a wait that begins
in one has a second more, by `Moment.Reaches.nanos_elapsedSince`. -/
structure Opens (rules : Rules ρ α) (token : Token) (w : World ι Nat) (finish : Instant) :
    Prop where
  env : w.env = 0
  token : w.cancelled token = false
  finish : w.clock.add? rules.limit = some finish

/-- From this state, the process is a wait for an answer to the request by these rules. -/
structure Govern (r : ι.Request) (rules : Rules (ι.Reply r) α) (p : Process ι σ α) (s : σ) :
    Prop where
  /-- However long the answers take, the process ends within the limit. -/
  ends : ∀ (stream : Stream ι) (token : Token) (actor : Option Nat) {w : World ι Nat}
    {finish : Instant}, rules.Opens token w finish →
      Watch.Within (rules.cover + 1) rules.limit.nanos w
        (run (.playing stream) token actor p s w)
  /-- Where no answer takes any time, the first one that decides anything ends it. -/
  decided : ∀ (stream : Stream ι) (token : Token) (actor : Option Nat) {w : World ι Nat}
    {finish : Instant}, rules.Opens token w finish → (∀ k, (stream k r).1 = .zero) →
      ∀ {k : Nat} {a : α}, k ≤ rules.cover →
        (∀ j < k, rules.verdict (stream.answers r) j = none) →
        rules.verdict (stream.answers r) k = some a →
          rules.Polled w k a (run (.playing stream) token actor p s w)
  /-- Where no answer takes any time and none decides anything, the end of the limit does. -/
  undecided : ∀ (stream : Stream ι) (token : Token) (actor : Option Nat) {w : World ι Nat}
    {finish : Instant}, rules.Opens token w finish → (∀ k, (stream k r).1 = .zero) →
      (∀ k ≤ rules.cover, rules.verdict (stream.answers r) k = none) →
        let out := run (.playing stream) token actor p s w
        rules.Polled w rules.cover
            (rules.timeout (replies (stream.answers r) (rules.cover + 1))) out ∧
          out.world.clock = finish

/-! ## Watches by rules -/

/-- A judgement means this decision: it settles what the decision comes to, or leaves the matter
undecided with this seen of it. -/
def Means (conclude : β → α) (seen : γ) : Judgement β γ → Option α → Prop
  | .settled b, decision => decision = some (conclude b)
  | .pending seen', decision => decision = none ∧ seen' = seen

/-- A watch keeps the rules: it makes of every reply what they say. After some replies, `remember`
is what it has seen of the matter, and `conclude` is what a wait makes of how its watch ended. -/
structure Describe (watch : Watch ι β γ) (rules : Rules (ι.Reply watch.request) α)
    (remember : List (ι.Reply watch.request) → γ) (conclude : Watched β γ → α) : Prop where
  interval : rules.interval = watch.interval
  limit : rules.limit = watch.limit
  unseen : remember [] = watch.unseen
  judged : ∀ earlier reply, Means (fun b => conclude (.settled b)) (remember (earlier ++ [reply]))
    (watch.judge (remember earlier) reply) (rules.decides earlier reply)
  failed : ∀ e, conclude (.failed e) = rules.failure e
  overdue : ∀ earlier, conclude (.overdue (remember earlier)) = rules.timeout earlier

section Poll

variable {watch : Watch ι β γ} {rules : Rules (ι.Reply watch.request) α}
  {remember : List (ι.Reply watch.request) → γ} {conclude : Watched β γ → α}

theorem Describe.settled (describe : Describe watch rules remember conclude)
    {earlier : List (ι.Reply watch.request)} {reply : ι.Reply watch.request} {b : β}
    (h : watch.judge (remember earlier) reply = .settled b) :
    rules.decides earlier reply = some (conclude (.settled b)) := by
  have hjudged := describe.judged earlier reply
  rw [h] at hjudged
  exact hjudged

theorem Describe.pending (describe : Describe watch rules remember conclude)
    {earlier : List (ι.Reply watch.request)} {reply : ι.Reply watch.request} {seen : γ}
    (h : watch.judge (remember earlier) reply = .pending seen) :
    rules.decides earlier reply = none ∧ seen = remember (earlier ++ [reply]) := by
  have hjudged := describe.judged earlier reply
  rw [h] at hjudged
  exact hjudged

/-- At an instant of its schedule, the limit of a watch has passed once enough polls were made. -/
theorem expired_iff_cover_le (hinterval : 0 < rules.interval.nanos) {deadline : Deadline}
    (hlimit : deadline.limit = rules.limit) {now : Instant} {k : Nat}
    (hnow : now.nanos = rules.pollTime deadline.started k) :
    deadline.expired now = true ↔ rules.cover ≤ k := by
  rw [deadline.expired_iff_remaining, Deadline.nanos_remaining, hnow, hlimit, pollTime,
    rules.cover_le_iff hinterval]
  omega

/-- A poll whose answer decides something ends the watch with that. -/
theorem Describe.poll_decided (describe : Describe watch rules remember conclude)
    (deadline : Deadline) (stream : Stream ι) (token : Token) (actor : Option Nat) (s : σ) (n : Nat)
    {w : World ι Nat} {a : α}
    (hverdict : rules.verdict (stream.answers watch.request) w.env = some a) :
    ∃ watched, conclude watched = a ∧
      run (.playing stream) token actor
          (watch.poll deadline (n + 1)
            (remember (replies (stream.answers watch.request) w.env))) s w =
        ⟨.returned watched, s, w.asked stream actor watch.request⟩ := by
  cases hanswer : (stream w.env watch.request).2 with
  | error e =>
      rw [rules.verdict_error (stream.answers watch.request) hanswer] at hverdict
      rw [Watch.run_poll_failed watch deadline stream token actor n _ s w hanswer]
      exact ⟨.failed e, (describe.failed e).trans (Option.some.inj hverdict), rfl⟩
  | ok reply =>
      rw [rules.verdict_ok (stream.answers watch.request) hanswer] at hverdict
      cases hjudge : watch.judge
          (remember (replies (stream.answers watch.request) w.env)) reply with
      | settled b =>
          rw [describe.settled hjudge] at hverdict
          rw [Watch.run_poll_settled watch deadline stream token actor n _ s w hanswer hjudge]
          exact ⟨.settled b, Option.some.inj hverdict, rfl⟩
      | pending seen =>
          rw [(describe.pending hjudge).1] at hverdict
          cases hverdict

/-- A poll whose answer decides nothing is the last one of the watch, if its limit has passed, or is
followed by a pause. -/
theorem Describe.poll_undecided (describe : Describe watch rules remember conclude)
    (deadline : Deadline) (stream : Stream ι) (token : Token) (actor : Option Nat) (s : σ) (n : Nat)
    {w : World ι Nat} (htoken : w.cancelled token = false)
    (hverdict : rules.verdict (stream.answers watch.request) w.env = none) :
    let after := w.asked stream actor watch.request
    let seen := remember (replies (stream.answers watch.request) (w.env + 1))
    run (.playing stream) token actor
        (watch.poll deadline (n + 1)
          (remember (replies (stream.answers watch.request) w.env))) s w =
      if deadline.expired after.clock then ⟨.returned (.overdue seen), s, after⟩
      else
        run (.playing stream) token actor (watch.poll deadline n seen) s
          (after.napped stream actor (deadline.nextInterval after.clock watch.interval)) := by
  cases hanswer : (stream w.env watch.request).2 with
  | error e =>
      rw [rules.verdict_error (stream.answers watch.request) hanswer] at hverdict
      cases hverdict
  | ok reply =>
      rw [rules.verdict_ok (stream.answers watch.request) hanswer] at hverdict
      cases hjudge : watch.judge
          (remember (replies (stream.answers watch.request) w.env)) reply with
      | settled b =>
          rw [describe.settled hjudge] at hverdict
          cases hverdict
      | pending seen =>
          obtain ⟨-, rfl⟩ := describe.pending hjudge
          rw [replies_succ (stream.answers watch.request) hanswer]
          exact Watch.run_poll_pending watch deadline stream token actor n _ s w hanswer hjudge
            htoken

/-- The last poll of a wait comes to what the rules say. -/
theorem Describe.last_poll (describe : Describe watch rules remember conclude)
    (hinterval : 0 < rules.interval.nanos) {deadline : Deadline}
    (hlimit : deadline.limit = rules.limit) (stream : Stream ι) (token : Token)
    (actor : Option Nat) (s : σ) (n : Nat) {w : World ι Nat} {a : α}
    (hends : rules.EndsAt (stream.answers watch.request) w.env a)
    (htoken : w.cancelled token = false) (hpunctual : (stream w.env watch.request).1 = .zero)
    (hclock : w.clock.nanos = rules.pollTime deadline.started w.env) :
    ∃ watched, conclude watched = a ∧
      run (.playing stream) token actor
          (watch.poll deadline (n + 1)
            (remember (replies (stream.answers watch.request) w.env))) s w =
        ⟨.returned watched, s, w.asked stream actor watch.request⟩ := by
  rcases hends.2 with ⟨-, hsome⟩ | ⟨hcover, hnone, rfl⟩
  · exact describe.poll_decided deadline stream token actor s n hsome
  · have hexpired := (expired_iff_cover_le hinterval hlimit hclock).mpr hcover.ge
    have hasked : (w.asked stream actor watch.request).clock = w.clock := by
      rw [World.clock_asked, hpunctual, Instant.advance_zero]
    refine ⟨_, describe.overdue _, ?_⟩
    rw [describe.poll_undecided deadline stream token actor s n htoken hnone, hasked,
      if_pos hexpired]

/-- A poll that decides nothing is followed by a pause up to the instant of the next. -/
theorem Describe.next_poll (describe : Describe watch rules remember conclude)
    (hinterval : 0 < rules.interval.nanos) {deadline : Deadline}
    (hlimit : deadline.limit = rules.limit)
    (hend : deadline.started.nanos + deadline.limit.nanos ≤ Instant.latest) (stream : Stream ι)
    (token : Token) (actor : Option Nat) (s : σ) (n : Nat) {w : World ι Nat}
    (hundecided : rules.verdict (stream.answers watch.request) w.env = none)
    (hbefore : w.env < rules.cover) (htoken : w.cancelled token = false)
    (hpunctual : (stream w.env watch.request).1 = .zero)
    (hclock : w.clock.nanos = rules.pollTime deadline.started w.env) :
    ∃ d, ((w.asked stream actor watch.request).napped stream actor d).clock.nanos =
        rules.pollTime deadline.started (w.env + 1) ∧
      run (.playing stream) token actor
          (watch.poll deadline (n + 1)
            (remember (replies (stream.answers watch.request) w.env))) s w =
        run (.playing stream) token actor
          (watch.poll deadline n
            (remember (replies (stream.answers watch.request) (w.env + 1)))) s
          ((w.asked stream actor watch.request).napped stream actor d) := by
  have hasked : (w.asked stream actor watch.request).clock = w.clock := by
    rw [World.clock_asked, hpunctual, Instant.advance_zero]
  have hgoing : ¬ deadline.expired w.clock = true := by
    rw [expired_iff_cover_le hinterval hlimit hclock]
    omega
  rw [describe.poll_undecided deadline stream token actor s n htoken hundecided, hasked,
    if_neg hgoing]
  refine ⟨_, ?_, rfl⟩
  have hpause : (deadline.nextInterval w.clock watch.interval).nanos =
      min (deadline.remaining w.clock).nanos watch.interval.nanos :=
    Duration.nanos_shorter _ _
  have hleft : ¬ rules.limit.nanos ≤ w.env * rules.interval.nanos :=
    fun hle => absurd ((rules.cover_le_iff hinterval w.env).mpr hle) (by omega)
  generalize deadline.nextInterval w.clock watch.interval = d at hpause ⊢
  rw [Deadline.nanos_remaining, hclock, hlimit, ← describe.interval] at hpause
  simp only [pollTime] at hpause hclock ⊢
  rw [hlimit] at hend
  rw [World.clock_napped, hasked, Instant.nanos_advance (by omega), Nat.succ_mul]
  omega

/-- A watch whose answers take no time follows the schedule of its rules up to its last poll. -/
theorem Describe.polled (describe : Describe watch rules remember conclude)
    (hinterval : 0 < rules.interval.nanos) (deadline : Deadline)
    (hlimit : deadline.limit = rules.limit)
    (hend : deadline.started.nanos + deadline.limit.nanos ≤ Instant.latest) (stream : Stream ι)
    (token : Token) (actor : Option Nat) (s : σ)
    (hpunctual : ∀ k, (stream k watch.request).1 = .zero) {last : Nat} {a : α}
    (hends : rules.EndsAt (stream.answers watch.request) last a) (more : Nat) :
    ∀ {n : Nat} {w : World ι Nat}, w.env + more = last → more < n → w.cancelled token = false →
      w.clock.nanos = rules.pollTime deadline.started w.env →
      let out := run (.playing stream) token actor
        (watch.poll deadline n
          (remember (replies (stream.answers watch.request) w.env))) s w
      (∃ watched, out.ending = .returned watched ∧ conclude watched = a) ∧
        GatedRollout.polls (out.world.since w) =
          (List.range' w.env (more + 1)).map (rules.pollTime deadline.started) ∧
        out.world.clock.nanos = rules.pollTime deadline.started last := by
  induction more with
  | zero =>
      intro n w hlast hn htoken hclock
      obtain ⟨n, rfl⟩ := Nat.exists_eq_succ_of_ne_zero (Nat.ne_of_gt hn)
      rw [Nat.add_zero] at hlast
      subst hlast
      obtain ⟨watched, hwatched, hrun⟩ := describe.last_poll hinterval hlimit stream token actor s
        n hends htoken (hpunctual w.env) hclock
      rw [hrun]
      refine ⟨⟨watched, rfl, hwatched⟩, ?_, ?_⟩
      · rw [World.polls_since_asked w stream actor watch.request (World.Follows.refl _),
          World.since_self, hclock]
        rfl
      · rw [World.clock_asked, hpunctual, Instant.advance_zero, hclock]
  | succ more ih =>
      intro n w hlast hn htoken hclock
      obtain ⟨n, rfl⟩ := Nat.exists_eq_succ_of_ne_zero (Nat.ne_of_gt (Nat.zero_lt_of_lt hn))
      have hbefore : w.env < rules.cover := by
        rcases hends.2 with ⟨hcover, -⟩ | ⟨hcover, -, -⟩ <;> omega
      obtain ⟨d, hnext, hrun⟩ := describe.next_poll hinterval hlimit hend stream token actor s n
        (hends.1 w.env (by omega)) hbefore htoken (hpunctual w.env) hclock
      have hround := ih (n := n) (w := (w.asked stream actor watch.request).napped stream actor d)
        (by simp; omega) (by omega) (by simpa using htoken) hnext
      rw [World.env_napped, World.env_asked] at hround
      rw [hrun]
      obtain ⟨hreturned, hpolls, hlater⟩ := hround
      refine ⟨hreturned, ?_, hlater⟩
      rw [World.polls_since_round w stream actor watch.request d (run_follows ..), hclock, hpolls,
        List.range'_succ, List.map_cons]
      rfl

/-- The end of the limit is an instant that the clock can come to. -/
theorem Opens.le_latest {rules : Rules ρ α} {token : Token} {w : World ι Nat} {finish : Instant}
    (h : rules.Opens token w finish) :
    finish.nanos = w.clock.nanos + rules.limit.nanos ∧
      w.clock.nanos + rules.limit.nanos ≤ Instant.latest := by
  have hfinish := Instant.nanos_add? h.finish
  exact ⟨hfinish, hfinish ▸ finish.le_latest⟩

/-- A watch makes as many polls as cover the limit of its rules. -/
theorem Describe.cover_eq (describe : Describe watch rules remember conclude) :
    rules.cover = Watch.slices watch.limit watch.interval := by
  rw [cover, describe.interval, describe.limit]
  rfl

theorem Describe.run_polled (describe : Describe watch rules remember conclude)
    (hinterval : 0 < rules.interval.nanos) (stream : Stream ι) (token : Token)
    (actor : Option Nat) (s : σ) (patience : Nat) {w : World ι Nat} {finish : Instant}
    (h : rules.Opens token w finish) (hpunctual : ∀ k, (stream k watch.request).1 = .zero)
    {last : Nat} {a : α} (hends : rules.EndsAt (stream.answers watch.request) last a) :
    let out := run (.playing stream) token actor (watch.run patience) s w
    (∃ watched, out.ending = .returned watched ∧ conclude watched = a) ∧
      GatedRollout.polls (out.world.since w) =
        (List.range (last + 1)).map (rules.pollTime w.clock) ∧
      out.world.clock.nanos = rules.pollTime w.clock last := by
  have hlast : last ≤ Watch.slices watch.limit watch.interval := by
    rw [← describe.cover_eq]
    rcases hends.2 with ⟨hle, -⟩ | ⟨heq, -⟩
    · exact hle
    · exact heq.le
  have hlatest := h.le_latest.2
  rw [describe.limit] at hlatest
  have hpolled := describe.polled hinterval ⟨w.clock, watch.limit⟩
    describe.limit.symm hlatest stream token actor s hpunctual hends last
    (n := Watch.slices watch.limit watch.interval + 1 + patience) (w := w)
    (by rw [h.env, Nat.zero_add]) (by omega) h.token (by simp [pollTime, h.env])
  rw [h.env, ← List.range_eq_range'] at hpolled
  rw [Watch.run, run_look, ← describe.unseen]
  exact hpolled

end Poll

/-- Rules govern what runs as something that they govern. -/
theorem Govern.congr {r : ι.Request} {rules : Rules (ι.Reply r) α} {p q : Process ι σ α} {s : σ}
    (h : rules.Govern r q s)
    (hrun : ∀ (stream : Stream ι) (token : Token) (actor : Option Nat) (w : World ι Nat),
      run (.playing stream) token actor p s w = run (.playing stream) token actor q s w) :
    rules.Govern r p s := by
  refine ⟨?_, ?_, ?_⟩
  · intro stream token actor w finish hopens
    rw [hrun]
    exact h.ends stream token actor hopens
  · intro stream token actor w finish hopens hpunctual k a hk hearlier hverdict
    rw [hrun]
    exact h.decided stream token actor hopens hpunctual hk hearlier hverdict
  · intro stream token actor w finish hopens hpunctual hnone
    rw [hrun]
    exact h.undecided stream token actor hopens hpunctual hnone

/-! ## What was last shown -/

/-- The latest of what some replies have shown, or else what counts as shown before any. -/
def latest (shows : ρ → Option γ) (unseen : γ) (replies : List ρ) : γ :=
  (replies.filterMap shows).getLast?.getD unseen

variable (shows : ρ → Option γ) (unseen : γ) (replies : List ρ) {reply : ρ}

theorem latest_append_some {seen : γ} (h : shows reply = some seen) :
    latest shows unseen (replies ++ [reply]) = seen := by
  simp [latest, List.filterMap_append, h]

theorem latest_append_none (h : shows reply = none) :
    latest shows unseen (replies ++ [reply]) = latest shows unseen replies := by
  simp [latest, List.filterMap_append, h]

end Rules

end GatedRollout
