import GatedRollout.Proofs.Process.Rules

/-!
# What a wait comes to

`Rules.Comes` tells what a wait by some rules comes to on any clock, also on one that cannot come to
the end of the limit. There the limit never passes: the first answer that decides anything still
ends the wait, however late it comes, and where none does the wait does not end.
-/

namespace GatedRollout

variable {ι : Interface} {σ α β γ ρ : Type}

/-- What follows a process that never returns is never begun. -/
theorem run_bind_hung (env : Environment ι ρ) (token : Token) (actor : Option Nat)
    (p : Process ι σ α) (f : α → Process ι σ β) (s : σ) (w : World ι ρ)
    (h : (run env token actor p s w).ending = .hung) :
    (run env token actor (p.bind f) s w).ending = .hung ∧
      (run env token actor (p.bind f) s w).world = (run env token actor p s w).world := by
  induction p generalizing s w with
  | done a => cases h
  | call r next ih =>
      rw [run_call] at h ⊢
      rw [Process.bind, run_call]
      dsimp only at h ⊢
      cases heffect : (w.issue env actor r).1.effect with
      | answer answer =>
          simp only [heffect] at h ⊢
          exact ih answer s _ h
      | panic message =>
          simp only [heffect] at h
          cases h
      | hang => exact ⟨rfl, rfl⟩
  | pause d next ih =>
      rw [run_pause] at h ⊢
      rw [Process.bind, run_pause]
      split
      · next hcancelled =>
          simp only [if_pos hcancelled] at h ⊢
          exact ih .cancelled s w h
      · next hcancelled =>
          simp only [if_neg hcancelled] at h ⊢
          exact ih _ s _ h
  | look next ih => exact ih _ s w h
  | put t next ih => exact ih t w h
  | panic message => cases h
  | stall => exact ⟨rfl, rfl⟩

namespace Rules

/-- The clock can come from this instant to the end of the limit. -/
def Reaches (rules : Rules ρ α) (start : Instant) : Prop :=
  start.nanos + rules.limit.nanos ≤ Instant.latest

instance (rules : Rules ρ α) (start : Instant) : Decidable (rules.Reaches start) :=
  inferInstanceAs (Decidable (_ ≤ _))

/-- The number of the last poll of a wait that nothing decides: the one at the end of the limit, or
the one at which it is out of patience with a clock that cannot come there. -/
def lastPoll (rules : Rules ρ α) (start : Instant) (patience : Nat) : Nat :=
  if rules.Reaches start then rules.cover else rules.cover + patience

/-- The replies before this one, where no request fails. -/
theorem replies_of_ok {answers : Nat → Except ClientError ρ} {reads : Nat → ρ}
    (h : ∀ k, answers k = .ok (reads k)) (k : Nat) :
    replies answers k = (List.range k).map reads := by
  induction k with
  | zero => rfl
  | succ k ih => rw [replies_succ answers (h k), ih, List.range_succ, List.map_append]; rfl

/-- How a wait came out that began in this world: by the first answer that decides anything, or else
by the end of the limit. -/
structure Comes (rules : Rules ρ α) (answers : Nat → Except ClientError ρ) (patience : Nat)
    (w : World ι Nat) (out : Aftermath ι Nat σ α) : Prop where
  decided : ∀ {k : Nat} {a : α}, k ≤ rules.lastPoll w.clock patience →
    (∀ j < k, rules.verdict answers j = none) → rules.verdict answers k = some a →
      out.ending = .returned a ∧ (GatedRollout.polls (out.world.since w)).length = k + 1
  undecided : (∀ k ≤ rules.lastPoll w.clock patience, rules.verdict answers k = none) →
    (GatedRollout.polls (out.world.since w)).length = rules.lastPoll w.clock patience + 1 ∧
      out.ending =
        if rules.Reaches w.clock then
          .returned (rules.timeout (replies answers (rules.lastPoll w.clock patience + 1)))
        else .hung

/-- Either some decision up to the last one is the first there is, or there is none. -/
theorem decided_or_undecided (decision : Nat → Option α) (last : Nat) :
    (∃ k a, k ≤ last ∧ (∀ j < k, decision j = none) ∧ decision k = some a) ∨
      ∀ k ≤ last, decision k = none := by
  induction last with
  | zero =>
      cases h : decision 0 with
      | none => exact .inr fun k hk => Nat.le_zero.mp hk ▸ h
      | some a => exact .inl ⟨0, a, le_rfl, fun j hj => absurd hj (Nat.not_lt_zero j), h⟩
  | succ last ih =>
      rcases ih with ⟨k, a, hk, hearlier, hdecision⟩ | hnone
      · exact .inl ⟨k, a, Nat.le_succ_of_le hk, hearlier, hdecision⟩
      · cases h : decision (last + 1) with
        | none =>
            refine .inr fun k hk => ?_
            rcases Nat.le_succ_iff.mp hk with hle | rfl
            · exact hnone k hle
            · exact h
        | some a => exact .inl ⟨last + 1, a, le_rfl, fun j hj => hnone j (by omega), h⟩

section Comes

variable {rules : Rules ρ α} {answers answers' : Nat → Except ClientError ρ} {patience : Nat}
  {w : World ι Nat} {out out' : Aftermath ι Nat σ α}

/-- A wait ends with its last poll, as the answer to that decides, or else as the limit does. -/
theorem Comes.last (h : rules.Comes answers patience w out) :
    ∃ m ≤ rules.lastPoll w.clock patience,
      (GatedRollout.polls (out.world.since w)).length = m + 1 ∧
        (∀ j < m, rules.verdict answers j = none) ∧
        (∀ a, rules.verdict answers m = some a → out.ending = .returned a) ∧
        (rules.verdict answers m = none →
          out.ending =
            if rules.Reaches w.clock then .returned (rules.timeout (replies answers (m + 1)))
            else .hung) := by
  rcases decided_or_undecided (rules.verdict answers) (rules.lastPoll w.clock patience) with
    ⟨k, a, hk, hearlier, hverdict⟩ | hnone
  · obtain ⟨hending, hmade⟩ := h.decided hk hearlier hverdict
    refine ⟨k, hk, hmade, hearlier, fun a' hverdict' => ?_, fun hundecided => ?_⟩
    · obtain rfl : a = a' := Option.some.inj (hverdict.symm.trans hverdict')
      exact hending
    · rw [hverdict] at hundecided
      cases hundecided
  · obtain ⟨hmade, hending⟩ := h.undecided hnone
    refine ⟨_, le_rfl, hmade, fun j hj => hnone j hj.le, fun a hverdict => ?_, fun _ => hending⟩
    rw [hnone _ le_rfl] at hverdict
    cases hverdict

/-- What the end of the limit does not come to, a wait comes to where the first answer that decides
anything comes to it. -/
theorem Comes.returned_iff (h : rules.Comes answers patience w out) {a : α}
    (ha : ∀ earlier, rules.timeout earlier ≠ a) :
    out.ending = .returned a ↔
      ∃ k ≤ rules.lastPoll w.clock patience, rules.verdict answers k = some a ∧
        ∀ j < k, rules.verdict answers j = none := by
  constructor
  · intro hending
    obtain ⟨k, hk, -, hearlier, hdecided, hundecided⟩ := h.last
    cases hverdict : rules.verdict answers k with
    | some a' =>
        obtain rfl : a' = a := Ending.returned.inj ((hdecided a' hverdict).symm.trans hending)
        exact ⟨k, hk, hverdict, hearlier⟩
    | none =>
        have hoverdue := hundecided hverdict
        rw [hending] at hoverdue
        split at hoverdue
        · exact absurd (Ending.returned.inj hoverdue).symm (ha _)
        · cases hoverdue
  · rintro ⟨k, hk, hverdict, hearlier⟩
    exact (h.decided hk hearlier hverdict).1

/-- Waits whose answers decide the same come to the same. -/
theorem Comes.agree (h : rules.Comes answers patience w out)
    (h' : rules.Comes answers' patience w out')
    (hverdict : ∀ k, rules.verdict answers' k = rules.verdict answers k)
    (htimeout : (∀ k ≤ rules.lastPoll w.clock patience, rules.verdict answers k = none) →
      rules.timeout (replies answers' (rules.lastPoll w.clock patience + 1)) =
        rules.timeout (replies answers (rules.lastPoll w.clock patience + 1))) :
    out'.ending = out.ending ∧
      (GatedRollout.polls (out'.world.since w)).length =
        (GatedRollout.polls (out.world.since w)).length := by
  rcases decided_or_undecided (rules.verdict answers) (rules.lastPoll w.clock patience) with
    ⟨k, a, hk, hearlier, hdecision⟩ | hnone
  · obtain ⟨hending, hmade⟩ := h.decided hk hearlier hdecision
    obtain ⟨hending', hmade'⟩ := h'.decided hk
      (fun j hj => (hverdict j).trans (hearlier j hj)) ((hverdict k).trans hdecision)
    exact ⟨hending'.trans hending.symm, hmade'.trans hmade.symm⟩
  · obtain ⟨hmade, hending⟩ := h.undecided hnone
    obtain ⟨hmade', hending'⟩ := h'.undecided fun k hk => (hverdict k).trans (hnone k hk)
    rw [hending, hending', hmade, hmade', htimeout hnone]
    exact ⟨rfl, rfl⟩

end Comes

/-! ## On a clock that stops short -/

/-- A limit whose end lies beyond the clock's never passes. -/
theorem not_expired_of_latest_lt {deadline : Deadline}
    (h : Instant.latest < deadline.started.nanos + deadline.limit.nanos) (now : Instant) :
    ¬ deadline.expired now = true := by
  have hnow : now.nanos ≤ Instant.latest := now.le_latest
  have hstarted : deadline.started.nanos ≤ Instant.latest := deadline.started.le_latest
  rw [deadline.expired_iff_remaining, Deadline.nanos_remaining]
  omega

section Endless

variable {watch : Watch ι β γ} {rules : Rules (ι.Reply watch.request) α}
  {remember : List (ι.Reply watch.request) → γ} {conclude : Watched β γ → α}

/-- A poll that decides nothing is followed by a pause and the next poll. -/
theorem Describe.endless_poll (describe : Describe watch rules remember conclude)
    {deadline : Deadline}
    (hend : Instant.latest < deadline.started.nanos + deadline.limit.nanos) (stream : Stream ι)
    (token : Token) (actor : Option Nat) (s : σ) (n : Nat) {w : World ι Nat}
    (htoken : w.cancelled token = false)
    (hundecided : rules.verdict (stream.answers watch.request) w.env = none) :
    ∃ d, run (.playing stream) token actor
        (watch.poll deadline (n + 1)
          (remember (replies (stream.answers watch.request) w.env))) s w =
      run (.playing stream) token actor
        (watch.poll deadline n
          (remember (replies (stream.answers watch.request) (w.env + 1)))) s
        ((w.asked stream actor watch.request).napped stream actor d) := by
  rw [describe.poll_undecided deadline stream token actor s n htoken hundecided,
    if_neg (not_expired_of_latest_lt hend _)]
  exact ⟨_, rfl⟩

theorem Describe.endless_decided (describe : Describe watch rules remember conclude)
    (deadline : Deadline)
    (hend : Instant.latest < deadline.started.nanos + deadline.limit.nanos) (stream : Stream ι)
    (token : Token) (actor : Option Nat) (s : σ) {last : Nat} {a : α}
    (hearlier : ∀ j < last, rules.verdict (stream.answers watch.request) j = none)
    (hverdict : rules.verdict (stream.answers watch.request) last = some a) (more : Nat) :
    ∀ {n : Nat} {w : World ι Nat}, w.env + more = last → more < n → w.cancelled token = false →
      let out := run (.playing stream) token actor
        (watch.poll deadline n (remember (replies (stream.answers watch.request) w.env))) s w
      (∃ watched, out.ending = .returned watched ∧ conclude watched = a) ∧
        (GatedRollout.polls (out.world.since w)).length = more + 1 := by
  induction more with
  | zero =>
      intro n w hlast hn htoken
      obtain ⟨n, rfl⟩ := Nat.exists_eq_succ_of_ne_zero (Nat.ne_of_gt hn)
      rw [Nat.add_zero] at hlast
      subst hlast
      obtain ⟨watched, hwatched, hrun⟩ :=
        describe.poll_decided deadline stream token actor s n hverdict
      rw [hrun]
      refine ⟨⟨watched, rfl, hwatched⟩, ?_⟩
      rw [World.polls_since_asked w stream actor watch.request (World.Follows.refl _),
        World.since_self]
      rfl
  | succ more ih =>
      intro n w hlast hn htoken
      obtain ⟨n, rfl⟩ := Nat.exists_eq_succ_of_ne_zero (Nat.ne_of_gt (Nat.zero_lt_of_lt hn))
      obtain ⟨d, hrun⟩ := describe.endless_poll hend stream token actor s n htoken
        (hearlier w.env (by omega))
      have hround := ih (n := n) (w := (w.asked stream actor watch.request).napped stream actor d)
        (by simp; omega) (by omega) (by simpa using htoken)
      rw [World.env_napped, World.env_asked] at hround
      rw [hrun]
      refine ⟨hround.1, ?_⟩
      rw [World.polls_since_round w stream actor watch.request d (run_follows ..),
        List.length_cons, hround.2]

theorem Describe.endless_undecided (describe : Describe watch rules remember conclude)
    (deadline : Deadline)
    (hend : Instant.latest < deadline.started.nanos + deadline.limit.nanos) (stream : Stream ι)
    (token : Token) (actor : Option Nat) (s : σ) (last : Nat)
    (hnone : ∀ j < last, rules.verdict (stream.answers watch.request) j = none) (n : Nat) :
    ∀ {w : World ι Nat}, w.env + n = last → w.cancelled token = false →
      let out := run (.playing stream) token actor
        (watch.poll deadline n (remember (replies (stream.answers watch.request) w.env))) s w
      out.ending = .hung ∧ (GatedRollout.polls (out.world.since w)).length = n := by
  induction n with
  | zero =>
      intro w _ _ out
      have hworld : out.world = w := rfl
      rw [hworld, World.since_self]
      exact ⟨rfl, rfl⟩
  | succ n ih =>
      intro w hlast htoken
      obtain ⟨d, hrun⟩ := describe.endless_poll hend stream token actor s n htoken
        (hnone w.env (by omega))
      have hround := ih (w := (w.asked stream actor watch.request).napped stream actor d)
        (by simp; omega) (by simpa using htoken)
      rw [World.env_napped, World.env_asked] at hround
      rw [hrun]
      refine ⟨hround.1, ?_⟩
      rw [World.polls_since_round w stream actor watch.request d (run_follows ..),
        List.length_cons, hround.2]

end Endless

/-! ## On any clock -/

section Wait

variable {watch : Watch ι β γ} {rules : Rules (ι.Reply watch.request) α}
  {remember : List (ι.Reply watch.request) → γ} {conclude : Watched β γ → α}

theorem Reaches.opens {rules : Rules ρ α} {token : Token} {w : World ι Nat} (henv : w.env = 0)
    (htoken : w.cancelled token = false) (hreaches : rules.Reaches w.clock) :
    ∃ finish, rules.Opens token w finish := by
  obtain ⟨finish, hfinish⟩ := Instant.exists_add? hreaches
  exact ⟨finish, henv, htoken, hfinish⟩

/-- A watch whose answers take no time ends by the first one that decides anything. -/
theorem Describe.run_decided (describe : Describe watch rules remember conclude)
    (hinterval : 0 < rules.interval.nanos) (stream : Stream ι) (token : Token)
    (actor : Option Nat) (s : σ) (patience : Nat) {w : World ι Nat} (henv : w.env = 0)
    (htoken : w.cancelled token = false) (hpunctual : ∀ k, (stream k watch.request).1 = .zero)
    {k : Nat} {a : α} (hk : k ≤ rules.lastPoll w.clock patience)
    (hearlier : ∀ j < k, rules.verdict (stream.answers watch.request) j = none)
    (hverdict : rules.verdict (stream.answers watch.request) k = some a) :
    let out := run (.playing stream) token actor (watch.run patience) s w
    (∃ watched, out.ending = .returned watched ∧ conclude watched = a) ∧
      (GatedRollout.polls (out.world.since w)).length = k + 1 := by
  by_cases hreaches : rules.Reaches w.clock
  · rw [lastPoll, if_pos hreaches] at hk
    obtain ⟨finish, hopens⟩ := hreaches.opens henv htoken
    obtain ⟨hreturned, hpolls, -⟩ := describe.run_polled hinterval stream token actor s patience
      hopens hpunctual ⟨hearlier, .inl ⟨hk, hverdict⟩⟩
    refine ⟨hreturned, ?_⟩
    rw [hpolls, List.length_map, List.length_range]
  · rw [lastPoll, if_neg hreaches, describe.cover_eq] at hk
    rw [Watch.run, run_look, ← describe.unseen]
    have hpolled := describe.endless_decided ⟨w.clock, watch.limit⟩
      (describe.limit ▸ Int.not_le.mp hreaches) stream token actor s hearlier hverdict k
      (n := Watch.slices watch.limit watch.interval + 1 + patience) (w := w)
      (by rw [henv, Nat.zero_add]) (by omega) htoken
    rw [henv] at hpolled
    exact hpolled

/-- A watch of which no answer decides anything ends with its limit. -/
theorem Describe.run_overdue (describe : Describe watch rules remember conclude)
    (hinterval : 0 < rules.interval.nanos) (stream : Stream ι) (token : Token)
    (actor : Option Nat) (s : σ) (patience : Nat) {w : World ι Nat} (henv : w.env = 0)
    (htoken : w.cancelled token = false) (hpunctual : ∀ k, (stream k watch.request).1 = .zero)
    (hreaches : rules.Reaches w.clock)
    (hnone : ∀ k ≤ rules.cover, rules.verdict (stream.answers watch.request) k = none) :
    let out := run (.playing stream) token actor (watch.run patience) s w
    (∃ watched, out.ending = .returned watched ∧ conclude watched =
        rules.timeout (replies (stream.answers watch.request) (rules.cover + 1))) ∧
      (GatedRollout.polls (out.world.since w)).length = rules.cover + 1 := by
  obtain ⟨finish, hopens⟩ := hreaches.opens henv htoken
  obtain ⟨hreturned, hpolls, -⟩ := describe.run_polled hinterval stream token actor s patience
    hopens hpunctual
    ⟨fun j hj => hnone j hj.le, .inr ⟨rfl, hnone _ le_rfl, rfl⟩⟩
  refine ⟨hreturned, ?_⟩
  rw [hpolls, List.length_map, List.length_range]

/-- A watch of which no answer decides anything does not end where its limit never passes. -/
theorem Describe.run_endless (describe : Describe watch rules remember conclude)
    (stream : Stream ι) (token : Token) (actor : Option Nat) (s : σ) (patience : Nat)
    {w : World ι Nat} (henv : w.env = 0) (htoken : w.cancelled token = false)
    (hreaches : ¬ rules.Reaches w.clock)
    (hnone : ∀ k ≤ rules.cover + patience,
      rules.verdict (stream.answers watch.request) k = none) :
    let out := run (.playing stream) token actor (watch.run patience) s w
    out.ending = .hung ∧
      (GatedRollout.polls (out.world.since w)).length = rules.cover + patience + 1 := by
  rw [describe.cover_eq] at hnone ⊢
  rw [Watch.run, run_look, ← describe.unseen, Nat.add_right_comm _ patience 1]
  have hpolled := describe.endless_undecided ⟨w.clock, watch.limit⟩
    (describe.limit ▸ Int.not_le.mp hreaches) stream token actor s
    (Watch.slices watch.limit watch.interval + 1 + patience)
    (fun j hj => hnone j (by omega)) (Watch.slices watch.limit watch.interval + 1 + patience)
    (w := w) (by rw [henv, Nat.zero_add]) htoken
  rw [henv] at hpolled
  exact hpolled

/-- A wait that only concludes from the end of a watch comes to what its rules say. -/
theorem Describe.comes (describe : Describe watch rules remember conclude)
    (hinterval : 0 < rules.interval.nanos) {p : Process ι σ α} {patience : Nat}
    (hp : p = (watch.run patience).bind fun watched => .done (conclude watched)) (s : σ)
    (stream : Stream ι) (token : Token) (actor : Option Nat) {w : World ι Nat} (henv : w.env = 0)
    (htoken : w.cancelled token = false) (hpunctual : ∀ k, (stream k watch.request).1 = .zero) :
    rules.Comes (stream.answers watch.request) patience w
      (run (.playing stream) token actor p s w) := by
  subst hp
  constructor
  · intro k a hk hearlier hverdict
    obtain ⟨⟨watched, hwatched, hresult⟩, hpolls⟩ := describe.run_decided hinterval stream token
      actor s patience henv htoken hpunctual hk hearlier hverdict
    rw [run_bind_returned _ _ _ _ _ _ _ hwatched, run_done]
    exact ⟨congrArg Ending.returned hresult, hpolls⟩
  · intro hnone
    by_cases hreaches : rules.Reaches w.clock
    · rw [lastPoll, if_pos hreaches] at hnone ⊢
      obtain ⟨⟨watched, hwatched, hresult⟩, hpolls⟩ := describe.run_overdue hinterval stream token
        actor s patience henv htoken hpunctual hreaches hnone
      rw [if_pos hreaches, run_bind_returned _ _ _ _ _ _ _ hwatched, run_done]
      exact ⟨hpolls, congrArg Ending.returned hresult⟩
    · rw [lastPoll, if_neg hreaches] at hnone ⊢
      obtain ⟨hhung, hpolls⟩ := describe.run_endless stream token actor s patience henv htoken
        hreaches hnone
      obtain ⟨hending, hworld⟩ := run_bind_hung _ token actor (watch.run patience)
        (fun watched => .done (conclude watched)) s w hhung
      rw [if_neg hreaches, hworld]
      exact ⟨hpolls, hending⟩

end Wait

end Rules

end GatedRollout
