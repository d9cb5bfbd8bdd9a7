import GatedRollout.Proofs.Process.Discipline
import GatedRollout.Proofs.Process.Polling
import GatedRollout.Proofs.Process.SideBySide

/-!
# The pace of processes side by side

The processes of a fan-out share one clock, and a pause of any of them moves it for all.
`Process.Paced` says of a single process that, whatever the others do to the clock, its own pauses
stay within an allowance, and that it is never stuck by itself unless the clock has come to its end.
`Process.Spends` makes the allowance a cost that adds up from one step to the next, and
`Crew.Paced.sustained` shares the time of the clock among the members of a crew.
-/

namespace GatedRollout

variable {ι : Interface} {S σ ε α β γ : Type}

/-! ## Clocks with room -/

/-- The clock can still take a step of this length. -/
def Instant.HasRoom (now : Instant) (gap : Duration) : Prop :=
  now.nanos + gap.nanos ≤ Instant.latest

theorem Instant.HasRoom.of_later {now later : Instant} {gap : Duration} (h : later.HasRoom gap)
    (hle : now.nanos ≤ later.nanos) : now.HasRoom gap :=
  Int.le_trans (Int.add_le_add_right hle _) h

/-- A clock takes every step that it has room for, and stays where it is for any other. -/
theorem Instant.advance_cases (now : Instant) (d : Duration) :
    (now.advance d).nanos = now.nanos + d.nanos ∨ ¬now.HasRoom d ∧ now.advance d = now := by
  by_cases hroom : now.HasRoom d
  · exact .inl (Instant.nanos_advance hroom)
  · refine .inr ⟨hroom, ?_⟩
    cases hadd : now.add? d with
    | none => rw [advance, hadd, Option.getD_none]
    | some later =>
        have hlater : later.nanos ≤ latest := later.le_latest
        rw [nanos_add? hadd] at hlater
        exact absurd hlater hroom

theorem Deadline.remaining_later (deadline : Deadline) {now later : Instant}
    (hlater : now.nanos ≤ later.nanos) :
    (deadline.remaining later).nanos ≤ (deadline.remaining now).nanos := by
  rw [nanos_remaining, nanos_remaining]
  omega

/-! ## Paced processes -/

/-- What the answer to a request allows whoever asked to pause for. -/
abbrev Grants (ι : Interface) := (r : ι.Request) → Except ClientError (ι.Reply r) → Nat

/-- The account has what is left of the allowance and the present instant. -/
def Discipline.pacing (grants : Grants ι) (gap : Duration) : Discipline ι σ (Nat × Instant) where
  call r x K := ∀ answer (later : Instant), x.2.nanos ≤ later.nanos →
    K answer (x.1 + grants r answer, later)
  pause d x K := K .cancelled x ∧
    ∃ rest : Nat, (x.2.advance d).nanos + rest ≤ x.2.nanos + x.1 ∧
      ∀ ended (later : Instant), (x.2.advance d).nanos ≤ later.nanos → K ended (rest, later)
  look x K := ∀ cancelled s, K ⟨x.2, cancelled, s⟩
  put _ x K := K x
  panic _ _ := True
  stall x := ¬x.2.HasRoom gap
  call_mono hK h := fun answer later hlater => hK _ _ (h answer later hlater)
  pause_mono hK h := by
    obtain ⟨hcancelled, rest, hrest, hnext⟩ := h
    exact ⟨hK _ _ hcancelled, rest, hrest,
      fun ended later hlater => hK _ _ (hnext ended later hlater)⟩
  look_mono hK h := fun cancelled s => hK _ (h cancelled s)
  put_mono hK h := hK _ h

/-- From this instant on the pauses of the process take at most what is left of its allowance, to
which the grants of its answers are added; and this holds of what it returns and of what is left
then. Between two of its steps the clock may be moved. The process stalls only on a
clock that has no room for the gap. -/
def Process.Paced (grants : Grants ι) (gap : Duration) (post : α → Nat → Prop)
    (p : Process ι σ α) (left : Nat) (now : Instant) : Prop :=
  p.Obeys (.pacing grants gap) (fun a x => post a x.1) (left, now)

/-! ## Spending -/

/-- At any time the process pays for its pauses with so much, and leaves so much when it returns. -/
def Process.Spends (grants : Grants ι) (gap : Duration) (before : Nat) (p : Process ι σ α)
    (after : α → Nat) : Prop :=
  ∀ rest now, p.Paced grants gap (fun a left => after a + rest ≤ left) (before + rest) now

namespace Process.Spends

variable {grants : Grants ι} {gap : Duration} {before : Nat}

theorem bind {mid : α → Nat} {after : β → Nat} {p : Process ι σ α} {f : α → Process ι σ β}
    (h : p.Spends grants gap before mid) (next : ∀ a, (f a).Spends grants gap (mid a) after) :
    (p.bind f).Spends grants gap before after := by
  intro rest now
  refine Obeys.bind (h rest now) ?_
  rintro a ⟨left, later⟩ hleft
  obtain ⟨more, rfl⟩ := Nat.exists_eq_add_of_le hleft
  rw [Nat.add_assoc]
  refine Obeys.weaken (next a (rest + more) later) fun b x hx => ?_
  omega

/-- What the process does not need is left over. -/
theorem frame {after : α → Nat} {p : Process ι σ α} (h : p.Spends grants gap before after)
    (extra : Nat) : p.Spends grants gap (before + extra) fun a => after a + extra := by
  intro rest now
  rw [Nat.add_assoc]
  refine Obeys.weaken (h (extra + rest) now) fun a x hx => ?_
  dsimp only
  omega

theorem pure {after : α → Nat} {a : α} (h : after a ≤ before) :
    (Pure.pure a : Process ι σ α).Spends grants gap before after :=
  fun rest _ => Nat.add_le_add_right h rest

theorem ask {r : ι.Request} {after : Except ClientError (ι.Reply r) → Nat}
    (h : ∀ answer, after answer ≤ before + grants r answer) :
    (Process.ask r : Process ι σ _).Spends grants gap before after := by
  intro rest now answer later _
  have hafter := h answer
  show after answer + rest ≤ before + rest + grants r answer
  omega

theorem state : (Process.state : Process ι σ _).Spends grants gap before fun _ => before :=
  fun _ _ _ _ => Nat.le_refl _

theorem modify (f : σ → σ) {after : Nat} (h : after ≤ before) :
    (Process.modify f : Process ι σ _).Spends grants gap before fun _ => after :=
  fun rest _ _ _ => Nat.add_le_add_right h rest

/-! ### Watches -/

/-- As long as the clock has room, the polls that are left cover the rest of the limit. -/
structure Covers (gap : Duration) (deadline : Deadline) (interval : Duration) (n : Nat)
    (now : Instant) : Prop where
  begun : deadline.started.nanos ≤ now.nanos
  polls : now.HasRoom gap → ∃ most, n = most + 1 ∧
    (deadline.remaining now).nanos ≤ interval.nanos * most

theorem Covers.later {deadline : Deadline} {interval : Duration} {n : Nat} {now later : Instant}
    (h : Covers gap deadline interval n now) (hlater : now.nanos ≤ later.nanos) :
    Covers gap deadline interval n later := by
  refine ⟨Int.le_trans h.begun hlater, fun hroom => ?_⟩
  obtain ⟨most, hn, hmost⟩ := h.polls (hroom.of_later hlater)
  exact ⟨most, hn, Nat.le_trans (deadline.remaining_later hlater) hmost⟩

/-- A pause takes its length from what remains, and one poll less covers the rest. -/
theorem Covers.pause {deadline : Deadline} {interval : Duration} {n : Nat} {now : Instant}
    (h : Covers gap deadline interval (n + 1) now) (hgap : interval.nanos ≤ gap.nanos)
    (hgoing : deadline.expired now = false) :
    let d := deadline.nextInterval now interval
    Covers gap deadline interval n (now.advance d) ∧
      (now.advance d).nanos + (deadline.remaining (now.advance d)).nanos ≤
        now.nanos + (deadline.remaining now).nanos := by
  intro d
  have hd : d.nanos = min (deadline.remaining now).nanos interval.nanos :=
    Duration.nanos_shorter _ _
  have hopen : (deadline.remaining now).nanos ≠ 0 := fun hzero => by
    rw [(deadline.expired_iff_remaining now).mpr hzero] at hgoing
    cases hgoing
  have hbegun := h.begun
  rcases now.advance_cases d with hmoved | ⟨hfull, hstays⟩
  · have hpaid : (deadline.remaining (now.advance d)).nanos =
        (deadline.remaining now).nanos - d.nanos := by
      rw [Deadline.nanos_remaining, Deadline.nanos_remaining, hmoved]
      omega
    refine ⟨⟨by omega, fun hroom => ?_⟩, by omega⟩
    obtain ⟨most, hn, hmost⟩ := h.polls (hroom.of_later (now.le_advance d))
    cases most with
    | zero => omega
    | succ most =>
        rw [Nat.mul_succ] at hmost
        exact ⟨most, by omega, by omega⟩
  · rw [hstays]
    refine ⟨⟨hbegun, fun hroom => absurd ?_ hfull⟩, Int.le_refl _⟩
    unfold Instant.HasRoom at hroom ⊢
    omega

theorem paced_poll (watch : Watch ι β γ) (deadline : Deadline)
    (hgap : watch.interval.nanos ≤ gap.nanos) (rest : Nat) {n : Nat} {seen : γ} {left : Nat}
    {now : Instant} (hcovers : Covers gap deadline watch.interval n now)
    (hleft : (deadline.remaining now).nanos + rest ≤ left) :
    (watch.poll deadline n seen : Process ι σ _).Paced grants gap (fun _ left => rest ≤ left)
      left now := by
  refine Obeys.poll (fun n _ x => Covers gap deadline watch.interval n x.2 ∧
    (deadline.remaining x.2).nanos + rest ≤ x.1) ?_ ?_ ⟨hcovers, hleft⟩
  · rintro seen ⟨left, now⟩ ⟨hcovers, -⟩ hroom
    obtain ⟨most, hn, -⟩ := hcovers.polls hroom
    cases hn
  · rintro n seen ⟨left, now⟩ ⟨hcovers, hleft⟩ answer later hlater
    dsimp only at hlater hleft
    have hover : rest ≤ left + grants watch.request answer := by omega
    cases answer with
    | error e => exact hover
    | ok reply =>
        dsimp only [Watch.Requires]
        cases watch.judge seen reply with
        | settled b => exact hover
        | pending seen' =>
            intro cancelled s
            dsimp only
            split
            · exact hover
            · next hgoing =>
                have hcovers := hcovers.later hlater
                have hremaining := deadline.remaining_later hlater
                obtain ⟨hnext, hpaid⟩ := hcovers.pause hgap (Bool.eq_false_iff.mpr hgoing)
                generalize deadline.nextInterval later watch.interval = d at *
                -- What the deadline has left after the pause pays for all that follows.
                refine ⟨hover, (deadline.remaining (later.advance d)).nanos + rest, ?_,
                  fun ended last hlast => ?_⟩
                · dsimp only
                  omega
                cases ended with
                | cancelled => exact Nat.le_add_left rest _
                | elapsed =>
                    exact ⟨hnext.later hlast,
                      Nat.add_le_add_right (deadline.remaining_later hlast) rest⟩

/-- A watch pauses for its limit at most. -/
theorem watch (watch : Watch ι β γ) (patience : Nat) (hinterval : 0 < watch.interval.nanos)
    (hgap : watch.interval.nanos ≤ gap.nanos) :
    (watch.run patience : Process ι σ _).Spends grants gap watch.limit.nanos fun _ => 0 := by
  intro rest now cancelled s
  have hfull : (Deadline.remaining ⟨now, watch.limit⟩ now).nanos = watch.limit.nanos := by
    rw [Deadline.nanos_remaining]
    simp
  have hcovers : Covers gap ⟨now, watch.limit⟩ watch.interval
      (Watch.slices watch.limit watch.interval + 1 + patience) now := by
    refine ⟨Int.le_refl _, fun _ => ?_⟩
    refine ⟨Watch.slices watch.limit watch.interval + patience, by omega, ?_⟩
    have hslices : watch.limit.nanos ≤
        watch.interval.nanos * Watch.slices watch.limit watch.interval := by
      have hdiv := Nat.div_add_mod (watch.limit.nanos + watch.interval.nanos - 1)
        watch.interval.nanos
      have hmod := Nat.mod_lt (watch.limit.nanos + watch.interval.nanos - 1) hinterval
      rw [Watch.slices]
      omega
    rw [hfull, Nat.mul_add]
    omega
  refine Obeys.weaken
    (paced_poll watch ⟨now, watch.limit⟩ hgap rest hcovers ?_) ?_
  · rw [hfull]
  · intro a x hx
    exact Nat.le_trans (Nat.le_of_eq (Nat.zero_add rest)) hx

/-! ### Attempts -/

/-- What gives up needs to leave nothing. -/
theorem attempt {mid : Nat} {m : Attempt ι σ ε α} {f : α → Attempt ι σ ε β}
    (h : m.run.Spends grants gap before fun _ => mid)
    (next : ∀ a, (f a).run.Spends grants gap mid fun _ => 0) :
    (m >>= f).run.Spends grants gap before fun _ => 0 := by
  refine bind h fun result => ?_
  cases result with
  | ok a => exact next a
  | error e => exact pure (Nat.zero_le mid)

theorem known (result : Except ε α) :
    (liftM result : Attempt ι σ ε α).run.Spends grants gap before fun _ => before :=
  fun _ _ => Nat.le_refl _

theorem run_attempt {after : Nat} {p : Process ι σ α}
    (h : p.Spends grants gap before fun _ => after) :
    (ExceptT.lift p : Attempt ι σ ε α).run.Spends grants gap before fun _ => after :=
  bind h fun _ => pure (Nat.le_refl after)

theorem attempt_ask (r : ι.Request) (fault : ClientError → ε) :
    (Attempt.ask r fault : Attempt ι σ ε _).run.Spends grants gap before fun _ => before := by
  intro rest now answer later _
  have hover : before + rest ≤ before + rest + grants r answer := Nat.le_add_right _ _
  cases answer with
  | ok reply => exact hover
  | error e => exact hover

theorem attempt_modify (f : σ → σ) {after : Nat} (h : after ≤ before) :
    (Attempt.modify f : Attempt ι σ ε _).run.Spends grants gap before fun _ => after :=
  fun rest _ _ _ => Nat.add_le_add_right h rest

theorem attempt_state :
    (Attempt.state : Attempt ι σ ε _).run.Spends grants gap before fun _ => before :=
  fun _ _ _ _ => Nat.le_refl _

theorem within {ε' : Type} {after : Nat} {m : Attempt ι σ ε α}
    (h : m.run.Spends grants gap before fun _ => after) (wrap : ε → ε') :
    (m.within wrap).run.Spends grants gap before fun _ => after := by
  refine bind h fun result => ?_
  cases result with
  | ok a => exact pure (Nat.le_refl after)
  | error e => exact pure (Nat.le_refl after)

end Process.Spends

/-! ## The time that has been granted -/

/-- An environment whose answers take no time. -/
def Environment.Punctual (env : Environment ι S) : Prop :=
  ∀ s now r, (env.react s now r).1.advance = .zero

/-- What an event grants. -/
def Event.granted (grants : Grants ι) : Event ι → Nat
  | .returned r answer => grants r answer
  | _ => 0

/-- What has been granted so far. -/
def World.granted (grants : Grants ι) (w : World ι S) : Nat :=
  (w.history.map fun e => e.event.granted grants).sum

section Granted

variable (grants : Grants ι) (env : Environment ι S) (actor : Option Nat) (w : World ι S)

@[simp] theorem World.granted_note (event : Event ι) :
    (w.note actor event).granted grants = event.granted grants + w.granted grants := rfl

@[simp] theorem World.granted_fireIf (fires : Bool) :
    (w.fireIf fires).granted grants = w.granted grants := by
  unfold fireIf fire
  split
  · split
    · rfl
    · exact Nat.zero_add _
  · rfl

@[simp] theorem World.granted_issue (r : ι.Request) :
    (w.issue env actor r).2.granted grants = w.granted grants :=
  (World.granted_fireIf ..).trans (Nat.zero_add _)

@[simp] theorem World.granted_sleep (d : Duration) :
    (w.sleep env actor d).2.granted grants = w.granted grants :=
  (World.granted_fireIf ..).trans (Nat.zero_add _)

theorem World.Follows.granted_eq {earlier : World ι S} (h : w.Follows earlier) :
    w.granted grants =
      ((w.since earlier).map fun e => e.event.granted grants).sum + earlier.granted grants := by
  rw [granted, h.history_eq]
  simp [granted, List.sum_reverse]

theorem World.clock_issue_le (r : ι.Request) :
    w.clock.nanos ≤ (w.issue env actor r).2.clock.nanos := by
  rw [issue, clock_fireIf]
  exact Instant.le_advance ..

theorem World.clock_issue_of_punctual (h : env.Punctual) (r : ι.Request) :
    (w.issue env actor r).2.clock = w.clock := by
  rw [issue, clock_fireIf]
  dsimp only
  rw [h, Instant.advance_zero]
  rfl

theorem World.clock_sleep (d : Duration) :
    (w.sleep env actor d).2.clock = w.clock.advance d := by
  rw [sleep, clock_fireIf]
  rfl

end Granted

/-! ## One turn -/

/-- What is left pays for the rest of the process at any later time. How it stands can be told from
the last of its deeds: a call it waits for, a pause it is in, and a call that hangs, unless the
clock has come to its end. -/
def Stage.Paced (grants : Grants ι) (gap : Duration) (last : Option (Event ι)) (left : Nat)
    (now : Instant) : Stage ι σ α → Prop
  | .ready p => ∀ later : Instant, now.nanos ≤ later.nanos →
      p.Paced grants gap (fun _ _ => True) left later
  | .calling _ r _ next => last = some (.issued r) ∧
      ∀ answer (later : Instant), now.nanos ≤ later.nanos →
        (next answer).Paced grants gap (fun _ _ => True) (left + grants r answer) later
  | .resting _ next => (∃ d, last = some (.slept d)) ∧
      ∀ ended (later : Instant), now.nanos ≤ later.nanos →
        (next ended).Paced grants gap (fun _ _ => True) left later
  | .finished _ => True
  | .hung => (∃ r, last = some (.issued r)) ∨ ¬now.HasRoom gap

theorem Stage.Paced.later {grants : Grants ι} {gap : Duration} {last : Option (Event ι)}
    {left : Nat} {now later : Instant} {stage : Stage ι σ α}
    (h : stage.Paced grants gap last left now) (hlater : now.nanos ≤ later.nanos) :
    stage.Paced grants gap last left later := by
  cases stage with
  | ready p => exact fun last hlast => h last (Int.le_trans hlater hlast)
  | calling n r effect next =>
      exact ⟨h.1, fun answer last hlast => h.2 answer last (Int.le_trans hlater hlast)⟩
  | resting n next =>
      exact ⟨h.1, fun ended last hlast => h.2 ended last (Int.le_trans hlater hlast)⟩
  | finished a => trivial
  | hung => exact h.imp_right fun hfull hroom => hfull (hroom.of_later hlater)

/-- A member at a paced stage, with so much left, where the deeds before those of its process are
the past. -/
def Member.Paced (grants : Grants ι) (gap : Duration) (past : List (Event ι)) (left : Nat)
    (m : Member ι σ α) (w : World ι S) : Prop :=
  ∃ x, w.deeds (some m.actor) = past ++ x ∧ m.stage.Paced grants gap x.getLast? left w.clock

/-- A member goes on at its pace, with what pays for the time that has passed since an earlier
world left from what it had then, and from what it was granted. -/
def Member.Proceeds (env : Environment ι S) (grants : Grants ι) (gap : Duration)
    (past : List (Event ι)) (left : Nat) (w : World ι S) (m : Member ι σ α) (w' : World ι S) :
    Prop :=
  ∃ rest, m.Paced grants gap past rest w' ∧ (env.Punctual →
    w'.clock.nanos + rest + w.granted grants ≤ w.clock.nanos + left + w'.granted grants)

section Turn

variable {env : Environment ι S} {token : Token} {grants : Grants ι} {gap : Duration}
  {past : List (Event ι)} {left : Nat} {w : World ι S}

theorem Member.Paced.proceeds {m : Member ι σ α} (h : m.Paced grants gap past left w) :
    m.Proceeds env grants gap past left w w :=
  ⟨left, h, fun _ => Int.le_refl _⟩

/-- What an answer grants is there to be spent. -/
theorem Member.Proceeds.returned {m : Member ι σ α} {w' : World ι S} {actor : Option Nat}
    {r : ι.Request} {answer : Except ClientError (ι.Reply r)}
    (h : m.Proceeds env grants gap past (left + grants r answer)
      (w.note actor (.returned r answer)) w') : m.Proceeds env grants gap past left w w' := by
  obtain ⟨rest, hrest, hpaid⟩ := h
  refine ⟨rest, hrest, fun hpunctual => ?_⟩
  have hpaid := hpaid hpunctual
  have hclock : (w.note actor (.returned r answer)).clock = w.clock := rfl
  rw [World.granted_note, hclock] at hpaid
  simp only [Event.granted] at hpaid
  omega

/-- A call takes no time where answers take none. -/
theorem Member.Proceeds.issued {m : Member ι σ α} {w₁ w' : World ι S} {actor : Option Nat}
    {r : ι.Request} {reaction : Reaction (ι.Reply r)}
    (h : m.Proceeds env grants gap past left w₁ w')
    (hissue : w.issue env actor r = (reaction, w₁)) :
    m.Proceeds env grants gap past left w w' := by
  obtain ⟨rest, hrest, hpaid⟩ := h
  refine ⟨rest, hrest, fun hpunctual => ?_⟩
  have hgranted := w.granted_issue grants env actor r
  have hclock := w.clock_issue_of_punctual env actor hpunctual r
  rw [hissue] at hgranted hclock
  rw [← hgranted, ← hclock]
  exact hpaid hpunctual

theorem Process.Paced.takeTurn {actor : Nat} {p : Process ι σ α} :
    ∀ {s : σ} {x : List (Event ι)} {w : World ι S} {left : Nat},
      p.Paced grants gap (fun _ _ => True) left w.clock → w.deeds (some actor) = past ++ x →
        let (turn, m, w') := GatedRollout.takeTurn env token actor p s w
        turn.panic? = none → m.Proceeds env grants gap past left w w' := by
  induction p with
  | done a => exact fun h hw _ => Member.Paced.proceeds ⟨_, hw, trivial⟩
  | call r next ih =>
      intro s x w left h hw
      have hissued := w.deeds_issue env (some actor) (some actor) r
      have hclock := w.clock_issue_le env (some actor) r
      have hlast : (x ++ [Event.issued r]).getLast? = some (.issued r) := List.getLast?_concat
      rcases hi : w.issue env (some actor) r with ⟨⟨advance, fires, yields, effect⟩, w₁⟩
      rw [hi, if_pos rfl, hw, List.append_assoc] at hissued
      rw [hi] at hclock
      simp only [GatedRollout.takeTurn, hi]
      cases yields with
      | zero =>
          cases effect with
          | answer answer =>
              intro hpanic
              have hreturned : (w₁.note (some actor) (.returned r answer)).deeds (some actor) =
                  past ++ (x ++ [Event.issued r] ++ [Event.returned r answer]) := by
                rw [World.deeds_note, if_pos ⟨rfl, rfl⟩, hissued, List.append_assoc]
              have hnext : (next answer).Paced grants gap (fun _ _ => True)
                  (left + grants r answer) (w₁.note (some actor) (.returned r answer)).clock :=
                h answer w₁.clock hclock
              exact (ih answer hnext hreturned hpanic).returned.issued hi
          | panic message => exact fun hpassed => by cases hpassed
          | hang =>
              have hpaced : Member.Paced grants gap past left
                  (⟨actor, s, .hung⟩ : Member ι σ α) w₁ := ⟨_, hissued, .inl ⟨r, hlast⟩⟩
              exact fun _ => hpaced.proceeds.issued hi
      | succ n =>
          have hpaced : Member.Paced grants gap past left
              (⟨actor, s, .calling n r effect next⟩ : Member ι σ α) w₁ :=
            ⟨_, hissued, hlast, fun answer later hlater =>
              h answer later (Int.le_trans hclock hlater)⟩
          exact fun _ => hpaced.proceeds.issued hi
  | pause d next ih =>
      intro s x w left h hw
      obtain ⟨hcancelled, rest, hrest, hnext⟩ := h
      dsimp only at hrest
      simp only [GatedRollout.takeTurn]
      split
      · exact ih .cancelled hcancelled hw
      · intro _
        have hslept := w.deeds_sleep env (some actor) (some actor) d
        have hgranted := w.granted_sleep grants env (some actor) d
        have hclock := w.clock_sleep env (some actor) d
        rw [if_pos rfl, hw, List.append_assoc] at hslept
        refine ⟨rest, ⟨_, hslept, ⟨d, List.getLast?_concat⟩, fun ended later hlater => ?_⟩, ?_⟩
        · rw [hclock] at hlater
          exact hnext ended later hlater
        · intro _
          rw [hclock, hgranted]
          omega
  | look next ih => exact fun h hw => ih _ (h _ _) hw
  | put t next ih => exact fun h hw => ih h hw
  | panic message => exact fun _ _ hpassed => by cases hpassed
  | stall => exact fun h hw _ => Member.Paced.proceeds ⟨_, hw, .inr h⟩

variable (env token) in
/-- A turn that does not panic keeps its member at its pace. -/
theorem Member.Paced.turn {m : Member ι σ α} (h : m.Paced grants gap past left w) :
    let (turn, m', w') := m.turn env token w
    turn.panic? = none → m'.Proceeds env grants gap past left w w' := by
  obtain ⟨actor, s, stage⟩ := m
  obtain ⟨x, hw, hx⟩ := h
  cases stage with
  | ready p => exact (hx w.clock (Int.le_refl _)).takeTurn hw
  | calling n r effect next =>
      cases n with
      | zero =>
          cases effect with
          | answer answer =>
              intro hpanic
              have hreturned : (w.note (some actor) (.returned r answer)).deeds (some actor) =
                  past ++ (x ++ [Event.returned r answer]) := by
                rw [World.deeds_note, if_pos ⟨rfl, rfl⟩, hw, List.append_assoc]
              have hnext : (next answer).Paced grants gap (fun _ _ => True)
                  (left + grants r answer) (w.note (some actor) (.returned r answer)).clock :=
                hx.2 answer w.clock (Int.le_refl _)
              exact (hnext.takeTurn hreturned hpanic).returned
          | panic message => exact fun hpassed => by cases hpassed
          | hang => exact fun _ => Member.Paced.proceeds ⟨x, hw, .inl ⟨r, hx.1⟩⟩
      | succ n => exact fun _ => Member.Paced.proceeds ⟨x, hw, hx⟩
  | resting n next =>
      cases n with
      | zero => exact (hx.2 (w.restEnd token) w.clock (Int.le_refl _)).takeTurn hw
      | succ n => exact fun _ => Member.Paced.proceeds ⟨x, hw, hx⟩
  | finished a => exact fun _ => Member.Paced.proceeds ⟨x, hw, hx⟩
  | hung => exact fun _ => Member.Paced.proceeds ⟨x, hw, hx⟩

end Turn

/-! ## Whole fan-outs -/

theorem Member.clock_turn_le (env : Environment ι S) (token : Token) (m : Member ι σ α)
    (w : World ι S) : w.clock.nanos ≤ (m.turn env token w).2.2.clock.nanos :=
  m.turn_keeps (K := fun later => w.clock.nanos ≤ later.clock.nanos)
    (fun v r h => Int.le_trans h (v.clock_issue_le env (some m.actor) r)) (fun _ _ _ h => h)
    (fun v d h => by
      rw [World.clock_sleep]
      exact Int.le_trans h (v.clock.le_advance d)) (Int.le_refl _)

section Crew

variable (env : Environment ι S) (grants : Grants ι) (gap : Duration) (earlier : World ι S)

/-- The members go on at their paces, and so much pays for what all of them have left. -/
def Crew.Shares : List (Member ι σ α) → Nat → World ι S → Prop
  | [], _, _ => True
  | m :: rest, total, w => ∃ left others, left + others ≤ total ∧
      m.Paced grants gap (earlier.deeds (some m.actor)) left w ∧ Crew.Shares rest others w

/-- A crew of so many members since an earlier world. What its members have left and the time that
has passed are paid for by the allowance and by what was granted. -/
structure Crew.Paced (size allowance : Nat) (crew : Crew ι σ α) (w : World ι S) : Prop where
  follows : w.Follows earlier
  actors : crew.members.map (·.actor) = List.range size
  shares : ∃ total, Crew.Shares grants gap earlier crew.members total w ∧ (env.Punctual →
    w.clock.nanos + total + earlier.granted grants ≤
      earlier.clock.nanos + allowance + w.granted grants)

end Crew

section Shares

variable {env : Environment ι S} {token : Token} {grants : Grants ι} {gap : Duration}
  {earlier : World ι S} {w : World ι S} {total : Nat}

theorem Crew.Shares.mono {members : List (Member ι σ α)} {more : Nat}
    (h : Crew.Shares grants gap earlier members total w) (hmore : total ≤ more) :
    Crew.Shares grants gap earlier members more w := by
  cases members with
  | nil => trivial
  | cons m rest =>
      obtain ⟨left, others, hsum, hrest⟩ := h
      exact ⟨left, others, Nat.le_trans hsum hmore, hrest⟩

theorem Crew.shares_append {before rest : List (Member ι σ α)} :
    Crew.Shares grants gap earlier (before ++ rest) total w ↔ ∃ first others,
      first + others ≤ total ∧ Crew.Shares grants gap earlier before first w ∧
        Crew.Shares grants gap earlier rest others w := by
  induction before generalizing total with
  | nil =>
      refine ⟨fun h => ⟨0, total, by omega, trivial, h⟩, ?_⟩
      rintro ⟨first, others, hsum, -, hrest⟩
      exact hrest.mono (by omega)
  | cons m before ih =>
      constructor
      · rintro ⟨left, others, hsum, hm, hothers⟩
        obtain ⟨first, last, hlast, hfirst, hrest⟩ := ih.mp hothers
        exact ⟨left + first, last, by omega, ⟨left, first, Nat.le_refl _, hm, hfirst⟩, hrest⟩
      · rintro ⟨first, others, hsum, ⟨left, between, hfirst, hm, hbetween⟩, hrest⟩
        exact ⟨left, between + others, by omega, hm,
          ih.mpr ⟨between, others, Nat.le_refl _, hbetween, hrest⟩⟩

theorem Crew.Shares.of_mem {members : List (Member ι σ α)} {m : Member ι σ α}
    (h : Crew.Shares grants gap earlier members total w) (hm : m ∈ members) :
    ∃ left, m.Paced grants gap (earlier.deeds (some m.actor)) left w := by
  obtain ⟨before, after, rfl⟩ := List.append_of_mem hm
  obtain ⟨first, others, -, -, left, rest, -, hpaced, -⟩ := Crew.shares_append.mp h
  exact ⟨left, hpaced⟩

/-- A turn of somebody else only moves the clock. -/
theorem Crew.Shares.later {members : List (Member ι σ α)} {w' : World ι S}
    (h : Crew.Shares grants gap earlier members total w) (hclock : w.clock.nanos ≤ w'.clock.nanos)
    (hdeeds : ∀ m ∈ members, w'.deeds (some m.actor) = w.deeds (some m.actor)) :
    Crew.Shares grants gap earlier members total w' := by
  induction members generalizing total with
  | nil => trivial
  | cons m rest ih =>
      obtain ⟨left, others, hsum, ⟨x, hx, hstage⟩, hrest⟩ := h
      obtain ⟨hm, hothers⟩ := List.forall_mem_cons.mp hdeeds
      exact ⟨left, others, hsum, ⟨x, hm.trans hx, hstage.later hclock⟩, ih hrest hothers⟩

theorem Crew.shares_each {members : List (Member ι σ α)} {each : Nat}
    (h : ∀ m ∈ members, m.Paced grants gap (earlier.deeds (some m.actor)) each w) :
    Crew.Shares grants gap earlier members (members.length * each) w := by
  induction members with
  | nil => trivial
  | cons m rest ih =>
      obtain ⟨hm, hrest⟩ := List.forall_mem_cons.mp h
      refine ⟨each, rest.length * each, ?_, hm, ih hrest⟩
      rw [List.length_cons, Nat.succ_mul, Nat.add_comm]

/-- Members with numbers of their own do not share an actor. -/
theorem Crew.actor_ne {before after : List (Member ι σ α)} {m : Member ι σ α} {size : Nat}
    (h : (before ++ m :: after).map (·.actor) = List.range size) {other : Member ι σ α}
    (hother : other ∈ before ∨ other ∈ after) : some m.actor ≠ some other.actor := by
  have hnodup := List.nodup_range (n := size)
  rw [← h, List.map_append, List.map_cons, List.nodup_middle, ← List.map_append] at hnodup
  intro hsame
  refine (List.nodup_cons.mp hnodup).1 ?_
  rw [Option.some.inj hsame]
  exact List.mem_map_of_mem (List.mem_append.mpr hother)

/-- The turns of a crew keep its pace, whoever has them, unless one of them panics. -/
theorem Crew.Paced.sustained {size allowance : Nat} :
    Crew.Sustained env token
      (Crew.Paced (σ := σ) (α := α) env grants gap earlier size allowance) := by
  intro before m after results w h
  obtain ⟨total, hshares, hpaid⟩ := h.shares
  obtain ⟨first, others, hsum, hbefore, left, rest, hrest, hpaced, hafter⟩ :=
    Crew.shares_append.mp hshares
  have hfollows := m.turn_follows env token w
  have hclock := m.clock_turn_le env token w
  have hothers := fun other (hne : some m.actor ≠ other) => m.turn_others env token w hne
  have hagrees := m.turn_agrees env token w
  have hturn := hpaced.turn env token
  rcases hm : m.turn env token w with ⟨turn, m', w'⟩
  rw [hm] at hfollows hclock hothers hagrees hturn
  obtain ⟨hactor, -⟩ := hagrees
  intro hpanic
  obtain ⟨left', hpaced', hpaid'⟩ := hturn hpanic
  refine ⟨h.follows.trans hfollows, ?_, first + (left' + rest), ?_, fun hpunctual => ?_⟩
  · have hactors := h.actors
    simpa [hactor] using hactors
  · have hkept : ∀ other, other ∈ before ∨ other ∈ after →
        w'.deeds (some other.actor) = w.deeds (some other.actor) :=
      fun other hother => hothers _ (Crew.actor_ne h.actors hother)
    refine Crew.shares_append.mpr ⟨first, left' + rest, Nat.le_refl _, ?_, left', rest,
      Nat.le_refl _, ?_, ?_⟩
    · exact hbefore.later hclock fun other hother => hkept other (.inl hother)
    · rw [hactor]
      exact hpaced'
    · exact hafter.later hclock fun other hother => hkept other (.inr hother)
  · have hpaid := hpaid hpunctual
    have hpaid' := hpaid' hpunctual
    omega

theorem Crew.paced_assemble {crew : List (Process ι σ α × σ)} {each : Nat}
    (h : ∀ p ∈ crew, p.1.Spends grants gap each fun _ => 0) :
    Crew.Paced env grants gap w crew.length (crew.length * each) (Crew.assemble crew) w := by
  refine ⟨World.Follows.refl w, ?_, crew.length * each, ?_, fun _ => Int.le_refl _⟩
  · exact List.ext_getElem (by simp [Crew.assemble]) (by simp [Crew.assemble])
  · have hlength : (Crew.assemble crew).members.length = crew.length := by simp [Crew.assemble]
    rw [← hlength]
    refine Crew.shares_each fun m hm => ⟨[], (List.append_nil _).symm, ?_⟩
    simp only [Crew.assemble, List.mem_mapIdx] at hm
    obtain ⟨i, hi, rfl⟩ := hm
    intro later _
    exact (h _ (List.getElem_mem hi) 0 later).weaken fun _ _ _ => trivial

/-! ## The end of a fan-out -/

/-- How a member of a crew stands that has had its turns: it has finished, or it is in a call, or it
is in a pause, or the clock has come to its end. -/
theorem Crew.Paced.stands {size allowance : Nat} {crew : Crew ι σ α}
    (h : crew.Paced env grants gap earlier size allowance w) {m : Member ι σ α}
    (hm : m ∈ crew.members) (hbegun : m.stage.isBegun = true) :
    let deeds := deedsOf (some m.actor) (w.since earlier)
    m.stage.isFinished = true ∨ (∃ r, deeds.getLast? = some (.issued r)) ∨
      (m.stage.isSettled = false ∧ ∃ d, deeds.getLast? = some (.slept d)) ∨
        ¬w.clock.HasRoom gap := by
  obtain ⟨total, hshares, -⟩ := h.shares
  obtain ⟨left, x, hx, hstage⟩ := hshares.of_mem hm
  intro deeds
  have hdeeds : deeds = x := h.follows.deedsOf_since hx
  rw [hdeeds]
  obtain ⟨actor, s, stage⟩ := m
  cases stage with
  | ready p => cases hbegun
  | calling n r effect next => exact .inr (.inl ⟨r, hstage.1⟩)
  | resting n next => exact .inr (.inr (.inl ⟨rfl, hstage.1⟩))
  | finished a => exact .inl rfl
  | hung =>
      rcases hstage with hissued | hfull
      · exact .inr (.inl hissued)
      · exact .inr (.inr (.inr hfull))

/-- Where answers take no time, the clock has moved by no more than the allowance and what was
granted. -/
theorem Crew.Paced.clock_le {size allowance : Nat} {crew : Crew ι σ α}
    (h : crew.Paced env grants gap earlier size allowance w) (hpunctual : env.Punctual) :
    w.clock.nanos ≤ earlier.clock.nanos + allowance +
      ((w.since earlier).map fun e => e.event.granted grants).sum := by
  obtain ⟨total, -, hpaid⟩ := h.shares
  have hpaid := hpaid hpunctual
  rw [h.follows.granted_eq] at hpaid
  omega

end Shares

end GatedRollout
