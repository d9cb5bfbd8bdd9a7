import GatedRollout.Proofs.Process.Discipline
import GatedRollout.Proofs.Process.SideBySide

/-!
# How processes panic

A process panics by itself or in a call that crashes. `Process.Alarms` says with which messages it
may do so by itself, as long as its replies are of a certain kind. In an environment whose calls
never crash, a run that panics with any other message, alone or beside others, has been given a
reply that is not of this kind.
-/

namespace GatedRollout

variable {ι : Interface} {S σ α : Type}
  {replies : (r : ι.Request) → Except ClientError (ι.Reply r) → Prop} {allowed : String → Prop}

/-- Where every reply is of this kind, the process panics with such messages only. -/
def Process.Alarms (replies : (r : ι.Request) → Except ClientError (ι.Reply r) → Prop)
    (allowed : String → Prop) (p : Process ι σ α) : Prop :=
  p.Conforms { hears := replies, panics := allowed }

/-! ## What has been heard -/

/-- No call crashes. -/
def Environment.Sound (env : Environment ι S) : Prop :=
  ∀ s now r message, (env.react s now r).1.effect ≠ .panic message

/-- Since an earlier world, a call was answered with a reply that is not of this kind. -/
def World.Heard (replies : (r : ι.Request) → Except ClientError (ι.Reply r) → Prop)
    (earlier w : World ι S) : Prop :=
  ∃ e ∈ w.since earlier, ∃ r answer, e.event = .returned r answer ∧ ¬replies r answer

/-- The message is one that may come, or a reply explains it. -/
def World.Explains (replies : (r : ι.Request) → Except ClientError (ι.Reply r) → Prop)
    (allowed : String → Prop) (earlier w : World ι S) (message : String) : Prop :=
  allowed message ∨ World.Heard replies earlier w

namespace World

variable {earlier w later : World ι S}

theorem Heard.mono (h : Heard replies earlier w) (hw : w.Follows earlier)
    (hlater : later.Follows w) : Heard replies earlier later := by
  obtain ⟨e, he, hevent⟩ := h
  refine ⟨e, ?_, hevent⟩
  rw [hw.since_trans hlater]
  exact List.mem_append_left _ he

theorem heard_note (hw : w.Follows earlier) (actor : Option Nat) {r : ι.Request}
    {answer : Except ClientError (ι.Reply r)} (h : ¬replies r answer) :
    Heard replies earlier (w.note actor (.returned r answer)) := by
  have hnoted := follows_note w actor (.returned r answer)
  refine ⟨⟨w.clock, actor, .returned r answer⟩, ?_, r, answer, rfl, h⟩
  rw [hw.since_trans hnoted]
  exact List.mem_append_right _ (by simp [since, note])

end World

/-! ## Runs -/

variable {env : Environment ι S} {token : Token} {earlier : World ι S}

theorem Environment.Sound.issue (sound : env.Sound) (w : World ι S) (actor : Option Nat)
    (r : ι.Request) (message : String) : (w.issue env actor r).1.effect ≠ .panic message :=
  sound w.env w.clock r message

/-- A run panics only as its process may. -/
theorem Process.Alarms.run (sound : env.Sound) {actor : Option Nat} {p : Process ι σ α}
    (h : p.Alarms replies allowed) {s : σ} {w : World ι S} (hw : w.Follows earlier)
    {message : String}
    (hpanicked : (GatedRollout.run env token actor p s w).ending = .panicked message) :
    World.Explains replies allowed earlier (GatedRollout.run env token actor p s w).world
      message := by
  induction p generalizing s w with
  | done a => cases hpanicked
  | call r next ih =>
      have hissued := hw.trans (w.follows_issue env actor r)
      rw [run_call] at hpanicked ⊢
      dsimp only at hpanicked ⊢
      split at hpanicked
      · next answer heffect =>
          have hnoted := hissued.trans (World.follows_note _ actor (.returned r answer))
          by_cases hreply : replies r answer
          · exact ih answer (h.2 answer hreply) hnoted hpanicked
          · exact .inr ((World.heard_note hissued actor hreply).mono hnoted (run_follows ..))
      · next message heffect => exact absurd heffect (sound.issue w actor r message)
      · cases hpanicked
  | pause d next ih =>
      rw [run_pause] at hpanicked ⊢
      split at hpanicked
      · next hcancelled =>
          rw [if_pos hcancelled]
          exact ih .cancelled (h _) hw hpanicked
      · next hcancelled =>
          rw [if_neg hcancelled]
          exact ih _ (h _) (hw.trans (w.follows_sleep env actor d)) hpanicked
  | look next ih => exact ih _ (h _ trivial) hw hpanicked
  | put t next ih => exact ih h.2 hw hpanicked
  | panic said =>
      cases hpanicked
      exact .inl h
  | stall => cases hpanicked

/-! ## Side by side -/

/-- The same of a process at a stage. -/
def Stage.Alarms (replies : (r : ι.Request) → Except ClientError (ι.Reply r) → Prop)
    (allowed : String → Prop) : Stage ι σ α → Prop
  | .ready p => p.Alarms replies allowed
  | .calling _ r effect next => (∀ message, effect ≠ .panic message) ∧
      ∀ answer, effect = .answer answer → replies r answer → (next answer).Alarms replies allowed
  | .resting _ next => ∀ rest, (next rest).Alarms replies allowed
  | .finished _ => True
  | .hung => True

/-- A turn panicked only as its process may, and so will the turns to come, unless a reply explains
it. -/
def Turn.Explained (replies : (r : ι.Request) → Except ClientError (ι.Reply r) → Prop)
    (allowed : String → Prop) (earlier : World ι S) (turn : Turn α) (m : Member ι σ α)
    (w : World ι S) : Prop :=
  (∀ message, turn = .panicked message → World.Explains replies allowed earlier w message) ∧
    (World.Heard replies earlier w ∨ m.stage.Alarms replies allowed)

theorem Turn.explained_of_heard {turn : Turn α} {m : Member ι σ α} {w : World ι S}
    (h : World.Heard replies earlier w) : turn.Explained replies allowed earlier m w :=
  ⟨fun _ _ => .inr h, .inl h⟩

theorem Turn.explained_of_stage {turn : Turn α} {m : Member ι σ α} {w : World ι S}
    (hpassed : ∀ message, turn ≠ .panicked message) (h : m.stage.Alarms replies allowed) :
    turn.Explained replies allowed earlier m w :=
  ⟨fun message hpanicked => absurd hpanicked (hpassed message), .inr h⟩

theorem takeTurn_follows (actor : Nat) (p : Process ι σ α) (s : σ) (w : World ι S) :
    (takeTurn env token actor p s w).2.2.Follows w :=
  takeTurn_keeps (K := fun later => later.Follows w) (fun _ _ h => h.trans (World.follows_issue ..))
    (fun _ _ _ h => h.trans (World.follows_note ..))
    (fun _ _ h => h.trans (World.follows_sleep ..)) p s w (World.Follows.refl w)

theorem Process.Alarms.takeTurn (sound : env.Sound) {actor : Nat} {p : Process ι σ α} :
    ∀ {s : σ} {w : World ι S}, p.Alarms replies allowed → w.Follows earlier →
      let (turn, m, w') := GatedRollout.takeTurn env token actor p s w
      turn.Explained replies allowed earlier m w' := by
  induction p with
  | done a => exact fun _ _ => Turn.explained_of_stage (by simp) trivial
  | call r next ih =>
      intro s w h hw
      have hissued := hw.trans (w.follows_issue env (some actor) r)
      have hsound := sound.issue w (some actor) r
      rcases hi : w.issue env (some actor) r with ⟨⟨advance, fires, yields, effect⟩, w₁⟩
      rw [hi] at hissued hsound
      simp only [GatedRollout.takeTurn, hi]
      cases yields with
      | zero =>
          cases effect with
          | answer answer =>
              have hnoted := hissued.trans (w₁.follows_note (some actor) (.returned r answer))
              by_cases hreply : replies r answer
              · exact ih answer (h.2 answer hreply) hnoted
              · have hheard := World.heard_note hissued (some actor) hreply
                exact Turn.explained_of_heard (hheard.mono hnoted (takeTurn_follows ..))
          | panic message => exact absurd rfl (hsound message)
          | hang => exact Turn.explained_of_stage (by simp) trivial
      | succ n => exact Turn.explained_of_stage (by simp) ⟨hsound, fun answer _ => h.2 answer⟩
  | pause d next ih =>
      intro s w h hw
      simp only [GatedRollout.takeTurn]
      split
      · exact ih .cancelled (h _) hw
      · exact Turn.explained_of_stage (by simp) h
  | look next ih => exact fun h hw => ih _ (h _ trivial) hw
  | put t next ih => exact fun h hw => ih h.2 hw
  | panic message =>
      refine fun h hw => ⟨fun said hsaid => ?_, .inr trivial⟩
      cases hsaid
      exact .inl h
  | stall => exact fun _ _ => Turn.explained_of_stage (by simp) trivial

theorem Member.turn_explained (sound : env.Sound) (token : Token) {m : Member ι σ α}
    (h : m.stage.Alarms replies allowed) {w : World ι S} (hw : w.Follows earlier) :
    let (turn, m', w') := m.turn env token w
    turn.Explained replies allowed earlier m' w' := by
  obtain ⟨actor, s, stage⟩ := m
  cases stage with
  | ready p => exact Process.Alarms.takeTurn sound h hw
  | calling n r effect next =>
      cases n with
      | zero =>
          cases effect with
          | answer answer =>
              have hnoted := hw.trans (w.follows_note (some actor) (.returned r answer))
              by_cases hreply : replies r answer
              · exact (h.2 answer rfl hreply).takeTurn sound hnoted
              · have hheard := World.heard_note hw (some actor) hreply
                exact Turn.explained_of_heard (hheard.mono hnoted (takeTurn_follows ..))
          | panic message => exact absurd rfl (h.1 message)
          | hang => exact Turn.explained_of_stage (by simp) trivial
      | succ n => exact Turn.explained_of_stage (by simp) h
  | resting n next =>
      cases n with
      | zero => exact (h _).takeTurn sound hw
      | succ n => exact Turn.explained_of_stage (by simp) h
  | finished a => exact Turn.explained_of_stage (by simp) trivial
  | hung => exact Turn.explained_of_stage (by simp) trivial

/-- A crew of processes that panic in such ways only, unless a reply explains it. -/
def Crew.Alarms (replies : (r : ι.Request) → Except ClientError (ι.Reply r) → Prop)
    (allowed : String → Prop) (earlier : World ι S) (crew : Crew ι σ α) (w : World ι S) : Prop :=
  w.Follows earlier ∧
    (World.Heard replies earlier w ∨ ∀ m ∈ crew.members, m.stage.Alarms replies allowed)

theorem Crew.Alarms.steady (sound : env.Sound) :
    Crew.Steady env token fun (crew : Crew ι σ α) w => crew.Alarms replies allowed earlier w := by
  intro before m after results w h
  obtain ⟨hfollows, hmembers⟩ := h
  have hturned := m.turn_follows env token w
  refine ⟨hfollows.trans hturned, ?_⟩
  rcases hmembers with hheard | hmembers
  · exact .inl (hheard.mono hfollows hturned)
  · have hexplained := Member.turn_explained sound token (hmembers m (by simp)) hfollows
    rcases hexplained.2 with hheard | hstage
    · exact .inl hheard
    · refine .inr fun m₀ hm₀ => ?_
      rcases List.mem_append.mp hm₀ with hm₀ | hm₀
      · exact hmembers m₀ (List.mem_append_left _ hm₀)
      · rcases List.mem_cons.mp hm₀ with rfl | hm₀
        · exact hstage
        · exact hmembers m₀ (List.mem_append_right _ (List.mem_cons_of_mem _ hm₀))

/-- A panic of such a crew is one that its processes may come to. -/
theorem Crew.Panics.explained (sound : env.Sound) {message : String} {crew : Crew ι σ α}
    {w : World ι S} (h : Crew.Panics env token
      (fun (crew : Crew ι σ α) w => crew.Alarms replies allowed earlier w) message crew w) :
    World.Explains replies allowed earlier w message := by
  obtain ⟨before, m, after, results, v, m', ⟨hfollows, hmembers⟩, hturn, -⟩ := h
  have hturned := m.turn_follows env token v
  rw [hturn] at hturned
  rcases hmembers with hheard | hmembers
  · exact .inr (hheard.mono hfollows hturned)
  · have hexplained := Member.turn_explained sound token (hmembers m (by simp)) hfollows
    rw [hturn] at hexplained
    exact hexplained.1 message rfl

section Fanning

variable {crew : List (Process ι σ α × σ)} {w : World ι S}

theorem Crew.alarms_assemble (h : ∀ p ∈ crew, p.1.Alarms replies allowed) (hw : w.Follows earlier) :
    (Crew.assemble crew).Alarms replies allowed earlier w := by
  refine ⟨hw, .inr fun m hm => ?_⟩
  simp only [Crew.assemble, List.mem_mapIdx] at hm
  obtain ⟨i, hi, rfl⟩ := hm
  exact h _ (List.getElem_mem hi)

/-- A fan-out panics only as one of its processes may. -/
theorem explains_fanOutWithin (sound : env.Sound) (limit : Option Nat)
    (h : ∀ p ∈ crew, p.1.Alarms replies allowed) (hw : w.Follows earlier) {message : String}
    (hpanicked : (fanOutWithin env token limit crew w).ending = .panicked message) :
    World.Explains replies allowed earlier (fanOutWithin env token limit crew w).world
      message := by
  obtain ⟨last, hpanics⟩ := ((Crew.Alarms.steady sound).sustained.fanOutWithin limit crew w
    (Crew.alarms_assemble h hw)).panics hpanicked
  exact hpanics.explained sound

end Fanning

end GatedRollout
