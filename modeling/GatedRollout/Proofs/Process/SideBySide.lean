import GatedRollout.Proofs.Process.FanOut

/-!
# What processes secure side by side

Each process of a fan-out sees only its own deeds, so what it secures of them alone it secures
beside any others, however their turns interleave and whether the fan-out returns, panics or
hangs. `fanOut_secures` says so for a whole fan-out, from a step lemma for one turn.
-/

namespace GatedRollout

variable {ι : Interface} {S σ α : Type} {env : Environment ι S} {token : Token}

/-! ## One turn -/

/-- What every deed of an actor keeps, a turn of it keeps. -/
theorem takeTurn_keeps {K : World ι S → Prop} {actor : Nat}
    (issue : ∀ w r, K w → K (w.issue env (some actor) r).2)
    (note : ∀ w r answer, K w → K (w.note (some actor) (.returned r answer)))
    (sleep : ∀ w d, K w → K (w.sleep env (some actor) d).2) (p : Process ι σ α) :
    ∀ (s : σ) (w : World ι S), K w → K (takeTurn env token actor p s w).2.2 := by
  induction p with
  | done a => exact fun s w h => h
  | call r next ih =>
      intro s w h
      have hissued := issue w r h
      rcases hi : w.issue env (some actor) r with ⟨⟨advance, fires, yields, effect⟩, w₁⟩
      rw [hi] at hissued
      simp only [takeTurn, hi]
      cases yields with
      | zero =>
          cases effect with
          | answer answer => exact ih answer s _ (note w₁ r answer hissued)
          | panic message => exact hissued
          | hang => exact hissued
      | succ n => exact hissued
  | pause d next ih =>
      intro s w h
      simp only [takeTurn]
      split
      · exact ih .cancelled s w h
      · exact sleep w d h
  | look next ih => exact fun s w h => ih _ s w h
  | put t next ih => exact fun s w h => ih t w h
  | panic message => exact fun s w h => h
  | stall => exact fun s w h => h

theorem Member.turn_keeps {K : World ι S → Prop} (m : Member ι σ α)
    (issue : ∀ w r, K w → K (w.issue env (some m.actor) r).2)
    (note : ∀ w r answer, K w → K (w.note (some m.actor) (.returned r answer)))
    (sleep : ∀ w d, K w → K (w.sleep env (some m.actor) d).2) {w : World ι S} (h : K w) :
    K (m.turn env token w).2.2 := by
  obtain ⟨actor, s, stage⟩ := m
  cases stage with
  | ready p => exact takeTurn_keeps issue note sleep p s w h
  | calling n r effect next =>
      cases n with
      | zero =>
          cases effect with
          | answer answer => exact takeTurn_keeps issue note sleep _ s _ (note w r answer h)
          | panic message => exact h
          | hang => exact h
      | succ n => exact h
  | resting n next =>
      cases n with
      | zero => exact takeTurn_keeps issue note sleep _ s w h
      | succ n => exact h
  | finished a => exact h
  | hung => exact h

variable (env) (token)

theorem Member.turn_follows (m : Member ι σ α) (w : World ι S) :
    (m.turn env token w).2.2.Follows w :=
  m.turn_keeps (K := fun later => later.Follows w) (fun _ _ h => h.trans (World.follows_issue ..))
    (fun _ _ _ h => h.trans (World.follows_note ..))
    (fun _ _ h => h.trans (World.follows_sleep ..)) (World.Follows.refl w)

theorem Member.turn_others (m : Member ι σ α) (w : World ι S) {other : Option Nat}
    (hne : some m.actor ≠ other) : (m.turn env token w).2.2.deeds other = w.deeds other :=
  m.turn_keeps (K := fun later => later.deeds other = w.deeds other)
    (fun _ _ h => by rw [World.deeds_issue, if_neg hne, h])
    (fun _ _ _ h => by rw [World.deeds_note, if_neg (fun hc => hne hc.1), h])
    (fun _ _ h => by rw [World.deeds_sleep, if_neg hne, h]) rfl

/-- What is secured of a process at a stage, where these deeds are its own. -/
def Stage.Holds (inv : σ → List (Event ι) → Prop) (post : α → σ → List (Event ι) → Prop) :
    Stage ι σ α → σ → List (Event ι) → Prop
  | .ready p, s, x => inv s x ∧ Secures recorded inv post p s x
  | .calling _ r effect next, s, x =>
      inv s x ∧ ∀ answer, effect = .answer answer →
        Secures recorded inv post (next answer) s (x ++ [Event.returned r answer])
  | .resting _ next, s, x => inv s x ∧ ∀ rest, Secures recorded inv post (next rest) s x
  | .finished a, s, x => post a s x
  | .hung, s, x => inv s x

/-- What is secured of a member, where the deeds before those of its process are the past. -/
def Member.Holds (inv : σ → List (Event ι) → Prop) (post : α → σ → List (Event ι) → Prop)
    (past : List (Event ι)) (m : Member ι σ α) (w : World ι S) : Prop :=
  ∃ x, w.deeds (some m.actor) = past ++ x ∧ m.stage.Holds inv post m.state x

/-- Whether a turn finished the process, the stage says as well. -/
def Turn.Agrees (turn : Turn α) (stage : Stage ι σ α) : Prop :=
  match turn with
  | .finished a => stage = .finished a
  | _ => stage.isFinished = false

variable {inv : σ → List (Event ι) → Prop} {post : α → σ → List (Event ι) → Prop}
  {past : List (Event ι)}

theorem Secures.takeTurn {actor : Nat} {p : Process ι σ α} :
    ∀ {s : σ} {x : List (Event ι)} {w : World ι S}, Secures recorded inv post p s x →
      w.deeds (some actor) = past ++ x →
        let (turn, m, w') := GatedRollout.takeTurn env token actor p s w
        m.actor = actor ∧ turn.Agrees m.stage ∧ m.Holds inv post past w' := by
  induction p with
  | done a => exact fun h hw => ⟨rfl, rfl, _, hw, h⟩
  | call r next ih =>
      intro s x w h hw
      obtain ⟨hwait, hnext⟩ := h _ rfl
      have hissued := w.deeds_issue env (some actor) (some actor) r
      rcases hi : w.issue env (some actor) r with ⟨⟨advance, fires, yields, effect⟩, w₁⟩
      rw [hi, if_pos rfl, hw, List.append_assoc] at hissued
      simp only [GatedRollout.takeTurn, hi]
      cases yields with
      | zero =>
          cases effect with
          | answer answer =>
              apply ih answer (hnext answer _ rfl)
              rw [World.deeds_note, if_pos ⟨rfl, rfl⟩, hissued, List.append_assoc]
          | panic message => exact ⟨rfl, rfl, _, hissued, hwait⟩
          | hang => exact ⟨rfl, rfl, _, hissued, hwait⟩
      | succ n => exact ⟨rfl, rfl, _, hissued, hwait, fun answer _ => hnext answer _ rfl⟩
  | pause d next ih =>
      intro s x w h hw
      simp only [GatedRollout.takeTurn]
      split
      · exact ih .cancelled h.1 hw
      · obtain ⟨hwait, hnext⟩ := h.2 _ rfl
        have hslept := w.deeds_sleep env (some actor) (some actor) d
        rw [if_pos rfl, hw, List.append_assoc] at hslept
        exact ⟨rfl, rfl, _, hslept, hwait, hnext⟩
  | look next ih => exact fun h hw => ih _ (h _ _) hw
  | put t next ih => exact fun h hw => ih h hw
  | panic message => exact fun h hw => ⟨rfl, rfl, _, hw, h⟩
  | stall => exact fun h hw => ⟨rfl, rfl, _, hw, h⟩

/-- One turn of a member keeps what is secured of it. A member that has finished does nothing. -/
theorem Member.Holds.turn {m : Member ι σ α} {w : World ι S} (h : m.Holds inv post past w) :
    let (turn, m', w') := m.turn env token w
    m'.actor = m.actor ∧ m'.Holds inv post past w' ∧
      if m.stage.isFinished then turn = .passed ∧ m'.stage = m.stage
      else turn.Agrees m'.stage := by
  obtain ⟨actor, s, stage⟩ := m
  obtain ⟨x, hw, hx⟩ := h
  cases stage with
  | ready p =>
      obtain ⟨hactor, hagrees, hholds⟩ := hx.2.takeTurn env token hw
      exact ⟨hactor, hholds, hagrees⟩
  | calling n r effect next =>
      cases n with
      | zero =>
          cases effect with
          | answer answer =>
              have hnoted : (w.note (some actor) (.returned r answer)).deeds (some actor) =
                  past ++ (x ++ [Event.returned r answer]) := by
                rw [World.deeds_note, if_pos ⟨rfl, rfl⟩, hw, List.append_assoc]
              obtain ⟨hactor, hagrees, hholds⟩ :=
                (hx.2 answer rfl).takeTurn env token hnoted
              exact ⟨hactor, hholds, hagrees⟩
          | panic message => exact ⟨rfl, ⟨x, hw, hx.1⟩, rfl⟩
          | hang => exact ⟨rfl, ⟨x, hw, hx.1⟩, rfl⟩
      | succ n => exact ⟨rfl, ⟨x, hw, hx⟩, rfl⟩
  | resting n next =>
      cases n with
      | zero =>
          obtain ⟨hactor, hagrees, hholds⟩ :=
            (hx.2 (w.restEnd token)).takeTurn env token hw
          exact ⟨hactor, hholds, hagrees⟩
      | succ n => exact ⟨rfl, ⟨x, hw, hx⟩, rfl⟩
  | finished a => exact ⟨rfl, ⟨x, hw, hx⟩, rfl, rfl⟩
  | hung => exact ⟨rfl, ⟨x, hw, hx⟩, rfl⟩

theorem Stage.holds_anything (stage : Stage ι σ α) (s : σ) (x : List (Event ι)) :
    stage.Holds (fun _ _ => True) (fun _ _ _ => True) s x := by
  cases stage with
  | ready p => exact ⟨trivial, Secures.anything p s x⟩
  | calling n r effect next => exact ⟨trivial, fun answer _ => Secures.anything _ s _⟩
  | resting n next => exact ⟨trivial, fun rest => Secures.anything _ s x⟩
  | finished a => trivial
  | hung => trivial

/-- What a turn says of its member, whatever its process. -/
theorem Member.turn_agrees (m : Member ι σ α) (w : World ι S) :
    let (turn, m', _) := m.turn env token w
    m'.actor = m.actor ∧
      if m.stage.isFinished then turn = .passed ∧ m'.stage = m.stage
      else turn.Agrees m'.stage := by
  obtain ⟨hactor, -, hstage⟩ := Member.Holds.turn env token (m := m)
    ⟨w.deeds (some m.actor), List.nil_append _ |>.symm, m.stage.holds_anything m.state _⟩
  exact ⟨hactor, hstage⟩

/-! ## Whole fan-outs -/

variable {env} {token}

theorem Turn.Agrees.results_length {turn : Turn α} {stage : Stage ι σ α} (h : turn.Agrees stage)
    (actor : Nat) : (turn.results actor).length = if stage.isFinished then 1 else 0 := by
  cases turn with
  | passed => rw [show stage.isFinished = false from h]; rfl
  | finished a => obtain rfl := h; rfl
  | panicked message => rw [show stage.isFinished = false from h]; rfl

theorem Turn.Agrees.results_mem {turn : Turn α} {stage : Stage ι σ α} (h : turn.Agrees stage)
    {a : α} (hstage : stage = .finished a) (actor : Nat) : (actor, a) ∈ turn.results actor := by
  subst hstage
  cases turn with
  | passed => cases h
  | finished b => cases h; exact List.mem_singleton_self _
  | panicked message => cases h

/-- What is secured of a crew that started in an earlier world: of every member what its own
process secures, and of the results that they are those of the members that have finished. -/
structure Crew.Holds (inv : Nat → σ → List (Event ι) → Prop)
    (post : Nat → α → σ → List (Event ι) → Prop) (past : Nat → List (Event ι))
    (earlier : World ι S) (size : Nat) (crew : Crew ι σ α) (w : World ι S) : Prop where
  follows : w.Follows earlier
  others : ∀ other, (∀ i < size, other ≠ some i) → w.deeds other = earlier.deeds other
  length_eq : crew.members.length = size
  members : ∀ (i : Nat) (m : Member ι σ α), crew.members[i]? = some m →
    m.actor = i ∧ m.Holds (inv i) (post i) (past i) w
  results_length : crew.results.length = crew.members.countP (·.stage.isFinished)
  results_mem : ∀ m ∈ crew.members, ∀ a, m.stage = .finished a → (m.actor, a) ∈ crew.results

theorem getElem?_append_cons_of_ne {β : Type} (before after : List β) (b b' : β) {i : Nat}
    (hne : i ≠ before.length) : (before ++ b' :: after)[i]? = (before ++ b :: after)[i]? := by
  rcases Nat.lt_or_gt_of_ne hne with hlt | hgt
  · rw [List.getElem?_append_left hlt, List.getElem?_append_left hlt]
  · obtain ⟨j, rfl⟩ := Nat.exists_eq_add_of_lt hgt
    rw [List.getElem?_append_right (by omega), List.getElem?_append_right (by omega)]
    rw [show before.length + j + 1 - before.length = j + 1 by omega]
    rw [List.getElem?_cons_succ, List.getElem?_cons_succ]

/-- What is secured of a crew, no single turn breaks. -/
theorem Crew.Holds.steady {inv : Nat → σ → List (Event ι) → Prop}
    {post : Nat → α → σ → List (Event ι) → Prop} {past : Nat → List (Event ι)}
    {earlier : World ι S} {size : Nat} :
    Crew.Steady env token (Crew.Holds inv post past earlier size) := by
  intro before m after results w h
  have hlength := h.length_eq
  simp only [List.length_append, List.length_cons] at hlength
  obtain ⟨hactor, hholds⟩ := h.members before.length m (by simp)
  have hfollows := m.turn_follows env token w
  have hothers := fun other (hne : some m.actor ≠ other) => m.turn_others env token w hne
  have hturn := hholds.turn env token
  rcases hm : m.turn env token w with ⟨turn, m', w'⟩
  rw [hm] at hfollows hothers hturn
  obtain ⟨hactor', hholds', hstage⟩ := hturn
  refine ⟨h.follows.trans hfollows, ?_, by simpa using hlength, ?_, ?_, ?_⟩
  · intro other hother
    rw [hothers other (by rw [hactor]; exact (hother before.length (by omega)).symm)]
    exact h.others other hother
  · intro i mi hmi
    by_cases hi : i = before.length
    · subst hi
      simp only [List.getElem?_append_right (Nat.le_refl _), Nat.sub_self,
        List.getElem?_cons_zero, Option.some.injEq] at hmi
      subst hmi
      exact ⟨hactor'.trans hactor, hholds'⟩
    · rw [getElem?_append_cons_of_ne before after m m' hi] at hmi
      obtain ⟨hai, x, hx, hstagei⟩ := h.members i mi hmi
      refine ⟨hai, x, ?_, hstagei⟩
      rw [hothers _ (by simp [hactor, hai, Ne.symm hi])]
      exact hx
  · have hcount := h.results_length
    simp only [List.countP_append, List.countP_cons, List.length_append] at hcount ⊢
    split at hstage
    · next hfinished =>
        obtain ⟨rfl, hsame⟩ := hstage
        rw [hsame, hcount]
        simp [Turn.results]
    · next hfinished =>
        rw [hstage.results_length, hcount, if_neg hfinished]
        omega
  · intro mi hmi a hfinished
    have hold := h.results_mem mi
    simp only [List.mem_append, List.mem_cons] at hmi hold ⊢
    rcases hmi with hmi | rfl | hmi
    · exact .inl (hold (.inl hmi) a hfinished)
    · split at hstage
      · have hm := h.results_mem m (by simp) a (hstage.2 ▸ hfinished)
        exact .inl (hactor' ▸ hm)
      · exact .inr (hstage.results_mem hfinished _)
    · exact .inl (hold (.inr (.inr hmi)) a hfinished)

/-- The results of a crew are those of its members that have finished. -/
structure Crew.Tallies (crew : Crew ι σ α) : Prop where
  numbered : ∀ (i : Nat) (m : Member ι σ α), crew.members[i]? = some m → m.actor = i
  finished : ∀ (i : Nat) (a : α), (i, a) ∈ crew.results →
    ∃ m, crew.members[i]? = some m ∧ m.stage = .finished a

theorem Turn.Agrees.of_results {turn : Turn α} {stage : Stage ι σ α} (h : turn.Agrees stage)
    {actor i : Nat} {a : α} (hmem : (i, a) ∈ turn.results actor) :
    i = actor ∧ stage = .finished a := by
  cases turn with
  | passed => cases hmem
  | panicked message => cases hmem
  | finished b =>
      cases List.mem_singleton.mp hmem
      exact ⟨rfl, h⟩

theorem Crew.Tallies.steady :
    Crew.Steady env token fun (crew : Crew ι σ α) (_ : World ι S) => crew.Tallies := by
  intro before m after results w h
  have hagrees := m.turn_agrees env token w
  rcases hm : m.turn env token w with ⟨turn, m', w'⟩
  rw [hm] at hagrees
  obtain ⟨hactor, hstage⟩ := hagrees
  have hplace : (before ++ m :: after)[before.length]? = some m := by simp
  have hplace' : (before ++ m' :: after)[before.length]? = some m' := by simp
  refine ⟨fun i mi hmi => ?_, fun i a ha => ?_⟩
  · by_cases hi : i = before.length
    · subst hi
      rw [hplace'] at hmi
      rw [← Option.some.inj hmi, hactor]
      exact h.numbered _ m hplace
    · rw [getElem?_append_cons_of_ne before after m m' hi] at hmi
      exact h.numbered i mi hmi
  · rcases List.mem_append.mp ha with ha | ha
    · obtain ⟨mi, hmi, hfinished⟩ := h.finished i a ha
      by_cases hi : i = before.length
      · subst hi
        rw [hplace] at hmi
        obtain rfl := Option.some.inj hmi
        rw [if_pos (by simp [hfinished, Stage.isFinished])] at hstage
        exact ⟨m', hplace', hstage.2.trans hfinished⟩
      · refine ⟨mi, ?_, hfinished⟩
        rw [getElem?_append_cons_of_ne before after m m' hi]
        exact hmi
    · by_cases hfinished : m.stage.isFinished = true
      · rw [if_pos hfinished] at hstage
        rw [hstage.1] at ha
        cases ha
      · rw [if_neg hfinished] at hstage
        obtain ⟨rfl, hfinished'⟩ := hstage.of_results ha
        exact ⟨m', by rw [hactor, h.numbered _ m hplace]; exact hplace', hfinished'⟩

theorem Crew.tallies_assemble (crew : List (Process ι σ α × σ)) :
    (Crew.assemble crew).Tallies := by
  refine ⟨fun i m hm => ?_, nofun⟩
  simp only [Crew.assemble, List.getElem?_mapIdx, Option.map_eq_some_iff] at hm
  obtain ⟨p, -, rfl⟩ := hm
  rfl

/-- What is secured of every process of a fan-out, at its end. -/
structure Gathered.Secured (inv : Nat → σ → List (Event ι) → Prop)
    (post : Nat → α → σ → List (Event ι) → Prop) (past : Nat → List (Event ι))
    (earlier : World ι S) (size : Nat) (g : Gathered ι S σ α) : Prop where
  follows : g.world.Follows earlier
  others : ∀ other, (∀ i < size, other ≠ some i) → g.world.deeds other = earlier.deeds other
  length_eq : g.states.length = size
  /-- What a process returned, if it did. -/
  states : ∀ (i : Nat) (s : σ), g.states[i]? = some s → ∃ (found : Option α) (y : List (Event ι)),
    g.world.deeds (some i) = past i ++ y ∧ GatedRollout.Secured (inv i) (post i) found s y ∧
      ∀ results, g.ending = .returned results → ∃ a, found = some a ∧ (i, a) ∈ results

theorem Stage.Holds.secured {inv : σ → List (Event ι) → Prop}
    {post : α → σ → List (Event ι) → Prop} {stage : Stage ι σ α} {s : σ} {x : List (Event ι)}
    (h : stage.Holds inv post s x) :
    ∃ found : Option α, GatedRollout.Secured inv post found s x ∧
      (stage.isFinished = true → ∃ a, found = some a ∧ stage = .finished a) := by
  cases stage with
  | ready p => exact ⟨none, h.1, by simp [isFinished]⟩
  | calling n r effect next => exact ⟨none, h.1, by simp [isFinished]⟩
  | resting n next => exact ⟨none, h.1, by simp [isFinished]⟩
  | finished a => exact ⟨some a, h, fun _ => ⟨a, rfl, rfl⟩⟩
  | hung => exact ⟨none, h, by simp [isFinished]⟩

/-- A crew of processes, each with what it secures of its own deeds. -/
structure Crew.Secures (inv : Nat → σ → List (Event ι) → Prop)
    (post : Nat → α → σ → List (Event ι) → Prop) (past : Nat → List (Event ι))
    (crew : List (Process ι σ α × σ)) (w : World ι S) : Prop where
  each : ∀ (i : Nat) (p : Process ι σ α) (s : σ), crew[i]? = some (p, s) → ∃ x,
    w.deeds (some i) = past i ++ x ∧ inv i s x ∧
      GatedRollout.Secures recorded (inv i) (post i) p s x

section

variable {inv : Nat → σ → List (Event ι) → Prop} {post : Nat → α → σ → List (Event ι) → Prop}
  {past : Nat → List (Event ι)} {crew : List (Process ι σ α × σ)} {w : World ι S}

theorem Crew.Secures.assemble (h : Crew.Secures inv post past crew w) :
    Crew.Holds inv post past w crew.length (Crew.assemble crew) w := by
  refine ⟨World.Follows.refl w, fun _ _ => rfl, by simp [Crew.assemble], ?_, ?_, ?_⟩
  · intro i m hm
    simp only [Crew.assemble, List.getElem?_mapIdx, Option.map_eq_some_iff] at hm
    obtain ⟨⟨p, s⟩, hps, rfl⟩ := hm
    obtain ⟨x, hx, hinv, hsecures⟩ := h.each i p s hps
    exact ⟨rfl, x, hx, hinv, hsecures⟩
  · refine (List.countP_eq_zero.mpr fun m hm => ?_).symm
    simp only [Crew.assemble, List.mem_mapIdx] at hm
    obtain ⟨i, hi, rfl⟩ := hm
    exact Bool.false_ne_true
  · intro m hm a hfinished
    simp only [Crew.assemble, List.mem_mapIdx] at hm
    obtain ⟨i, hi, rfl⟩ := hm
    cases hfinished

theorem Crew.Ends.secured {g : Gathered ι S σ α} {size : Nat}
    (h : Crew.Ends (Crew.Holds inv post past w size) g) :
    Gathered.Secured inv post past w size g := by
  obtain ⟨crew, hcrew, hstates, hresults⟩ := h
  refine ⟨hcrew.follows, hcrew.others, by rw [hstates, List.length_map, hcrew.length_eq], ?_⟩
  intro i s hs
  rw [hstates, List.getElem?_map, Option.map_eq_some_iff] at hs
  obtain ⟨m, hm, rfl⟩ := hs
  obtain ⟨rfl, x, hx, hstage⟩ := hcrew.members i m hm
  obtain ⟨found, hfound, hfinished⟩ := hstage.secured
  refine ⟨found, x, hx, hfound, fun results hreturned => ?_⟩
  obtain ⟨rfl, hall⟩ := hresults results hreturned
  have hmem := List.mem_of_getElem? hm
  obtain ⟨a, ha, hstaged⟩ := hfinished (hall m hmem)
  exact ⟨a, ha, hcrew.results_mem m hmem a hstaged⟩

/-- What the processes of a fan-out secure each of its own deeds holds at its end, however it
ended. -/
theorem Crew.Secures.fanOutWithin (h : Crew.Secures inv post past crew w) (limit : Option Nat) :
    Gathered.Secured inv post past w crew.length
      (GatedRollout.fanOutWithin env token limit crew w) :=
  (Crew.Holds.steady.fanOutWithin limit crew w h.assemble).secured

theorem Crew.Secures.fanOut (h : Crew.Secures inv post past crew w) :
    Gathered.Secured inv post past w crew.length (GatedRollout.fanOut env token crew w) :=
  h.fanOutWithin none

/-- Whatever its processes are, a crew secures what each of them visits from here. -/
theorem Crew.secures_visits (crew : List (Process ι σ α × σ)) (w : World ι S) :
    Crew.Secures (fun _ _ _ => True)
      (fun i a t y => ∀ p s, crew[i]? = some (p, s) → Visits recorded p s [] (some a) t y)
      (fun i => w.deeds (some i)) crew w := by
  refine ⟨fun i p s hi => ⟨[], (List.append_nil _).symm, trivial, ?_⟩⟩
  refine (GatedRollout.secures_visits p s []).mono (fun _ _ _ => trivial) fun a t y hvisits => ?_
  intro p' s' hi'
  cases hi.symm.trans hi'
  exact hvisits

end

end GatedRollout
