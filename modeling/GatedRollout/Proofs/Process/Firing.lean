import GatedRollout.Proofs.Process.SideBySide
import GatedRollout.Proofs.Process.Token

/-!
# The firing of the token side by side

The processes of a fan-out share the caller's token, which any of them may find fired in its next
pause. What each of them abides by alone, wherever the token may fire, holds of its result beside
the others. -/

namespace GatedRollout

variable {ι : Interface} {S σ α : Type} {env : Environment ι S} {earlier : World ι S}

/-! ## One turn -/

/-- What a process abides by from a stage on, where the token may have fired meanwhile. -/
def Stage.Abides (inv : View (Event ι) → Prop) (post : α → σ → View (Event ι) → Prop)
    (stage : Stage ι σ α) (s : σ) (v : View (Event ι)) : Prop :=
  ∀ v', v.Onward v' → match stage with
    | .ready p => GatedRollout.Abides (fun _ => inv) post p s v'
    | .calling _ r _ next =>
        inv v' ∧ ∀ answer, GatedRollout.Abides (fun _ => inv) post (next answer) s
          (v'.add (.returned r answer))
    | .resting _ next => GatedRollout.Abides (fun _ => inv) post (next v'.restEnd) s v'
    | .finished a => post a s v'
    | .hung => inv v'

theorem Stage.Abides.onward {inv : View (Event ι) → Prop} {post : α → σ → View (Event ι) → Prop}
    {stage : Stage ι σ α} {s : σ} {v v' : View (Event ι)} (h : stage.Abides inv post s v)
    (hv : v.Onward v') : stage.Abides inv post s v' :=
  fun v'' hv' => h v'' (hv.trans hv')

/-- An invariant that no later deed mends holds already, where it is abided by. -/
theorem Abides.now {inv : View (Event ι) → Prop} {post : α → σ → View (Event ι) → Prop}
    (already : ∀ v e, inv (v.add e) → inv v) (hpost : ∀ a s v, post a s v → inv v)
    {p : Process ι σ α} {s : σ} {v : View (Event ι)} (h : Abides (fun _ => inv) post p s v) :
    inv v := by
  induction p generalizing s v with
  | done a => exact hpost a s v h
  | call r next ih => exact already _ _ (h _ (.refl _)).1
  | pause d next ih =>
      cases hfired : v.isFired with
      | true => exact ih .cancelled (h.1 hfired)
      | false => exact already _ _ (ih _ (h.2 hfired _ (.refl _)))
  | look next ih => exact ih _ (h default)
  | put t next ih => exact ih h
  | panic message => exact h
  | stall => exact h

theorem Stage.Abides.now {inv : View (Event ι) → Prop} {post : α → σ → View (Event ι) → Prop}
    (already : ∀ v e, inv (v.add e) → inv v) (hpost : ∀ a s v, post a s v → inv v)
    {stage : Stage ι σ α} {s : σ} {v : View (Event ι)} (h : stage.Abides inv post s v) : inv v := by
  have hnow := h v (.refl v)
  cases stage with
  | ready p => exact GatedRollout.Abides.now already hpost hnow
  | calling n r effect next => exact hnow.1
  | resting n next => exact GatedRollout.Abides.now already hpost hnow
  | finished a => exact hpost a s v hnow
  | hung => exact hnow

/-- What the firing of the token does not break: an invariant, and the postcondition that ends it.
-/
structure Lasts (inv : View (Event ι) → Prop) (post : α → σ → View (Event ι) → Prop) : Prop where
  inv : ∀ v v', inv v → v.Onward v' → inv v'
  post : ∀ a s v v', post a s v → v.Onward v' → post a s v'

/-- What one actor has done up to a later world, where the others have done nothing in between. -/
def Moves (actor : Nat) (v v' : View (Entry ι)) : Prop :=
  ∀ other, other ≠ some actor → (v.deedsOf other).Onward (v'.deedsOf other)

theorem Moves.of_onward {actor : Nat} {v v' : View (Entry ι)} {time : Instant} {e : Event ι}
    (h : (v.add ⟨time, some actor, e⟩).Onward v') : Moves actor v v' := by
  intro other hne
  have honward := h.deedsOf other
  rwa [v.deedsOf_add_of_ne hne.symm] at honward

theorem Moves.trans {actor : Nat} {v₁ v₂ v₃ : View (Entry ι)} (h : Moves actor v₁ v₂)
    (h' : Moves actor v₂ v₃) : Moves actor v₁ v₃ :=
  fun other hne => (h other hne).trans (h' other hne)

/-- What is left by a turn of this actor. -/
def Leaves (inv : View (Event ι) → Prop) (post : α → σ → View (Event ι) → Prop)
    (earlier : World ι S) (actor : Nat) (v : View (Entry ι)) (m : Member ι σ α) (w : World ι S) :
    Prop :=
  ∃ v', World.Sees earlier w v' ∧ Moves actor v v' ∧
    m.stage.Abides inv post m.state (v'.deedsOf (some actor))

variable {inv : View (Event ι) → Prop} {post : α → σ → View (Event ι) → Prop}

theorem Abides.takeTurn (env : Environment ι S) (lasts : Lasts inv post) (actor : Nat)
    {p : Process ι σ α} : ∀ {s : σ} {w : World ι S} {v : View (Entry ι)},
      Abides (fun _ => inv) post p s (v.deedsOf (some actor)) → World.Sees earlier w v →
        let (_, m, w') := GatedRollout.takeTurn env .caller actor p s w
        Leaves inv post earlier actor v m w' := by
  induction p with
  | done a => exact fun h hw => ⟨_, hw, fun _ _ => .refl _, fun v' => lasts.post a _ _ v' h⟩
  | call r next ih =>
      intro s w v h hw
      obtain ⟨v', honward, hissued⟩ := hw.issue env (some actor) r
      have hmoves : Moves actor v v' := .of_onward honward
      have honward := honward.deedsOf (some actor)
      rw [v.deedsOf_add_self (some actor) w.clock rfl] at honward
      rcases hi : w.issue env (some actor) r with ⟨⟨advance, fires, yields, effect⟩, w₁⟩
      rw [hi] at hissued
      simp only [GatedRollout.takeTurn, hi]
      cases yields with
      | zero =>
          cases effect with
          | answer answer =>
              have hnext := (h _ honward).2 answer
              rw [← v'.deedsOf_add_self (some actor) w₁.clock rfl] at hnext
              obtain ⟨v'', hsees, hmoves', hstage⟩ := ih answer hnext (hissued.note _ _ rfl)
              exact ⟨v'', hsees, (hmoves.trans (.of_onward (.refl _))).trans hmoves', hstage⟩
          | panic message =>
              exact ⟨v', hissued, hmoves, fun v'' hv'' => (h v'' (honward.trans hv'')).1⟩
          | hang => exact ⟨v', hissued, hmoves, fun v'' hv'' => (h v'' (honward.trans hv'')).1⟩
      | succ n => exact ⟨v', hissued, hmoves, fun v'' hv'' => h v'' (honward.trans hv'')⟩
  | pause d next ih =>
      intro s w v h hw
      simp only [GatedRollout.takeTurn, hw.cancelled (some actor)]
      split
      · next hfired => exact ih .cancelled (h.1 hfired) hw
      · next hfired =>
          obtain ⟨v', honward, hslept⟩ := hw.sleep env (some actor) d
          have hmoves : Moves actor v v' := .of_onward honward
          have honward := honward.deedsOf (some actor)
          rw [v.deedsOf_add_self (some actor) w.clock rfl] at honward
          have hnext := h.2 (Bool.eq_false_iff.mpr hfired)
          exact ⟨v', hslept, hmoves, fun v'' hv'' => hnext v'' (honward.trans hv'')⟩
  | look next ih =>
      intro s w v h hw
      simp only [GatedRollout.takeTurn, hw.cancelled (some actor)]
      exact ih _ (h w.clock) hw
  | put t next ih => exact fun h hw => ih h hw
  | panic message => exact fun h hw => ⟨_, hw, fun _ _ => .refl _, fun v' => lasts.inv _ v' h⟩
  | stall => exact fun h hw => ⟨_, hw, fun _ _ => .refl _, fun v' => lasts.inv _ v' h⟩

/-- One turn of a member keeps what it abides by. -/
theorem Stage.Abides.turn (env : Environment ι S) (lasts : Lasts inv post) {m : Member ι σ α}
    {w : World ι S} {v : View (Entry ι)}
    (h : m.stage.Abides inv post m.state (v.deedsOf (some m.actor)))
    (hw : World.Sees earlier w v) :
    let (_, m', w') := m.turn env .caller w
    Leaves inv post earlier m.actor v m' w' := by
  obtain ⟨actor, s, stage⟩ := m
  have hnow := h _ (.refl _)
  cases stage with
  | ready p => exact GatedRollout.Abides.takeTurn env lasts actor hnow hw
  | calling n r effect next =>
      cases n with
      | zero =>
          cases effect with
          | answer answer =>
              have hnext := hnow.2 answer
              rw [← v.deedsOf_add_self (some actor) w.clock rfl] at hnext
              obtain ⟨v', hsees, hmoves, hstage⟩ :=
                GatedRollout.Abides.takeTurn env lasts actor hnext (hw.note _ _ rfl)
              exact ⟨v', hsees, (Moves.of_onward (.refl _)).trans hmoves, hstage⟩
          | panic message => exact ⟨v, hw, fun _ _ => .refl _, fun v' hv' => (h v' hv').1⟩
          | hang => exact ⟨v, hw, fun _ _ => .refl _, fun v' hv' => (h v' hv').1⟩
      | succ n => exact ⟨v, hw, fun _ _ => .refl _, h⟩
  | resting n next =>
      cases n with
      | zero =>
          have hrest := hw.restEnd (some actor)
          simp only [Member.turn, hrest]
          exact GatedRollout.Abides.takeTurn env lasts actor hnow hw
      | succ n => exact ⟨v, hw, fun _ _ => .refl _, h⟩
  | finished a => exact ⟨v, hw, fun _ _ => .refl _, h⟩
  | hung => exact ⟨v, hw, fun _ _ => .refl _, h⟩

/-! ## Whole fan-outs -/

/-- What every member of a crew of this size abides by, in a view of the world. -/
def Crew.Abides (inv : Nat → View (Event ι) → Prop)
    (post : Nat → α → σ → View (Event ι) → Prop) (earlier : World ι S) (size : Nat)
    (crew : Crew ι σ α) (w : World ι S) : Prop :=
  crew.members.length = size ∧ ∃ v, World.Sees earlier w v ∧
    ∀ (i : Nat) (m : Member ι σ α), crew.members[i]? = some m →
      m.actor = i ∧ m.stage.Abides (inv i) (post i) m.state (v.deedsOf (some i))

section Crews

variable {inv : Nat → View (Event ι) → Prop} {post : Nat → α → σ → View (Event ι) → Prop}
  {size : Nat}

theorem Crew.Abides.steady (lasts : ∀ i, Lasts (inv i) (post i)) :
    Crew.Steady env .caller (Crew.Abides inv post earlier size) := by
  intro before m after results w h
  obtain ⟨hlength, v, hsees, hmembers⟩ := h
  obtain ⟨hactor, hm⟩ := hmembers before.length m (by simp)
  rw [← hactor] at hm
  have hturn := Stage.Abides.turn env (lasts m.actor) hm hsees
  have hagrees := m.turn_agrees env .caller w
  rcases ht : m.turn env .caller w with ⟨turn, m', w'⟩
  rw [ht] at hturn hagrees
  obtain ⟨v', hsees', hmoves, hstage⟩ := hturn
  refine ⟨by simpa using hlength, v', hsees', fun i mi hmi => ?_⟩
  by_cases hi : i = before.length
  · subst hi
    simp only [List.getElem?_append_right (Nat.le_refl _), Nat.sub_self, List.getElem?_cons_zero,
      Option.some.injEq] at hmi
    subst hmi
    exact ⟨hagrees.1.trans hactor, hactor ▸ hstage⟩
  · rw [getElem?_append_cons_of_ne before after m m' hi] at hmi
    obtain ⟨hai, hstagei⟩ := hmembers i mi hmi
    refine ⟨hai, hstagei.onward (hmoves (some i) fun hsame => ?_)⟩
    exact hi ((Option.some.inj hsame).trans hactor)

/-- What each process of a fan-out abides by, wherever the token fires, is left by its last turn,
and holds of what it returned. -/
theorem abides_fanOut (env : Environment ι S) (lasts : ∀ i, Lasts (inv i) (post i))
    {crew : List (Process ι σ α × σ)} {w : World ι S} {v : View (Entry ι)}
    (hw : World.Sees earlier w v)
    (h : ∀ (i : Nat) (p : Process ι σ α) (s : σ), crew[i]? = some (p, s) →
      (Stage.ready p).Abides (inv i) (post i) s (v.deedsOf (some i))) :
    ∃ v', World.Sees earlier (fanOut env .caller crew w).world v' ∧
      (∀ i < crew.length, ∃ (stage : Stage ι σ α) (s : σ),
        stage.Abides (inv i) (post i) s (v'.deedsOf (some i))) ∧
      ∀ results, (fanOut env .caller crew w).ending = .returned results →
        ∀ i a, (i, a) ∈ results → ∃ s, post i a s (v'.deedsOf (some i)) := by
  have hstart : Crew.Abides inv post earlier crew.length (Crew.assemble crew) w := by
    refine ⟨by simp [Crew.assemble], v, hw, fun i m hm => ?_⟩
    simp only [Crew.assemble, List.getElem?_mapIdx, Option.map_eq_some_iff] at hm
    obtain ⟨⟨p, s⟩, hp, rfl⟩ := hm
    exact ⟨rfl, h i p s hp⟩
  obtain ⟨last, ⟨⟨hlength, v', hsees, hmembers⟩, htallies⟩, -, hreturned⟩ :=
    ((Crew.Abides.steady lasts).and Crew.Tallies.steady).fanOut crew w
      ⟨hstart, Crew.tallies_assemble crew⟩
  refine ⟨v', hsees, fun i hi => ?_, fun results hresults i a hmem => ?_⟩
  · obtain ⟨-, hstage⟩ := hmembers i _ (List.getElem?_eq_getElem (hlength.symm ▸ hi))
    exact ⟨_, _, hstage⟩
  · obtain ⟨rfl, -⟩ := hreturned results hresults
    obtain ⟨m, hm, hfinished⟩ := htallies.finished i a hmem
    obtain ⟨-, hstage⟩ := hmembers i m hm
    rw [hfinished] at hstage
    exact ⟨m.state, hstage _ (.refl _)⟩

end Crews

end GatedRollout
