import GatedRollout.Proofs.Canary.Release

/-!
# Balanced traces

A trace balances if each task that was launched was stopped once and each place that was entered
was left once. That is decided for each canary alone, by its own marks: what a canary holds and
what its stop releases settle each other, and marks that are settled for every actor balance in
the trace of them all, however their deeds were interleaved.
-/

namespace GatedRollout.Canary

/-! ## Settled marks -/

def Mark.launch? : Mark → Option TaskArn
  | .launched task => some task
  | _ => none

def Mark.stop? : Mark → Option TaskArn
  | .stopped task => some task
  | _ => none

def Mark.entry? : Mark → Option Place
  | .entered place => some place
  | _ => none

def Mark.exit? : Mark → Option Place
  | .left place => some place
  | _ => none

/-- Everything that was begun was ended once, nothing else was ended, and no place was left after
the task was stopped. -/
structure Settled (ms : List Mark) : Prop where
  stops : ms.filterMap Mark.stop? = ms.filterMap Mark.launch?
  exits : ms.filterMap Mark.exit? = ms.filterMap Mark.entry?
  ordered : ms.Pairwise fun first later =>
    ∀ task place, first = .stopped task → later ≠ .left place

theorem settled_nil : Settled [] := ⟨rfl, rfl, .nil⟩

theorem settled_updated (update : ControlPlane.ServiceUpdate) : Settled [.updated update] :=
  ⟨rfl, rfl, List.pairwise_singleton ..⟩

theorem launches_held (s : State) :
    s.held.filterMap Mark.launch? = s.handle.taskArn.toList := by
  obtain ⟨⟨taskArn, placement, phase⟩, registration, warnings⟩ := s
  cases taskArn <;> cases registration <;> rfl

/-- What a canary holds is settled by what its stop releases. -/
theorem settled_released (s : State) : Settled (s.held ++ s.released) := by
  obtain ⟨⟨taskArn, placement, phase⟩, registration, warnings⟩ := s
  cases taskArn with
  | none =>
      cases registration with
      | none => exact settled_nil
      | some r => exact ⟨rfl, rfl, by simp [State.held, State.released]⟩
  | some arn =>
      cases registration with
      | none => exact ⟨rfl, rfl, by simp [State.held, State.released]⟩
      | some r => exact ⟨rfl, rfl, by simp [State.held, State.released]⟩

/-! ## From each actor to the whole trace -/

/-- The marks of a whole trace. -/
def marksOf (trace : List (Entry controlPlane)) : List Mark := marks (trace.map (·.event))

@[simp] theorem marksOf_append (first rest : List (Entry controlPlane)) :
    marksOf (first ++ rest) = marksOf first ++ marksOf rest := by
  rw [marksOf, List.map_append, marks_append]
  rfl

theorem marks_deedsOf (actor : Option Nat) (trace : List (Entry controlPlane)) :
    marks (deedsOf actor trace) = marksOf (trace.filter (·.actor == actor)) := by
  induction trace with
  | nil => rfl
  | cons e rest ih =>
      have hfired : e.event.isDeed = false → mark? e.event = none := by
        cases e.event <;> simp [Event.isDeed, mark?]
      simp only [deedsOf, marksOf, marks] at ih ⊢
      by_cases hactor : e.actor = actor
      · cases hdeed : e.event.isDeed with
        | true => simp [hactor, hdeed, List.filterMap_cons, ih]
        | false => simp [hactor, hdeed, hfired hdeed, ih]
      · simp [hactor, ih]

theorem mem_marks_deedsOf {e : Entry controlPlane} {trace : List (Entry controlPlane)} {m : Mark}
    (he : e ∈ trace) (hm : mark? e.event = some m) : m ∈ marks (deedsOf e.actor trace) := by
  rw [marks_deedsOf]
  refine List.mem_filterMap.mpr ⟨e.event, List.mem_map.mpr ⟨e, ?_, rfl⟩, hm⟩
  exact List.mem_filter.mpr ⟨he, beq_self_eq_true e.actor⟩

/-- Where nobody else did anything, the marks are those of one actor. -/
theorem marksOf_eq_of_alone {actor : Option Nat} {trace : List (Entry controlPlane)}
    (h : ∀ other, other ≠ actor → deedsOf other trace = []) :
    marksOf trace = marks (deedsOf actor trace) := by
  have hmark : ∀ e ∈ trace, e.actor ≠ actor → mark? e.event = none := by
    intro e he hne
    cases hm : mark? e.event with
    | none => rfl
    | some m =>
        have hmem := mem_marks_deedsOf he hm
        rw [h e.actor hne] at hmem
        cases hmem
  rw [marks_deedsOf]
  clear h
  induction trace with
  | nil => rfl
  | cons e rest ih =>
      have hrest := ih fun e' he' => hmark e' (List.mem_cons_of_mem _ he')
      by_cases hactor : e.actor = actor
      · simp only [marksOf, marks, hactor, List.map_cons, List.filterMap_cons, beq_self_eq_true,
          List.filter_cons_of_pos] at hrest ⊢
        rw [hrest]
      · have hnone := hmark e List.mem_cons_self hactor
        simpa [marksOf, marks, hactor, hnone] using hrest

theorem exists_actor_of_mem {m : Mark} {trace : List (Entry controlPlane)} (h : m ∈ marksOf trace) :
    ∃ actor, m ∈ marks (deedsOf actor trace) := by
  obtain ⟨event, hevent, hm⟩ := List.mem_filterMap.mp h
  obtain ⟨e, he, rfl⟩ := List.mem_map.mp hevent
  exact ⟨e.actor, mem_marks_deedsOf he hm⟩

/-- A trace without the entries of one actor. -/
def without (actor : Option Nat) (trace : List (Entry controlPlane)) : List (Entry controlPlane) :=
  trace.filter fun e => !(e.actor == actor)

theorem marks_without_self (actor : Option Nat) (trace : List (Entry controlPlane)) :
    marks (deedsOf actor (without actor trace)) = [] := by
  have hnone : (without actor trace).filter (·.actor == actor) = [] := by
    simp [without]
  rw [marks_deedsOf, hnone]
  rfl

theorem marks_without_of_ne {actor other : Option Nat} (hne : other ≠ actor)
    (trace : List (Entry controlPlane)) :
    marks (deedsOf other (without actor trace)) = marks (deedsOf other trace) := by
  have hall : (without actor trace).filter (·.actor == other) =
      trace.filter (·.actor == other) := by
    rw [without, List.filter_filter]
    refine List.filter_congr fun e _ => ?_
    by_cases he : e.actor = other
    · simp [he, hne]
    · simp [he]
  rw [marks_deedsOf, marks_deedsOf, hall]

theorem perm_without {β : Type} (k : Mark → Option β) (actor : Option Nat)
    (trace : List (Entry controlPlane)) :
    ((marksOf trace).filterMap k).Perm
      ((marks (deedsOf actor trace)).filterMap k ++
        (marksOf (without actor trace)).filterMap k) := by
  have hsplit := (List.filter_append_perm (·.actor == actor) trace).symm
  have hmarks := ((hsplit.map (·.event)).filterMap mark?).filterMap k
  rw [List.map_append, List.filterMap_append, List.filterMap_append] at hmarks
  rw [marks_deedsOf]
  exact hmarks

/-- What two kinds of marks have in common for each actor, they have in common in the whole trace,
in some order. -/
theorem perm_of_actors {β : Type} (f g : Mark → Option β) (actors : List (Option Nat)) :
    ∀ trace : List (Entry controlPlane), (∀ e ∈ trace, e.actor ∈ actors) →
      (∀ actor, (marks (deedsOf actor trace)).filterMap f =
        (marks (deedsOf actor trace)).filterMap g) →
      ((marksOf trace).filterMap f).Perm ((marksOf trace).filterMap g) := by
  induction actors with
  | nil =>
      intro trace hactors _
      cases trace with
      | nil => exact .refl _
      | cons e rest => cases hactors e List.mem_cons_self
  | cons actor actors ih =>
      intro trace hactors hsame
      -- The entries of this actor are taken out; what is left has one actor less.
      have hrest := ih (without actor trace) ?_ fun other => ?_
      · refine (perm_without f actor trace).trans (List.Perm.trans ?_
          (perm_without g actor trace).symm)
        rw [hsame actor]
        exact hrest.append_left _
      · intro e he
        obtain ⟨he, hne⟩ := List.mem_filter.mp he
        rcases List.mem_cons.mp (hactors e he) with heq | hmem
        · simp [heq] at hne
        · exact hmem
      · by_cases hother : other = actor
        · rw [hother, marks_without_self]
          rfl
        · rw [marks_without_of_ne hother]
          exact hsame other

/-- A trace in which everything that was begun was ended. -/
structure Balanced (trace : List (Entry controlPlane)) : Prop where
  /-- Each launch has one stop of the same task, and there is no other stop. -/
  stops : ((marksOf trace).filterMap Mark.stop?).Perm ((marksOf trace).filterMap Mark.launch?)
  /-- Each place that was entered was left once, and no other place was left. -/
  exits : ((marksOf trace).filterMap Mark.exit?).Perm ((marksOf trace).filterMap Mark.entry?)
  /-- Each actor ended what it began itself, and left its places before it stopped its task. -/
  settled : ∀ actor, Settled (marks (deedsOf actor trace))

theorem balanced_of_settled {trace : List (Entry controlPlane)}
    (h : ∀ actor, Settled (marks (deedsOf actor trace))) : Balanced trace := by
  have hactors : ∀ e ∈ trace, e.actor ∈ trace.map (·.actor) := fun e he =>
    List.mem_map.mpr ⟨e, he, rfl⟩
  exact ⟨perm_of_actors _ _ _ trace hactors fun actor => (h actor).stops,
    perm_of_actors _ _ _ trace hactors fun actor => (h actor).exits, h⟩

end GatedRollout.Canary
