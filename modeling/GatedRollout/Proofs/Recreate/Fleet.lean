import Mathlib.Algebra.Order.BigOperators.Group.Finset
import Mathlib.Logic.Relation
import GatedRollout.ControlPlane.Request
import GatedRollout.Proofs.Process.Trace

/-!
# A faithful control plane

The control plane holds a status, a desired and a running count of each service. The running count
of an active service moves one step at a time towards its desired count, at any time. A call is
accepted or refused at some moment between its issue and its return; what it was answered with is
fixed then, and the counts may move on before the answer arrives.
-/

namespace GatedRollout

/-! ## Holdings -/

/-- What the control plane holds of a service. -/
structure Holding where
  status : ServiceStatus
  desired : UInt32
  running : UInt32
  deriving DecidableEq

namespace Holding

/-- What a service contributes to the capacity, which is nothing once it is inactive. -/
def capacity (h : Holding) : Nat := if h.status = .inactive then 0 else h.running.toNat

/-- One step of an active service towards its desired count. -/
inductive Moves : Holding → Holding → Prop
  | up {desired running running' : UInt32} (below : running < desired)
      (next : running'.toNat = running.toNat + 1) :
      Moves ⟨.active, desired, running⟩ ⟨.active, desired, running'⟩
  | down {desired running running' : UInt32} (above : desired < running)
      (next : running'.toNat + 1 = running.toNat) :
      Moves ⟨.active, desired, running⟩ ⟨.active, desired, running'⟩

/-- A step keeps the status and the desired count, and no bound up to the latter is undercut. -/
theorem Moves.spec {h h' : Holding} (hmove : h.Moves h') :
    h'.status = h.status ∧ h'.desired = h.desired ∧
      ∀ bound ≤ h.desired.toNat, bound ≤ h.running.toNat → bound ≤ h'.running.toNat := by
  cases hmove with
  | up below next =>
      refine ⟨rfl, rfl, fun bound _ hrunning => ?_⟩
      dsimp only at hrunning ⊢
      omega
  | down above next =>
      refine ⟨rfl, rfl, fun bound hbound _ => ?_⟩
      have habove := UInt32.lt_iff_toNat_lt.mp above
      dsimp only at hbound ⊢
      omega

end Holding

/-! ## Fleets -/

/-- The services that the control plane holds, by name. -/
structure Fleet where
  names : Finset ServiceName
  holding : ServiceName → Option Holding
  mem_names : ∀ name, (holding name).isSome → name ∈ names

namespace Fleet

/-- The fleet without services. -/
def empty : Fleet where
  names := ∅
  holding _ := none
  mem_names _ h := nomatch h

/-- The running counts of all services that are not inactive. -/
def capacity (fleet : Fleet) : Nat :=
  ∑ name ∈ fleet.names, ((fleet.holding name).map Holding.capacity).getD 0

/-- The same fleet with another holding of one service. -/
def set (fleet : Fleet) (name : ServiceName) (h : Holding) : Fleet where
  names := insert name fleet.names
  holding := Function.update fleet.holding name (some h)
  mem_names other hother := by
    by_cases hname : other = name
    · exact hname ▸ Finset.mem_insert_self name fleet.names
    · rw [Function.update_of_ne hname] at hother
      exact Finset.mem_insert_of_mem (fleet.mem_names other hother)

@[simp] theorem holding_set (fleet : Fleet) (name : ServiceName) (h : Holding) :
    (fleet.set name h).holding name = some h := Function.update_self ..

theorem holding_set_of_ne (fleet : Fleet) {name other : ServiceName} (hne : other ≠ name)
    (h : Holding) : (fleet.set name h).holding other = fleet.holding other :=
  Function.update_of_ne hne ..

/-- No service holds more than the whole fleet. -/
theorem capacity_le {fleet : Fleet} {name : ServiceName} {h : Holding}
    (hname : fleet.holding name = some h) : h.capacity ≤ fleet.capacity := by
  have hmem := fleet.mem_names name (by rw [hname]; rfl)
  have hle := Finset.single_le_sum
    (f := fun other => ((fleet.holding other).map Holding.capacity).getD 0)
    (fun _ _ => Nat.zero_le _) hmem
  rw [hname] at hle
  exact hle

/-- One step of one service. -/
def Moves (fleet later : Fleet) : Prop :=
  ∃ name h h', fleet.holding name = some h ∧ h.Moves h' ∧ later = fleet.set name h'

/-- Any number of steps of any services, in any order. -/
def Converges : Fleet → Fleet → Prop := Relation.ReflTransGen Moves

/-! ## Calls -/

/-- No service of that name stands in the way of a new one. -/
def Free (fleet : Fleet) (name : ServiceName) : Prop :=
  ∀ h, fleet.holding name = some h → h.status = .inactive

/-- A description reports what is held, and nothing where nothing is. -/
def Shows : Option Holding → Option Service → Prop
  | some h, some service => service.status = h.status ∧ service.desiredCount = h.desired ∧
      service.runningCount = h.running
  | none, none => True
  | _, _ => False

/-- How an accepted request is answered, and what it makes of the fleet. A service is created with
whatever of it is running already. -/
def Accepts (fleet : Fleet) : (r : ControlPlane.Request) → r.Reply → Fleet → Prop
  | .describeService _ name, reply, later => Shows (fleet.holding name) reply ∧ later = fleet
  | .createService creation, _, later =>
      fleet.Free creation.definition.serviceName ∧ ∃ running,
        later = fleet.set creation.definition.serviceName
          ⟨.active, creation.definition.desiredCount, running⟩
  | .updateService update, _, later => ∃ h, fleet.holding update.service = some h ∧
      later = fleet.set update.service { h with desired := update.desiredCount.getD h.desired }
  | .deleteService _ name, _, later => ∃ h, fleet.holding name = some h ∧ h.desired = 0 ∧
      later = fleet.set name { h with status := .inactive }
  | _, _, later => later = fleet

/-- How a request is answered, and what it makes of the fleet. A refused one changes nothing. -/
def Answers (fleet : Fleet) (r : ControlPlane.Request) :
    Except ClientError (controlPlane.Reply r) → Fleet → Prop
  | .ok reply, later => fleet.Accepts r reply later
  | .error _, later => later = fleet

end Fleet

/-- A fleet, with the answer that is on its way to the caller. -/
structure Scene where
  fleet : Fleet
  answer : Option ((r : ControlPlane.Request) × Except ClientError (controlPlane.Reply r)) := none

/-- The faithful control plane as the surroundings of a process. -/
def plane : Setting controlPlane Scene where
  issues x r y := ∃ before after answer, x.fleet.Converges before ∧
    before.Answers r answer after ∧ after.Converges y.fleet ∧ y.answer = some ⟨r, answer⟩
  returns y r answer z := y.answer = some ⟨r, answer⟩ ∧ z = ⟨y.fleet, none⟩
  sleeps x _ y := x.fleet.Converges y.fleet ∧ y.answer = none

/-! ## Stable facts -/

namespace Fleet

/-- A fact about a fleet that no step of a service undoes. -/
def Stable (Φ : Fleet → Prop) : Prop := ∀ fleet later, Φ fleet → fleet.Moves later → Φ later

theorem Stable.converges {Φ : Fleet → Prop} (stable : Stable Φ) {fleet later : Fleet}
    (h : Φ fleet) (hlater : fleet.Converges later) : Φ later := by
  induction hlater with
  | refl => exact h
  | tail _ hmove ih => exact stable _ _ ih hmove

theorem Stable.and {Φ Ψ : Fleet → Prop} (hΦ : Stable Φ) (hΨ : Stable Ψ) :
    Stable fun fleet => Φ fleet ∧ Ψ fleet :=
  fun fleet later h hmove => ⟨hΦ fleet later h.1 hmove, hΨ fleet later h.2 hmove⟩

theorem stable_const (P : Prop) : Stable fun _ => P := fun _ _ h _ => h

/-- The service is desired at this count. -/
def Desired (name : ServiceName) (count : UInt32) (fleet : Fleet) : Prop :=
  ∃ h, fleet.holding name = some h ∧ h.desired = count

/-- The service is not inactive, is desired at this count and has no fewer running than the
bound. -/
def Holds (name : ServiceName) (count : UInt32) (bound : Nat) (fleet : Fleet) : Prop :=
  ∃ h, fleet.holding name = some h ∧ h.status ≠ .inactive ∧ h.desired = count ∧
    bound ≤ h.running.toNat

theorem Holds.le_capacity {name : ServiceName} {count : UInt32} {bound : Nat} {fleet : Fleet}
    (h : Holds name count bound fleet) : bound ≤ fleet.capacity := by
  obtain ⟨holding, hname, hstatus, -, hbound⟩ := h
  have hle := capacity_le hname
  rw [Holding.capacity, if_neg hstatus] at hle
  exact hbound.trans hle

theorem Holds.not_free {name other : ServiceName} {count : UInt32} {bound : Nat} {fleet : Fleet}
    (h : Holds name count bound fleet) (hfree : fleet.Free other) : other ≠ name := by
  intro hsame
  subst hsame
  obtain ⟨holding, hname, hstatus, -⟩ := h
  exact hstatus (hfree holding hname)

theorem Holds.set_of_ne {name other : ServiceName} {count : UInt32} {bound : Nat} {fleet : Fleet}
    (h : Holds name count bound fleet) (hne : other ≠ name) (holding : Holding) :
    Holds name count bound (fleet.set other holding) := by
  obtain ⟨hold, hname, hrest⟩ := h
  exact ⟨hold, by rwa [holding_set_of_ne fleet hne.symm], hrest⟩

/-- A fact about one service that its own steps do not undo is stable. -/
theorem stable_of_holding {P : Holding → Prop} (name : ServiceName)
    (hP : ∀ {h h'}, P h → h.Moves h' → P h') :
    Stable fun fleet => ∃ h, fleet.holding name = some h ∧ P h := by
  intro fleet later hfleet hmoves
  obtain ⟨h, hname, hh⟩ := hfleet
  obtain ⟨other, held, moved, hother, hmove, rfl⟩ := hmoves
  by_cases hne : name = other
  · subst hne
    obtain rfl : h = held := Option.some.inj (hname.symm.trans hother)
    exact ⟨moved, fleet.holding_set name moved, hP hh hmove⟩
  · exact ⟨h, by rwa [holding_set_of_ne fleet hne], hh⟩

theorem stable_desired (name : ServiceName) (count : UInt32) : Stable (Desired name count) :=
  stable_of_holding name fun h hmove => hmove.spec.2.1.trans h

theorem stable_holds (name : ServiceName) {count : UInt32} {bound : Nat}
    (hbound : bound ≤ count.toNat) : Stable (Holds name count bound) := by
  refine stable_of_holding name fun {h h'} hh hmove => ?_
  obtain ⟨hstatus, hdesired, hkept⟩ := hmove.spec
  obtain ⟨hlive, rfl, hrunning⟩ := hh
  exact ⟨hstatus ▸ hlive, hdesired, hkept bound hbound hrunning⟩

end Fleet

/-! ## Faithful environments -/

/-- An environment that is a faithful control plane, of which the view shows the fleet. -/
structure Faithful {S : Type} (env : Environment controlPlane S) (view : S → Fleet) : Prop where
  reacts : ∀ s now r, ∃ before after answer, (view s).Converges before ∧
    before.Answers r answer after ∧ after.Converges (view (env.react s now r).2) ∧
      ∀ answer', (env.react s now r).1.effect = .answer answer' → answer' = answer
  wakes : ∀ s now, (view s).Converges (view (env.wake s now).2)

theorem Faithful.tracks {S : Type} {env : Environment controlPlane S} {view : S → Fleet}
    (faithful : Faithful env view) (actor : Option Nat) :
    Tracks plane env actor fun w x => x.fleet = view w.env where
  answered {w x r answer} h heffect := by
    obtain ⟨before, after, answer', hbefore, hanswers, hafter, hsame⟩ :=
      faithful.reacts w.env w.clock r
    obtain rfl := hsame answer heffect
    refine ⟨⟨_, some ⟨r, answer⟩⟩, ⟨_, none⟩, ⟨before, after, answer, h ▸ hbefore, hanswers,
      hafter, rfl⟩, ⟨rfl, rfl⟩, ?_⟩
    simp [World.note, World.issue]
  unanswered {w x r} h := by
    obtain ⟨before, after, answer, hbefore, hanswers, hafter, -⟩ :=
      faithful.reacts w.env w.clock r
    refine ⟨⟨_, some ⟨r, answer⟩⟩, ⟨before, after, answer, h ▸ hbefore, hanswers, hafter, rfl⟩,
      fun _ => ?_⟩
    simp [World.note, World.issue]
  slept {w x d} h :=
    ⟨⟨_, none⟩, ⟨h ▸ faithful.wakes w.env (w.clock.advance d), rfl⟩, by
      simp [World.note, World.sleep]⟩

/-- Where the control plane is faithful, every run of a process ends in a state that it visits. -/
theorem Faithful.visits {S σ α : Type} {env : Environment controlPlane S} {view : S → Fleet}
    (faithful : Faithful env view) (token : Token) (actor : Option Nat)
    (p : Process controlPlane σ α) (s : σ) (w : World controlPlane S) :
    let out := run env token actor p s w
    ∃ scene : Scene, scene.fleet = view out.world.env ∧
      Visits (recorded.along plane) p s ([], { fleet := view w.env }) out.ending.answer? out.state
        (deedsOf actor (out.world.since w), scene) := by
  intro out
  have tracks := (tracks_recorded env actor (w.deeds actor)).along (faithful.tracks actor)
  obtain ⟨⟨trace, scene⟩, ⟨htrace, hscene⟩, visit⟩ := tracks.run_visits token p (s := s) (w := w)
    (x := ([], { fleet := view w.env })) ⟨(List.append_nil _).symm, rfl⟩
  have hfollows : out.world.Follows w := run_follows env token actor p s w
  obtain rfl : deedsOf actor (out.world.since w) = trace := hfollows.deedsOf_since htrace
  exact ⟨scene, hscene, visit⟩

/-! ## A control plane that keeps its word -/

/-- One step towards the desired count, if that is not reached. -/
def Holding.step (h : Holding) : Holding :=
  if h.status ≠ .active then h
  else if h.running < h.desired then { h with running := h.running + 1 }
  else if h.desired < h.running then { h with running := h.running - 1 }
  else h

theorem Holding.moves_step {h : Holding} (hstep : h.step ≠ h) : h.Moves h.step := by
  obtain ⟨status, desired, running⟩ := h
  unfold step at hstep ⊢
  dsimp only at hstep ⊢
  by_cases hstatus : status = .active
  case neg => exact absurd (if_pos hstatus) hstep
  subst hstatus
  rw [if_neg (not_not_intro rfl)] at hstep ⊢
  by_cases hbelow : running < desired
  · rw [if_pos hbelow]
    have hlt := UInt32.lt_iff_toNat_lt.mp hbelow
    have hbound := desired.toNat_lt
    refine .up hbelow ?_
    rw [UInt32.toNat_add, UInt32.toNat_one, Nat.mod_eq_of_lt (by omega)]
  rw [if_neg hbelow] at hstep ⊢
  by_cases habove : desired < running
  · rw [if_pos habove]
    have hlt := UInt32.lt_iff_toNat_lt.mp habove
    refine .down habove ?_
    rw [UInt32.toNat_sub_of_le _ _ (UInt32.le_iff_toNat_le.mpr (by
      rw [UInt32.toNat_one]
      omega)), UInt32.toNat_one]
    omega
  · exact absurd (if_neg habove) hstep

def Holding.describe (name : ServiceName) (h : Holding) : Service where
  serviceName := name
  serviceArn := ⟨name.text⟩
  status := h.status
  desiredCount := h.desired
  runningCount := h.running
  taskDefinition := ⟨"task-definition"⟩
  deployments := [⟨"1", "PRIMARY", h.desired, h.running⟩]

/-- What a control plane makes of a request that does all it can, and lets the service move by one
step for every change: `none` if it refuses. -/
def Fleet.obey (fleet : Fleet) : (r : ControlPlane.Request) → Option (r.Reply × Fleet)
  | .describeService _ name => some ((fleet.holding name).map (Holding.describe name), fleet)
  | .createService creation =>
      match fleet.holding creation.definition.serviceName with
      | some _ => none
      | none =>
          let count := creation.definition.desiredCount
          some ((), fleet.set creation.definition.serviceName ⟨.active, count, count⟩)
  | .updateService update =>
      (fleet.holding update.service).map fun h =>
        let h := { h with desired := update.desiredCount.getD h.desired }
        ((), fleet.set update.service h.step)
  | _ => none

/-- A control plane that obeys, and does nothing while nobody calls. -/
def obeying : Environment controlPlane Fleet where
  react fleet _ r :=
    match fleet.obey r with
    | some (reply, later) => (⟨.zero, false, 0, .answer (.ok reply)⟩, later)
    | none => (⟨.zero, false, 0, .answer (.error (.rejected "request" "not expected"))⟩, fleet)
  wake fleet _ := (⟨false, 0⟩, fleet)

theorem Fleet.set_set (fleet : Fleet) (name : ServiceName) (h h' : Holding) :
    (fleet.set name h).set name h' = fleet.set name h' := by
  unfold set
  congr 1
  · exact Finset.insert_idem ..
  · exact Function.update_idem ..

theorem Fleet.converges_set_step (fleet : Fleet) (name : ServiceName) (h : Holding) :
    (fleet.set name h).Converges (fleet.set name h.step) := by
  by_cases hstep : h.step = h
  · rw [hstep]
    exact .refl
  · exact .single ⟨name, h, h.step, fleet.holding_set name h, h.moves_step hstep,
      (fleet.set_set name h h.step).symm⟩

theorem Fleet.obey_faithful {fleet later : Fleet} {r : ControlPlane.Request} {reply : r.Reply}
    (h : fleet.obey r = some (reply, later)) :
    ∃ after, fleet.Accepts r reply after ∧ after.Converges later := by
  cases r with
  | describeService cluster name =>
      cases h
      refine ⟨_, ⟨?_, rfl⟩, .refl⟩
      cases fleet.holding name with
      | none => trivial
      | some h => exact ⟨rfl, rfl, rfl⟩
  | createService creation =>
      simp only [obey] at h
      split at h
      · cases h
      · next hnone =>
          cases h
          exact ⟨_, ⟨fun h hname => absurd (hnone.symm.trans hname) nofun, _, rfl⟩, .refl⟩
  | updateService update =>
      obtain ⟨held, hname, hlater⟩ := Option.map_eq_some_iff.mp h
      cases hlater
      exact ⟨_, ⟨held, hname, rfl⟩, fleet.converges_set_step _ _⟩
  | _ => cases h

theorem obeying_faithful : Faithful obeying id where
  reacts fleet now r := by
    simp only [obeying, id]
    split
    · next reply later h =>
        obtain ⟨after, haccepts, hconverges⟩ := fleet.obey_faithful h
        exact ⟨fleet, after, .ok reply, .refl, haccepts, hconverges, fun answer heffect => by
          cases heffect; rfl⟩
    · exact ⟨fleet, fleet, .error _, .refl, rfl, .refl, fun answer heffect => by
        cases heffect; rfl⟩
  wakes fleet now := .refl

end GatedRollout
