import GatedRollout.Canary.Set
import GatedRollout.Proofs.ControlPlane.Mutation
import GatedRollout.Proofs.Process.SideBySide

/-!
# The ledger of a canary

What a canary holds at the control plane is a task that was launched and a place in which it is
registered. `marks` picks out of a trace the calls that begin or end either; everything else a
canary does is quiet. Until it is stopped, what the state of a canary says is exactly what its
marks say, which is its `Account`.
-/

namespace GatedRollout.Canary

/-! ## Marks -/

/-- Where a canary is registered. -/
inductive Place
  | group (group : TargetGroupArn) (target : TargetDescription)
  | registry (service member : String)
  deriving DecidableEq

def Registration.place : Registration → Place
  | .target t => .group t.group t.description
  | .discovery i => .registry i.serviceId i.instanceId

/-- What an event begins or ends. A task or a registration begins when its call returns, and ends
when the call that ends it is issued. -/
inductive Mark
  | launched (task : TaskArn)
  | entered (place : Place)
  | left (place : Place)
  | stopped (task : TaskArn)
  | updated (update : ControlPlane.ServiceUpdate)
  deriving DecidableEq

def mark? : Event controlPlane → Option Mark
  | .returned (.runTask _) (.ok task) => some (.launched task.arn)
  | .returned (.startTask _) (.ok task) => some (.launched task.arn)
  | .returned (.registerTarget group target) (.ok _) => some (.entered (.group group target))
  | .returned (.registerInstance service member _) (.ok _) =>
      some (.entered (.registry service member))
  | .issued (.deregisterTarget group target) => some (.left (.group group target))
  | .issued (.deregisterInstance service member) => some (.left (.registry service member))
  | .issued (.stopTask _ task _) => some (.stopped task)
  | .issued (.updateService update) => some (.updated update)
  | _ => none

def marks (trace : Deeds) : List Mark := trace.filterMap mark?

@[simp] theorem marks_nil : marks [] = [] := rfl

@[simp] theorem marks_append (x y : Deeds) : marks (x ++ y) = marks x ++ marks y :=
  List.filterMap_append

@[simp] theorem marks_slept (d : Duration) : marks [.slept d] = [] := rfl

theorem marks_of_quiet {e : Event controlPlane} (h : mark? e = none) : marks [e] = [] := by
  rw [marks, List.filterMap_cons_none h]
  rfl

theorem marks_of_mark {e : Event controlPlane} {m : Mark} (h : mark? e = some m) :
    marks [e] = [m] := by
  rw [marks, List.filterMap_cons_some h]
  rfl

/-- A read begins and ends nothing. -/
theorem mark?_of_about {r : ControlPlane.Request} (hr : r.isRead = true) {e : Event controlPlane}
    (he : e.IsAbout r) : mark? e = none := by
  cases e with
  | issued r' =>
      obtain rfl : r' = r := he
      cases r' <;> first | rfl | cases hr
  | returned r' answer =>
      obtain rfl : r' = r := he
      cases r' <;> first | rfl | cases hr
  | slept d => rfl
  | fired => rfl

/-- To declare a health begins and ends nothing either. -/
theorem mark?_of_updateInstanceHealth {service member : String} {status : CustomHealthStatus}
    {e : Event controlPlane}
    (he : e.IsAbout (ι := controlPlane) (.updateInstanceHealth service member status)) :
    mark? e = none := by
  cases e with
  | issued r =>
      obtain rfl : r = .updateInstanceHealth service member status := he
      rfl
  | returned r answer =>
      obtain rfl : r = .updateInstanceHealth service member status := he
      rfl
  | slept d => rfl
  | fired => rfl

theorem marks_of_about {r : ControlPlane.Request} (hr : r.isRead = true) {es : Deeds}
    (hes : ∀ e ∈ es, e.IsAbout r) : marks es = [] :=
  List.filterMap_eq_nil_iff.mpr fun e he => mark?_of_about hr (hes e he)

/-! ## Accounts -/

/-- What the state of a canary says that it holds. -/
def State.held (s : State) : List Mark :=
  s.handle.taskArn.toList.map .launched ++ s.registration.toList.map fun r => .entered r.place

/-- Whether a canary with this strategy can be registered so. -/
def Strategy.admits : Strategy → Registration → Bool
  | .loadBalanced _, .target _ => true
  | .registry _, .discovery _ => true
  | _, _ => false

/-- Until a canary is stopped, its state says what it holds. -/
structure Account (strategy : Strategy) (s : State) (x : Deeds) : Prop where
  marks_eq : marks x = s.held
  not_stopped : s.handle.phase ≠ .stopped
  admits : ∀ r, s.registration = some r → strategy.admits r = true

theorem account_fresh (strategy : Strategy) (placement : Placement) :
    Account strategy (State.fresh placement) [] :=
  ⟨rfl, Phase.noConfusion, nofun⟩

theorem Account.quiet {strategy : Strategy} {s : State} {x es : Deeds} (h : Account strategy s x)
    (hes : marks es = []) : Account strategy s (x ++ es) :=
  ⟨by rw [marks_append, hes, List.append_nil, h.marks_eq], h.not_stopped, h.admits⟩

theorem Account.setPhase {strategy : Strategy} {s : State} {x : Deeds} (h : Account strategy s x)
    {phase : Phase} (hphase : phase ≠ .stopped) : Account strategy (s.setPhase phase) x :=
  ⟨h.marks_eq, hphase, h.admits⟩

end GatedRollout.Canary
