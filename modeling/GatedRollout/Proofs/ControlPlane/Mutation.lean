import GatedRollout.ControlPlane.Request
import GatedRollout.Proofs.Process.Watch

/-!
# Mutations in a trace

Most requests only read; the others may change something at the control plane. The mutations of a
trace cut it into windows, one after each of them, which hold all that was seen before the next
mutation was issued.
-/

namespace GatedRollout

namespace ControlPlane

/-- Whether a request leaves the control plane as it is. -/
def Request.isRead : Request → Bool
  | .describeService .. | .describeTasks .. | .describeContainerInstance .. => true
  | .deregistrationDelay .. | .describeTargetHealth .. => true
  | .describeSubnet .. | .describeInstance .. => true
  | .getService .. | .getNamespace .. | .discoverInstances .. => true
  | _ => false

end ControlPlane

/-- The events of a trace of the control plane. -/
abbrev Deeds := List (Event controlPlane)

/-- The request that an event issues, if that may change something. -/
def Event.mutation? : Event controlPlane → Option ControlPlane.Request
  | .issued r => if r.isRead then none else some r
  | _ => none

/-- The requests of a trace that may change something, in the order in which they were issued. -/
def mutations (trace : Deeds) : List ControlPlane.Request := trace.filterMap Event.mutation?

@[simp] theorem mutations_append (x y : Deeds) : mutations (x ++ y) = mutations x ++ mutations y :=
  List.filterMap_append

theorem mutations_issued {r : ControlPlane.Request} (hr : r.isRead = false) :
    mutations [.issued r] = [r] := by
  simp [mutations, Event.mutation?, hr]

@[simp] theorem mutations_returned (r : ControlPlane.Request)
    (answer : Except ClientError (controlPlane.Reply r)) : mutations [.returned r answer] = [] :=
  rfl

/-- Deeds that are all about one read change nothing. -/
theorem mutations_of_about {r : ControlPlane.Request} (hr : r.isRead = true) {es : Deeds}
    (hes : ∀ e ∈ es, e.IsAbout r) : mutations es = [] := by
  refine List.filterMap_eq_nil_iff.mpr fun e he => ?_
  have habout := hes e he
  cases e with
  | issued r' =>
      obtain rfl : r' = r := habout
      simp [Event.mutation?, hr]
  | returned r' answer => rfl
  | slept d => rfl
  | fired => rfl

/-! ## Windows -/

/-- For each mutation of a trace, what follows it up to the next one. -/
def windows : Deeds → List Deeds
  | [] => []
  | e :: rest =>
      if e.mutation?.isSome then rest.takeWhile (·.mutation?.isNone) :: windows rest
      else windows rest

theorem length_windows (trace : Deeds) : (windows trace).length = (mutations trace).length := by
  induction trace with
  | nil => rfl
  | cons e rest ih =>
      rw [mutations] at ih ⊢
      cases he : e.mutation? <;> simp [windows, he, ih]

theorem windows_eq_nil {trace : Deeds} (h : mutations trace = []) : windows trace = [] := by
  rw [← List.length_eq_zero_iff, length_windows, h]
  rfl

/-- A mutation closes the window before it. -/
theorem windows_append_issued (x y : Deeds) {r : ControlPlane.Request} (hr : r.isRead = false) :
    windows (x ++ Event.issued r :: y) = windows x ++ windows (.issued r :: y) := by
  have hsome : (Event.mutation? (.issued r)).isNone = false := by simp [Event.mutation?, hr]
  induction x with
  | nil => rfl
  | cons e rest ih =>
      have htake : (rest ++ Event.issued r :: y).takeWhile (·.mutation?.isNone) =
          rest.takeWhile (·.mutation?.isNone) := by
        clear ih
        induction rest with
        | nil => simp [hsome]
        | cons d rest ih => simp only [List.cons_append, List.takeWhile_cons, ih]
      simp only [List.cons_append, windows, ih, htake]
      split <;> rfl

/-- The window that the last mutation opens has all that follows. -/
theorem windows_issued {r : ControlPlane.Request} (hr : r.isRead = false) {window : Deeds}
    (hwindow : mutations window = []) : windows (.issued r :: window) = [window] := by
  have hnone := List.filterMap_eq_nil_iff.mp hwindow
  have htake : (window ++ []).takeWhile (·.mutation?.isNone) =
      window ++ ([] : Deeds).takeWhile (·.mutation?.isNone) :=
    List.takeWhile_append_of_pos fun e he => Option.isNone_iff_eq_none.mpr (hnone e he)
  have hsome : (Event.mutation? (.issued r)).isSome = true := by simp [Event.mutation?, hr]
  rw [List.append_nil, List.takeWhile_nil, List.append_nil] at htake
  rw [windows, if_pos hsome, htake, windows_eq_nil hwindow]

end GatedRollout
