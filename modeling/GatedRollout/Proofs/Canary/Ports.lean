import GatedRollout.Canary.Launch

/-!
# The port that a task publishes

A container may have several bindings and several mappings of one port, one for each protocol, and
those with host port zero are left to the scheduler. A usable binding is found wherever it stands.
Of the mappings only the first counts, so one that is left to the scheduler hides those after it.
-/

namespace GatedRollout

namespace ContainerDefinition

variable (c : ContainerDefinition) (port : UInt16)

/-- The host ports that the mappings of a port name. -/
def mappedPorts : List UInt16 :=
  ((c.portMappings.filter (·.containerPort == port)).filterMap (·.hostPort)).filter (· != 0)

/-- The first mapping of the port names this host port. -/
def MapsFirst (host : UInt16) : Prop :=
  host ≠ 0 ∧ ∃ m, c.portMappings.find? (·.containerPort == port) = some m ∧ m.hostPort = some host

theorem hostPortFor_eq_some_iff {host : UInt16} :
    c.hostPortFor port = some host ↔ c.MapsFirst port host := by
  simp only [hostPortFor, MapsFirst, Option.filter_eq_some_iff, Option.bind_eq_some_iff,
    bne_iff_ne]
  exact and_comm

theorem mem_mappedPorts {host : UInt16} :
    host ∈ c.mappedPorts port ↔ host ≠ 0 ∧
      ∃ m ∈ c.portMappings, m.containerPort = port ∧ m.hostPort = some host := by
  simp only [mappedPorts, List.mem_filter, List.mem_filterMap, beq_iff_eq, bne_iff_ne, and_assoc]
  exact and_comm

theorem MapsFirst.mem_mappedPorts {c : ContainerDefinition} {port host : UInt16}
    (h : c.MapsFirst port host) : host ∈ c.mappedPorts port := by
  obtain ⟨hhost, m, hfind, hnames⟩ := h
  have hport : m.containerPort = port := by simpa using List.find?_some hfind
  exact (c.mem_mappedPorts port).mpr
    ⟨hhost, m, List.mem_of_find?_eq_some hfind, hport, hnames⟩

end ContainerDefinition

namespace Canary

/-! ## Bindings -/

/-- The host ports that the observed container has bound for a port. -/
def boundPorts (task : Task) (container : String) (port : UInt16) : List UInt16 :=
  match task.container container with
  | none => []
  | some state =>
      ((state.networkBindings.filter (·.containerPort == port)).map (·.hostPort)).filter (· != 0)

/-- No usable binding is overlooked: the first one is taken. -/
theorem boundPort_eq_head? (task : Task) (container : String) (port : UInt16) :
    boundPort task container port = (boundPorts task container port).head? := by
  unfold boundPort boundPorts
  cases task.container container with
  | none => rfl
  | some state =>
      simp only [Option.bind_some, List.filter_map, List.filter_filter, List.head?_map,
        List.head?_filter, Function.comp_apply, Bool.and_comm]

theorem ne_zero_of_mem_boundPorts {task : Task} {container : String} {port host : UInt16}
    (h : host ∈ boundPorts task container port) : host ≠ 0 := by
  unfold boundPorts at h
  split at h
  · cases h
  · simpa using (List.mem_filter.mp h).2

/-! ## What is published -/

/-- The port is one that is bound, else one that is mapped, else that of the container. -/
def Publishes (definition : ContainerDefinition) (task : Task) (container : String)
    (port published : UInt16) : Prop :=
  published ∈ boundPorts task container port ∨
    boundPorts task container port = [] ∧
      (published ∈ definition.mappedPorts port ∨
        definition.mappedPorts port = [] ∧ published = port)

/-- The port is the first that is bound, else the one that the first mapping names, else that of the
container. -/
def PublishesFirst (definition : ContainerDefinition) (task : Task) (container : String)
    (port published : UInt16) : Prop :=
  (boundPorts task container port).head? = some published ∨
    boundPorts task container port = [] ∧
      (definition.MapsFirst port published ∨
        (∀ host, ¬definition.MapsFirst port host) ∧ published = port)

theorem publishedPort_eq_error_iff (d : TaskDefinition) (task : Task) (container : String)
    (port : UInt16) (e : TaskError) :
    publishedPort d task container port = .error e ↔
      d.container container = none ∧ e = .containerNotFound container d.arn.text := by
  unfold publishedPort
  cases d.container container with
  | none => simp [eq_comm]
  | some definition => simp

theorem exists_publishedPort {d : TaskDefinition} {container : String}
    {definition : ContainerDefinition} (h : d.container container = some definition) (task : Task)
    (port : UInt16) : ∃ published, publishedPort d task container port = .ok published ∧
      PublishesFirst definition task container port published := by
  refine ⟨_, by rw [publishedPort, h], ?_⟩
  rw [PublishesFirst, ← List.head?_eq_none_iff, ← boundPort_eq_head?]
  cases boundPort task container port with
  | some host => exact .inl rfl
  | none =>
      refine .inr ⟨rfl, ?_⟩
      rw [Option.none_or]
      cases hmaps : definition.hostPortFor port with
      | some host => exact .inl ((definition.hostPortFor_eq_some_iff port).mp hmaps)
      | none =>
          refine .inr ⟨fun host hhost => ?_, rfl⟩
          rw [(definition.hostPortFor_eq_some_iff port).mpr hhost] at hmaps
          cases hmaps

section First

variable {definition : ContainerDefinition} {task : Task} {container : String}
  {port published : UInt16} (h : PublishesFirst definition task container port published)

include h

theorem PublishesFirst.ne_zero (hport : port ≠ 0) : published ≠ 0 := by
  rcases h with hbound | ⟨-, hmaps | ⟨-, rfl⟩⟩
  · exact ne_zero_of_mem_boundPorts (List.mem_of_head? hbound)
  · exact hmaps.1
  · exact hport

/-- The first mapping hides those after it where it is left to the scheduler and one of them is
not; but for that the order does not matter. -/
theorem PublishesFirst.publishes_iff :
    Publishes definition task container port published ↔
      boundPorts task container port ≠ [] ∨ (∃ host, definition.MapsFirst port host) ∨
        definition.mappedPorts port = [] ∨ port ∈ definition.mappedPorts port := by
  rcases h with hbound | ⟨hunbound, hmaps | ⟨hhidden, rfl⟩⟩
  · have hmem := List.mem_of_head? hbound
    exact iff_of_true (.inl hmem) (.inl (List.ne_nil_of_mem hmem))
  · exact iff_of_true (.inr ⟨hunbound, .inl hmaps.mem_mappedPorts⟩) (.inr (.inl ⟨_, hmaps⟩))
  · have hnone : ¬∃ host, definition.MapsFirst published host := fun ⟨host, hhost⟩ =>
      hhidden host hhost
    simp [Publishes, hunbound, hnone, or_comm]

end First

/-- A port is published for each container that the task definition has and for no other, and it is
not zero. It is the first that is bound, else the one that the first mapping names, else that of the
container. That is a usable port wherever there is one, unless nothing is bound and the first
mapping is left to the scheduler while a later one names another port than that of the container. -/
theorem publishedPort_resolves (d : TaskDefinition) (task : Task) (container : String)
    (port : UInt16) (hport : port ≠ 0) :
    (∀ e, publishedPort d task container port = .error e ↔
        d.container container = none ∧ e = .containerNotFound container d.arn.text) ∧
      ∀ definition, d.container container = some definition →
        ∃ published, publishedPort d task container port = .ok published ∧ published ≠ 0 ∧
          PublishesFirst definition task container port published ∧
          (Publishes definition task container port published ↔
            boundPorts task container port ≠ [] ∨ (∃ host, definition.MapsFirst port host) ∨
              definition.mappedPorts port = [] ∨ port ∈ definition.mappedPorts port) := by
  refine ⟨publishedPort_eq_error_iff d task container port, fun definition h => ?_⟩
  obtain ⟨published, hok, hfirst⟩ := exists_publishedPort h task port
  exact ⟨published, hok, hfirst.ne_zero hport, hfirst, hfirst.publishes_iff⟩

/-- A container with two mappings of one port, of which the first is left to the scheduler. -/
def twiceMapped : ContainerDefinition where
  name := "app"
  image := "api"
  portMappings := [{ containerPort := 80, hostPort := some 0 },
    { containerPort := 80, hostPort := some 8080 }]

def twiceMappedTask : TaskDefinition where
  arn := ⟨"task-definition/api:2"⟩
  family := "api"
  containers := [twiceMapped]

/-- A running task whose container has these bindings. -/
def boundTask (networkBindings : List NetworkBinding) : Task where
  arn := ⟨"task/1"⟩
  taskDefinitionArn := ⟨"task-definition/api:2"⟩
  lastStatus := .running
  desiredStatus := .running
  containers := [{ name := "app", networkBindings }]

theorem publishedPort_resolves_sample :
    let task := boundTask [{ containerPort := 80, hostPort := 0 },
      { containerPort := 443, hostPort := 32767 }, { containerPort := 80, hostPort := 32768 }]
    (80 : UInt16) ≠ 0 ∧ publishedPort twiceMappedTask task "app" 80 = .ok 32768 ∧
      Publishes twiceMapped task "app" 80 32768 := by
  intro task
  obtain ⟨-, hfound⟩ := publishedPort_resolves twiceMappedTask task "app" 80 (by decide)
  obtain ⟨published, hok, -, -, hpublishes⟩ := hfound twiceMapped rfl
  obtain rfl : published = 32768 := Except.ok.inj (hok.symm.trans rfl)
  exact ⟨by decide, hok, hpublishes.mpr (.inl (by decide))⟩

/-- With nothing bound, the second mapping of the port is not found behind the first. -/
theorem publishedPort_misses_mapping :
    boundPorts (boundTask []) "app" 80 = [] ∧ twiceMapped.mappedPorts 80 = [8080] ∧
      publishedPort twiceMappedTask (boundTask []) "app" 80 = .ok 80 ∧
      ¬Publishes twiceMapped (boundTask []) "app" 80 80 := by
  have hbound : boundPorts (boundTask []) "app" 80 = [] := by decide
  have hmapped : twiceMapped.mappedPorts 80 = [8080] := by decide
  refine ⟨hbound, hmapped, rfl, ?_⟩
  rw [Publishes, hbound, hmapped]
  decide

end Canary

end GatedRollout
