import GatedRollout.Proofs.Wire.Documents

/-!
# Round trips of the model

The types of the control plane's model, and what it is for their documents to be read back: as they
are written, and however else they are spelled.
-/

namespace GatedRollout

/-- A type of the model: how its values are written and read, which values there are, and which of
them are the same. -/
structure ModelType where
  Value : Type
  codec : Codec Value
  Valid : Value → Prop := fun _ => True
  Same : Value → Value → Prop := (· = ·)

namespace ModelType

/-- A type all of whose values there are, and of which none is the same as another. -/
def of (α : Type) [Wire α] : ModelType := { Value := α, codec := Wire.codec }

/-- Every value is read from the document that is written of it, and every spelling of that
document is read as the same value. -/
def ReadsBack (t : ModelType) : Prop :=
  ∀ v : t.Value, t.Valid v →
    t.codec.decode (t.codec.encode v) = some v ∧
      ∀ j, t.codec.Spells v j → ∃ v', t.codec.decode j = some v' ∧ t.Same v' v

def identifiers : List ModelType :=
  [of TaskArn, of TaskDefinitionArn, of ServiceArn, of ContainerInstanceArn, of TargetGroupArn,
    of RegistryArn]

def taskTypes : List ModelType :=
  [of TaskStatus, of HealthStatus, of NetworkBinding, of ContainerState, of NetworkAttachment,
    of Task, of ContainerInstance, of ContainerOverride, of PortMapping, of ContainerHealthCheck,
    of ContainerDefinition, of TaskDefinition]

def serviceName : ModelType :=
  { Value := ServiceName, codec := Wire.codec, Valid := fun name => name.isValid }

def serviceDefinition : ModelType :=
  { Value := ServiceDefinition, codec := Wire.codec, Valid := fun d => d.serviceName.isValid }

def service : ModelType :=
  { Value := Service, codec := Wire.codec, Valid := fun s => s.serviceName.isValid }

def serviceTypes : List ModelType :=
  [serviceName, of ServiceStatus, of LaunchType, of LoadBalancer, of ServiceRegistry,
    of NetworkConfiguration, of ServiceConnectConfiguration, of VolumeConfiguration,
    serviceDefinition, of ServiceDeployment, service]

/-- The attributes of an instance are a table: it has one entry for a key, and the order of its
entries is of no account. -/
def discoveredInstance : ModelType where
  Value := DiscoveredInstance
  codec := Wire.codec
  Valid i := (i.attributes.map Prod.fst).Nodup
  Same i' i := i'.instanceId = i.instanceId ∧
    ∀ key, i'.attributes.lookup key = i.attributes.lookup key

def targetTypes : List ModelType :=
  [of TargetHealthState, of TargetHealth, of TargetDescription, of Subnet, of Ec2Instance,
    of DiscoveryService, of Namespace, of HealthFilter, of CustomHealthStatus, discoveredInstance]

/-- All types of the model. -/
def all : List ModelType := identifiers ++ taskTypes ++ serviceTypes ++ targetTypes

theorem readsBack_of_exact {t : ModelType} (hsame : ∀ v, t.Same v v)
    (h : ∀ v, t.Valid v → t.codec.ReadsBack v (· = v)) : t.ReadsBack := by
  intro v hv
  refine ⟨(h v hv).decode_encode, fun j hj => ?_⟩
  obtain ⟨v', hdecode, rfl⟩ := h v hv j hj
  exact ⟨v', hdecode, hsame v'⟩

theorem readsBack_of (α : Type) [Wire α] [Exact α] : (of α).ReadsBack :=
  readsBack_of_exact (fun _ => rfl) fun v _ => Exact.readsBack (α := α) v

theorem discoveredInstance_readsBack : discoveredInstance.ReadsBack := by
  intro (i : DiscoveredInstance) hkeys
  have hread : (Wire.codec : Codec DiscoveredInstance).decode (Wire.codec.encode i) =
      (Wire.decodeTable (Wire.encodeTable i.attributes)).bind fun attributes =>
        some ⟨i.instanceId, attributes⟩ := rfl
  refine ⟨?_, fun j hj => ?_⟩
  · rw [decodeTable_encodeTable] at hread
    exact hread
  · obtain ⟨i', hdecode, hid, hperm⟩ := readsBack_discoveredInstance i j hj
    rw [← List.append_nil i.attributes] at hperm
    exact ⟨i', hdecode, hid, fun key => lookup_eq_of_perm hperm hkeys nofun⟩

theorem identifiers_readBack : ∀ t ∈ identifiers, t.ReadsBack := by
  simp only [identifiers, List.forall_mem_cons]
  exact ⟨readsBack_of _, readsBack_of _, readsBack_of _, readsBack_of _, readsBack_of _,
    readsBack_of _, nofun⟩

theorem taskTypes_readBack : ∀ t ∈ taskTypes, t.ReadsBack := by
  simp only [taskTypes, List.forall_mem_cons]
  exact ⟨readsBack_of _, readsBack_of _, readsBack_of _, readsBack_of _, readsBack_of _,
    readsBack_of _, readsBack_of _, readsBack_of _, readsBack_of _, readsBack_of _, readsBack_of _,
    readsBack_of _, nofun⟩

theorem serviceTypes_readBack : ∀ t ∈ serviceTypes, t.ReadsBack := by
  have hname : serviceName.ReadsBack :=
    readsBack_of_exact (fun _ => rfl) fun _ h => readsBack_serviceName h
  have hdefinition : serviceDefinition.ReadsBack :=
    readsBack_of_exact (fun _ => rfl) fun _ h => readsBack_serviceDefinition h
  have hservice : service.ReadsBack :=
    readsBack_of_exact (fun _ => rfl) fun _ h => readsBack_service h
  simp only [serviceTypes, List.forall_mem_cons]
  exact ⟨hname, readsBack_of _, readsBack_of _, readsBack_of _, readsBack_of _, readsBack_of _,
    readsBack_of _, readsBack_of _, hdefinition, readsBack_of _, hservice, nofun⟩

theorem targetTypes_readBack : ∀ t ∈ targetTypes, t.ReadsBack := by
  simp only [targetTypes, List.forall_mem_cons]
  exact ⟨readsBack_of _, readsBack_of _, readsBack_of _, readsBack_of _, readsBack_of _,
    readsBack_of _, readsBack_of _, readsBack_of _, readsBack_of _, discoveredInstance_readsBack,
    nofun⟩

end ModelType

/-! ## What may be left out -/

open Wire (encode decode)

/-- A document of the members that are needed is read as the value of which nothing more is said. -/
structure BareDocumentsRead : Prop where
  portMapping (containerPort : UInt16) :
    decode (.obj [("containerPort", encode containerPort)]) =
      some ({ containerPort } : PortMapping)
  containerDefinition (name image : String) :
    decode (.obj [("name", encode name), ("image", encode image)]) =
      some ({ name, image } : ContainerDefinition)
  taskDefinition (arn : TaskDefinitionArn) (family : String) :
    decode (.obj [("taskDefinitionArn", encode arn), ("family", encode family)]) =
      some ({ arn, family } : TaskDefinition)
  containerState (name : String) :
    decode (.obj [("name", encode name)]) = some ({ name } : ContainerState)
  networkAttachment : decode (.obj []) = some ({} : NetworkAttachment)
  task (arn : TaskArn) (taskDefinitionArn : TaskDefinitionArn)
      (lastStatus desiredStatus : TaskStatus) :
    decode (.obj [("taskArn", encode arn), ("taskDefinitionArn", encode taskDefinitionArn),
        ("lastStatus", encode lastStatus), ("desiredStatus", encode desiredStatus)]) =
      some ({ arn, taskDefinitionArn, lastStatus, desiredStatus } : Task)
  serviceRegistry (registryArn : RegistryArn) :
    decode (.obj [("registryArn", encode registryArn)]) = some ({ registryArn } : ServiceRegistry)
  networkConfiguration : decode (.obj []) = some ({} : NetworkConfiguration)
  serviceConnectConfiguration (enabled : Bool) :
    decode (.obj [("enabled", encode enabled)]) = some ({ enabled } : ServiceConnectConfiguration)
  volumeConfiguration (name : String) :
    decode (.obj [("name", encode name)]) = some ({ name } : VolumeConfiguration)
  serviceDefinition (serviceName : ServiceName) (hname : serviceName.isValid = true) :
    decode (.obj [("serviceName", encode serviceName)]) =
      some ({ serviceName } : ServiceDefinition)
  service (serviceName : ServiceName) (hname : serviceName.isValid = true)
      (serviceArn : ServiceArn) (status : ServiceStatus) (desiredCount runningCount : UInt32)
      (taskDefinition : TaskDefinitionArn) :
    decode (.obj [("serviceName", encode serviceName), ("serviceArn", encode serviceArn),
        ("status", encode status), ("desiredCount", encode desiredCount),
        ("runningCount", encode runningCount), ("taskDefinition", encode taskDefinition)]) =
      some ({ serviceName, serviceArn, status, desiredCount, runningCount, taskDefinition } :
        Service)
  targetHealth (state : TargetHealthState) :
    decode (.obj [("state", encode state)]) = some ({ state } : TargetHealth)
  targetDescription (id : String) (port : UInt16) :
    decode (.obj [("id", encode id), ("port", encode port)]) =
      some ({ id, port } : TargetDescription)
  discoveredInstance (instanceId : String) :
    decode (.obj [("instanceId", encode instanceId)]) = some ({ instanceId } : DiscoveredInstance)

theorem bareDocumentsRead : BareDocumentsRead where
  portMapping _ := (Exact.readsBack _).decode_kept <|
    .keep rfl <| .leave rfl .done
  containerDefinition _ _ := (Exact.readsBack _).decode_kept <|
    .keep rfl <| .keep rfl <| .leave rfl <| .leave rfl <| .leave rfl .done
  taskDefinition _ _ := (Exact.readsBack _).decode_kept <|
    .keep rfl <| .keep rfl <| .leave rfl .done
  containerState _ := (Exact.readsBack _).decode_kept <|
    .keep rfl <| .leave rfl <| .leave rfl <| .leave rfl <| .leave rfl .done
  networkAttachment := (Exact.readsBack _).decode_kept <|
    .leave rfl <| .leave rfl .done
  task _ _ _ _ := (Exact.readsBack _).decode_kept <|
    .keep rfl <| .keep rfl <| .keep rfl <| .keep rfl <| .leave rfl <| .leave rfl <| .leave rfl <|
      .leave rfl .done
  serviceRegistry _ := (Exact.readsBack _).decode_kept <|
    .keep rfl <| .leave rfl <| .leave rfl <| .leave rfl .done
  networkConfiguration := (Exact.readsBack _).decode_kept <|
    .leave rfl <| .leave rfl <| .leave rfl .done
  serviceConnectConfiguration _ := (Exact.readsBack _).decode_kept <|
    .keep rfl <| .leave rfl .done
  volumeConfiguration _ := (Exact.readsBack _).decode_kept <|
    .keep rfl <| .leave rfl .done
  serviceDefinition _ hname := (readsBack_serviceDefinition hname).decode_kept <|
    .keep rfl <| .leave rfl <| .leave rfl <| .leave rfl <| .leave rfl <| .leave rfl <|
      .leave rfl <| .leave rfl <| .leave rfl .done
  service _ hname _ _ _ _ _ := (readsBack_service hname).decode_kept <|
    .keep rfl <| .keep rfl <| .keep rfl <| .keep rfl <| .keep rfl <| .keep rfl <| .leave rfl <|
      .leave rfl <| .leave rfl <| .leave rfl <| .leave rfl <| .leave rfl .done
  targetHealth _ := (Exact.readsBack _).decode_kept <|
    .keep rfl <| .leave rfl <| .leave rfl .done
  targetDescription _ _ := (Exact.readsBack _).decode_kept <|
    .keep rfl <| .keep rfl <| .leave rfl .done
  discoveredInstance _ := rfl

/-- A value of the model is read from the document that is written of it, and the same value from
every other spelling of the document: with its members in any order, with members added that the
model does not know, and without members that hold what stands for their absence, at any depth.
What a member that may be left out stands for is what the model itself takes by default. -/
theorem documents_read_back :
    (∀ t ∈ ModelType.all, ∀ v : t.Value, t.Valid v →
        t.codec.decode (t.codec.encode v) = some v ∧
          ∀ j, t.codec.Spells v j → ∃ v', t.codec.decode j = some v' ∧ t.Same v' v) ∧
      BareDocumentsRead := by
  refine ⟨?_, bareDocumentsRead⟩
  have hall : ∀ t ∈ ModelType.all, t.ReadsBack := by
    simp only [ModelType.all, List.forall_mem_append]
    exact ⟨⟨⟨ModelType.identifiers_readBack, ModelType.taskTypes_readBack⟩,
      ModelType.serviceTypes_readBack⟩, ModelType.targetTypes_readBack⟩
  exact hall

/-- The load balancer of a service to be, with the members of every object the other way round, one
added to each, and those left out that hold what stands for their absence. -/
theorem documents_read_back_respelled :
    let definition : ServiceDefinition :=
      { serviceName := ⟨"web"⟩
        loadBalancers := [⟨⟨"targetgroup/api"⟩, "app", 8080⟩]
        launchType := some .fargate }
    let j : Json := .obj
      [("tags", .arr []), ("launchType", .str "FARGATE"),
        ("loadBalancers", .arr
          [.obj [("weight", .int 1), ("containerPort", .int 8080), ("containerName", .str "app"),
            ("targetGroupArn", .str "targetgroup/api")]]),
        ("serviceName", .str "web")]
    ModelType.serviceDefinition ∈ ModelType.all ∧ definition.serviceName.isValid = true ∧
      (Wire.codec : Codec ServiceDefinition).Spells definition j ∧
      Wire.decode j = some definition := by
  intro definition j
  have hmem : ModelType.serviceDefinition ∈ ModelType.all := by
    simp [ModelType.all, ModelType.serviceTypes]
  have hvalid : definition.serviceName.isValid = true := by decide
  let balancer : Members :=
    [("targetGroupArn", .str "targetgroup/api"), ("containerName", .str "app"),
      ("containerPort", .int 8080)]
  let respelled : Json := .obj (balancer ++ [("weight", Json.int 1)]).reverse
  let kept : Members :=
    [("serviceName", .str "web"), ("loadBalancers", .arr [respelled]),
      ("launchType", .str "FARGATE")]
  have hbalancer : (Wire.codec : Codec LoadBalancer).Spells ⟨⟨"targetgroup/api"⟩, "app", 8080⟩
      respelled :=
    ⟨_, balancer, [("weight", .int 1)], rfl, List.reverse_perm _,
      .keep rfl <| .keep rfl <| .keep rfl .done, by decide⟩
  have hspells : (Wire.codec : Codec ServiceDefinition).Spells definition j :=
    ⟨_, kept, [("tags", .arr [])], rfl, List.reverse_perm (kept ++ [("tags", Json.arr [])]),
      .keep rfl <| .leave rfl <| .keep ⟨_, rfl, .cons hbalancer .nil⟩ <| .leave rfl <| .leave rfl <|
        .leave rfl <| .keep rfl <| .leave rfl <| .leave rfl .done, by decide⟩
  obtain ⟨-, hreads⟩ :=
    documents_read_back.1 ModelType.serviceDefinition hmem definition hvalid
  obtain ⟨definition', hdecode, rfl⟩ := hreads j hspells
  exact ⟨hmem, hvalid, hspells, hdecode⟩

end GatedRollout
