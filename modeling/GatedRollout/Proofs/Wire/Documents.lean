import GatedRollout.Proofs.Wire.ReadingBack
import GatedRollout.Wire.Documents

/-!
# The documents of the model

Every type of the control plane's model is read back from its documents, however they are spelled.
A service name is, if it is one. The attributes of an instance are a table and are read back as the
same table, in the order in which its document has them.
-/

namespace GatedRollout

open Wire

variable {α : Type}

/-! ## Plain values -/

instance : Exact String := ⟨fun _ => Codec.readsBack_plain rfl⟩

instance : NeverNull String := ⟨rfl⟩

instance : Exact Bool := ⟨fun _ => Codec.readsBack_plain rfl⟩

instance : Exact UInt16 where
  readsBack n := by
    have hrange : 0 ≤ (n.toNat : Int) ∧ (n.toNat : Int) < UInt16.size :=
      ⟨Int.natCast_nonneg _, Int.ofNat_lt.mpr n.toNat_lt_size⟩
    refine Codec.readsBack_plain ?_
    simp only [Json.ofNat, if_pos hrange, Int.toNat_natCast, UInt16.ofNat_toNat]

instance : NeverNull UInt16 := ⟨rfl⟩

instance : Exact UInt32 where
  readsBack n := by
    have hrange : 0 ≤ (n.toNat : Int) ∧ (n.toNat : Int) < UInt32.size :=
      ⟨Int.natCast_nonneg _, Int.ofNat_lt.mpr n.toNat_lt_size⟩
    refine Codec.readsBack_plain ?_
    simp only [Json.ofNat, if_pos hrange, Int.toNat_natCast, UInt32.ofNat_toNat]

instance : NeverNull UInt32 := ⟨rfl⟩

instance : Exact Int32 where
  readsBack n := by
    refine Codec.readsBack_plain ?_
    simp only [if_pos (And.intro n.minValue_le_toInt n.toInt_le), Int32.ofInt_toInt]

instance : NeverNull Int32 := ⟨rfl⟩

instance {kind : ResourceKind} : Exact (Arn kind) := ⟨fun _ => Codec.readsBack_plain rfl⟩

instance {kind : ResourceKind} : NeverNull (Arn kind) := ⟨rfl⟩

/-! ## Choices -/

theorem Codec.readsBack_choice {all : List α} {name : α → String} {a : α}
    (h : (all.find? fun b => name b == name a) = some a) :
    (Codec.choice all name).ReadsBack a (· = a) :=
  Codec.readsBack_plain h

theorem Codec.readsBack_choiceOr (other : α) {all : List α} {name : α → String} {a : α}
    (h : (all.find? fun b => name b == name a) = some a) :
    (Codec.choiceOr other all name).ReadsBack a (· = a) := by
  refine Codec.readsBack_plain ?_
  simp only [Json.choice?, Option.map_some, h, Option.getD_some]

instance : Exact TaskStatus := ⟨fun s => Codec.readsBack_choiceOr _ (by cases s <;> rfl)⟩

instance : Exact HealthStatus := ⟨fun s => Codec.readsBack_choiceOr _ (by cases s <;> rfl)⟩

instance : Exact ServiceStatus := ⟨fun s => Codec.readsBack_choice (by cases s <;> rfl)⟩

instance : Exact LaunchType := ⟨fun t => Codec.readsBack_choice (by cases t <;> rfl)⟩

instance : NeverNull LaunchType := ⟨rfl⟩

instance : Exact TargetHealthState := ⟨fun s => Codec.readsBack_choice (by cases s <;> rfl)⟩

instance : Exact HealthFilter := ⟨fun f => Codec.readsBack_choice (by cases f <;> rfl)⟩

instance : Exact CustomHealthStatus := ⟨fun s => Codec.readsBack_choice (by cases s <;> rfl)⟩

/-! ## Tasks and task definitions -/

instance : Exact PortMapping := .of_record rfl (by decide) fun _ => rfl

instance : Exact ContainerHealthCheck := .of_record rfl (by decide) fun _ => rfl

instance : NeverNull ContainerHealthCheck := ⟨rfl⟩

instance : Exact ContainerDefinition := .of_record rfl (by decide) fun _ => rfl

instance : Exact TaskDefinition := .of_record rfl (by decide) fun _ => rfl

instance : Exact NetworkBinding := .of_record rfl (by decide) fun _ => rfl

instance : Exact ContainerState := .of_record rfl (by decide) fun _ => rfl

instance : Exact NetworkAttachment := .of_record rfl (by decide) fun _ => rfl

instance : NeverNull NetworkAttachment := ⟨rfl⟩

instance : Exact Task := .of_record rfl (by decide) fun _ => rfl

instance : Exact ContainerInstance := .of_record rfl (by decide) fun _ => rfl

instance : Exact ContainerOverride := .of_record rfl (by decide) fun _ => rfl

/-! ## Services -/

instance : Exact LoadBalancer := .of_record rfl (by decide) fun _ => rfl

instance : Exact ServiceRegistry := .of_record rfl (by decide) fun _ => rfl

instance : Exact NetworkConfiguration := .of_record rfl (by decide) fun _ => rfl

instance : NeverNull NetworkConfiguration := ⟨rfl⟩

instance : Exact ServiceConnectConfiguration := .of_record rfl (by decide) fun _ => rfl

instance : NeverNull ServiceConnectConfiguration := ⟨rfl⟩

instance : Exact VolumeConfiguration := .of_record rfl (by decide) fun _ => rfl

instance : Exact ServiceDeployment := .of_record rfl (by decide) fun _ => rfl

/-! ## Targets and discovery -/

instance : Exact TargetHealth := .of_record rfl (by decide) fun _ => rfl

instance : Exact TargetDescription := .of_record rfl (by decide) fun _ => rfl

instance : Exact Subnet := .of_record rfl (by decide) fun _ => rfl

instance : Exact Ec2Instance := .of_record rfl (by decide) fun _ => rfl

instance : Exact DiscoveryService := .of_record rfl (by decide) fun _ => rfl

instance : Exact Namespace := .of_record rfl (by decide) fun _ => rfl

/-! ## Services by name -/

theorem readsBack_serviceName {name : ServiceName} (h : name.isValid = true) :
    (codec : Codec ServiceName).ReadsBack name (· = name) := by
  refine Codec.readsBack_plain ?_
  simp only [Json.text?, Option.bind_some, ServiceName.isValid_iff.mp h]
  rfl

theorem readsBack_serviceDefinition {d : ServiceDefinition} (h : d.serviceName.isValid = true) :
    (codec : Codec ServiceDefinition).ReadsBack d (· = d) :=
  .record (by decide) (Fields.readsBack_member (readsBack_serviceName h) ..)

theorem readsBack_service {s : Service} (h : s.serviceName.isValid = true) :
    (codec : Codec Service).ReadsBack s (· = s) :=
  .record (by decide) (Fields.readsBack_member (readsBack_serviceName h) ..)

/-! ## Tables -/

theorem readsBack_discoveredInstance (i : DiscoveredInstance) :
    (codec : Codec DiscoveredInstance).ReadsBack i fun i' =>
      i'.instanceId = i.instanceId ∧ i'.attributes.Perm i.attributes := by
  refine .record (by decide) ⟨(· = i.instanceId), rfl, Exact.readsBack i.instanceId, ?_⟩
  intro instanceId hid
  refine ⟨(·.Perm i.attributes), .refl _, Codec.readsBack_table i.attributes, ?_⟩
  intro attributes hattributes
  exact ⟨hid, hattributes⟩

end GatedRollout
