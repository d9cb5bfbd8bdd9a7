import GatedRollout.Creation
import GatedRollout.Proofs.Canary.Requests
import GatedRollout.Proofs.Recreate.Confirmation
import GatedRollout.Proofs.Wait.ServiceReads

/-!
# Creating a service that is not there

A service is created if and only if it was read as absent or inactive, and the creation is the only
change. It succeeds with the first read after the creation that decides the matter, if this shows
the service stable.
-/

namespace GatedRollout.Creation

open Engine (GoneOrInactive)
open Recreation (resting retelling)

variable {S σ : Type} (creation : Creation) (env : Environment controlPlane S) (token : Token)
  (actor : Option Nat) (s : σ) (w : World controlPlane S)

/-- The request that reads the service, before its creation and after. -/
def lookup : ControlPlane.Request :=
  creation.engine.serviceRead creation.definition.serviceName

/-- The wait that follows the creation. -/
def settle : Activity σ CreationError Service :=
  (creation.engine.serviceStable creation.definition.serviceName
    (creation.engine.limit .serviceStable)).within
      (CreationError.stabilize creation.definition.serviceName)

variable {creation env token actor s w}

/-! ## After the lookup -/

theorem any_live_iff {reply : Option Service} :
    reply.any (!·.isInactive) = false ↔ GoneOrInactive reply := by
  cases reply <;> simp [GoneOrInactive, Service.isInactive]

theorem run_create_failed {e : ClientError}
    (h : w.Tells (ι := controlPlane) env actor creation.lookup (.error e)) :
    run env token actor creation.create.run s w =
      ⟨.returned (.error (.lookup creation.definition.serviceName e)), s,
        w.told (ι := controlPlane) env actor creation.lookup (.error e)⟩ :=
  run_call_told h

theorem run_create_present {reply : Option Service}
    (h : w.Tells (ι := controlPlane) env actor creation.lookup (.ok reply))
    (hpresent : ¬GoneOrInactive reply) :
    run env token actor creation.create.run s w =
      ⟨.returned (.error (.alreadyExists creation.definition.serviceName)), s,
        w.told (ι := controlPlane) env actor creation.lookup (.ok reply)⟩ := by
  have hlive : reply.any (!·.isInactive) = true :=
    eq_true_of_ne_false (mt any_live_iff.mp hpresent)
  refine (run_call_told h).trans ?_
  show run env token actor (if reply.any (!·.isInactive) then _ else _ :
    Activity σ CreationError Service).run s _ = _
  rw [if_pos hlive]
  rfl

theorem run_create_absent {reply : Option Service}
    (h : w.Tells (ι := controlPlane) env actor creation.lookup (.ok reply))
    (habsent : GoneOrInactive reply) :
    run env token actor creation.create.run s w =
      run env token actor
        (Attempt.ask (ι := controlPlane) (.createService creation.request)
          (CreationError.create creation.definition.serviceName) >>= fun _ =>
            creation.settle).run s
        (w.told (ι := controlPlane) env actor creation.lookup (.ok reply)) := by
  have hfree := any_live_iff.mpr habsent
  refine (run_call_told h).trans ?_
  show run env token actor (if reply.any (!·.isInactive) then _ else _ :
    Activity σ CreationError Service).run s _ = _
  rw [if_neg (by simp [hfree])]
  rfl

/-! ## After the creation -/

/-- The creation is refused, or what is returned is what the wait after it comes to. -/
theorem run_create_absent_returned_iff {reply : Option Service}
    {result : Except CreationError Service} {t : σ} {w' : World controlPlane S}
    (h : w.Tells (ι := controlPlane) env actor creation.lookup (.ok reply))
    (habsent : GoneOrInactive reply) :
    let asked := w.told (ι := controlPlane) env actor creation.lookup (.ok reply)
    let accepted := asked.told (ι := controlPlane) env actor (.createService creation.request)
      (.ok ())
    run env token actor creation.create.run s w = ⟨.returned result, t, w'⟩ ↔
      (∃ e, asked.Tells (ι := controlPlane) env actor (.createService creation.request) (.error e) ∧
        result = .error (.create creation.definition.serviceName e) ∧ t = s ∧
          w' = asked.told (ι := controlPlane) env actor (.createService creation.request)
            (.error e)) ∨
      asked.Tells (ι := controlPlane) env actor (.createService creation.request) (.ok ()) ∧
        ∃ inner, run env token actor (creation.engine.serviceStable
            creation.definition.serviceName (creation.engine.limit .serviceStable)).run s
              accepted = ⟨.returned inner, t, w'⟩ ∧
          result = inner.mapError (.stabilize creation.definition.serviceName) := by
  intro asked accepted
  rw [run_create_absent h habsent]
  refine run_call_returned_iff.trans ⟨?_, ?_⟩
  · rintro ⟨answer, htells, hrest⟩
    cases answer with
    | error e =>
        cases hrest
        exact .inl ⟨e, htells, rfl, rfl, rfl⟩
    | ok _ => exact .inr ⟨htells, run_within_returned_iff.mp hrest⟩
  · rintro (⟨e, htells, rfl, rfl, rfl⟩ | ⟨htells, hrest⟩)
    · exact ⟨.error e, htells, rfl⟩
    · exact ⟨.ok (), htells, run_within_returned_iff.mpr hrest⟩

/-! ## Requests -/

/-- The service is read as absent or inactive. -/
def Allowed (creation : Creation) (env : Environment controlPlane S) (actor : Option Nat)
    (w : World controlPlane S) (reply : Option Service) : Prop :=
  w.Tells (ι := controlPlane) env actor creation.lookup (.ok reply) ∧ GoneOrInactive reply

theorem requestsIn_create_of_allowed {reply : Option Service}
    (h : creation.Allowed env actor w reply) :
    ∃ reads, requestsIn ((run env token actor creation.create.run s w).world.since w) =
        creation.lookup :: .createService creation.request :: reads ∧
      ∀ r ∈ reads, r = creation.lookup := by
  let asked := w.told (ι := controlPlane) env actor creation.lookup (.ok reply)
  have hcreates : ∃ reads, requestsIn ((run env token actor
        (Attempt.ask (ι := controlPlane) (.createService creation.request)
          (CreationError.create creation.definition.serviceName) >>= fun _ =>
            creation.settle).run s asked).world.since asked) =
        .createService creation.request :: reads ∧ ∀ r ∈ reads, r = creation.lookup := by
    refine requestsIn_run_call (ι := controlPlane) fun answer _ => ?_
    cases answer with
    | error e => exact World.Concerns.refl _
    | ok _ =>
        have hsettle : (creation.settle (σ := σ)).run.Asks (· = creation.lookup) := by
          refine .within ?_ _
          exact creation.engine.conforms_await _ (by rfl)
        exact hsettle.run env token actor s (World.Concerns.refl _)
  obtain ⟨reads, hreads, hlookups⟩ := hcreates
  refine ⟨reads, ?_, hlookups⟩
  rw [run_create_absent h.1 h.2, (World.follows_told (ι := controlPlane) w env actor _
    _).requestsIn_trans (run_follows env token actor _ s asked), World.requestsIn_told, hreads]
  rfl

theorem requestsIn_create_of_not_allowed (h : ∀ reply, ¬creation.Allowed env actor w reply) :
    requestsIn ((run env token actor creation.create.run s w).world.since w) =
      [creation.lookup] := by
  by_cases hanswered : ∃ answer, w.Tells (ι := controlPlane) env actor creation.lookup answer
  · obtain ⟨answer, htells⟩ := hanswered
    cases answer with
    | error e => rw [run_create_failed htells, World.requestsIn_told]
    | ok reply =>
        rw [run_create_present htells fun habsent => h reply ⟨htells, habsent⟩,
          World.requestsIn_told]
  · exact requestsIn_run_unanswered (not_exists.mp hanswered) _ s

/-- A creation that fails before it asks for the service was not allowed. -/
theorem not_allowed_of_unasked {e : CreationError} {t : σ} {w' : World controlPlane S}
    (h : run env token actor creation.create.run s w = ⟨.returned (.error e), t, w'⟩)
    (hcreate : ∀ name e', e ≠ .create name e') (hstabilize : ∀ name e', e ≠ .stabilize name e') :
    ∀ reply, ¬creation.Allowed env actor w reply := by
  intro reply hallowed
  rcases (run_create_absent_returned_iff hallowed.1 hallowed.2).mp h with
    ⟨e', -, hresult, -⟩ | ⟨-, inner, -, hresult⟩
  · exact hcreate _ e' (Except.error.inj hresult)
  · cases inner with
    | ok service => cases hresult
    | error e' => exact hstabilize _ e' (Except.error.inj hresult)

/-! ## The service that is returned -/

/-- The service is read as absent or inactive, its creation is accepted, and this is the first read
after that which decides the wait. -/
inductive Observes (creation : Creation) (env : Environment controlPlane S) (token : Token)
    (actor : Option Nat) (w : World controlPlane S) (seen : Option Service) :
    World controlPlane S → Prop
  | intro {reply asked w'} (allowed : creation.Allowed env actor w reply)
      (looked : asked = w.told (ι := controlPlane) env actor creation.lookup (.ok reply))
      (accepted : asked.Tells (ι := controlPlane) env actor (.createService creation.request)
        (.ok ()))
      (first : creation.engine.FirstServiceRead env token actor creation.definition.serviceName
        (creation.engine.limit .serviceStable)
        (asked.told (ι := controlPlane) env actor (.createService creation.request) (.ok ())) seen
        w') : Observes creation env token actor w seen w'

theorem run_create_ok_iff {service : Service} {t : σ} {w' : World controlPlane S} :
    run env token actor creation.create.run s w = ⟨.returned (.ok service), t, w'⟩ ↔
      t = s ∧ Observes creation env token actor w (some service) w' ∧
        service.status = .active ∧ service.deployments.length = 1 ∧
          service.runningCount = service.desiredCount := by
  constructor
  · intro h
    obtain ⟨answer, htells, -⟩ := run_call_returned_iff.mp h
    cases answer with
    | error e =>
        rw [run_create_failed htells] at h
        cases h
    | ok reply =>
        by_cases habsent : GoneOrInactive reply
        · rcases (run_create_absent_returned_iff htells habsent).mp h with
            ⟨e, -, ⟨⟩, -⟩ | ⟨haccepted, inner, hinner, hresult⟩
          cases inner with
          | error e => cases hresult
          | ok found =>
              cases hresult
              obtain ⟨rfl, hstable, hfirst⟩ := (Engine.serviceStable_ok_iff _ _ _).mp hinner
              exact ⟨rfl, .intro ⟨htells, habsent⟩ rfl haccepted hfirst, hstable⟩
        · rw [run_create_present htells habsent] at h
          cases h
  · rintro ⟨rfl, ⟨⟨htells, habsent⟩, rfl, haccepted, hfirst⟩, hstable⟩
    refine (run_create_absent_returned_iff htells habsent).mpr
      (.inr ⟨haccepted, .ok service, ?_, rfl⟩)
    exact (Engine.serviceStable_ok_iff _ _ _).mpr ⟨rfl, hstable, hfirst⟩

/-- A service is created if and only if it is read as absent or inactive, once, with the cluster,
the task definition and the definition as they are given, and nothing else is changed. It is
returned if and only if the creation is accepted and the first read after it that does not show it
on its way shows it stable. -/
theorem create_guards_creation (creation : Creation) (env : Environment controlPlane S)
    (token : Token) (actor : Option Nat) (s : σ) (w : World controlPlane S) :
    let out := run env token actor creation.create.run s w
    let requests := requestsIn (out.world.since w)
    let creates : ControlPlane.Request := .createService
      ⟨creation.engine.cluster, creation.taskDefinition.arn, creation.definition⟩
    (creates ∈ requests ↔ ∃ reply, creation.Allowed env actor w reply) ∧
      (creates ∈ requests → ∃ reads, requests = creation.lookup :: creates :: reads ∧
        ∀ r ∈ reads, r = creation.lookup) ∧
      (creates ∉ requests → requests = [creation.lookup]) ∧
      (∀ name e, out.ending = .returned (.error (.lookup name e)) → creates ∉ requests) ∧
      (∀ name, out.ending = .returned (.error (.alreadyExists name)) → creates ∉ requests) ∧
      ∀ service, out.ending = .returned (.ok service) ↔
        (∃ w', Observes creation env token actor w (some service) w') ∧
          service.status = .active ∧ service.deployments.length = 1 ∧
            service.runningCount = service.desiredCount := by
  intro out requests creates
  have hcreates : (∃ reply, creation.Allowed env actor w reply) → ∃ reads,
      requests = creation.lookup :: creates :: reads ∧ ∀ r ∈ reads, r = creation.lookup :=
    fun ⟨_, hreply⟩ => requestsIn_create_of_allowed hreply
  have hnone : (∀ reply, ¬creation.Allowed env actor w reply) → requests = [creation.lookup] :=
    requestsIn_create_of_not_allowed
  have hmem : creates ∈ requests ↔ ∃ reply, creation.Allowed env actor w reply := by
    refine ⟨fun hin => ?_, fun hallowed => ?_⟩
    · by_contra hnot
      rw [hnone (not_exists.mp hnot)] at hin
      simp [creates, lookup, Engine.serviceRead] at hin
    · obtain ⟨reads, hreads, -⟩ := hcreates hallowed
      rw [hreads]
      exact List.mem_cons_of_mem _ List.mem_cons_self
  have hreturned : ∀ {result}, out.ending = .returned result →
      run env token actor creation.create.run s w = ⟨.returned result, out.state, out.world⟩ := by
    intro result hending
    rw [← hending]
  refine ⟨hmem, fun hin => hcreates (hmem.mp hin), fun hout => ?_, fun name e hending => ?_,
    fun name hending => ?_, fun service => ?_⟩
  · exact hnone (not_exists.mp (hmem.not.mp hout))
  · exact hmem.not.mpr (not_exists.mpr (not_allowed_of_unasked (hreturned hending) nofun nofun))
  · exact hmem.not.mpr (not_exists.mpr (not_allowed_of_unasked (hreturned hending) nofun nofun))
  · constructor
    · intro hending
      obtain ⟨-, hobserves, hstable⟩ := run_create_ok_iff.mp (hreturned hending)
      exact ⟨⟨_, hobserves⟩, hstable⟩
    · rintro ⟨⟨w', hobserves⟩, hstable⟩
      exact congrArg Aftermath.ending (run_create_ok_iff.mpr ⟨rfl, hobserves, hstable⟩)

/-- The creation of a service of this name. -/
def sampleOf (name : ServiceName) : Creation where
  engine := { config := { cluster := "prod", service := name }, patience := 0 }
  taskDefinition := { arn := ⟨"task-definition/api:2"⟩, family := "api" }
  definition := { serviceName := name }

/-- A service that is read as absent is created, and returned once it is read with its task. -/
theorem create_guards_creation_sample :
    let creation := sampleOf ⟨"api"⟩
    let w : World controlPlane (List (Option Service)) :=
      .start default false [none, resting ⟨"api"⟩ 1]
    let out := run retelling .caller none creation.create.run () w
    creation.Allowed retelling none w none ∧
      .createService creation.request ∈ requestsIn (out.world.since w) ∧
      ∃ service, resting ⟨"api"⟩ 1 = some service ∧ out.ending = .returned (.ok service) := by
  intro creation w out
  have hallowed : creation.Allowed retelling none w none := ⟨rfl, nofun⟩
  have hobserves : ∃ w', Observes creation retelling .caller none w (resting ⟨"api"⟩ 1) w' := by
    refine ⟨_, .intro hallowed rfl rfl (.here rfl ?_)⟩
    rintro _ ⟨⟩
    exact .inr ⟨rfl, rfl, rfl⟩
  obtain ⟨hcreates, -, -, -, -, hok⟩ :=
    create_guards_creation creation retelling .caller none () w
  exact ⟨hallowed, hcreates.mpr ⟨_, hallowed⟩, _, rfl, (hok _).mpr ⟨hobserves, rfl, rfl, rfl⟩⟩

end GatedRollout.Creation
