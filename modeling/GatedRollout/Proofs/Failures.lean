import GatedRollout.Proofs.Creation
import GatedRollout.Proofs.Naming.Transit
import GatedRollout.Proofs.Process.Failing
import GatedRollout.Proofs.Wait.Failing

/-!
# What the kinds of failures tell

A recreation and a creation fail with their last step, or because a service did not settle after a
change. The kind of the error tells which: a request was refused, a pause was cut short, or the
limit of a wait was used up or its service was gone.
-/

namespace GatedRollout

variable {S σ ε α β : Type}

/-! ## Services that do not settle -/

/-- Since a world, a change was accepted, and from then on nothing was asked for but one service,
until the limit was used up or this service was not reported or reported as inactive. -/
inductive Unsettled (engine : Engine) (env : Environment controlPlane S) (actor : Option Nat)
    (w w' : World controlPlane S) : Prop
  | intro {v : World controlPlane S} {change : ControlPlane.Request}
      {answer : controlPlane.Reply change} {name : ServiceName} (follows : v.Follows w)
      (changes : change.isRead = false)
      (accepted : v.Tells (ι := controlPlane) env actor change (.ok answer))
      (waited : engine.Waited (engine.limit .serviceStable) actor name
        (v.told (ι := controlPlane) env actor change (.ok answer)) w')

theorem Unsettled.later {engine : Engine} {env : Environment controlPlane S} {actor : Option Nat}
    {w v w' : World controlPlane S} (hfollows : v.Follows w)
    (h : Unsettled engine env actor v w') : Unsettled engine env actor w w' := by
  obtain ⟨hv, hchanges, haccepted, hwaited⟩ := h
  exact ⟨hfollows.trans hv, hchanges, haccepted, hwaited⟩

section Timeouts

variable (engine : Engine) (env : Environment controlPlane S) (token : Token)
  (actor : Option Nat) (timesOut : ε → Prop)

/-- The attempt fails with a timeout only if a service did not settle. -/
def Attempt.FailsUnsettled (m : Activity σ ε α) : Prop :=
  m.Fails env token actor fun e w w' => timesOut e → Unsettled engine env actor w w'

/-- The attempt, which waits for this service, fails with a timeout only if it waited in vain. -/
def Attempt.FailsWaiting (name : ServiceName) (m : Activity σ ε α) : Prop :=
  m.Fails env token actor fun e w w' => timesOut e →
    engine.Waited (engine.limit .serviceStable) actor name w w'

namespace Attempt.FailsUnsettled

variable {engine env token actor timesOut}

theorem bind {m : Activity σ ε α} {f : α → Activity σ ε β}
    (h : m.FailsUnsettled engine env token actor timesOut)
    (next : ∀ a, (f a).FailsUnsettled engine env token actor timesOut) :
    (m >>= f).FailsUnsettled engine env token actor timesOut :=
  Fails.bind h next fun hfollows hv htimesOut => (hv htimesOut).later hfollows

/-- A change, and the wait for the service to settle. -/
theorem change {r : ControlPlane.Request} {fault : ClientError → ε} {confirm : Activity σ ε α}
    {name : ServiceName} (hchanges : r.isRead = false) (hfault : ∀ e, ¬timesOut (fault e))
    (hconfirm : confirm.FailsWaiting engine env token actor timesOut name) :
    (Attempt.ask (ι := controlPlane) r fault >>= fun _ => confirm).FailsUnsettled engine env token
      actor timesOut := by
  intro s w e t w' hrun htimesOut
  obtain ⟨answer, htells, hrest⟩ := run_call_returned_iff.mp hrun
  cases answer with
  | error refusal =>
      -- Nothing was waited for, and the refusal of a change is no timeout.
      cases hrest
      exact absurd htimesOut (hfault refusal)
  | ok answer => exact ⟨.refl w, hchanges, htells, hconfirm _ _ _ _ _ hrest htimesOut⟩

end Attempt.FailsUnsettled

end Timeouts

/-! ## Recreations -/

/-- The step that a failed recreation is blamed on. -/
def RecreateError.blame : RecreateError → Turnout
  | .describe _ _ => .refused
  | .notFound _ => .fine
  | .inactive _ => .fine
  | .mutate _ _ _ => .refused
  | .settle _ _ e => e.blame

namespace RecreateError

theorem kind_controlPlane_iff (e : RecreateError) :
    e.kind = .controlPlane ↔ e.blame = .refused := by
  cases e with
  | settle step name e => cases e <;> simp [kind, blame, WaitError.blame]
  | _ => simp [kind, blame]

theorem kind_cancelled_iff (e : RecreateError) : e.kind = .cancelled ↔ e.blame = .cut := by
  cases e with
  | settle step name e => cases e <;> simp [kind, blame, WaitError.blame]
  | _ => simp [kind, blame]

theorem blame_of_timeout {step : RecreateStep} {name : ServiceName} {e : WaitError}
    (h : (settle step name e).kind = .timeout) : e.blame = .fine := by
  cases e <;> simp_all [kind, WaitError.blame]

end RecreateError

namespace Recreation

variable (recreation : Recreation)

/-! ### Last steps -/

theorem blames_record (step : RecreateStep) (name : ServiceName) (count : UInt32) :
    (record step name count).Blames RecreateError.blame := .modify _

theorem blames_confirmStable (step : RecreateStep) (name : ServiceName) (count : UInt32) :
    (recreation.confirmStable step name count).Blames RecreateError.blame :=
  .bind (.within (recreation.engine.blames_serviceStable _ _) fun _ => rfl) fun _ =>
    .bind (blames_record _ _ _) fun _ => .pure _

theorem blames_create (step : RecreateStep) (name : ServiceName) :
    (recreation.create step name).Blames RecreateError.blame :=
  .bind (.ask fun _ => rfl) fun _ => recreation.blames_confirmStable _ _ _

theorem blames_scale (step : RecreateStep) (name : ServiceName) (count : UInt32) :
    (recreation.scale step name count).Blames RecreateError.blame :=
  .bind (.ask fun _ => rfl) fun _ => recreation.blames_confirmStable _ _ _

theorem blames_delete (step : RecreateStep) (name : ServiceName) :
    (recreation.delete step name).Blames RecreateError.blame :=
  .bind (.ask fun _ => rfl) fun _ =>
    .bind (.within (recreation.engine.blames_serviceInactive _ _) fun _ => rfl) fun _ =>
      blames_record _ _ _

theorem blames_transition (old transit : ServiceName) (count : UInt32) :
    (recreation.transition old transit count).Blames RecreateError.blame :=
  .bind (recreation.blames_create _ _) fun _ =>
    .bind (recreation.blames_scale _ _ _) fun _ =>
      .bind (recreation.blames_scale _ _ _) fun _ =>
        .bind (recreation.blames_delete _ _) fun _ =>
          .bind (recreation.blames_create _ _) fun _ =>
            .bind (recreation.blames_scale _ _ _) fun _ =>
              .bind (recreation.blames_scale _ _ _) fun _ =>
                .bind (recreation.blames_delete _ _) fun _ => .pure _

theorem judgeOld_error {name : ServiceName} {found : Option Service} {e : RecreateError}
    (h : judgeOld name found = .error e) : e = .notFound name ∨ e = .inactive name := by
  cases found with
  | none =>
      cases h
      exact .inl rfl
  | some service =>
      rw [judgeOld] at h
      split at h <;> cases h
      exact .inr rfl

theorem blames_recreate : recreation.recreate.Blames RecreateError.blame := by
  refine .bind (.modify _) fun _ => .bind (.ask fun _ => rfl) fun found => ?_
  refine .bind (.known fun e he => ?_) fun old => .bind .now fun now => ?_
  · rcases judgeOld_error he with rfl | rfl <;> rfl
  · exact .bind (recreation.blames_transition _ _ _) fun _ => .bind .state fun _ => .pure _

/-! ### Timeouts -/

/-- The error is a timeout. -/
def TimesOut (e : RecreateError) : Prop := e.kind = .timeout

variable (env : Environment controlPlane S) (token : Token) (actor : Option Nat)

theorem fails_record (step : RecreateStep) (name : ServiceName) (count : UInt32) :
    (record step name count).Fails env token actor fun _ _ _ => False := .lift _

theorem fails_confirmStable (step : RecreateStep) (name : ServiceName) (count : UInt32) :
    (recreation.confirmStable step name count).FailsWaiting recreation.engine env token actor
      TimesOut name := by
  refine .bind_sure (.within ?_) fun _ => .bind (fails_record _ _ _ _ _ _) (fun _ => .done _)
    fun _ h => h
  intro s w e t w' hrun htimesOut
  exact recreation.engine.serviceStable_waited name _ (RecreateError.blame_of_timeout htimesOut)
    hrun

theorem fails_confirmInactive (step : RecreateStep) (name : ServiceName) :
    (recreation.confirmInactive step name).FailsWaiting recreation.engine env token actor TimesOut
      name := by
  refine .bind_sure (.within ?_) fun _ => fails_record _ _ _ _ _ _
  intro s w e t w' hrun htimesOut
  exact recreation.engine.serviceInactive_waited name _ (RecreateError.blame_of_timeout htimesOut)
    hrun

theorem fails_create (step : RecreateStep) (name : ServiceName) :
    (recreation.create step name).FailsUnsettled recreation.engine env token actor TimesOut :=
  .change rfl (fun _ => nofun) (recreation.fails_confirmStable env token actor _ _ _)

theorem fails_scale (step : RecreateStep) (name : ServiceName) (count : UInt32) :
    (recreation.scale step name count).FailsUnsettled recreation.engine env token actor TimesOut :=
  .change rfl (fun _ => nofun) (recreation.fails_confirmStable env token actor _ _ _)

theorem fails_delete (step : RecreateStep) (name : ServiceName) :
    (recreation.delete step name).FailsUnsettled recreation.engine env token actor TimesOut :=
  .change rfl (fun _ => nofun) (recreation.fails_confirmInactive env token actor _ _)

theorem fails_transition (old transit : ServiceName) (count : UInt32) :
    (recreation.transition old transit count).FailsUnsettled recreation.engine env token actor
      TimesOut :=
  .bind (recreation.fails_create _ _ _ _ _) fun _ =>
    .bind (recreation.fails_scale _ _ _ _ _ _) fun _ =>
      .bind (recreation.fails_scale _ _ _ _ _ _) fun _ =>
        .bind (recreation.fails_delete _ _ _ _ _) fun _ =>
          .bind (recreation.fails_create _ _ _ _ _) fun _ =>
            .bind (recreation.fails_scale _ _ _ _ _ _) fun _ =>
              .bind (recreation.fails_scale _ _ _ _ _ _) fun _ =>
                .bind (recreation.fails_delete _ _ _ _ _) fun _ => .done _

theorem fails_recreate : recreation.recreate.FailsUnsettled recreation.engine env token actor
    TimesOut := by
  refine .bind (.lift _) fun _ => .bind (.ask fun _ _ hkind => nomatch hkind) fun found => ?_
  refine .bind (.known fun e w he hkind => ?_) fun old => ?_
  · rcases judgeOld_error he with rfl | rfl <;> cases hkind
  refine .bind (.lift _) fun now => .bind (recreation.fails_transition env token actor _ _ _) ?_
  exact fun service => .bind (.lift _) fun _ => .done _

end Recreation

/-! ## Creations -/

/-- The step that a failed creation is blamed on. -/
def CreationError.blame : CreationError → Turnout
  | .lookup _ _ => .refused
  | .alreadyExists _ => .fine
  | .create _ _ => .refused
  | .stabilize _ e => e.blame

/-- The service was created, and a read of it was refused. -/
def CreationError.ReadRefused (e : CreationError) : Prop :=
  ∃ name refusal, e = .stabilize name (.client refusal)

namespace CreationError

theorem kind_cancelled_iff (e : CreationError) : e.kind = .cancelled ↔ e.blame = .cut := by
  cases e with
  | stabilize name e => cases e <;> simp [kind, blame, WaitError.blame, WaitError.isCancelled]
  | _ => simp [kind, blame]

theorem blame_of_controlPlane (e : CreationError) (h : e.kind = .controlPlane) :
    e.blame = .refused := by
  cases e with
  | stabilize name e => cases e <;> cases h
  | alreadyExists name => cases h
  | _ => rfl

theorem kind_of_refused (e : CreationError) (hread : ¬e.ReadRefused) (h : e.blame = .refused) :
    e.kind = .controlPlane := by
  cases e with
  | stabilize name e =>
      cases e with
      | client refusal => exact absurd ⟨name, refusal, rfl⟩ hread
      | _ => cases h
  | alreadyExists name => cases h
  | _ => rfl

theorem blame_of_timeout {name : ServiceName} {e : WaitError}
    (h : (stabilize name e).kind = .timeout) (hread : ¬(stabilize name e).ReadRefused) :
    e.blame = .fine := by
  cases e with
  | client refusal => exact absurd ⟨name, refusal, rfl⟩ hread
  | cancelled => cases h
  | _ => rfl

end CreationError

namespace Creation

variable (creation : Creation)

theorem blames_create :
    (creation.create : Activity σ CreationError Service).Blames CreationError.blame := by
  refine .bind (.ask fun _ => rfl) fun existing => ?_
  dsimp only
  split
  · rfl
  · refine .bind (.ask fun _ => rfl) fun _ => ?_
    exact .within (creation.engine.blames_serviceStable _ _) fun _ => rfl

/-- The error is a timeout, and not that of a read that was refused. -/
def TimesOut (e : CreationError) : Prop := e.kind = .timeout ∧ ¬e.ReadRefused

variable (env : Environment controlPlane S) (token : Token) (actor : Option Nat)

theorem fails_settle : (creation.settle : Activity σ CreationError Service).FailsWaiting
    creation.engine env token actor TimesOut creation.definition.serviceName := by
  refine .within ?_
  intro s w e t w' hrun htimesOut
  exact creation.engine.serviceStable_waited _ _
    (CreationError.blame_of_timeout htimesOut.1 htimesOut.2) hrun

theorem fails_create : (creation.create : Activity σ CreationError Service).FailsUnsettled
    creation.engine env token actor TimesOut := by
  refine .bind (.ask fun _ _ htimesOut => nomatch htimesOut.1) fun existing => ?_
  dsimp only
  split
  · intro s w e t w' hrun htimesOut
    cases hrun
    cases htimesOut.1
  · exact .change rfl (fun _ htimesOut => nomatch htimesOut.1)
      (creation.fails_settle env token actor)

end Creation

/-! ## Both -/

/-- A failure is of the control plane if and only if a request was refused last, is a cancellation
if and only if a pause was cut short last, and is a timeout only if a service did not settle after
a change. Nothing is said of whether a read that is refused after a creation makes for a failure of
the control plane or for a timeout. -/
theorem kinds_tell_causes (env : Environment controlPlane S) (token : Token) (actor : Option Nat)
    (w : World controlPlane S) :
    (∀ (recreation : Recreation) (before : Recreation.Steps) (e : RecreateError),
      let out := run env token actor recreation.recreate.run before w
      let last := lastTurnout env token actor recreation.recreate.run before w .fine
      out.ending = .returned (.error e) → last.Shows token actor out.world ∧
        (e.kind = .controlPlane ↔ last = .refused) ∧ (e.kind = .cancelled ↔ last = .cut) ∧
          (e.kind = .timeout → Unsettled recreation.engine env actor w out.world)) ∧
      ∀ (creation : Creation) (s : σ) (e : CreationError),
        let out := run env token actor creation.create.run s w
        let last := lastTurnout env token actor creation.create.run s w .fine
        out.ending = .returned (.error e) → last.Shows token actor out.world ∧
          (e.kind = .controlPlane → last = .refused) ∧ (e.kind = .cancelled ↔ last = .cut) ∧
            (¬e.ReadRefused → (last = .refused → e.kind = .controlPlane) ∧
              (e.kind = .timeout → Unsettled creation.engine env actor w out.world)) := by
  constructor
  · intro recreation before e out last hending
    have hout : run env token actor recreation.recreate.run before w =
        ⟨.returned (.error e), out.state, out.world⟩ := by rw [← hending]
    have hlast : last = e.blame := recreation.blames_recreate.run hout
    refine ⟨shows_lastTurnout .fine trivial hout, ?_⟩
    rw [hlast]
    exact ⟨e.kind_controlPlane_iff, e.kind_cancelled_iff,
      recreation.fails_recreate env token actor _ _ _ _ _ hout⟩
  · intro creation s e out last hending
    have hout : run env token actor creation.create.run s w =
        ⟨.returned (.error e), out.state, out.world⟩ := by rw [← hending]
    have hlast : last = e.blame := creation.blames_create.run hout
    refine ⟨shows_lastTurnout .fine trivial hout, ?_⟩
    rw [hlast]
    refine ⟨e.blame_of_controlPlane, e.kind_cancelled_iff, fun hread => ⟨?_, fun hkind => ?_⟩⟩
    · exact e.kind_of_refused hread
    · exact creation.fails_create env token actor _ _ _ _ _ hout ⟨hkind, hread⟩

/-! ### A control plane that is told what to report -/

/-- What a control plane is to answer the reads of a service with. -/
abbrev Answers := List (Except ClientError (Option Service))

/-- A control plane that creates what is asked for, and answers its reads from a list. -/
def reporting : Environment controlPlane Answers where
  react answers _ r :=
    (⟨.zero, false, 0, .answer
      (match r with
        | .describeService _ _ => answers.headD (.ok none)
        | .createService _ => .ok ()
        | _ => .error (.rejected "request" "not expected"))⟩,
      match r with
      | .describeService _ _ => answers.tail
      | _ => answers)
  wake answers _ := (⟨false, 0⟩, answers)

/-- The transit service is gone once it is created. -/
def vanishing : World controlPlane Answers :=
  .start default false [.ok (Recreation.resting ⟨"api"⟩ 3), .ok none]

/-- A service that is created goes on draining, and the token has fired. -/
def draining : World controlPlane Answers :=
  .start default true [.ok none, .ok ((Recreation.resting ⟨"api"⟩ 1).map fun service =>
    { service with status := .draining })]

/-- A service is created, and cannot be read any more. -/
def throttled : World controlPlane Answers :=
  .start default false [.ok none, .error (.rejected "describe_service" "too many requests")]

theorem kinds_tell_causes_sample :
    let recreation := Recreation.sampleOf ⟨"api"⟩
    let creation := Creation.sampleOf ⟨"api"⟩
    let recreated := run reporting .caller none recreation.recreate.run [] vanishing
    let created := run reporting .caller none creation.create.run () draining
    (∃ e, recreated.ending = .returned (.error e) ∧ e.kind = .timeout ∧
      Unsettled recreation.engine reporting none vanishing recreated.world) ∧
      ∃ e, created.ending = .returned (.error e) ∧ e.kind = .cancelled ∧
        lastTurnout reporting .caller none creation.create.run () draining .fine = .cut := by
  intro recreation creation recreated created
  constructor
  · refine ⟨_, rfl, rfl, ?_⟩
    obtain ⟨hrecreations, -⟩ := kinds_tell_causes (σ := Unit) reporting .caller none vanishing
    exact (hrecreations recreation [] _ rfl).2.2.2 rfl
  · refine ⟨_, rfl, rfl, ?_⟩
    obtain ⟨-, hcreations⟩ := kinds_tell_causes reporting .caller none draining
    exact (hcreations creation () _ rfl).2.2.1.mp rfl

/-- A service that is gone makes for a timeout before any time has passed, and so does, after a
creation, a read that is refused. -/
theorem kinds_blur_causes :
    let recreation := Recreation.sampleOf ⟨"api"⟩
    let creation := Creation.sampleOf ⟨"api"⟩
    let recreated := run reporting .caller none recreation.recreate.run [] vanishing
    let created := run reporting .caller none creation.create.run () throttled
    (∃ e, recreated.ending = .returned (.error e) ∧ e.kind = .timeout ∧
      recreated.world.clock = vanishing.clock ∧
        0 < (recreation.engine.limit .serviceStable).nanos) ∧
      ∃ e, created.ending = .returned (.error e) ∧ e.kind = .timeout ∧
        lastTurnout reporting .caller none creation.create.run () throttled .fine = .refused := by
  intro recreation creation recreated created
  exact ⟨⟨_, rfl, rfl, rfl, by decide⟩, _, rfl, rfl, rfl⟩

end GatedRollout
