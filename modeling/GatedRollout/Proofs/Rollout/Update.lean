import GatedRollout.Proofs.Rollout.Cleanup

/-!
# The update of a rollout

A rollout updates the live service at most once, and only on evidence: before the update was
issued, each of its canaries has shown in the trace all that its strategy asks for, and none of
them was stopped or taken out of where it was registered.
-/

namespace GatedRollout.Rollout

open Canary

variable {S : Type} {rollout : Rollout} {scope : RolloutScope} {env : Environment controlPlane S}
  {progress : Progress} {w : World controlPlane S} {attachments : Attachments} {body : Body S}

/-! ## What is updated -/

/-- The update switches the service to the task definition, and carries what the pending definition
configures exactly if that is in the scope. -/
def Switches (rollout : Rollout) (scope : RolloutScope) (update : ControlPlane.ServiceUpdate) :
    Prop :=
  match scope with
  | .taskDefinition =>
      update =
        { cluster := rollout.engine.config.cluster
          service := rollout.engine.config.service
          taskDefinition := some rollout.taskDefinition.arn }
  | .configuration =>
      ∃ definition, rollout.pending = some definition ∧
        update =
          { cluster := rollout.engine.config.cluster
            service := rollout.engine.config.service
            taskDefinition := some rollout.taskDefinition.arn
            loadBalancers := some definition.loadBalancers
            networkConfiguration := definition.networkConfiguration
            serviceRegistries := some definition.serviceRegistries
            platformVersion := definition.platformVersion
            serviceConnectConfiguration := definition.serviceConnectConfiguration
            volumeConfigurations := some definition.volumeConfigurations }

theorem Borrows.switches {trace : Deeds} (h : rollout.Borrows scope attachments trace) :
    rollout.Switches scope (rollout.update scope) := by
  cases scope with
  | taskDefinition => rfl
  | configuration =>
      obtain ⟨definition, hpending, -⟩ := h
      refine ⟨definition, hpending, ?_⟩
      unfold update
      rw [hpending]
      rfl

/-! ## What is shown before -/

/-- What a trace shows of the canaries that verify a task definition with these attachments: each
has given its evidence, and nothing that any of them began was ended. -/
structure Evidenced (rollout : Rollout) (scope : RolloutScope) (attachments : Attachments)
    (trace : List (Entry controlPlane)) : Prop where
  borrowed : rollout.Borrows scope attachments (deedsOf none trace)
  unended : ∀ m ∈ marksOf trace, (∃ task, m = .launched task) ∨ ∃ place, m = .entered place
  /-- Each canary is a single task. -/
  single : ∀ i, ((marks (deedsOf (some i) trace)).filterMap Mark.launch?).length ≤ 1
  loadBalanced : ∀ i balancer, attachments.loadBalancers[i]? = some balancer →
    Evidence rollout.engine rollout.taskDefinition (.loadBalanced balancer)
      (deedsOf (some i) trace)
  discovered : attachments.loadBalancers = [] →
    ∀ i registry, attachments.serviceRegistries[i]? = some registry →
      Evidence rollout.engine rollout.taskDefinition (.registry registry) (deedsOf (some i) trace)
  alone : attachments.loadBalancers = [] → attachments.serviceRegistries = [] →
    Evidence rollout.engine rollout.taskDefinition .standalone (deedsOf (some 0) trace)
  /-- There is no other canary. -/
  complete : ∀ i, max 1 (if attachments.loadBalancers = [] then
    attachments.serviceRegistries.length else attachments.loadBalancers.length) ≤ i →
      deedsOf (some i) trace = []

theorem strategies_loadBalanced {i : Nat} {balancer : LoadBalancer}
    (h : attachments.loadBalancers[i]? = some balancer) :
    (Canary.strategies attachments)[i]? = some (.loadBalanced balancer) := by
  obtain ⟨balancers, registries, network, platform⟩ := attachments
  cases balancers with
  | nil => cases h
  | cons first rest =>
      show ((first :: rest).map Strategy.loadBalanced)[i]? = _
      rw [List.getElem?_map, h]
      rfl

theorem strategies_registry (hnone : attachments.loadBalancers = []) {i : Nat}
    {registry : ServiceRegistry} (h : attachments.serviceRegistries[i]? = some registry) :
    (Canary.strategies attachments)[i]? = some (.registry registry) := by
  obtain ⟨balancers, registries, network, platform⟩ := attachments
  obtain rfl : balancers = [] := hnone
  cases registries with
  | nil => cases h
  | cons first rest =>
      show ((first :: rest).map Strategy.registry)[i]? = _
      rw [List.getElem?_map, h]
      rfl

theorem strategies_standalone (hbalancers : attachments.loadBalancers = [])
    (hregistries : attachments.serviceRegistries = []) :
    (Canary.strategies attachments)[0]? = some .standalone := by
  unfold Canary.strategies
  rw [hbalancers, hregistries]
  rfl

theorem length_strategies (attachments : Attachments) :
    (Canary.strategies attachments).length = max 1 (if attachments.loadBalancers = [] then
      attachments.serviceRegistries.length else attachments.loadBalancers.length) := by
  obtain ⟨balancers, registries, network, platform⟩ := attachments
  cases balancers with
  | nil =>
      cases registries with
      | nil => rfl
      | cons registry rest => simp [Canary.strategies]
  | cons balancer rest => simp [Canary.strategies]

/-! ## The trace up to the update -/

section Split

variable {α : Type} {first last before after : List α} {a : α}

theorem split_of_notMem_first (h : first ++ last = before ++ a :: after) (ha : a ∉ first) :
    ∃ x, before = first ++ x ∧ last = x ++ a :: after := by
  rcases List.append_eq_append_iff.mp h with ⟨x, hbefore, hlast⟩ | ⟨x, hfirst, hafter⟩
  · exact ⟨x, hbefore, hlast⟩
  · cases x with
    | nil => exact ⟨[], by rw [hfirst, List.append_nil, List.append_nil], hafter.symm⟩
    | cons b rest =>
        obtain ⟨rfl, -⟩ := List.cons.inj hafter
        exact absurd (hfirst ▸ List.mem_append_right before List.mem_cons_self) ha

theorem split_of_notMem_last (h : first ++ last = before ++ a :: after) (ha : a ∉ last) :
    ∃ y, first = before ++ a :: y := by
  rcases List.append_eq_append_iff.mp h with ⟨x, -, hlast⟩ | ⟨x, hfirst, hafter⟩
  · exact absurd (hlast ▸ List.mem_append_right x List.mem_cons_self) ha
  · cases x with
    | nil =>
        rw [List.nil_append] at hafter
        exact absurd (hafter ▸ List.mem_cons_self) ha
    | cons b rest =>
        obtain ⟨rfl, -⟩ := List.cons.inj hafter
        exact ⟨rest, hfirst⟩

end Split

/-- What the world that a rollout ends in adds to that of its body: nothing of the rollout itself,
and of the canaries only what ends what they hold. -/
structure Ends (w : World controlPlane S) (body : Body S) (later : World controlPlane S) :
    Prop where
  follows : later.Follows body.world
  own : later.deeds none = body.world.deeds none
  canaries : ∀ i, ∃ (s : State) (z : Deeds), later.deeds (some i) = w.deeds (some i) ++ z ∧
    marks z <+: s.held ++ s.released

theorem Reaches.ends_body (h : rollout.Reaches scope env progress w attachments body) :
    Ends w body body.world := by
  refine ⟨World.Follows.refl _, rfl, fun i => ?_⟩
  obtain ⟨-, hothers, -⟩ := resolve_spec rollout scope env progress w
  by_cases hi : i < (Canary.strategies attachments).length
  · obtain ⟨s, y, -, hy, haccount⟩ := h.ran.accounts.each i _ (List.getElem?_eq_getElem hi)
    refine ⟨s, y, hy, ?_⟩
    rw [haccount.marks_eq]
    exact List.prefix_append _ _
  · have hsame := (h.ran.others i (Nat.le_of_not_lt hi)).trans (hothers i)
    exact ⟨.fresh .onDemand, [], hsame.trans (List.append_nil _).symm, List.nil_prefix⟩

theorem Reaches.ends_cleanUp (h : rollout.Reaches scope env progress w attachments body) :
    Ends w body (rollout.cleanUp env body).world := by
  refine ⟨h.cleanUp.follows, h.deeds_none, fun i => ?_⟩
  by_cases hi : i < (Canary.strategies attachments).length
  · obtain ⟨s, z, hz, hmarks, -⟩ := h.cleanUp.each i hi
    exact ⟨s, z, hz, hmarks⟩
  · have hsame := h.deeds_beyond (Nat.le_of_not_lt hi)
    exact ⟨.fresh .onDemand, [], hsame.trans (List.append_nil _).symm, List.nil_prefix⟩

/-- No canary updates the service. -/
theorem Ends.not_updated {later : World controlPlane S} (h : Ends w body later)
    (hfollows : later.Follows w) (i : Nat) (update : ControlPlane.ServiceUpdate) :
    .updated update ∉ marks (deedsOf (some i) (later.since w)) := by
  obtain ⟨s, z, hz, hmarks⟩ := h.canaries i
  rw [hfollows.deedsOf_since hz]
  intro hmem
  have hmem := hmarks.subset hmem
  simp [State.held, State.released] at hmem

/-! ## Evidence before the update -/

theorem Evidenced.append {trace : List (Entry controlPlane)}
    (h : rollout.Evidenced scope attachments trace) {quiet : List (Entry controlPlane)}
    (hcanaries : ∀ i, deedsOf (some i) quiet = []) (hown : marks (deedsOf none quiet) = []) :
    rollout.Evidenced scope attachments (trace ++ quiet) := by
  have hsame : ∀ i, deedsOf (some i) (trace ++ quiet) = deedsOf (some i) trace := fun i => by
    rw [deedsOf_append, hcanaries, List.append_nil]
  have hmarks : marksOf quiet = [] := by
    refine List.eq_nil_iff_forall_not_mem.mpr fun m hm => ?_
    obtain ⟨actor, hactor⟩ := exists_actor_of_mem hm
    cases actor with
    | none => simp [hown] at hactor
    | some i => simp [hcanaries] at hactor
  refine ⟨?_, ?_, ?_, ?_, ?_, ?_, ?_⟩
  · rw [deedsOf_append]
    exact h.borrowed.append _
  · intro m hm
    rw [marksOf_append, hmarks, List.append_nil] at hm
    exact h.unended m hm
  · simp only [hsame]
    exact h.single
  · simp only [hsame]
    exact h.loadBalanced
  · simp only [hsame]
    exact h.discovered
  · simp only [hsame]
    exact h.alone
  · simp only [hsame]
    exact h.complete

/-- The world in which the body of a rollout was ready for the update. -/
abbrev ReadyFor (rollout : Rollout) (scope : RolloutScope) (env : Environment controlPlane S)
    (progress : Progress) (w : World controlPlane S) (attachments : Attachments) (body : Body S)
    (ready : World controlPlane S) : Prop :=
  rollout.Ready scope (.canary rollout.engine rollout.taskDefinition attachments)
    (Canary.strategies attachments) (fun i => w.deeds (some i))
    (rollout.resolve env scope progress w).world ready body

section Ready

variable {ready : World controlPlane S}

theorem Ready.follows_start (h : rollout.ReadyFor scope env progress w attachments body ready) :
    ready.Follows w :=
  (resolve_spec rollout scope env progress w).1.trans h.follows

theorem Reaches.deedsOf_none (hreached : rollout.Reaches scope env progress w attachments body)
    (h : rollout.ReadyFor scope env progress w attachments body ready) :
    marks (deedsOf none (ready.since w)) = [] ∧
      rollout.Borrows scope attachments (deedsOf none (ready.since w)) := by
  obtain ⟨-, -, y, hy, hquiet, hborrows⟩ := resolve_spec rollout scope env progress w
  have hsame := World.deeds_none_of_others h.others
  rw [h.follows_start.deedsOf_since (hsame.trans hy)]
  exact ⟨hquiet, hborrows attachments hreached.resolved⟩

theorem Ready.verified_since (h : rollout.ReadyFor scope env progress w attachments body ready)
    {i : Nat} {strategy : Strategy} (hi : (Canary.strategies attachments)[i]? = some strategy) :
    ∃ s, Verified rollout.engine rollout.taskDefinition strategy () s
      (deedsOf (some i) (ready.since w)) := by
  obtain ⟨s, y, -, hy, hverified⟩ := h.verified.each i strategy hi
  rw [h.follows_start.deedsOf_since hy]
  exact ⟨s, hverified⟩

theorem Ready.nothing_beyond (h : rollout.ReadyFor scope env progress w attachments body ready)
    {i : Nat} (hi : (Canary.strategies attachments).length ≤ i) :
    deedsOf (some i) (ready.since w) = [] := by
  obtain ⟨-, hothers, -⟩ := resolve_spec rollout scope env progress w
  apply h.follows_start.deedsOf_since
  rw [World.deeds_some_of_others h.others hi, hothers, List.append_nil]

/-- Until then, no canary has ended anything, and each has launched one task at most. -/
theorem Ready.held_since (h : rollout.ReadyFor scope env progress w attachments body ready)
    (i : Nat) :
    deedsOf (some i) (ready.since w) = [] ∨
      ∃ s : State, marks (deedsOf (some i) (ready.since w)) = s.held := by
  by_cases hi : i < (Canary.strategies attachments).length
  · obtain ⟨s, haccount, -⟩ := h.verified_since (List.getElem?_eq_getElem hi)
    exact .inr ⟨s, haccount.marks_eq⟩
  · exact .inl (h.nothing_beyond (Nat.le_of_not_lt hi))

theorem Reaches.evidenced (hreached : rollout.Reaches scope env progress w attachments body)
    (h : rollout.ReadyFor scope env progress w attachments body ready) :
    rollout.Evidenced scope attachments (ready.since w) := by
  obtain ⟨hquiet, hborrows⟩ := hreached.deedsOf_none h
  have hevidence : ∀ {i strategy}, (Canary.strategies attachments)[i]? = some strategy →
      Evidence rollout.engine rollout.taskDefinition strategy
        (deedsOf (some i) (ready.since w)) := by
    intro i strategy hi
    obtain ⟨s, -, hevidence⟩ := h.verified_since hi
    exact hevidence
  refine ⟨hborrows, ?_, ?_, ?_, ?_, ?_, ?_⟩
  · intro m hm
    obtain ⟨actor, hactor⟩ := exists_actor_of_mem hm
    cases actor with
    | none => simp [hquiet] at hactor
    | some i =>
        rcases h.held_since i with hnone | ⟨s, hheld⟩
        · simp [hnone] at hactor
        · rw [hheld] at hactor
          rcases List.mem_append.mp hactor with hlaunched | hentered
          · obtain ⟨task, -, rfl⟩ := List.mem_map.mp hlaunched
            exact .inl ⟨task, rfl⟩
          · obtain ⟨r, -, rfl⟩ := List.mem_map.mp hentered
            exact .inr ⟨r.place, rfl⟩
  · intro i
    rcases h.held_since i with hnone | ⟨s, hheld⟩
    · simp [hnone]
    · rw [hheld, launches_held]
      exact Option.length_toList_le
  · exact fun i balancer hi => hevidence (strategies_loadBalanced hi)
  · exact fun hnone i registry hi => hevidence (strategies_registry hnone hi)
  · exact fun hbalancers hregistries =>
      hevidence (strategies_standalone hbalancers hregistries)
  · intro i hi
    exact h.nothing_beyond (length_strategies attachments ▸ hi)

end Ready

/-! ## The one update -/

section Update

variable {later : World controlPlane S} {before after : List (Entry controlPlane)} {time : Instant}
  {actor : Option Nat} {update : ControlPlane.ServiceUpdate}

theorem updated_mem {trace : List (Entry controlPlane)}
    (htrace : trace = before ++ ⟨time, actor, .issued (.updateService update)⟩ :: after) :
    .updated update ∈ marks (deedsOf actor trace) := by
  rw [htrace]
  exact mem_marks_deedsOf (e := ⟨time, actor, .issued (.updateService update)⟩)
    (List.mem_append_right _ List.mem_cons_self) rfl

/-- The rollout itself issues the update, and no other one before or after. -/
theorem Reaches.own_update (hreached : rollout.Reaches scope env progress w attachments body)
    (h : Ends w body later)
    (htrace : later.since w =
      before ++ ⟨time, actor, .issued (.updateService update)⟩ :: after) :
    actor = none ∧ update = rollout.update scope ∧ marks (deedsOf none before) = [] ∧
      marks (deedsOf none after) = [] := by
  have hfollows := hreached.follows.trans h.follows
  have hmem := updated_mem htrace
  cases actor with
  | some i => exact absurd hmem (h.not_updated hfollows i update)
  | none =>
      obtain ⟨y, hy, hmarks⟩ := hreached.own_marks
      have hdeeds := hfollows.deedsOf_since (h.own.trans hy)
      rw [← hdeeds] at hmarks
      rcases hmarks with hnone | hupdated
      · rw [hnone] at hmem
        cases hmem
      · have hcut : marks (deedsOf none before) ++ .updated update :: marks (deedsOf none after) =
            [.updated (rollout.update scope)] := by
          rw [← hupdated, htrace, deedsOf_append, marks_append]
          rfl
        rcases List.append_eq_singleton_iff.mp hcut with ⟨hbefore, hrest⟩ | ⟨-, hrest⟩
        · obtain ⟨hupdate, hafter⟩ := List.cons.inj hrest
          exact ⟨rfl, Mark.updated.inj hupdate, hbefore, hafter⟩
        · cases hrest

/-- A rollout that has issued the update was ready for it. -/
theorem Reaches.ready (hreached : rollout.Reaches scope env progress w attachments body)
    (h : Ends w body later) {update : ControlPlane.ServiceUpdate}
    (hmem : .updated update ∈ marks (deedsOf none (later.since w))) :
    ∃ ready, rollout.ReadyFor scope env progress w attachments body ready := by
  rcases hreached.ran.updates with hsame | hready
  · obtain ⟨-, -, y, hy, hquiet, -⟩ := resolve_spec rollout scope env progress w
    have hfollows := hreached.follows.trans h.follows
    rw [hfollows.deedsOf_since (h.own.trans (hsame.trans hy)), hquiet] at hmem
    cases hmem
  · exact hready

/-- All that happened before the update happened before the rollout was ready for it, except for
what neither the rollout nor a canary did. -/
theorem Ready.cut {ready : World controlPlane S}
    (h : rollout.ReadyFor scope env progress w attachments body ready)
    (hends : Ends w body later) {e : Entry controlPlane} (hactor : e.actor = none)
    (hupdate : mark? e.event = some (.updated update))
    (hquiet : marks (deedsOf none (ready.since w)) = [])
    (htrace : later.since w = before ++ e :: after) :
    ∃ x, before = ready.since w ++ x ∧ ∀ i, deedsOf (some i) x = [] := by
  rw [h.follows_start.since_trans (h.followed.trans hends.follows),
    h.followed.since_trans hends.follows] at htrace
  have hfirst : e ∉ ready.since w := fun he => by
    have hmem := mem_marks_deedsOf he hupdate
    rw [hactor, hquiet] at hmem
    cases hmem
  have hlast : e ∉ later.since body.world := fun he => by
    have hmem := mem_marks_deedsOf he hupdate
    rw [hactor, hends.follows.deedsOf_since (hends.own.trans (List.append_nil _).symm)] at hmem
    cases hmem
  obtain ⟨x, hx, hrest⟩ := split_of_notMem_first htrace hfirst
  obtain ⟨y, hy⟩ := split_of_notMem_last hrest hlast
  refine ⟨x, hx, fun i => ?_⟩
  have hnone := h.followed.deedsOf_since ((h.alone i).trans (List.append_nil _).symm)
  rw [hy, deedsOf_append] at hnone
  exact (List.append_eq_nil_iff.mp hnone).1

theorem Reaches.updates (hreached : rollout.Reaches scope env progress w attachments body)
    (h : Ends w body later)
    (htrace : later.since w =
      before ++ ⟨time, actor, .issued (.updateService update)⟩ :: after) :
    rollout.Switches scope update ∧
      (∀ e ∈ before ++ after, ∀ other, e.event ≠ .issued (.updateService other)) ∧
        rollout.Evidenced scope attachments before := by
  have hfollows := hreached.follows.trans h.follows
  obtain ⟨rfl, rfl, hbefore, hafter⟩ := hreached.own_update h htrace
  obtain ⟨ready, hready⟩ := hreached.ready h (updated_mem htrace)
  obtain ⟨hquiet, hborrows⟩ := hreached.deedsOf_none hready
  refine ⟨hborrows.switches, ?_, ?_⟩
  · intro e he other hevent
    have hupdated : mark? e.event = some (.updated other) := by
      rw [hevent]
      rfl
    cases hactor : e.actor with
    | none =>
        rcases List.mem_append.mp he with he | he
        · have hother := mem_marks_deedsOf he hupdated
          rw [hactor, hbefore] at hother
          cases hother
        · have hother := mem_marks_deedsOf he hupdated
          rw [hactor, hafter] at hother
          cases hother
    | some i =>
        have he : e ∈ later.since w := by
          rw [htrace]
          rcases List.mem_append.mp he with he | he
          · exact List.mem_append_left _ he
          · exact List.mem_append_right _ (List.mem_cons_of_mem _ he)
        exact h.not_updated hfollows i other (hactor ▸ mem_marks_deedsOf he hupdated)
  · obtain ⟨x, rfl, hx⟩ := hready.cut h rfl rfl hquiet htrace
    rw [deedsOf_append, marks_append, hquiet, List.nil_append] at hbefore
    exact (hreached.evidenced hready).append hx hbefore

/-- Whenever a rollout issues an update, that is the only one, it names the service and the task
definition and carries the pending configuration exactly if it is to, and before it each of the
canaries has given its evidence, with none of them stopped or taken out of its place. -/
theorem rollOut_updates_on_evidence (rollout : Rollout) (scope : RolloutScope)
    (env : Environment controlPlane S) (progress : Progress) (w : World controlPlane S)
    {before after : List (Entry controlPlane)} {time : Instant} {actor : Option Nat}
    {update : ControlPlane.ServiceUpdate}
    (htrace : (rollout.rollOut env scope progress w).world.since w =
      before ++ ⟨time, actor, .issued (.updateService update)⟩ :: after) :
    rollout.Switches scope update ∧
      (∀ e ∈ before ++ after, ∀ other, e.event ≠ .issued (.updateService other)) ∧
        ∃ attachments, rollout.Evidenced scope attachments before := by
  cases rollout.finishes_rollOut scope env progress w with
  | early unresolved world_eq =>
      obtain ⟨hfollows, hothers, y, hy, hquiet, -⟩ := resolve_spec rollout scope env progress w
      rw [world_eq] at htrace
      have hmem := updated_mem htrace
      cases actor with
      | none =>
          rw [hfollows.deedsOf_since hy, hquiet] at hmem
          cases hmem
      | some i =>
          rw [hfollows.deedsOf_since ((hothers i).trans (List.append_nil _).symm)] at hmem
          cases hmem
  | stuck reached hung world_eq =>
      rw [world_eq] at htrace
      obtain ⟨hswitches, hsingle, hevidenced⟩ := reached.updates reached.ends_body htrace
      exact ⟨hswitches, hsingle, _, hevidenced⟩
  | cleaned reached world_eq =>
      rw [world_eq] at htrace
      obtain ⟨hswitches, hsingle, hevidenced⟩ := reached.updates reached.ends_cleanUp htrace
      exact ⟨hswitches, hsingle, _, hevidenced⟩

end Update

theorem rollOut_updates_sample :
    let trace := (sample.rollOut Bench.environment .taskDefinition {} Bench.world).world.since
      Bench.world
    ∃ before time after, trace = before ++ ⟨time, none, .issued (.updateService
          { cluster := "prod"
            service := ⟨"api"⟩
            taskDefinition := some ⟨"task-definition/api:2"⟩ })⟩ :: after ∧
      ∃ attachments, sample.Evidenced .taskDefinition attachments before := by
  intro trace
  have htrace : trace = trace.take 13 ++ ⟨Bench.world.clock.advance Canary.launchGrace, none,
      .issued (.updateService
        { cluster := "prod"
          service := ⟨"api"⟩
          taskDefinition := some ⟨"task-definition/api:2"⟩ })⟩ :: trace.drop 14 := rfl
  obtain ⟨-, -, hevidenced⟩ := rollOut_updates_on_evidence sample .taskDefinition
    Bench.environment {} Bench.world htrace
  exact ⟨_, _, _, htrace, hevidenced⟩

end GatedRollout.Rollout
