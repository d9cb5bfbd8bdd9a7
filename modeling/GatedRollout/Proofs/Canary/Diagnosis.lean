import GatedRollout.Proofs.Canary.Clearance
import GatedRollout.Proofs.Canary.Conduct
import GatedRollout.Proofs.Process.Order
import GatedRollout.Proofs.Rollout.Canaries

/-!
# What the cleanup of a set of canaries says

The canaries of a set are stopped side by side, and each of them complains of its own place. If the
cleanup returns, each has been diagnosed: it fails exactly if some task was not let go, with the
failure of the canary that was done with its stop before any other that failed.
-/

namespace GatedRollout.Canary

variable {S : Type} {engine : Engine} {spec : LaunchSpec} {strategies : List Strategy}
  {past : Nat → Deeds} {set : CanarySet controlPlane State} {w : World controlPlane S}

/-! ## Silent canaries -/

/-- A canary that has warned of nothing so far, and has the replies to its own requests. -/
def Silent (s : State) (y : Deeds) : Prop := s.warnings = [] ∧ Answered y

theorem silent_fresh (placement : Placement) : Silent (State.fresh placement) [] :=
  ⟨rfl, answered_nil⟩

theorem Silent.secures {α : Type} {s : State} {y : Deeds} (h : Silent s y)
    {p : Process controlPlane State α} (hp : p.Spares State.warnings) :
    Secures recorded Silent (fun _ => Silent) p s y :=
  ((hp s y).both (secures_answered p h.2)).mono (fun _ _ hz => ⟨hz.1.trans h.1, hz.2⟩)
    (fun _ _ _ hz => ⟨hz.1.trans h.1, hz.2⟩)

/-- An operation that spares the warnings leaves silent canaries silent. -/
theorem Musters.silent (h : Musters engine spec strategies past (fun _ => Silent) set w)
    {out : CanarySet.Outcome controlPlane S State}
    (hout : out.Secured (fun _ => Silent) (fun _ _ => Silent) past set w) :
    Musters engine spec strategies past (fun _ => Silent) out.state out.world := by
  refine ⟨hout.length_eq.trans h.length_eq, fun i strategy hi => ?_⟩
  obtain ⟨s₀, -, hs₀, -, -⟩ := h.each i strategy hi
  obtain ⟨s, found, y, hs, hy, hfound, -⟩ := hout.each i _ hs₀
  exact ⟨s, y, hs, hy, hfound.elim⟩

theorem Musters.silent_crew (h : Musters engine spec strategies past (fun _ => Silent) set w)
    (op : CanaryTask controlPlane State → Attempt controlPlane State TaskError Unit)
    (hop : ∀ strategy, (op (task engine spec strategy)).run.Spares State.warnings) :
    Crew.Secures (fun _ => Silent) (fun _ _ => Silent) past
      (set.entries.map fun e => ((op e.task).run, e.state)) w :=
  h.crew op fun _ strategy _ _ _ _ hsilent => ⟨hsilent, hsilent.secures (hop strategy)⟩

theorem Musters.start_silent (h : Musters engine spec strategies past (fun _ => Silent) set w)
    (env : Environment controlPlane S) (token : Token) :
    Musters engine spec strategies past (fun _ => Silent) (set.start env token w).state
      (set.start env token w).world :=
  h.silent (CanarySet.secured_start env token
    (h.silent_crew (·.start) fun _ => spares_start engine spec))

theorem Musters.wait_silent (h : Musters engine spec strategies past (fun _ => Silent) set w)
    (env : Environment controlPlane S) (token : Token) :
    Musters engine spec strategies past (fun _ => Silent) (set.wait env token w).state
      (set.wait env token w).world :=
  h.silent (CanarySet.secured_wait env token
    (h.silent_crew (·.wait) fun strategy => spares_wait engine spec strategy))

/-! ## Alert stops -/

section Alert

open Process

variable (engine spec)

/-- A wait returns with a reply in hand. -/
theorem alert_await {β : Type} (what : String)
    (watch : Watch controlPlane (Except WaitError β) String) (active : Bool) :
    (engine.await what watch : Activity State WaitError β).run.Alert
      (fun _ active => active = true) active := by
  refine Obeys.bind (Alert.watch watch engine.patience) fun watched active hactive => ?_
  cases watched with
  | settled result => exact hactive
  | overdue last => exact hactive
  | cancelled => exact hactive
  | failed e => exact hactive

/-- A stop that fails does so on a reply. -/
theorem alert_stopTask (active : Bool) :
    (stopTask engine).run.Alert (fun result active => result ≠ .ok () → active = true) active := by
  refine Alert.state_then fun s => ?_
  dsimp only
  split
  · exact fun h => absurd rfl h
  · split
    · exact Alert.attempt_modify fun h => absurd rfl h
    · refine Alert.modify_then (Alert.ask_then (fun _ => ?_) fun e _ => rfl)
      refine Obeys.attempt (Q := fun _ active => active = true) ?_ ?_ ?_
      · refine Obeys.bind (alert_await engine _ _ true) fun result active hactive => ?_
        cases result with
        | ok task => exact hactive
        | error e => exact hactive
      · exact fun _ _ _ => Alert.attempt_modify fun h => absurd rfl h
      · exact fun _ _ hactive _ => hactive

theorem alert_stop (strategy : Strategy) (active : Bool) :
    (task engine spec strategy).stop.run.Alert
      (fun result active => result ≠ .ok () → active = true) active :=
  Alert.run_then fun _ active => alert_stopTask engine active

end Alert

/-! ## Cleanup -/

/-- The warnings of each canary of a set by itself. -/
def ownWarnings (set : CanarySet controlPlane State) : List (List Warning) :=
  set.entries.map fun e => e.task.warnings e.state

theorem warnings_eq_flatten (set : CanarySet controlPlane State) :
    set.warnings = (ownWarnings set).flatten := List.flatMap_def ..

/-- The task of one canary was not let go. By the time at which that canary was done, any other of
which this is so still had something to do. -/
def FirstUnstopped (cluster : String) (y : Nat → Deeds) (trace : List (Entry controlPlane))
    (i : Nat) (e : TaskError) : Prop :=
  (∃ arn, Mark.launched arn ∈ marks (y i) ∧ ¬TaskReleased cluster arn (y i) ∧
    Unstopped cluster arn (y i) e) ∧
  ∃ first last, trace = first ++ last ∧ deedsOf (some i) last = [] ∧
    ∀ j ≠ i, ∀ arn, Mark.launched arn ∈ marks (y j) → ¬TaskReleased cluster arn (y j) →
      deedsOf (some j) last ≠ []

theorem FirstUnstopped.extend {cluster : String} {y : Nat → Deeds}
    {trace : List (Entry controlPlane)} {i : Nat} {e : TaskError}
    (h : FirstUnstopped cluster y trace i e) (earlier : List (Entry controlPlane)) :
    FirstUnstopped cluster y (earlier ++ trace) i e := by
  obtain ⟨hunstopped, first, last, rfl, hrest⟩ := h
  exact ⟨hunstopped, earlier ++ first, last, (List.append_assoc ..).symm, hrest⟩

/-- What the cleanup of so many canaries says, where these are the deeds of each of them. -/
structure Swept (cluster : String) (size : Nat) (y : Nat → Deeds) (w : World controlPlane S)
    (out : CanarySet.Outcome controlPlane S State) : Prop where
  length_eq : (ownWarnings out.state).length = size
  complains : ∀ i ws, (ownWarnings out.state)[i]? = some ws → Complains (y i) ws
  returned : ∀ result, out.ending = .returned result → ∀ i ws,
    (ownWarnings out.state)[i]? = some ws → ∃ a, Diagnosed cluster a ws (y i) ∧
      (result = .ok () → a = .ok ())
  failed : ∀ e, out.ending = .returned (.error e) →
    ∃ i < size, FirstUnstopped cluster y (out.world.since w) i e

theorem cleanupWithin_gathered (env : Environment controlPlane S) (budget : Duration)
    {inv : Nat → State → Deeds → Prop}
    {post : Nat → Except TaskError Unit → State → Deeds → Prop}
    (h : Crew.Secures inv post past (set.entries.map fun e => (e.task.stop.run, e.state)) w)
    (halert : ∀ e ∈ set.entries, e.task.stop.run.Alert
      (fun result active => result ≠ .ok () → active = true) false) :
    ∃ g, set.cleanupWithin env .shielded budget w = set.gather g ∧
      Gathered.Secured inv post past w set.entries.length g ∧
        ∀ results, g.ending = .returned results →
          Gathered.Returned (· ≠ .ok ()) post past w set.entries.length g results := by
  have hlength : (set.entries.map fun e => (e.task.stop.run, e.state)).length =
      set.entries.length := List.length_map _
  have halert' : ∀ p ∈ set.entries.map fun e => (e.task.stop.run, e.state),
      p.1.Alert (fun result active => result ≠ .ok () → active = true) false := by
    intro p hp
    obtain ⟨e, he, rfl⟩ := List.mem_map.mp hp
    exact halert e he
  exact ⟨_, rfl, hlength ▸ h.fanOutWithin _, fun results hreturned =>
    hlength ▸ h.fanOut_returned halert' hreturned⟩

theorem Musters.and {P Q : Strategy → State → Deeds → Prop}
    (h : Musters engine spec strategies past P set w)
    (h' : Musters engine spec strategies past Q set w) :
    Musters engine spec strategies past (fun strategy s y => P strategy s y ∧ Q strategy s y) set
      w := by
  refine ⟨h.length_eq, fun i strategy hi => ?_⟩
  obtain ⟨s, y, hs, hy, hP⟩ := h.each i strategy hi
  obtain ⟨s', y', hs', hy', hQ⟩ := h'.each i strategy hi
  cases hs.symm.trans hs'
  obtain rfl := List.append_cancel_left (hy.symm.trans hy')
  exact ⟨s, y, hs, hy, hP, hQ⟩

theorem Musters.entry {P : Strategy → State → Deeds → Prop}
    (h : Musters engine spec strategies past P set w) {i : Nat} (hi : i < strategies.length) :
    ∃ strategy s y, set.entries[i]? = some ⟨task engine spec strategy, s⟩ ∧
      w.deeds (some i) = past i ++ y ∧ P strategy s y := by
  obtain ⟨s, y, hs, hy, hP⟩ := h.each i _ (List.getElem?_eq_getElem hi)
  exact ⟨_, s, y, hs, hy, hP⟩

theorem Musters.alert {P : Strategy → State → Deeds → Prop}
    (h : Musters engine spec strategies past P set w) :
    ∀ e ∈ set.entries, e.task.stop.run.Alert
      (fun result active => result ≠ .ok () → active = true) false := by
  intro e he
  obtain ⟨i, hi, rfl⟩ := List.getElem_of_mem he
  obtain ⟨strategy, s, y, hs, -⟩ := h.entry (h.length_eq ▸ hi)
  rw [List.getElem?_eq_getElem hi] at hs
  rw [Option.some.inj hs]
  exact alert_stop engine spec strategy false

/-- After a fan-out, the warnings of each canary are those in the state that it was left in. -/
theorem Musters.ownWarnings_gather {P : Strategy → State → Deeds → Prop}
    (h : Musters engine spec strategies past P set w)
    {g : Gathered controlPlane S State (Except TaskError Unit)}
    (hg : g.states.length = strategies.length) :
    (ownWarnings (set.gather g).state).length = strategies.length ∧
      ∀ (i : Nat) (ws : List Warning), (ownWarnings (set.gather g).state)[i]? = some ws →
        ∃ s, g.states[i]? = some s ∧ ws = s.warnings := by
  have hlength : (ownWarnings (set.gather g).state).length = strategies.length := by
    rw [ownWarnings, List.length_map, ← h.length_eq]
    exact CanarySet.length_withStates ..
  refine ⟨hlength, fun i ws hws => ?_⟩
  have hi : i < strategies.length := hlength ▸ (List.getElem?_eq_some_iff.mp hws).1
  obtain ⟨strategy, s₀, y, he, -⟩ := h.entry hi
  have hs := List.getElem?_eq_getElem (hg ▸ hi)
  refine ⟨_, hs, ?_⟩
  rw [ownWarnings, List.getElem?_map] at hws
  have hentry := CanarySet.getElem?_withStates he hs
  rw [show (set.gather g).state = set.withStates g.states from rfl, hentry] at hws
  exact (Option.some.inj hws).symm

/-- The diagnoses that the stops of so many canaries returned, where these are the deeds of each of
them. -/
structure Diagnoses (cluster : String) (size : Nat) (y : Nat → Deeds)
    (earlier : World controlPlane S) (g : Gathered controlPlane S State (Except TaskError Unit))
    (results : List (Nat × Except TaskError Unit)) : Prop where
  all : ∀ i < size, ∃ a, (i, a) ∈ results
  each : ∀ i a, (i, a) ∈ results →
    i < size ∧ ∃ s, g.states[i]? = some s ∧ Diagnosed cluster a s.warnings (y i)
  ordered : Ordered (· ≠ .ok ()) (g.world.since earlier) results

/-- The first failure is that of a canary that was done before any other of which the same is
true. -/
theorem Diagnoses.firstUnstopped {cluster : String} {size : Nat} {y : Nat → Deeds}
    {g : Gathered controlPlane S State (Except TaskError Unit)}
    {results : List (Nat × Except TaskError Unit)} {e : TaskError}
    (h : Diagnoses cluster size y w g results) (hbeyond : ∀ i, size ≤ i → y i = [])
    (hfirst : CanarySet.firstError results = .error e) :
    ∃ i < size, FirstUnstopped cluster y (g.world.since w) i e := by
  obtain ⟨before, i, after, rfl, hbefore⟩ := CanarySet.firstError_eq_error hfirst
  obtain ⟨hi, s, -, hdiagnosed⟩ := h.each i (.error e) (by simp)
  obtain ⟨first, last, htrace, hlast, hlater⟩ := h.ordered before i _ after rfl
  refine ⟨i, hi, hdiagnosed.failed e rfl, first, last, htrace, hlast, ?_⟩
  intro j hne arn hlaunched hkept
  have hj : j < size := Nat.lt_of_not_le fun hj => by
    rw [hbeyond j hj] at hlaunched
    cases hlaunched
  obtain ⟨b, hmem⟩ := h.all j hj
  obtain ⟨-, s', -, hdiagnosed'⟩ := h.each j b hmem
  have hb : b ≠ .ok () := fun hok => hkept (hdiagnosed'.tasks.mp hok arn hlaunched)
  -- It did not fail before, and it is another one, so it was done later.
  rcases List.mem_append.mp hmem with hmem | hmem
  · exact absurd (hbefore j b hmem) hb
  · rcases List.mem_cons.mp hmem with hmem | hmem
    · cases hmem
      exact absurd rfl hne
    · exact hlater j b hmem hb

theorem Musters.sweep (haccounts : Musters engine spec strategies past Account set w)
    (hsilent : Musters engine spec strategies past (fun _ => Silent) set w)
    (env : Environment controlPlane S) (budget : Duration) {y : Nat → Deeds}
    (hy : ∀ i < strategies.length,
      (set.cleanupWithin env .shielded budget w).world.deeds (some i) = past i ++ y i)
    (hbeyond : ∀ i, strategies.length ≤ i → y i = []) :
    Swept engine.cluster strategies.length y w (set.cleanupWithin env .shielded budget w) := by
  have hmusters := haccounts.and hsilent
  have hstops : Crew.Secures (fun _ t z => Complains z t.warnings)
      (fun _ result t z => Diagnosed engine.cluster result t.warnings z) past
      (set.entries.map fun e => (e.task.stop.run, e.state)) w :=
    hmusters.crew (·.stop) fun _ _ _ _ _ _ h =>
      ⟨.inl h.2.1, h.1.secures_diagnosis h.2.2 h.2.1 engine spec⟩
  obtain ⟨g, hg, hsecured, hreturned⟩ :=
    cleanupWithin_gathered env budget hstops hmusters.alert
  rw [hmusters.length_eq] at hsecured hreturned
  rw [hg] at hy ⊢
  obtain ⟨hlength, hown⟩ := hmusters.ownWarnings_gather hsecured.length_eq
  have hbound : ∀ {i : Nat} {s : State}, g.states[i]? = some s → i < strategies.length :=
    fun hs => hsecured.length_eq ▸ (List.getElem?_eq_some_iff.mp hs).1
  have hsame : ∀ i < strategies.length, ∀ z, g.world.deeds (some i) = past i ++ z → z = y i :=
    fun i hi z hz => List.append_cancel_left (hz.symm.trans (hy i hi))
  have hdiagnoses : ∀ results, g.ending = .returned results →
      Diagnoses engine.cluster strategies.length y w g results := by
    intro results hresults
    have h := hreturned results hresults
    refine ⟨h.all, fun i a hmem => ?_, h.ordered⟩
    obtain ⟨s, z, hs, hz, hdiagnosed⟩ := h.each i a hmem
    obtain rfl := hsame i (hbound hs) z hz
    exact ⟨hbound hs, s, hs, hdiagnosed⟩
  refine ⟨hlength, ?_, ?_, ?_⟩
  · intro i ws hws
    obtain ⟨s, hs, rfl⟩ := hown i ws hws
    obtain ⟨found, z, hz, hfound, -⟩ := hsecured.states i s hs
    obtain rfl := hsame i (hbound hs) z hz
    cases found with
    | none => exact hfound
    | some result => exact Diagnosed.complains hfound
  · intro result hresult i ws hws
    obtain ⟨s, hs, rfl⟩ := hown i ws hws
    obtain ⟨results, hresults, rfl⟩ := CanarySet.gather_returned hresult
    obtain ⟨a, hmem⟩ := (hdiagnoses results hresults).all i (hbound hs)
    obtain ⟨-, s', hs', hdiagnosed⟩ := (hdiagnoses results hresults).each i a hmem
    cases hs.symm.trans hs'
    exact ⟨a, hdiagnosed, fun hok => CanarySet.firstError_ok hok hmem⟩
  · intro e hresult
    obtain ⟨results, hresults, hfirst⟩ := CanarySet.gather_returned hresult
    exact (hdiagnoses results hresults).firstUnstopped hbeyond hfirst.symm

end GatedRollout.Canary
