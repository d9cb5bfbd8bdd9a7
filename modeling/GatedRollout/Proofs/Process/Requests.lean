import GatedRollout.Proofs.Process.Discipline
import GatedRollout.Proofs.Process.FanOut

/-!
# The requests of a process

Which requests a process may make can be read off its tree, whatever the answers, the clock and the
token. `Process.Asks` says that all of them are of one kind; a run of the process, alone or beside
others, then adds to the history only what concerns requests of that kind.
-/

namespace GatedRollout

variable {ι : Interface} {S σ α : Type} {ok ok' : ι.Request → Prop}

/-- Every request that the process may make is of this kind. -/
def Process.Asks (ok : ι.Request → Prop) (p : Process ι σ α) : Prop := p.Conforms { asks := ok }

namespace Process.Asks

theorem mono {p : Process ι σ α} (h : p.Asks ok) (hok : ∀ r, ok r → ok' r) : p.Asks ok' :=
  Conforms.mono h ⟨hok, fun _ _ => id, fun _ => id, fun _ => id, fun _ => id⟩

theorem anything (p : Process ι σ α) : p.Asks fun _ => True := Conforms.anything p

end Process.Asks

/-! ## What a run adds -/

/-- Whether an event concerns only requests of this kind. -/
def Event.Concerns (ok : ι.Request → Prop) : Event ι → Prop
  | .issued r => ok r
  | .returned r _ => ok r
  | .slept _ => True
  | .fired => True

theorem Event.Concerns.mono {e : Event ι} (h : e.Concerns ok) (hok : ∀ r, ok r → ok' r) :
    e.Concerns ok' := by
  cases e with
  | issued r => exact hok r h
  | returned r answer => exact hok r h
  | slept d => trivial
  | fired => trivial

/-- What comes after a beginning concerns requests of this kind. -/
def Adds (ok : ι.Request → Prop) (x y : List (Event ι)) : Prop :=
  ∃ es, y = x ++ es ∧ ∀ e ∈ es, e.Concerns ok

theorem Adds.refl (x : List (Event ι)) : Adds ok x x := ⟨[], (List.append_nil x).symm, nofun⟩

theorem Adds.snoc {x y : List (Event ι)} (h : Adds ok x y) {e : Event ι} (he : e.Concerns ok) :
    Adds ok x (y ++ [e]) := by
  obtain ⟨es, rfl, hes⟩ := h
  refine ⟨es ++ [e], List.append_assoc .., fun e' he' => ?_⟩
  rcases List.mem_append.mp he' with he' | he'
  · exact hes e' he'
  · rw [List.mem_singleton.mp he']
    exact he

/-- The deeds of a process concern the requests that it may make. -/
theorem Process.Asks.secures {p : Process ι σ α} (h : p.Asks ok) {s : σ} {x₀ x : List (Event ι)}
    (hx : Adds ok x₀ x) :
    Secures recorded (fun _ y => Adds ok x₀ y) (fun _ _ y => Adds ok x₀ y) p s x := by
  induction p generalizing s x with
  | done a => exact hx
  | call r next ih =>
      rintro _ rfl
      have hissued := hx.snoc (e := .issued r) h.1
      refine ⟨hissued, ?_⟩
      rintro answer _ rfl
      exact ih answer (h.2 answer trivial) (hissued.snoc h.1)
  | pause d next ih =>
      refine ⟨ih _ (h _) hx, ?_⟩
      rintro _ rfl
      have hslept := hx.snoc (e := .slept d) trivial
      exact ⟨hslept, fun rest => ih rest (h rest) hslept⟩
  | look next ih => exact fun now cancelled => ih _ (h _ trivial) hx
  | put t next ih => exact ih h.2 hx
  | panic message => exact hx
  | stall => exact hx

/-- All that has happened since an earlier world concerns requests of this kind. -/
structure World.Concerns (ok : ι.Request → Prop) (earlier w : World ι S) : Prop where
  follows : w.Follows earlier
  events : ∀ e ∈ w.since earlier, e.event.Concerns ok

namespace World

variable {earlier w later : World ι S}

theorem Concerns.refl (w : World ι S) : Concerns ok w w := ⟨Follows.refl w, by simp⟩

theorem Concerns.mono (h : Concerns ok earlier w) (hok : ∀ r, ok r → ok' r) :
    Concerns ok' earlier w :=
  ⟨h.follows, fun e he => (h.events e he).mono hok⟩

theorem Concerns.trans (h : Concerns ok earlier w) (h' : Concerns ok w later) :
    Concerns ok earlier later := by
  refine ⟨h.follows.trans h'.follows, fun e he => ?_⟩
  rw [h.follows.since_trans h'.follows] at he
  rcases List.mem_append.mp he with he | he
  · exact h.events e he
  · exact h'.events e he

/-- Only the history counts. -/
theorem Concerns.of_history (h : Concerns ok earlier w) (hlater : later.history = w.history) :
    Concerns ok earlier later := by
  refine h.trans ⟨⟨[], hlater.symm⟩, ?_⟩
  simp [since, hlater]

/-- The same for the next entry of the history. -/
theorem Concerns.cons (h : Concerns ok earlier w) {e : Entry ι} (he : e.event.Concerns ok)
    (hlater : later.history = e :: w.history) : Concerns ok earlier later := by
  have hfollows : later.Follows w := ⟨[e], hlater.symm⟩
  refine h.trans ⟨hfollows, fun e' he' => ?_⟩
  have hsince := hfollows.history_eq
  rw [hlater, ← List.singleton_append, List.append_cancel_right_eq] at hsince
  rw [← List.mem_reverse, ← hsince] at he'
  rw [List.mem_singleton.mp he']
  exact he

theorem Concerns.fireIf (h : Concerns ok earlier w) (fires : Bool) :
    Concerns ok earlier (w.fireIf fires) := by
  unfold World.fireIf World.fire
  split
  · split
    · exact h
    · exact h.cons (e := ⟨w.clock, none, .fired⟩) trivial rfl
  · exact h

theorem Concerns.issue (h : Concerns ok earlier w) {r : ι.Request} (hr : ok r)
    (env : Environment ι S) (actor : Option Nat) :
    Concerns ok earlier (w.issue env actor r).2 := by
  have hissued : Concerns ok earlier (w.note actor (.issued r)) :=
    h.cons (e := ⟨w.clock, actor, .issued r⟩) hr rfl
  refine Concerns.fireIf ?_ _
  exact hissued.of_history rfl

theorem Concerns.returned (h : Concerns ok earlier w) {r : ι.Request} (hr : ok r)
    (actor : Option Nat) (answer : Except ClientError (ι.Reply r)) :
    Concerns ok earlier (w.note actor (.returned r answer)) :=
  h.cons (e := ⟨w.clock, actor, .returned r answer⟩) hr rfl

theorem Concerns.sleep (h : Concerns ok earlier w) (env : Environment ι S) (actor : Option Nat)
    (d : Duration) : Concerns ok earlier (w.sleep env actor d).2 := by
  have hslept : Concerns ok earlier (w.note actor (.slept d)) :=
    h.cons (e := ⟨w.clock, actor, .slept d⟩) trivial rfl
  refine Concerns.fireIf ?_ _
  exact hslept.of_history rfl

end World

variable {earlier : World ι S} (env : Environment ι S) (token : Token)

/-- A run adds only what concerns the requests of its process. -/
theorem Process.Asks.run {p : Process ι σ α} (h : p.Asks ok) (actor : Option Nat) (s : σ)
    {w : World ι S} (hw : World.Concerns ok earlier w) :
    World.Concerns ok earlier (GatedRollout.run env token actor p s w).world := by
  induction p generalizing s w with
  | done a => exact hw
  | call r next ih =>
      have hissued := hw.issue h.1 env actor
      rw [run_call]
      dsimp only
      split
      · exact ih _ (h.2 _ trivial) s (hissued.returned h.1 actor _)
      · exact hissued
      · exact hissued
  | pause d next ih =>
      rw [run_pause]
      split
      · exact ih _ (h _) s hw
      · exact ih _ (h _) s (hw.sleep env actor d)
  | look next ih => exact ih _ (h _ trivial) s hw
  | put t next ih => exact ih h.2 t hw
  | panic message => exact hw
  | stall => exact hw

/-! ## Side by side -/

/-- The requests that a process may make from a stage on. -/
def Stage.Asks (ok : ι.Request → Prop) : Stage ι σ α → Prop
  | .ready p => p.Asks ok
  | .calling _ r _ next => ok r ∧ ∀ answer, (next answer).Asks ok
  | .resting _ next => ∀ rest, (next rest).Asks ok
  | .finished _ => True
  | .hung => True

theorem Process.Asks.takeTurn {p : Process ι σ α} (h : p.Asks ok) (actor : Nat) (s : σ)
    {w : World ι S} (hw : World.Concerns ok earlier w) :
    let (_, m, w') := GatedRollout.takeTurn env token actor p s w
    m.stage.Asks ok ∧ World.Concerns ok earlier w' := by
  induction p generalizing s w with
  | done a => exact ⟨trivial, hw⟩
  | call r next ih =>
      have hissued := hw.issue h.1 env (some actor)
      rcases hi : w.issue env (some actor) r with ⟨⟨advance, fires, yields, effect⟩, w₁⟩
      rw [hi] at hissued
      simp only [GatedRollout.takeTurn, hi]
      cases yields with
      | zero =>
          cases effect with
          | answer answer => exact ih answer (h.2 answer trivial) s (hissued.returned h.1 _ answer)
          | panic message => exact ⟨trivial, hissued⟩
          | hang => exact ⟨trivial, hissued⟩
      | succ n => exact ⟨⟨h.1, fun answer => h.2 answer trivial⟩, hissued⟩
  | pause d next ih =>
      simp only [GatedRollout.takeTurn]
      split
      · exact ih _ (h _) s hw
      · exact ⟨h, hw.sleep env _ d⟩
  | look next ih => exact ih _ (h _ trivial) s hw
  | put t next ih => exact ih h.2 t hw
  | panic message => exact ⟨trivial, hw⟩
  | stall => exact ⟨trivial, hw⟩

theorem Stage.Asks.turn {m : Member ι σ α} (h : m.stage.Asks ok) {w : World ι S}
    (hw : World.Concerns ok earlier w) :
    let (_, m', w') := m.turn env token w
    m'.stage.Asks ok ∧ World.Concerns ok earlier w' := by
  obtain ⟨actor, s, stage⟩ := m
  cases stage with
  | ready p => exact Process.Asks.takeTurn env token h actor s hw
  | calling n r effect next =>
      cases n with
      | zero =>
          cases effect with
          | answer answer =>
              exact (h.2 answer).takeTurn env token actor s (hw.returned h.1 _ answer)
          | panic message => exact ⟨trivial, hw⟩
          | hang => exact ⟨trivial, hw⟩
      | succ n => exact ⟨h, hw⟩
  | resting n next =>
      cases n with
      | zero => exact (h _).takeTurn env token actor s hw
      | succ n => exact ⟨h, hw⟩
  | finished a => exact ⟨trivial, hw⟩
  | hung => exact ⟨trivial, hw⟩

/-- The requests that the members of a crew may make, and what they have added. -/
def Crew.Asks (ok : ι.Request → Prop) (earlier : World ι S) (crew : Crew ι σ α) (w : World ι S) :
    Prop :=
  (∀ m ∈ crew.members, m.stage.Asks ok) ∧ World.Concerns ok earlier w

variable {env token}

theorem Crew.Asks.steady :
    Crew.Steady env token (Crew.Asks ok earlier : Crew ι σ α → World ι S → Prop) := by
  intro before m after results w h
  obtain ⟨hmembers, hw⟩ := h
  obtain ⟨hm, hw'⟩ := (hmembers m (by simp)).turn env token hw
  refine ⟨fun m' hm' => ?_, hw'⟩
  rcases List.mem_append.mp hm' with hm' | hm'
  · exact hmembers m' (List.mem_append_left _ hm')
  · rcases List.mem_cons.mp hm' with rfl | hm'
    · exact hm
    · exact hmembers m' (List.mem_append_right _ (List.mem_cons_of_mem _ hm'))

section FanOut

variable {crew : List (Process ι σ α × σ)} {w : World ι S}

theorem Crew.asks_assemble (h : ∀ p ∈ crew, p.1.Asks ok) :
    Crew.Asks ok w (Crew.assemble crew) w := by
  refine ⟨fun m hm => ?_, World.Concerns.refl w⟩
  simp only [Crew.assemble, List.mem_mapIdx] at hm
  obtain ⟨i, hi, rfl⟩ := hm
  exact h _ (List.getElem_mem hi)

/-- A fan-out adds only what concerns the requests of its processes. -/
theorem concerns_fanOutWithin (limit : Option Nat) (h : ∀ p ∈ crew, p.1.Asks ok) :
    World.Concerns ok w (fanOutWithin env token limit crew w).world := by
  obtain ⟨_, hcrew, _⟩ := Crew.Asks.steady.fanOutWithin limit crew w (Crew.asks_assemble h)
  exact hcrew.2

end FanOut

/-! ## Calls in a history -/

/-- Whether an event is a call of this kind, or what one was answered with. -/
def Event.isCall (about : ι.Request → Bool) : Event ι → Bool
  | .issued r => about r
  | .returned r _ => about r
  | _ => false

/-- The calls of this kind among the deeds of an actor, with the answers. -/
def callsOf (about : ι.Request → Bool) (actor : Option Nat) (y : List (Event ι)) :
    List (Option Nat × Event ι) :=
  (y.filter (·.isCall about)).map fun e => (actor, e)

/-- The calls of this kind and what they were answered with, each with whose call it is. -/
def calls (about : ι.Request → Bool) (entries : List (Entry ι)) : List (Option Nat × Event ι) :=
  (entries.filter fun e => e.event.isCall about).map fun e => (e.actor, e.event)

section Calls

variable {about : ι.Request → Bool}

theorem callsOf_append (actor : Option Nat) (first rest : List (Event ι)) :
    callsOf about actor (first ++ rest) =
      callsOf about actor first ++ callsOf about actor rest := by
  simp [callsOf]

@[simp] theorem calls_append (first rest : List (Entry ι)) :
    calls about (first ++ rest) = calls about first ++ calls about rest := by
  simp [calls]

theorem World.Concerns.calls_eq_nil {w : World ι S} (h : World.Concerns ok earlier w)
    (hok : ∀ r, ok r → about r = false) : calls about (w.since earlier) = [] := by
  rw [calls, List.map_eq_nil_iff, List.filter_eq_nil_iff]
  intro e he
  have hevent := h.events e he
  cases hcase : e.event with
  | issued r =>
      rw [hcase] at hevent
      simp [Event.isCall, hok r hevent]
  | returned r answer =>
      rw [hcase] at hevent
      simp [Event.isCall, hok r hevent]
  | slept d => simp [Event.isCall]
  | fired => simp [Event.isCall]

theorem Event.isDeed_of_isCall {e : Event ι} (h : e.isCall about = true) : e.isDeed = true := by
  cases e with
  | fired => cases h
  | _ => rfl

/-- Where only one actor has done anything, the calls are its own. -/
theorem calls_of_alone {actor : Option Nat} {entries : List (Entry ι)}
    (h : ∀ other, other ≠ actor → deedsOf other entries = []) :
    calls about entries = callsOf about actor (deedsOf actor entries) := by
  have hactor : ∀ e ∈ entries, e.event.isDeed = true → e.actor = actor := by
    refine fun e he hdeed => Decidable.byContradiction fun hne => ?_
    have hmem : e.event ∈ deedsOf e.actor entries :=
      List.mem_map_of_mem (List.mem_filter.mpr ⟨he, by simp [hdeed]⟩)
    rw [h e.actor hne] at hmem
    cases hmem
  have hfilter : entries.filter (fun e => e.event.isCall about) =
      (entries.filter fun e => e.actor == actor && e.event.isDeed).filter
        fun e => e.event.isCall about := by
    rw [List.filter_filter]
    refine List.filter_congr fun e he => ?_
    cases hcall : e.event.isCall about with
    | false => rfl
    | true =>
        have hdeed := Event.isDeed_of_isCall hcall
        simp [hdeed, hactor e he hdeed]
  rw [calls, callsOf, hfilter, deedsOf, List.filter_map, List.map_map]
  refine List.map_congr_left fun e he => ?_
  have he := (List.mem_filter.mp (List.mem_filter.mp he).1)
  simp only [Bool.and_eq_true, beq_iff_eq] at he
  simp [he.2.1]

/-- The calls of a run are those of its actor. -/
theorem calls_run (env : Environment ι S) (token : Token) (actor : Option Nat)
    (p : Process ι σ α) (s : σ) (w : World ι S) :
    let out := run env token actor p s w
    calls about (out.world.since w) = callsOf about actor (deedsOf actor (out.world.since w)) := by
  refine calls_of_alone fun other hne => (run_follows ..).deedsOf_since ?_
  rw [run_others env token (Ne.symm hne) p s w, List.append_nil]

end Calls

/-! ## Requests in a history -/

/-- The request that an event makes. -/
def Event.request? : Event ι → Option ι.Request
  | .issued r => some r
  | _ => none

/-- The requests among these deeds. -/
def requests (y : List (Event ι)) : List ι.Request := y.filterMap Event.request?

/-- The requests of a history, whoever made them. -/
def requestsIn (trace : List (Entry ι)) : List ι.Request := requests (trace.map (·.event))

@[simp] theorem requests_append (x y : List (Event ι)) :
    requests (x ++ y) = requests x ++ requests y :=
  List.filterMap_append

@[simp] theorem requestsIn_append (first rest : List (Entry ι)) :
    requestsIn (first ++ rest) = requestsIn first ++ requestsIn rest := by
  simp [requestsIn]

theorem mem_requests {r : ι.Request} {y : List (Event ι)} : r ∈ requests y ↔ .issued r ∈ y := by
  simp only [requests, List.mem_filterMap]
  constructor
  · rintro ⟨e, he, hr⟩
    cases e with
    | issued r' =>
        cases hr
        exact he
    | _ => cases hr
  · exact fun h => ⟨_, h, rfl⟩

theorem mem_requestsIn {r : ι.Request} {trace : List (Entry ι)} :
    r ∈ requestsIn trace ↔ ∃ e ∈ trace, e.event = .issued r := by
  rw [requestsIn, mem_requests, List.mem_map]

theorem length_requests (y : List (Event ι)) :
    (requests y).length = y.countP (·.request?.isSome) :=
  List.length_filterMap_eq_countP

theorem length_requests_deedsOf (actor : Option Nat) (trace : List (Entry ι)) :
    (requests (deedsOf actor trace)).length =
      trace.countP fun e => e.event.request?.isSome && e.actor == actor := by
  rw [length_requests, deedsOf, List.countP_map, List.countP_filter]
  refine List.countP_congr fun e _ => ?_
  cases hevent : e.event <;> simp [hevent, Event.request?, Event.isDeed]

theorem length_requestsIn (trace : List (Entry ι)) :
    (requestsIn trace).length = trace.countP fun e => e.event.request?.isSome := by
  rw [requestsIn, length_requests, List.countP_map]
  rfl

/-- Where only one actor made requests, its deeds tell all of them. -/
theorem length_requestsIn_of_lone {actor : Option Nat} {trace : List (Entry ι)}
    (h : ∀ other, other ≠ actor → (requests (deedsOf other trace)).length = 0) :
    (requestsIn trace).length = (requests (deedsOf actor trace)).length := by
  rw [length_requestsIn, length_requests_deedsOf]
  refine List.countP_congr fun e he => ?_
  by_cases hactor : e.actor = actor
  · simp [hactor]
  · have hnone := h e.actor hactor
    rw [length_requests_deedsOf] at hnone
    have hrequest := List.countP_eq_zero.mp hnone e he
    simp_all

theorem countP_le_add {δ : Type} {p q q' : δ → Bool} (l : List δ)
    (h : ∀ e, p e = true → q e = true ∨ q' e = true) : l.countP p ≤ l.countP q + l.countP q' := by
  induction l with
  | nil => exact Nat.zero_le _
  | cons e l ih =>
      have he := h e
      simp only [List.countP_cons]
      cases hp : p e <;> cases hq : q e <;> cases hq' : q' e <;> simp_all <;> omega

/-- Where only so many processes of a fan-out made requests, what each of them made bounds what was
made together. -/
theorem length_requestsIn_le {own each size : Nat} {trace : List (Entry ι)}
    (hown : (requests (deedsOf none trace)).length ≤ own)
    (heach : ∀ i, (requests (deedsOf (some i) trace)).length ≤ each)
    (hbeyond : ∀ i, size ≤ i → (requests (deedsOf (some i) trace)).length = 0) :
    (requestsIn trace).length ≤ size * each + own := by
  let madeBy (actor : Option Nat) (e : Entry ι) : Bool :=
    e.event.request?.isSome && e.actor == actor
  let madeBelow (n : Nat) (e : Entry ι) : Bool :=
    e.event.request?.isSome && e.actor.all (· < n)
  simp only [length_requests_deedsOf] at hown heach hbeyond
  have hbelow : ∀ n, trace.countP (madeBelow n) ≤ n * each + own := by
    intro n
    induction n with
    | zero =>
        have hle : trace.countP (madeBelow 0) ≤ trace.countP (madeBy none) :=
          List.countP_mono_left fun e _ he => by
            cases hactor : e.actor <;> simp_all [madeBelow, madeBy]
        rw [Nat.zero_mul, Nat.zero_add]
        exact Nat.le_trans hle hown
    | succ n ih =>
        have hle : trace.countP (madeBelow (n + 1)) ≤
            trace.countP (madeBelow n) + trace.countP (madeBy (some n)) :=
          countP_le_add trace fun e he => by
            cases hactor : e.actor <;> simp_all [madeBelow, madeBy]
            omega
        have hn : trace.countP (madeBy (some n)) ≤ each := heach n
        rw [Nat.succ_mul]
        omega
  have hle : (requestsIn trace).length ≤ trace.countP (madeBelow size) := by
    rw [length_requestsIn]
    refine List.countP_mono_left fun e he hrequest => ?_
    cases hactor : e.actor with
    | none => simp [madeBelow, hactor, hrequest]
    | some i =>
        refine Decidable.byContradiction fun hlt => ?_
        have hzero := hbeyond i (by simp_all [madeBelow])
        exact absurd (by simp [hrequest, hactor]) (List.countP_eq_zero.mp hzero e he)
  exact Nat.le_trans hle (hbelow size)

end GatedRollout
