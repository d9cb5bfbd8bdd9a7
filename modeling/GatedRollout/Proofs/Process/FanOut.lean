import GatedRollout.Process.FanOut
import GatedRollout.Proofs.Process.Trace

/-!
# Invariants of fan-outs

A fan-out is a sequence of turns, whichever process each of them falls to. `Crew.Sustained`
properties are those that no single turn breaks unless it panics, and `Crew.Sustained.fanOut`
carries them over a whole fan-out: the recursion that drives the front process to its end is
followed turn by turn. A fan-out that panics does so in the last of its turns, and one that does not
has brought every process as far as it comes. What not even a panic breaks, a `Crew.Steady`
property, holds at the end of every fan-out.
-/

namespace GatedRollout

variable {ι : Interface} {S σ α : Type}

/-- What a turn adds to the results of a fan-out. -/
@[simp]
def Turn.results (actor : Nat) : Turn α → List (Nat × α)
  | .finished a => [(actor, a)]
  | _ => []

/-- What an ending adds to the results of a fan-out. -/
@[simp]
def Ending.results (actor : Nat) : Ending α → List (Nat × α)
  | .returned a => [(actor, a)]
  | _ => []

/-- What a turn panicked with, if it did. -/
@[simp]
def Turn.panic? : Turn α → Option String
  | .panicked message => some message
  | _ => none

/-- What an end was a panic with, if it was one. -/
@[simp]
def Ending.panic? : Ending α → Option String
  | .panicked message => some message
  | _ => none

section

variable (env : Environment ι S) (token : Token) (J : Crew ι σ α → World ι S → Prop)

/-- A property of a crew and its world that a turn of a member breaks only by a panic. -/
def Crew.Sustained : Prop :=
  ∀ before m after results w, J ⟨before ++ m :: after, results⟩ w →
    let (turn, m', w') := Member.turn env token m w
    turn.panic? = none → J ⟨before ++ m' :: after, results ++ turn.results m'.actor⟩ w'

/-- A property of a crew and its world that no turn of a member breaks. -/
def Crew.Steady : Prop :=
  ∀ before m after results w, J ⟨before ++ m :: after, results⟩ w →
    let (turn, m', w') := Member.turn env token m w
    J ⟨before ++ m' :: after, results ++ turn.results m'.actor⟩ w'

/-- A member with its turn in a crew of the property has panicked, and left this crew. -/
def Crew.Panics (message : String) (crew : Crew ι σ α) (w' : World ι S) : Prop :=
  ∃ before m after results w m', J ⟨before ++ m :: after, results⟩ w ∧
    Member.turn env token m w = (.panicked message, m', w') ∧
      crew = ⟨before ++ m' :: after, results⟩

/-- The property holds, or a panic has left this crew. -/
def Crew.Arrives (panic : Option String) (crew : Crew ι σ α) (w : World ι S) : Prop :=
  match panic with
  | none => J crew w
  | some message => Crew.Panics env token J message crew w

end

variable {env : Environment ι S} {token : Token} {J K : Crew ι σ α → World ι S → Prop}

/-- Two sustained properties hold of one crew. -/
theorem Crew.Sustained.and (h : Crew.Sustained env token J) (h' : Crew.Sustained env token K) :
    Crew.Sustained env token fun crew w => J crew w ∧ K crew w :=
  fun before m after results w hJK hturn =>
    ⟨h before m after results w hJK.1 hturn, h' before m after results w hJK.2 hturn⟩

theorem Crew.Steady.and (h : Crew.Steady env token J) (h' : Crew.Steady env token K) :
    Crew.Steady env token fun crew w => J crew w ∧ K crew w :=
  fun before m after results w hJK =>
    ⟨h before m after results w hJK.1, h' before m after results w hJK.2⟩

theorem Crew.Steady.sustained (h : Crew.Steady env token J) : Crew.Sustained env token J :=
  fun before m after results w hJ _ => h before m after results w hJ

/-- A panic leaves a steady property as well. -/
theorem Crew.Steady.panics (h : Crew.Steady env token J) {message : String} {crew : Crew ι σ α}
    {w : World ι S} (hpanics : Crew.Panics env token J message crew w) : J crew w := by
  obtain ⟨before, m, after, results, v, m', hJ, hturn, rfl⟩ := hpanics
  have hsteady := h before m after results v hJ
  rw [hturn] at hsteady
  simpa [Turn.results] using hsteady

/-- After the turn of a member the property holds, or the turn was a panic. -/
theorem Crew.Sustained.arrives (sustained : Crew.Sustained env token J)
    {before after : List (Member ι σ α)} {m : Member ι σ α} {results : List (Nat × α)}
    {w : World ι S} (h : J ⟨before ++ m :: after, results⟩ w) :
    let (turn, m', w') := m.turn env token w
    Crew.Arrives env token J turn.panic?
      ⟨before ++ m' :: after, results ++ turn.results m'.actor⟩ w' := by
  have hturn := sustained before m after results w h
  rcases hm : m.turn env token w with ⟨turn, m', w'⟩
  rw [hm] at hturn
  cases turn with
  | panicked message => exact ⟨before, m, after, results, w, m', h, hm, by simp⟩
  | passed => exact hturn rfl
  | finished a => exact hturn rfl

/-! ## Rounds -/

/-- The turns of the members at the end of a crew keep a sustained property, up to the first
panic. -/
theorem Crew.Sustained.takeTurns (sustained : Crew.Sustained env token J)
    (rest : List (Member ι σ α)) :
    ∀ (before : List (Member ι σ α)) (results : List (Nat × α)) (w : World ι S),
      J ⟨before ++ rest, results⟩ w →
        let (panic, crew, w') := Crew.takeTurns env token rest results w
        Crew.Arrives env token J panic ⟨before ++ crew.members, crew.results⟩ w' := by
  induction rest with
  | nil => exact fun before results w h => h
  | cons m rest ih =>
      intro before results w h
      have hturn := sustained.arrives h
      rcases hm : m.turn env token w with ⟨turn, m', w'⟩
      rw [hm] at hturn
      cases turn with
      | panicked message => simpa [Crew.takeTurns, hm] using hturn
      | passed =>
          have hJ : J ⟨before ++ m' :: rest, results ++ []⟩ w' := hturn
          have hrest := ih (before ++ [m']) results w' (by simpa using hJ)
          simpa [Crew.takeTurns, hm] using hrest
      | finished a =>
          have hJ : J ⟨before ++ m' :: rest, results ++ [(m'.actor, a)]⟩ w' := hturn
          have hrest := ih (before ++ [m']) (results ++ [(m'.actor, a)]) w' (by simpa using hJ)
          simpa [Crew.takeTurns, hm] using hrest

/-- The process has had a turn. -/
def Stage.isBegun : Stage ι σ α → Bool
  | .ready _ => false
  | _ => true

/-- A turn begins its process. -/
theorem takeTurn_isBegun (env : Environment ι S) (token : Token) (actor : Nat)
    (p : Process ι σ α) : ∀ (s : σ) (w : World ι S),
      (takeTurn env token actor p s w).2.1.stage.isBegun = true := by
  induction p with
  | done a => exact fun _ _ => rfl
  | call r next ih =>
      intro s w
      rcases hi : w.issue env (some actor) r with ⟨⟨advance, fires, yields, effect⟩, w₁⟩
      simp only [takeTurn, hi]
      cases yields with
      | zero =>
          cases effect with
          | answer answer => exact ih answer s _
          | panic message => rfl
          | hang => rfl
      | succ n => rfl
  | pause d next ih =>
      intro s w
      simp only [takeTurn]
      split
      · exact ih .cancelled s w
      · rfl
  | look next ih => exact fun s w => ih _ s w
  | put t next ih => exact fun s w => ih t w
  | panic message => exact fun _ _ => rfl
  | stall => exact fun _ _ => rfl

theorem Member.turn_isBegun (env : Environment ι S) (token : Token) (m : Member ι σ α)
    (w : World ι S) : (m.turn env token w).2.1.stage.isBegun = true := by
  obtain ⟨actor, s, stage⟩ := m
  cases stage with
  | ready p => exact takeTurn_isBegun env token actor p s w
  | calling n r effect next =>
      cases n with
      | zero =>
          cases effect with
          | answer answer => exact takeTurn_isBegun env token actor _ s _
          | panic message => rfl
          | hang => rfl
      | succ n => rfl
  | resting n next =>
      cases n with
      | zero => exact takeTurn_isBegun env token actor _ s w
      | succ n => rfl
  | finished a => rfl
  | hung => rfl

/-- A round that nobody panics in begins every process. -/
theorem Crew.takeTurns_isBegun (env : Environment ι S) (token : Token)
    (members : List (Member ι σ α)) : ∀ (results : List (Nat × α)) (w : World ι S),
      (Crew.takeTurns env token members results w).1 = none →
        ∀ m ∈ (Crew.takeTurns env token members results w).2.1.members,
          m.stage.isBegun = true := by
  induction members with
  | nil => exact fun _ _ _ => List.forall_mem_nil _
  | cons m rest ih =>
      intro results w hnone
      have hbegun := m.turn_isBegun env token w
      rcases hm : m.turn env token w with ⟨turn, m', w'⟩
      rw [hm] at hbegun
      simp only [Crew.takeTurns, hm] at hnone ⊢
      cases turn with
      | panicked message => cases hnone
      | passed => exact List.forall_mem_cons.mpr ⟨hbegun, ih results w' hnone⟩
      | finished a => exact List.forall_mem_cons.mpr ⟨hbegun, ih _ w' hnone⟩

/-- So do any more rounds. -/
theorem Crew.times_isBegun (env : Environment ι S) (token : Token) (rounds : Nat) :
    ∀ (crew : Crew ι σ α) (w : World ι S),
      let (panic, crew', _) := (Crew.round env token).times (rounds + 1) crew w
      panic = none → ∀ m ∈ crew'.members, m.stage.isBegun = true := by
  induction rounds with
  | zero =>
      intro crew w
      have hbegun := Crew.takeTurns_isBegun env token crew.members crew.results w
      simp only [Interlude.times, Crew.round]
      rcases hr : Crew.takeTurns env token crew.members crew.results w with ⟨panic, crew', w'⟩
      rw [hr] at hbegun
      cases panic with
      | none => exact hbegun
      | some message => exact nofun
  | succ n ih =>
      intro crew w
      rw [Interlude.times]
      rcases hr : Crew.round env token crew w with ⟨panic, crew', w'⟩
      cases panic with
      | none => exact ih crew' w'
      | some message => exact nofun

/-- Rounds keep a sustained property, up to the first panic. -/
theorem Crew.Sustained.times (sustained : Crew.Sustained env token J) (n : Nat) :
    ∀ (crew : Crew ι σ α) (w : World ι S), J crew w →
      let (panic, crew', w') := (Crew.round env token).times n crew w
      Crew.Arrives env token J panic crew' w' := by
  induction n with
  | zero => exact fun crew w h => h
  | succ n ih =>
      intro crew w h
      have hround := sustained.takeTurns crew.members [] crew.results w h
      simp only [Interlude.times, Crew.round]
      rcases hr : Crew.takeTurns env token crew.members crew.results w with ⟨panic, crew', w'⟩
      rw [hr] at hround
      cases panic with
      | none => exact ih crew' w' hround
      | some message => exact hround

/-- A stage that only counts its turns down. -/
def Idles (env : Environment ι S) (token : Token) (actor : Nat) (s : σ)
    (stage : Nat → Stage ι σ α) : Prop :=
  ∀ n w, Member.turn env token ⟨actor, s, stage (n + 1)⟩ w = (.passed, ⟨actor, s, stage n⟩, w)

theorem idles_calling (env : Environment ι S) (token : Token) (actor : Nat) (s : σ)
    (r : ι.Request) (effect : Effect (ι.Reply r))
    (next : Except ClientError (ι.Reply r) → Process ι σ α) :
    Idles env token actor s fun n => .calling n r effect next := fun _ _ => rfl

theorem idles_resting (env : Environment ι S) (token : Token) (actor : Nat) (s : σ)
    (next : Rest → Process ι σ α) : Idles env token actor s fun n => .resting n next :=
  fun _ _ => rfl

/-- While the front process counts its turns down, the rounds of the others keep a sustained
property. If none of them panics, the front process is left with its last turn. -/
theorem Crew.Sustained.idling (sustained : Crew.Sustained env token J) {actor : Nat} {s : σ}
    {stage : Nat → Stage ι σ α} (idles : Idles env token actor s stage)
    (past : List (Member ι σ α)) (n : Nat) :
    ∀ (crew : Crew ι σ α) (w : World ι S),
      J ⟨past ++ ⟨actor, s, stage n⟩ :: crew.members, crew.results⟩ w →
        let (panic, crew', w') := (Crew.round env token).times n crew w
        ∃ k, (panic = none → k = 0) ∧ Crew.Arrives env token J panic
          ⟨past ++ ⟨actor, s, stage k⟩ :: crew'.members, crew'.results⟩ w' := by
  induction n with
  | zero => exact fun crew w h => ⟨0, fun _ => rfl, h⟩
  | succ n ih =>
      intro crew w h
      have hturn := sustained past ⟨actor, s, stage (n + 1)⟩ crew.members crew.results w h
      rw [idles] at hturn
      have hround := sustained.takeTurns crew.members (past ++ [⟨actor, s, stage n⟩]) crew.results w
        (by simpa using hturn rfl)
      rcases hr : Crew.takeTurns env token crew.members crew.results w with ⟨panic, crew', w'⟩
      simp only [hr, List.append_assoc, List.singleton_append] at hround
      simp only [Interlude.times, Crew.round, hr]
      cases panic with
      | some message => exact ⟨n, nofun, hround⟩
      | none => exact ih crew' w' hround

/-- The same where the front process has just had its turn, so that the others come first. -/
theorem Crew.Sustained.yielding (sustained : Crew.Sustained env token J) {actor : Nat} {s : σ}
    {stage : Nat → Stage ι σ α} (idles : Idles env token actor s stage)
    (past : List (Member ι σ α)) (n : Nat) (crew : Crew ι σ α) (w : World ι S)
    (h : J ⟨past ++ ⟨actor, s, stage n⟩ :: crew.members, crew.results⟩ w) :
    let (panic, crew', w') := (Crew.round env token).times (n + 1) crew w
    ∃ k, (panic = none → k = 0) ∧ Crew.Arrives env token J panic
      ⟨past ++ ⟨actor, s, stage k⟩ :: crew'.members, crew'.results⟩ w' := by
  have hround := sustained.takeTurns crew.members (past ++ [⟨actor, s, stage n⟩]) crew.results w
    (by simpa using h)
  rcases hr : Crew.takeTurns env token crew.members crew.results w with ⟨panic, crew', w'⟩
  simp only [hr, List.append_assoc, List.singleton_append] at hround
  simp only [Interlude.times, Crew.round, hr]
  cases panic with
  | some message => exact ⟨n, nofun, hround⟩
  | none => exact sustained.idling idles past n crew' w' hround

/-! ## Driving the front process -/

/-- The turn of a process, with these members before and after it, leads to where a property
holds, unless it panics. -/
def Crew.Lands (env : Environment ι S) (token : Token) (J : Crew ι σ α → World ι S → Prop)
    (actor : Nat) (past : List (Member ι σ α)) (crew : Crew ι σ α) (p : Process ι σ α) (s : σ)
    (w : World ι S) : Prop :=
  let (turn, m, w') := takeTurn env token actor p s w
  Crew.Arrives env token J turn.panic?
    ⟨past ++ m :: crew.members, crew.results ++ turn.results m.actor⟩ w'

/-- A member whose turn goes on with a process lands where the process does. -/
theorem Crew.Sustained.lands (sustained : Crew.Sustained env token J)
    {past : List (Member ι σ α)} {m : Member ι σ α} {crew : Crew ι σ α} {w w₁ : World ι S}
    {actor : Nat} {p : Process ι σ α} {s : σ}
    (h : J ⟨past ++ m :: crew.members, crew.results⟩ w)
    (hturn : m.turn env token w = takeTurn env token actor p s w₁) :
    Crew.Lands env token J actor past crew p s w₁ := by
  have harrives := sustained.arrives h
  rw [hturn] at harrives
  exact harrives

/-- Where a drive ended: the process stands where its ending says, except that another's panic may
have left it waiting. -/
structure Crew.Driven (env : Environment ι S) (token : Token) (J : Crew ι σ α → World ι S → Prop)
    (actor : Nat) (past : List (Member ι σ α)) (d : GatedRollout.Driven ι S σ α (Crew ι σ α))
    (stage : Stage ι σ α) : Prop where
  arrives : Crew.Arrives env token J d.ending.panic?
    ⟨past ++ ⟨actor, d.state, stage⟩ :: d.others.members,
      d.others.results ++ d.ending.results actor⟩ d.world
  returned : ∀ a, d.ending = .returned a → stage = .finished a
  hung : d.ending = .hung → stage = .hung

theorem Crew.Driven.of_panicked {actor : Nat} {past : List (Member ι σ α)} {message : String}
    {s : σ} {crew : Crew ι σ α} {w : World ι S} {stage : Stage ι σ α}
    (h : Crew.Arrives env token J (some message)
      ⟨past ++ ⟨actor, s, stage⟩ :: crew.members, crew.results ++ []⟩ w) :
    Crew.Driven env token J actor past ⟨.panicked message, s, crew, w⟩ stage where
  arrives := h
  returned _ hreturned := by cases hreturned
  hung hhung := by cases hhung

theorem Crew.Driven.of_hung {actor : Nat} {past : List (Member ι σ α)} {s : σ}
    {crew : Crew ι σ α} {w : World ι S}
    (h : Crew.Arrives env token J none
      ⟨past ++ ⟨actor, s, .hung⟩ :: crew.members, crew.results ++ []⟩ w) :
    Crew.Driven env token J actor past ⟨.hung, s, crew, w⟩ .hung where
  arrives := h
  returned _ hreturned := by cases hreturned
  hung _ := rfl

/-- A sustained property holds wherever driving the front process ends, unless in a panic. -/
theorem Crew.Sustained.drive (sustained : Crew.Sustained env token J) (actor : Nat)
    (past : List (Member ι σ α)) (p : Process ι σ α) :
    ∀ (s : σ) (crew : Crew ι σ α) (w : World ι S), Crew.Lands env token J actor past crew p s w →
      ∃ stage, Crew.Driven env token J actor past
        (GatedRollout.drive env token (some actor) (Crew.round env token) p s crew w) stage := by
  induction p with
  | done a =>
      intro s crew w h
      refine ⟨.finished a, h, fun b hb => ?_, fun hhung => ?_⟩
      · cases hb
        rfl
      · cases hhung
  | call r next ih =>
      intro s crew w h
      simp only [Crew.Lands, takeTurn] at h
      simp only [GatedRollout.drive]
      rcases hi : w.issue env (some actor) r with ⟨⟨advance, fires, yields, effect⟩, w₁⟩
      simp only [hi] at h ⊢
      cases yields with
      | zero =>
          simp only [Interlude.times]
          cases effect with
          | answer answer => exact ih answer s crew _ h
          | panic message => exact ⟨.hung, .of_panicked h⟩
          | hang => exact ⟨.hung, .of_hung h⟩
      | succ n =>
          have hJ : J ⟨past ++ ⟨actor, s, .calling n r effect next⟩ :: crew.members,
            crew.results ++ []⟩ w₁ := h
          have hwaited := sustained.yielding (idles_calling env token actor s r effect next) past n
            crew w₁ (by simpa using hJ)
          rcases ht : (Crew.round env token).times (n + 1) crew w₁ with ⟨panic, crew', w₂⟩
          rw [ht] at hwaited
          obtain ⟨k, hk, hround⟩ := hwaited
          cases panic with
          | some message =>
              exact ⟨.calling k r effect next, .of_panicked (by simpa using hround)⟩
          | none =>
              obtain rfl := hk rfl
              have harrives := sustained.arrives hround
              cases effect with
              | answer answer => exact ih answer s crew' _ (sustained.lands hround rfl)
              | panic message => exact ⟨.hung, .of_panicked harrives⟩
              | hang => exact ⟨.hung, .of_hung harrives⟩
  | pause d next ih =>
      intro s crew w h
      simp only [Crew.Lands, takeTurn] at h
      simp only [GatedRollout.drive]
      split
      · next hc =>
          rw [if_pos hc] at h
          exact ih .cancelled s crew w h
      · next hc =>
          rw [if_neg hc] at h
          rcases hs : w.sleep env (some actor) d with ⟨⟨fires, n⟩, w₁⟩
          simp only [hs] at h ⊢
          have hJ : J ⟨past ++ ⟨actor, s, .resting n next⟩ :: crew.members,
            crew.results ++ []⟩ w₁ := h
          have hwaited := sustained.yielding (idles_resting env token actor s next) past n crew w₁
            (by simpa using hJ)
          rcases ht : (Crew.round env token).times (n + 1) crew w₁ with ⟨panic, crew', w₂⟩
          rw [ht] at hwaited
          obtain ⟨k, hk, hround⟩ := hwaited
          cases panic with
          | some message =>
              exact ⟨.resting k next, .of_panicked (by simpa using hround)⟩
          | none =>
              obtain rfl := hk rfl
              exact ih _ s crew' w₂ (sustained.lands hround rfl)
  | look next ih => exact fun s crew w h => ih ⟨w.clock, w.cancelled token, s⟩ s crew w h
  | put t next ih => exact fun s crew w h => ih t crew w h
  | panic message => exact fun s crew w h => ⟨.hung, .of_panicked h⟩
  | stall => exact fun s crew w h => ⟨.hung, .of_hung h⟩

/-! ## Concluding the front process -/

theorem Stage.isFinished_iff {stage : Stage ι σ α} :
    stage.isFinished = true ↔ ∃ a, stage = .finished a := by
  cases stage <;> simp [isFinished]

/-- The process will do nothing more. -/
def Stage.isSettled (stage : Stage ι σ α) : Bool := stage.isFinished || stage.isHung

/-- What is left of the front process and of the others after it was concluded. A panic may have
left the front process at a stage of its own; otherwise it is settled. -/
structure Crew.Left (env : Environment ι S) (token : Token) (J : Crew ι σ α → World ι S → Prop)
    (past : List (Member ι σ α)) (d : GatedRollout.Driven ι S (Member ι σ α) Unit (Crew ι σ α))
    (m : Member ι σ α) : Prop where
  state_eq : m.state = d.state.state
  arrives : Crew.Arrives env token J d.ending.panic? ⟨past ++ m :: d.others.members,
    d.others.results⟩ d.world
  settled : d.ending.panic? = none → m = d.state ∧ m.stage.isSettled = true

theorem Crew.Sustained.resume (sustained : Crew.Sustained env token J) (actor : Nat)
    (past : List (Member ι σ α)) (p : Process ι σ α) (s : σ) (crew : Crew ι σ α) (w : World ι S)
    (h : Crew.Lands env token J actor past crew p s w) :
    ∃ m, Crew.Left env token J past
      ((GatedRollout.drive env token (some actor) (Crew.round env token) p s crew w).asMember
        actor) m := by
  obtain ⟨stage, harrives, hreturned, hhung⟩ := sustained.drive actor past p s crew w h
  generalize GatedRollout.drive env token (some actor) (Crew.round env token) p s crew w = d at *
  obtain ⟨ending, s', others, w'⟩ := d
  refine ⟨⟨actor, s', stage⟩, ?_⟩
  cases ending with
  | returned a =>
      obtain rfl := hreturned a rfl
      exact ⟨rfl, harrives, fun _ => ⟨rfl, rfl⟩⟩
  | panicked message =>
      exact ⟨rfl, by simpa [Driven.asMember] using harrives, nofun⟩
  | hung =>
      obtain rfl := hhung rfl
      exact ⟨rfl, by simpa [Driven.asMember] using harrives, fun _ => ⟨rfl, rfl⟩⟩

/-- A sustained property holds wherever the front process is concluded, unless in a panic. -/
theorem Crew.Sustained.conclude_front (sustained : Crew.Sustained env token J)
    (past : List (Member ι σ α)) (m : Member ι σ α) (crew : Crew ι σ α) (w : World ι S)
    (h : J ⟨past ++ m :: crew.members, crew.results⟩ w) :
    ∃ m', Crew.Left env token J past (m.conclude env token crew w) m' := by
  obtain ⟨actor, s, stage⟩ := m
  cases stage with
  | ready p => exact sustained.resume actor past p s crew w (sustained.lands h rfl)
  | calling n r effect next =>
      have hwaited := sustained.idling (idles_calling env token actor s r effect next) past n crew w
        h
      rcases ht : (Crew.round env token).times n crew w with ⟨panic, crew', w'⟩
      rw [ht] at hwaited
      obtain ⟨k, hk, hround⟩ := hwaited
      simp only [Member.conclude, ht]
      cases panic with
      | some message => exact ⟨⟨actor, s, .calling k r effect next⟩, rfl, hround, nofun⟩
      | none =>
          obtain rfl := hk rfl
          have harrives := sustained.arrives hround
          cases effect with
          | answer answer =>
              exact sustained.resume actor past _ s crew' _ (sustained.lands hround rfl)
          | panic message =>
              exact ⟨⟨actor, s, .hung⟩, rfl, by simpa [Member.turn] using harrives,
                nofun⟩
          | hang =>
              exact ⟨⟨actor, s, .hung⟩, rfl, by simpa [Member.turn] using harrives,
                fun _ => ⟨rfl, rfl⟩⟩
  | resting n next =>
      have hwaited := sustained.idling (idles_resting env token actor s next) past n crew w h
      rcases ht : (Crew.round env token).times n crew w with ⟨panic, crew', w'⟩
      rw [ht] at hwaited
      obtain ⟨k, hk, hround⟩ := hwaited
      simp only [Member.conclude, ht]
      cases panic with
      | some message => exact ⟨⟨actor, s, .resting k next⟩, rfl, hround, nofun⟩
      | none =>
          obtain rfl := hk rfl
          exact sustained.resume actor past _ s crew' w' (sustained.lands hround rfl)
  | finished a => exact ⟨_, rfl, h, fun _ => ⟨rfl, rfl⟩⟩
  | hung => exact ⟨_, rfl, h, fun _ => ⟨rfl, rfl⟩⟩

/-! ## Whole fan-outs -/

/-- How a fan-out came to its end: with the panic of a turn, or with a crew of the second property,
which has returned if every process of it has finished. -/
inductive Crew.Closes (env : Environment ι S) (token : Token) (J K : Crew ι σ α → World ι S → Prop)
    (g : Gathered ι S σ α) : Prop
  | panicked (message : String) (crew : Crew ι σ α) (ending : g.ending = .panicked message)
      (states : g.states = crew.members.map (·.state))
      (panics : Crew.Panics env token J message crew g.world)
  | passed (crew : Crew ι σ α)
      (ending : g.ending =
        if crew.members.all (·.stage.isFinished) then .returned crew.results else .hung)
      (states : g.states = crew.members.map (·.state)) (holds : K crew g.world)

/-- A crew of the property in which no process will do anything more. -/
def Crew.Settled (J : Crew ι σ α → World ι S → Prop) (crew : Crew ι σ α) (w : World ι S) : Prop :=
  J crew w ∧ ∀ m ∈ crew.members, m.stage.isSettled = true

/-- The number of members stays the same. -/
theorem Crew.steady_length (size : Nat) :
    Crew.Steady env token fun (crew : Crew ι σ α) (_ : World ι S) =>
      crew.members.length = size := by
  intro before m after results w h
  simpa using h

/-- A crew of a property that panics panics in every weaker property. -/
theorem Crew.Panics.mono (hJK : ∀ crew w, J crew w → K crew w) {message : String}
    {crew : Crew ι σ α} {w : World ι S} (h : Crew.Panics env token J message crew w) :
    Crew.Panics env token K message crew w := by
  obtain ⟨before, m, after, results, v, m', hJ, hturn, hcrew⟩ := h
  exact ⟨before, m, after, results, v, m', hJK _ _ hJ, hturn, hcrew⟩

theorem Crew.Closes.mono {K' : Crew ι σ α → World ι S → Prop} {g : Gathered ι S σ α}
    (h : Crew.Closes env token J K g) (hK : ∀ crew w, K crew w → K' crew w) :
    Crew.Closes env token J K' g := by
  cases h with
  | panicked message crew ending states panics => exact .panicked message crew ending states panics
  | passed crew ending states holds => exact .passed crew ending states (hK _ _ holds)

/-- From the members that are settled, concluding the others one by one settles all. -/
theorem Crew.Sustained.conclude (sustained : Crew.Sustained env token J) (n : Nat) :
    ∀ (past : List (Member ι σ α)) (crew : Crew ι σ α) (w : World ι S),
      J ⟨past.reverse ++ crew.members, crew.results⟩ w → crew.members.length ≤ n →
        (∀ m ∈ past, m.stage.isSettled = true) →
          Crew.Closes env token J (Crew.Settled J) (Crew.conclude env token n past crew w) := by
  induction n with
  | zero =>
      intro past crew w h hlength hpast
      obtain ⟨members, results⟩ := crew
      obtain rfl := List.eq_nil_of_length_eq_zero (Nat.le_zero.mp hlength)
      exact .passed ⟨past.reverse ++ [], results⟩ rfl rfl ⟨h, by simpa using hpast⟩
  | succ n ih =>
      intro past crew w h hlength hpast
      obtain ⟨_ | ⟨m, rest⟩, results⟩ := crew
      · exact .passed ⟨past.reverse ++ [], results⟩ rfl rfl ⟨h, by simpa using hpast⟩
      · obtain ⟨m', hstate, harrives, hsettled⟩ :=
          (sustained.and (Crew.steady_length _).sustained).conclude_front past.reverse m
            ⟨rest, results⟩ w ⟨h, rfl⟩
        simp only [Crew.conclude]
        rcases hd : m.conclude env token ⟨rest, results⟩ w with ⟨ending, front, others, w'⟩
        simp only [hd] at hstate harrives hsettled ⊢
        have hnext : ending.panic? = none → Crew.Closes env token J (Crew.Settled J)
            (Crew.conclude env token n (front :: past) others w') := by
          intro hending
          obtain ⟨rfl, hfront⟩ := hsettled hending
          rw [hending] at harrives
          obtain ⟨hJ, hsize⟩ := harrives
          simp only [List.length_append, List.length_cons] at hsize hlength
          refine ih (m' :: past) others w' (by simpa using hJ) (by omega) fun m₀ hm₀ => ?_
          rcases List.mem_cons.mp hm₀ with rfl | hm₀
          · exact hfront
          · exact hpast m₀ hm₀
        cases ending with
        | panicked message =>
            simp only [Ending.panic?, Crew.Arrives] at harrives
            exact .panicked message _ rfl (by simp [hstate]) (harrives.mono fun _ _ hJ => hJ.1)
        | returned u => exact hnext rfl
        | hung => exact hnext rfl

/-- A crew of the property as a fan-out leaves it that was given so many rounds after the first, or
any number of them: every process has had a turn, and has come as far as it comes if nothing cut it
off. -/
def Crew.Abandoned (limit : Option Nat) (J : Crew ι σ α → World ι S → Prop) (crew : Crew ι σ α)
    (w : World ι S) : Prop :=
  J crew w ∧ ∀ m ∈ crew.members,
    m.stage.isBegun = true ∧ (limit = none → m.stage.isSettled = true)

theorem Stage.isBegun_of_isSettled {stage : Stage ι σ α} (h : stage.isSettled = true) :
    stage.isBegun = true := by
  cases stage with
  | ready p => cases h
  | calling n r effect next => cases h
  | resting n next => cases h
  | finished a => rfl
  | hung => rfl

/-- A sustained property that holds at the start of a fan-out holds at its end, where every process
has come as far as it comes or as far as its rounds bring it, unless one of them panics. -/
theorem Crew.Sustained.fanOutWithin (sustained : Crew.Sustained env token J) (limit : Option Nat)
    (crew : List (Process ι σ α × σ)) (w : World ι S) (h : J (Crew.assemble crew) w) :
    Crew.Closes env token J (Crew.Abandoned limit J)
      (GatedRollout.fanOutWithin env token limit crew w) := by
  cases limit with
  | none =>
      have hcloses := sustained.conclude crew.length [] (Crew.assemble crew) w h
        (by simp [Crew.assemble]) (List.forall_mem_nil _)
      exact hcloses.mono fun last v hsettled => ⟨hsettled.1, fun m hm =>
        ⟨Stage.isBegun_of_isSettled (hsettled.2 m hm), fun _ => hsettled.2 m hm⟩⟩
  | some rounds =>
      have hrounds := sustained.times (rounds + 1) (Crew.assemble crew) w h
      have hbegun := Crew.times_isBegun env token rounds (Crew.assemble crew) w
      rcases ht : (Crew.round env token).times (rounds + 1) (Crew.assemble crew) w
        with ⟨panic, last, w'⟩
      rw [ht] at hrounds hbegun
      simp only [GatedRollout.fanOutWithin, GatedRollout.fanOutFor, ht]
      cases panic with
      | some message => exact .panicked message last rfl rfl hrounds
      | none => exact .passed last rfl rfl ⟨hrounds, fun m hm => ⟨hbegun rfl m hm, nofun⟩⟩

/-- What is left after a fan-out: a crew with the states that it leaves, of which every member has
finished if the fan-out returned. -/
def Crew.Ends (J : Crew ι σ α → World ι S → Prop) (g : Gathered ι S σ α) : Prop :=
  ∃ crew, J crew g.world ∧ g.states = crew.members.map (·.state) ∧
    ∀ results, g.ending = .returned results →
      results = crew.results ∧ ∀ m ∈ crew.members, m.stage.isFinished = true

/-- What every turn keeps, panics included, is there at the end. -/
theorem Crew.Closes.ends (steady : Crew.Steady env token J) {g : Gathered ι S σ α}
    (h : Crew.Closes env token J K g) (hKJ : ∀ crew w, K crew w → J crew w) : Crew.Ends J g := by
  cases h with
  | panicked message crew ending states panics =>
      exact ⟨crew, steady.panics panics, states, by simp [ending]⟩
  | passed crew ending states holds =>
      refine ⟨crew, hKJ _ _ holds, states, fun results hresults => ?_⟩
      rw [ending] at hresults
      split at hresults
      · next hall =>
          cases hresults
          exact ⟨rfl, List.all_eq_true.mp hall⟩
      · cases hresults

/-- A panic of a fan-out is that of a turn. -/
theorem Crew.Closes.panics {g : Gathered ι S σ α} (h : Crew.Closes env token J K g)
    {message : String} (hpanicked : g.ending = .panicked message) :
    ∃ crew, Crew.Panics env token J message crew g.world := by
  cases h with
  | panicked said crew ending states panics =>
      cases ending.symm.trans hpanicked
      exact ⟨crew, panics⟩
  | passed crew ending states holds =>
      rw [hpanicked] at ending
      split at ending <;> cases ending

/-- A steady property that holds at the start of a fan-out holds at its end. -/
theorem Crew.Steady.fanOutWithin (steady : Crew.Steady env token J) (limit : Option Nat)
    (crew : List (Process ι σ α × σ)) (w : World ι S) (h : J (Crew.assemble crew) w) :
    Crew.Ends J (GatedRollout.fanOutWithin env token limit crew w) :=
  (steady.sustained.fanOutWithin limit crew w h).ends steady fun _ _ habandoned => habandoned.1

theorem Crew.Steady.fanOut (steady : Crew.Steady env token J) (crew : List (Process ι σ α × σ))
    (w : World ι S) (h : J (Crew.assemble crew) w) :
    Crew.Ends J (GatedRollout.fanOut env token crew w) :=
  steady.fanOutWithin none crew w h

end GatedRollout
