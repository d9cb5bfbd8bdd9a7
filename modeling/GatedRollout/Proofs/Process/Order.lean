import GatedRollout.Proofs.Process.Discipline
import GatedRollout.Proofs.Process.SideBySide

/-!
# The order in which processes finish side by side

The results of a fan-out stand in the order in which its processes finished. That can be seen in the
history: when a process had finished, it did nothing more, and whoever finished later in a way that
takes a deed to come to had that deed still before it. `Process.Alert` says of a process which of
its results take a deed since its latest pause, under a token that never fires.
-/

namespace GatedRollout

variable {ι : Interface} {S σ ε α β : Type}

/-! ## Alert processes -/

/-- Under a token that never fires, the account is whether anything was done since the latest
pause. -/
def Discipline.alertness : Discipline ι σ Bool where
  call _ _ K := ∀ answer, K answer true
  pause _ _ K := K .elapsed false
  look _ K := ∀ now s, K ⟨now, false, s⟩
  put _ active K := K active
  panic _ _ := True
  stall _ := True
  call_mono hK h := fun answer => hK _ _ (h answer)
  pause_mono hK h := hK _ _ h
  look_mono hK h := fun now s => hK _ (h now s)
  put_mono hK h := hK _ h

/-- Under a token that never fires, this holds of all that the process returns and of whether it has
done anything since its latest pause. -/
def Process.Alert (post : α → Bool → Prop) (p : Process ι σ α) (active : Bool) : Prop :=
  p.Obeys .alertness post active

namespace Process.Alert

variable {active : Bool}

theorem anything (p : Process ι σ α) (active : Bool) : p.Alert (fun _ _ => True) active :=
  Obeys.of_lax ⟨fun h answer => h answer true, fun h => h .elapsed false,
    fun h now s => h ⟨now, false, s⟩, fun h => h _, fun _ _ => trivial, fun _ => trivial⟩ p active

/-- A watch ends with a reply in hand. -/
theorem watch {γ : Type} (watch : Watch ι β γ) (patience : Nat) :
    (watch.run patience : Process ι σ _).Alert (fun _ active => active = true) active := by
  refine fun now s => Obeys.poll (fun _ _ _ => True) (fun _ _ _ => trivial) ?_ trivial
  intro n seen active _ answer
  cases answer with
  | error e => rfl
  | ok reply =>
      dsimp only [Watch.Requires]
      cases watch.judge seen reply with
      | settled b => rfl
      | pending seen' =>
          intro now s
          dsimp only
          split
          · rfl
          · trivial

/-! ### Attempts -/

section Attempts

variable {post : Except ε β → Bool → Prop}

theorem run_then {p : Process ι σ α} {f : α → Attempt ι σ ε β}
    (h : ∀ a active, (f a).run.Alert post active) :
    ((ExceptT.lift p : Attempt ι σ ε α) >>= f).run.Alert post active :=
  Obeys.attempt (Q := fun result _ => ∃ a, result = .ok a)
    (Obeys.run_attempt ((anything p active).weaken fun a _ _ => ⟨a, rfl⟩))
    (fun a active _ => h a active) (fun _ _ h => nomatch h)

theorem state_then {f : σ → Attempt ι σ ε β} (h : ∀ s, (f s).run.Alert post active) :
    (Attempt.state >>= f).run.Alert post active := fun _ s => h s

theorem attempt_modify {post : Except ε Unit → Bool → Prop} {f : σ → σ}
    (h : post (.ok ()) active) :
    (Attempt.modify f : Attempt ι σ ε Unit).run.Alert post active := fun _ _ => h

theorem modify_then {g : σ → σ} {f : Unit → Attempt ι σ ε β} (h : (f ()).run.Alert post active) :
    (Attempt.modify g >>= f).run.Alert post active := fun _ _ => h

theorem ask_then {r : ι.Request} {fault : ClientError → ε} {f : ι.Reply r → Attempt ι σ ε β}
    (ok : ∀ reply, (f reply).run.Alert post true) (error : ∀ e, post (.error (fault e)) true) :
    (Attempt.ask r fault >>= f).run.Alert post active := by
  intro answer
  cases answer with
  | ok reply => exact ok reply
  | error e => exact error e

end Attempts

end Process.Alert

/-! ## Turns -/

/-- The same of a process at a stage, before its next turn. -/
def Stage.Alert (post : α → Bool → Prop) : Stage ι σ α → Prop
  | .ready p => p.Alert post false
  | .calling _ _ effect next =>
      ∀ answer, effect = .answer answer → (next answer).Alert post true
  | .resting _ next => (next .elapsed).Alert post false
  | .finished _ => True
  | .hung => True

variable {post : α → Bool → Prop} {env : Environment ι S}

/-- How many deeds an actor has done. -/
def World.count (w : World ι S) (actor : Nat) : Nat := (w.deeds (some actor)).length

theorem World.count_issue (env : Environment ι S) (w : World ι S) (actor : Nat) (r : ι.Request) :
    (w.issue env (some actor) r).2.count actor = w.count actor + 1 := by
  rw [count, deeds_issue, if_pos rfl, List.length_append]
  rfl

theorem World.count_note (w : World ι S) (actor : Nat) (r : ι.Request)
    (answer : Except ClientError (ι.Reply r)) :
    (w.note (some actor) (.returned r answer)).count actor = w.count actor + 1 := by
  rw [count, deeds_note, if_pos ⟨rfl, rfl⟩, List.length_append]
  rfl

theorem World.count_sleep (env : Environment ι S) (w : World ι S) (actor : Nat) (d : Duration) :
    (w.sleep env (some actor) d).2.count actor = w.count actor + 1 := by
  rw [count, deeds_sleep, if_pos rfl, List.length_append]
  rfl

/-- What comes of a turn that begins in the middle of an alert process. -/
theorem takeTurn_alert (env : Environment ι S) (actor : Nat) (p : Process ι σ α) :
    ∀ (s : σ) (w : World ι S) (active : Bool), p.Alert post active →
      let (turn, m, w') := takeTurn env .shielded actor p s w
      m.stage.Alert post ∧ w.count actor ≤ w'.count actor ∧
        ∀ a, turn = .finished a → ∃ done, post a done ∧
          (done = true → active = true ∨ w.count actor < w'.count actor) := by
  induction p with
  | done a =>
      intro s w active h
      refine ⟨trivial, Nat.le_refl _, fun b hb => ?_⟩
      cases hb
      exact ⟨active, h, .inl⟩
  | call r next ih =>
      intro s w active h
      have hissued := w.count_issue env actor r
      rcases hi : w.issue env (some actor) r with ⟨⟨advance, fires, yields, effect⟩, w₁⟩
      rw [hi] at hissued
      have hmore : w.count actor ≤ w₁.count actor :=
        Nat.le_trans (Nat.le_succ _) (Nat.le_of_eq hissued.symm)
      simp only [takeTurn, hi]
      cases yields with
      | zero =>
          cases effect with
          | answer answer =>
              -- The reply is a deed, and what follows it is active.
              obtain ⟨hstage, hle, hfinished⟩ :=
                ih answer s (w₁.note (some actor) (.returned r answer)) true (h answer)
              rw [World.count_note] at hle
              have hless := Nat.lt_of_le_of_lt hmore hle
              refine ⟨hstage, Nat.le_of_lt hless, fun a ha => ?_⟩
              obtain ⟨done, hpost, -⟩ := hfinished a ha
              exact ⟨done, hpost, fun _ => .inr hless⟩
          | panic message => exact ⟨trivial, hmore, by rintro _ ⟨⟩⟩
          | hang => exact ⟨trivial, hmore, by rintro _ ⟨⟩⟩
      | succ n => exact ⟨fun answer _ => h answer, hmore, by rintro _ ⟨⟩⟩
  | pause d next ih =>
      intro s w active h
      have hslept := w.count_sleep env actor d
      refine ⟨h, ?_, by rintro _ ⟨⟩⟩
      show w.count actor ≤ (w.sleep env (some actor) d).2.count actor
      omega
  | look next ih => exact fun s w active h => ih _ s w active (h w.clock s)
  | put t next ih => exact fun s w active h => ih t w active h
  | panic message => exact fun s w active _ => ⟨trivial, Nat.le_refl _, by rintro _ ⟨⟩⟩
  | stall => exact fun s w active _ => ⟨trivial, Nat.le_refl _, by rintro _ ⟨⟩⟩

/-- A turn in which an alert process finishes adds a deed where its result takes one. -/
theorem Member.turn_alert {m : Member ι σ α} (h : m.stage.Alert post)
    (env : Environment ι S) (w : World ι S) :
    let (turn, m', w') := m.turn env .shielded w
    m'.stage.Alert post ∧ ∀ a, turn = .finished a → ∃ done, post a done ∧
      (done = true → w.count m.actor < w'.count m.actor) := by
  obtain ⟨actor, s, stage⟩ := m
  cases stage with
  | ready p =>
      obtain ⟨hstage, -, hfinished⟩ := takeTurn_alert env actor p s w false h
      refine ⟨hstage, fun a ha => ?_⟩
      obtain ⟨done, hpost, hcount⟩ := hfinished a ha
      exact ⟨done, hpost, fun hdone => (hcount hdone).resolve_left Bool.false_ne_true⟩
  | calling n r effect next =>
      cases n with
      | zero =>
          cases effect with
          | answer answer =>
              obtain ⟨hstage, hle, hfinished⟩ := takeTurn_alert env actor _ s
                (w.note (some actor) (.returned r answer)) true (h answer rfl)
              rw [World.count_note] at hle
              refine ⟨hstage, fun a ha => ?_⟩
              obtain ⟨done, hpost, -⟩ := hfinished a ha
              exact ⟨done, hpost, fun _ => hle⟩
          | panic message => exact ⟨trivial, nofun⟩
          | hang => exact ⟨trivial, nofun⟩
      | succ n => exact ⟨h, nofun⟩
  | resting n next =>
      cases n with
      | zero =>
          obtain ⟨hstage, -, hfinished⟩ :=
            takeTurn_alert env actor _ s w false h
          refine ⟨hstage, fun a ha => ?_⟩
          obtain ⟨done, hpost, hcount⟩ := hfinished a ha
          exact ⟨done, hpost, fun hdone => (hcount hdone).resolve_left Bool.false_ne_true⟩
      | succ n => exact ⟨h, nofun⟩
  | finished a => exact ⟨trivial, nofun⟩
  | hung => exact ⟨trivial, nofun⟩

/-! ## The order of the results -/

/-- At the moment when a process had finished, it did nothing more, and each one that finished
later with such a result still had something to do. -/
def Ordered (fails : α → Prop) (trace : List (Entry ι)) (results : List (Nat × α)) : Prop :=
  ∀ before i a after, results = before ++ (i, a) :: after → ∃ first last, trace = first ++ last ∧
    deedsOf (some i) last = [] ∧ ∀ j b, (j, b) ∈ after → fails b → deedsOf (some j) last ≠ []

section Ordering

variable {fails : α → Prop} {trace new : List (Entry ι)} {results : List (Nat × α)}

theorem ordered_nil (trace : List (Entry ι)) : Ordered fails trace ([] : List (Nat × α)) := by
  intro before i a after h
  simp at h

/-- What follows without any deed of those that have finished. -/
theorem Ordered.extend (h : Ordered fails trace results)
    (hquiet : ∀ i a, (i, a) ∈ results → deedsOf (some i) new = []) :
    Ordered fails (trace ++ new) results := by
  intro before i a after heq
  obtain ⟨first, last, rfl, hlast, hlater⟩ := h before i a after heq
  refine ⟨first, last ++ new, List.append_assoc .., ?_, fun j b hmem hfails hnone => ?_⟩
  · rw [deedsOf_append, hlast, hquiet i a (by simp [heq])]
    rfl
  · rw [deedsOf_append] at hnone
    exact hlater j b hmem hfails (List.append_eq_nil_iff.mp hnone).1

/-- Another one finishes, and has just done something where its result takes a deed. -/
theorem Ordered.finish (h : Ordered fails trace results) {j : Nat} {b : α}
    (hquiet : ∀ i a, (i, a) ∈ results → deedsOf (some i) new = [])
    (hdone : fails b → deedsOf (some j) new ≠ []) :
    Ordered fails (trace ++ new) (results ++ [(j, b)]) := by
  intro before i a after heq
  rcases List.eq_nil_or_concat after with rfl | ⟨after, final, rfl⟩
  · obtain ⟨-, hsame⟩ := List.append_inj' heq rfl
    cases hsame
    exact ⟨trace ++ new, [], (List.append_nil _).symm, rfl, nofun⟩
  · rw [List.concat_eq_append, ← List.cons_append, ← List.append_assoc] at heq
    obtain ⟨hresults, hfinal⟩ := List.append_inj' heq rfl
    cases hfinal
    obtain ⟨first, last, rfl, hlast, hlater⟩ := h before i a after hresults
    refine ⟨first, last ++ new, List.append_assoc .., ?_, fun k c hmem hfails hnone => ?_⟩
    · rw [deedsOf_append, hlast, hquiet i a (by simp [hresults])]
      rfl
    · rw [deedsOf_append] at hnone
      obtain ⟨hnone, hnew⟩ := List.append_eq_nil_iff.mp hnone
      rw [List.concat_eq_append, List.mem_append] at hmem
      rcases hmem with hmem | hmem
      · exact hlater k c hmem hfails hnone
      · cases List.mem_singleton.mp hmem
        exact hdone hfails hnew

end Ordering

/-! ## Fan-outs of alert processes -/

theorem Member.turn_of_finished {m : Member ι σ α} (h : m.stage.isFinished = true) (token : Token)
    (w : World ι S) : m.turn env token w = (.passed, m, w) := by
  obtain ⟨actor, s, stage⟩ := m
  cases stage with
  | finished a => rfl
  | _ => cases h

/-- What is secured of a crew of alert processes: the results are those of the members that have
finished, in their order. -/
structure Crew.Finishes (fails : α → Prop) (inv : Nat → σ → List (Event ι) → Prop)
    (post : Nat → α → σ → List (Event ι) → Prop) (past : Nat → List (Event ι))
    (earlier : World ι S) (size : Nat) (crew : Crew ι σ α) (w : World ι S) : Prop where
  holds : Crew.Holds inv post past earlier size crew w
  alert : ∀ m ∈ crew.members, m.stage.Alert fun a active => fails a → active = true
  finished : ∀ i a, (i, a) ∈ crew.results →
    ∃ m, crew.members[i]? = some m ∧ m.stage = .finished a
  ordered : Ordered fails (w.since earlier) crew.results

section Turning

variable {fails : α → Prop} {inv : Nat → σ → List (Event ι) → Prop}
  {post : Nat → α → σ → List (Event ι) → Prop} {past : Nat → List (Event ι)}
  {earlier : World ι S} {size : Nat} {before after : List (Member ι σ α)} {m m' : Member ι σ α}
  {results : List (Nat × α)} {w w' : World ι S}

/-- A turn in which a member finishes with such a result adds a deed of its own. -/
theorem Member.turn_acts {a : α} (h : m.stage.Alert fun a active => fails a → active = true)
    (hturn : m.turn env .shielded w = (.finished a, m', w')) (hfails : fails a) :
    deedsOf (some m.actor) (w'.since w) ≠ [] := by
  have halert := Member.turn_alert h env w
  have hfollows := m.turn_follows env .shielded w
  rw [hturn] at halert hfollows
  obtain ⟨done, hdone, hcount⟩ := halert.2 a rfl
  have hmore := hcount (hdone hfails)
  intro hnone
  have hsame := hfollows.deeds_eq (some m.actor)
  rw [hnone, List.append_nil] at hsame
  rw [World.count, World.count, hsame] at hmore
  exact Nat.lt_irrefl _ hmore

/-- The results that there are already are not those of a member that has not finished. -/
theorem Crew.Finishes.ne_of_unfinished
    (h : Crew.Finishes fails inv post past earlier size ⟨before ++ m :: after, results⟩ w)
    (hm : ¬m.stage.isFinished = true) {i : Nat} {a : α} (hmem : (i, a) ∈ results) :
    i ≠ before.length := by
  rintro rfl
  obtain ⟨m₀, hm₀, hstage⟩ := h.finished _ a hmem
  obtain rfl : m = m₀ := by simpa using hm₀
  exact hm (hstage ▸ rfl)

/-- A turn of another one leaves alone what those have done that have finished. -/
theorem Ordered.turn (h : Ordered fails (w.since earlier) results) (hearlier : w.Follows earlier)
    (hlater : w'.Follows w) {turn : Turn α} {actor : Nat}
    (hquiet : ∀ i a, (i, a) ∈ results → deedsOf (some i) (w'.since w) = [])
    (hdone : ∀ a, turn = .finished a → fails a → deedsOf (some actor) (w'.since w) ≠ []) :
    Ordered fails (w'.since earlier) (results ++ turn.results actor) := by
  rw [hearlier.since_trans hlater]
  cases turn with
  | finished a => exact h.finish hquiet (hdone a rfl)
  | passed => simpa [Turn.results] using h.extend hquiet
  | panicked message => simpa [Turn.results] using h.extend hquiet

end Turning

theorem Crew.Finishes.steady {fails : α → Prop} {inv : Nat → σ → List (Event ι) → Prop}
    {post : Nat → α → σ → List (Event ι) → Prop} {past : Nat → List (Event ι)}
    {earlier : World ι S} {size : Nat} :
    Crew.Steady env .shielded (Crew.Finishes fails inv post past earlier size) := by
  intro before m after results w h
  have hsteady : Crew.Steady env .shielded (Crew.Holds inv post past earlier size) :=
    Crew.Holds.steady
  have hholds := hsteady before m after results w h.holds
  obtain ⟨hactor, hm⟩ := h.holds.members before.length m (by simp)
  by_cases hfinished : m.stage.isFinished = true
  · rw [m.turn_of_finished hfinished] at hholds ⊢
    refine ⟨hholds, h.alert, ?_, ?_⟩
    · simpa [Turn.results] using h.finished
    · simpa [Turn.results] using h.ordered
  · have hfollows := m.turn_follows env .shielded w
    have hothers := fun other (hne : some m.actor ≠ other) => m.turn_others env .shielded w hne
    have hturn := hm.turn env .shielded
    have halert := Member.turn_alert (h.alert m (by simp)) env w
    rcases hmoved : m.turn env .shielded w with ⟨turn, m', w'⟩
    rw [hmoved] at hholds hfollows hothers hturn halert
    obtain ⟨hactor', -, hagrees⟩ := hturn
    rw [if_neg hfinished] at hagrees
    refine ⟨hholds, ?_, ?_, ?_⟩
    · intro m₀ hm₀
      rcases List.mem_append.mp hm₀ with hm₀ | hm₀
      · exact h.alert m₀ (List.mem_append_left _ hm₀)
      · rcases List.mem_cons.mp hm₀ with rfl | hm₀
        · exact halert.1
        · exact h.alert m₀ (List.mem_append_right _ (List.mem_cons_of_mem _ hm₀))
    · intro i a hmem
      rcases List.mem_append.mp hmem with hmem | hmem
      · have hne := h.ne_of_unfinished hfinished hmem
        rw [getElem?_append_cons_of_ne before after m m' hne]
        exact h.finished i a hmem
      · cases turn with
        | finished b =>
            cases List.mem_singleton.mp hmem
            exact ⟨m', by simp [hactor', hactor], hagrees⟩
        | passed => cases hmem
        | panicked message => cases hmem
    · refine h.ordered.turn h.holds.follows hfollows ?_ ?_
      · intro i a hmem
        have hne := h.ne_of_unfinished hfinished hmem
        have hsame := hothers (some i) fun hi => hne (hactor ▸ (Option.some.inj hi).symm)
        exact hfollows.deedsOf_since (hsame.trans (List.append_nil _).symm)
      · rintro a rfl hfails
        rw [hactor']
        exact Member.turn_acts (h.alert m (by simp)) hmoved hfails

section Fanning

variable {fails : α → Prop} {inv : Nat → σ → List (Event ι) → Prop}
  {post : Nat → α → σ → List (Event ι) → Prop} {past : Nat → List (Event ι)}
  {crew : List (Process ι σ α × σ)} {w : World ι S}

/-- The results of a fan-out that returned: one for each process, each with what the process
secures, in the order in which they finished. -/
structure Gathered.Returned (fails : α → Prop) (post : Nat → α → σ → List (Event ι) → Prop)
    (past : Nat → List (Event ι)) (earlier : World ι S) (size : Nat) (g : Gathered ι S σ α)
    (results : List (Nat × α)) : Prop where
  all : ∀ i < size, ∃ a, (i, a) ∈ results
  each : ∀ i a, (i, a) ∈ results → ∃ s y, g.states[i]? = some s ∧
    g.world.deeds (some i) = past i ++ y ∧ post i a s y
  ordered : Ordered fails (g.world.since earlier) results

theorem Crew.Ends.returned {g : Gathered ι S σ α} {size : Nat}
    (h : Crew.Ends (Crew.Finishes fails inv post past w size) g) {results : List (Nat × α)}
    (hreturned : g.ending = .returned results) :
    Gathered.Returned fails post past w size g results := by
  obtain ⟨last, hlast, hstates, hresults⟩ := h
  obtain ⟨rfl, hall⟩ := hresults results hreturned
  refine ⟨fun i hi => ?_, fun i a hmem => ?_, hlast.ordered⟩
  · rw [← hlast.holds.length_eq] at hi
    have hm := List.getElem?_eq_getElem hi
    obtain ⟨hactor, -⟩ := hlast.holds.members i _ hm
    have hmem := List.getElem_mem hi
    obtain ⟨a, hstage⟩ := Stage.isFinished_iff.mp (hall _ hmem)
    exact ⟨a, hactor ▸ hlast.holds.results_mem _ hmem a hstage⟩
  · obtain ⟨m, hm, hstage⟩ := hlast.finished i a hmem
    obtain ⟨rfl, y, hy, hpost⟩ := hlast.holds.members i m hm
    rw [hstage] at hpost
    exact ⟨m.state, y, by rw [hstates, List.getElem?_map, hm]; rfl, hy, hpost⟩

theorem Crew.Secures.finishes (h : Crew.Secures inv post past crew w)
    (halert : ∀ p ∈ crew, p.1.Alert (fun a active => fails a → active = true) false) :
    Crew.Finishes fails inv post past w crew.length (Crew.assemble crew) w := by
  refine ⟨h.assemble, fun m hm => ?_, nofun, ordered_nil _⟩
  simp only [Crew.assemble, List.mem_mapIdx] at hm
  obtain ⟨i, hi, rfl⟩ := hm
  exact halert _ (List.getElem_mem hi)

theorem Crew.Secures.fanOut_returned (h : Crew.Secures inv post past crew w)
    (halert : ∀ p ∈ crew, p.1.Alert (fun a active => fails a → active = true) false)
    {limit : Option Nat} {results : List (Nat × α)}
    (hreturned :
      (GatedRollout.fanOutWithin env .shielded limit crew w).ending = .returned results) :
    Gathered.Returned fails post past w crew.length
      (GatedRollout.fanOutWithin env .shielded limit crew w) results :=
  (Crew.Finishes.steady.fanOutWithin limit crew w (h.finishes halert)).returned hreturned

end Fanning

end GatedRollout
