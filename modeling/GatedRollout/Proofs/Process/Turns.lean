import GatedRollout.Proofs.Process.SideBySide
import Mathlib.Data.List.Perm.Subperm

/-!
# Turns in any order

A fan-out gives its processes turns in one particular order. What its results say does not hang on
that: whatever the order of the turns, once they have brought every process to its end, each
process has run along its own tree once, and the results are those of the processes, one for each,
in the order in which they finished. A fan-out that returns is one such order.
-/

namespace GatedRollout

variable {ι : Interface} {S σ α : Type} {env : Environment ι S} {token : Token}

/-! ## Sequences of turns -/

/-- From a crew and its world to later ones by turns of its members, in any order. -/
inductive Crew.Turns (env : Environment ι S) (token : Token) (first : Crew ι σ α)
    (w₀ : World ι S) : Crew ι σ α → World ι S → Prop
  | none : Crew.Turns env token first w₀ first w₀
  | turn {before after : List (Member ι σ α)} {m m' : Member ι σ α} {results : List (Nat × α)}
      {turn : Turn α} {w w' : World ι S}
      (earlier : Crew.Turns env token first w₀ ⟨before ++ m :: after, results⟩ w)
      (taken : m.turn env token w = (turn, m', w')) :
      Crew.Turns env token first w₀
        ⟨before ++ m' :: after, results ++ turn.results m'.actor⟩ w'

namespace Crew.Turns

variable {first mid last : Crew ι σ α} {w₀ v w : World ι S}

/-- What no turn breaks holds after any number of them. -/
theorem keeps {J : Crew ι σ α → World ι S → Prop} (h : Crew.Turns env token first w₀ last w)
    (steady : Crew.Steady env token J) (hfirst : J first w₀) : J last w := by
  induction h with
  | none => exact hfirst
  | turn earlier taken ih =>
      have hturn := steady _ _ _ _ _ ih
      rw [taken] at hturn
      exact hturn

theorem steady (first : Crew ι σ α) (w₀ : World ι S) :
    Crew.Steady env token (Crew.Turns env token first w₀) :=
  fun _ _ _ _ _ h => h.turn rfl

/-- On the way to a crew with these results there was one that had only the first few of them. -/
theorem moment (h : Crew.Turns env token first w₀ last w) (hfirst : first.results = [])
    {before after : List (Nat × α)} {i : Nat} {a : α}
    (hresults : last.results = before ++ (i, a) :: after) :
    ∃ mid v, Crew.Turns env token first w₀ mid v ∧ Crew.Turns env token mid v last w ∧
      mid.results = before ++ [(i, a)] := by
  induction h generalizing after with
  | none =>
      rw [hfirst] at hresults
      exact absurd hresults.symm (List.append_ne_nil_of_right_ne_nil _ (List.cons_ne_nil _ _))
  | @turn before' after' m m' results turn w w' earlier taken ih =>
      cases turn with
      | finished b =>
          dsimp only [Turn.results] at hresults
          rcases List.eq_nil_or_concat after with rfl | ⟨rest, final, rfl⟩
          · -- This very turn finished the process.
            exact ⟨_, _, earlier.turn taken, .none, hresults⟩
          · rw [List.concat_eq_append, ← List.cons_append, ← List.append_assoc] at hresults
            obtain ⟨hresults, -⟩ := List.append_inj' hresults rfl
            obtain ⟨mid, v, hmid, hrest, heq⟩ := ih hresults
            exact ⟨mid, v, hmid, hrest.turn taken, heq⟩
      | passed =>
          obtain ⟨mid, v, hmid, hrest, heq⟩ := ih ((List.append_nil _).symm.trans hresults)
          exact ⟨mid, v, hmid, hrest.turn taken, heq⟩
      | panicked message =>
          obtain ⟨mid, v, hmid, hrest, heq⟩ := ih ((List.append_nil _).symm.trans hresults)
          exact ⟨mid, v, hmid, hrest.turn taken, heq⟩

end Crew.Turns

/-! ## Processes that have come to their ends -/

/-- Turns in some order have brought every process to its end. -/
structure Crew.Completes (env : Environment ι S) (token : Token) (crew : List (Process ι σ α × σ))
    (w : World ι S) (last : Crew ι σ α) (w' : World ι S) : Prop where
  turns : Crew.Turns env token (Crew.assemble crew) w last w'
  finished : ∀ m ∈ last.members, m.stage.isFinished = true

section Completes

variable {crew : List (Process ι σ α × σ)} {mid last : Crew ι σ α} {w v w' : World ι S}

/-- At any time, what each process has done it has done along its own tree, and the results are
those of the processes that have finished. -/
theorem Crew.Turns.tallies (h : Crew.Turns env token (Crew.assemble crew) w mid v) :
    Crew.Holds (fun _ _ _ => True)
        (fun i a t y => ∀ p s, crew[i]? = some (p, s) → Visits recorded p s [] (some a) t y)
        (fun i => w.deeds (some i)) w crew.length mid v ∧ mid.Tallies :=
  h.keeps (Crew.Holds.steady.and Crew.Tallies.steady)
    ⟨(Crew.secures_visits crew w).assemble, Crew.tallies_assemble crew⟩

/-- A process has a result exactly if it has finished. -/
theorem Crew.Turns.finished_iff (h : Crew.Turns env token (Crew.assemble crew) w mid v) {i : Nat}
    {m : Member ι σ α} (hm : mid.members[i]? = some m) :
    m.stage.isFinished = true ↔ ∃ a, (i, a) ∈ mid.results := by
  obtain ⟨hholds, htallies⟩ := h.tallies
  constructor
  · intro hfinished
    obtain ⟨found, -, hstage⟩ := (hholds.members i m hm).2.choose_spec.2.secured
    obtain ⟨a, -, hstaged⟩ := hstage hfinished
    have hmem := hholds.results_mem m (List.mem_of_getElem? hm) a hstaged
    rw [(hholds.members i m hm).1] at hmem
    exact ⟨a, hmem⟩
  · rintro ⟨a, ha⟩
    obtain ⟨m', hm', hstaged⟩ := htallies.finished i a ha
    cases hm.symm.trans hm'
    rw [hstaged]
    rfl

namespace Crew.Completes

variable (h : Crew.Completes env token crew w last w')

include h

/-- Each process has run along its tree once, and what it came to is its one result. -/
theorem visits {i : Nat} {p : Process ι σ α} {s : σ} (hi : crew[i]? = some (p, s)) :
    ∃ a t, Visits recorded p s [] (some a) t (deedsOf (some i) (w'.since w)) ∧
      ∀ b, (i, b) ∈ last.results ↔ b = a := by
  obtain ⟨hholds, htallies⟩ := h.turns.tallies
  obtain ⟨hlt, -⟩ := List.getElem?_eq_some_iff.mp hi
  rw [← hholds.length_eq] at hlt
  obtain ⟨m, hm⟩ : ∃ m, last.members[i]? = some m := ⟨_, List.getElem?_eq_getElem hlt⟩
  obtain ⟨hactor, y, hy, hstage⟩ := hholds.members i m hm
  have hmem := List.mem_of_getElem? hm
  obtain ⟨found, hfound, hfinished⟩ := hstage.secured
  obtain ⟨a, rfl, hstaged⟩ := hfinished (h.finished m hmem)
  rw [hactor] at hy
  refine ⟨a, m.state, ?_, fun b => ⟨fun hb => ?_, fun hb => ?_⟩⟩
  · rw [hholds.follows.deedsOf_since hy]
    exact hfound p s hi
  · obtain ⟨m', hm', hb⟩ := htallies.finished i b hb
    cases hm.symm.trans hm'
    cases hstaged.symm.trans hb
    rfl
  · rw [hb, ← hactor]
    exact hholds.results_mem m hmem a hstaged

/-- A result belongs to one of the processes. -/
theorem lt_length {i : Nat} {a : α} (ha : (i, a) ∈ last.results) : i < crew.length := by
  obtain ⟨hholds, htallies⟩ := h.turns.tallies
  obtain ⟨m, hm, -⟩ := htallies.finished i a ha
  obtain ⟨hlt, -⟩ := List.getElem?_eq_some_iff.mp hm
  rwa [hholds.length_eq] at hlt

/-- There is one result for each process, and no other. -/
theorem results_perm : (last.results.map Prod.fst).Perm (List.range crew.length) := by
  obtain ⟨hholds, -⟩ := h.turns.tallies
  have hlength : last.results.length = crew.length := by
    rw [hholds.results_length, ← hholds.length_eq]
    exact List.countP_eq_length.mpr h.finished
  have hsubset : List.range crew.length ⊆ last.results.map Prod.fst := by
    intro i hi
    obtain ⟨a, -, -, ha⟩ := h.visits (List.getElem?_eq_getElem (List.mem_range.mp hi))
    exact List.mem_map.mpr ⟨(i, a), (ha a).mpr rfl, rfl⟩
  have hsubperm := List.subperm_of_subset List.nodup_range hsubset
  exact (hsubperm.perm_of_length_le (by simp [hlength])).symm

/-- The results stand in the order in which the processes finished: when one had just finished,
those of which the results stand before its own had finished as well, and no others. -/
theorem in_order {before after : List (Nat × α)} {i : Nat} {a : α}
    (hresults : last.results = before ++ (i, a) :: after) :
    ∃ mid v, Crew.Turns env token (Crew.assemble crew) w mid v ∧
      Crew.Turns env token mid v last w' ∧
      ∀ j m, mid.members[j]? = some m →
        (m.stage.isFinished = true ↔ ∃ b, (j, b) ∈ before ++ [(i, a)]) := by
  obtain ⟨mid, v, hmid, hrest, hmoment⟩ := h.turns.moment rfl hresults
  refine ⟨mid, v, hmid, hrest, fun j m hm => ?_⟩
  rw [← hmoment]
  exact hmid.finished_iff hm

end Crew.Completes

/-! ## Fan-outs -/

/-- A fan-out that returns has brought every process to its end. -/
theorem completes_fanOut {results : List (Nat × α)}
    (h : (GatedRollout.fanOut env token crew w).ending = .returned results) :
    ∃ last, Crew.Completes env token crew w last (GatedRollout.fanOut env token crew w).world ∧
      last.results = results := by
  obtain ⟨last, hturns, -, hreturned⟩ :=
    (Crew.Turns.steady (Crew.assemble crew) w).fanOut crew w .none
  obtain ⟨rfl, hall⟩ := hreturned results h
  exact ⟨last, ⟨hturns, hall⟩, rfl⟩

/-- In a fan-out that returns, each process has come to its end, with its one result. -/
theorem visits_fanOut {results : List (Nat × α)}
    (h : (GatedRollout.fanOut env token crew w).ending = .returned results) :
    (∀ i a, (i, a) ∈ results → i < crew.length) ∧
      ∀ (i : Nat) (p : Process ι σ α) (s : σ), crew[i]? = some (p, s) → ∃ a t,
        Visits recorded p s [] (some a) t
            (deedsOf (some i) ((GatedRollout.fanOut env token crew w).world.since w)) ∧
          ∀ b, (i, b) ∈ results ↔ b = a := by
  obtain ⟨last, hcompletes, rfl⟩ := completes_fanOut h
  exact ⟨fun i a => hcompletes.lt_length, fun i p s => hcompletes.visits⟩

/-- A process of the crew is stuck, or panics in its turn, after turns in some order. -/
def Crew.Fails (env : Environment ι S) (token : Token) (crew : List (Process ι σ α × σ))
    (w : World ι S) : Prop :=
  ∃ mid v, Crew.Turns env token (Crew.assemble crew) w mid v ∧ ∃ m ∈ mid.members,
    m.stage = .hung ∨ ∃ message, (m.turn env token v).1 = .panicked message

/-- A fan-out returns unless one of its processes gets stuck or panics. -/
theorem fanOut_returns_or_fails (crew : List (Process ι σ α × σ)) (w : World ι S) :
    (∃ results, (GatedRollout.fanOut env token crew w).ending = .returned results) ∨
      Crew.Fails env token crew w := by
  have hbegun : Crew.Turns env token (Crew.assemble crew) w (Crew.assemble crew) w := .none
  have hcloses := (Crew.Turns.steady (Crew.assemble crew) w).sustained.fanOutWithin none crew w
    hbegun
  cases hcloses with
  | panicked message crew ending states panics =>
      obtain ⟨before, m, after, results, v, m', hmid, hturn, -⟩ := panics
      exact .inr ⟨_, v, hmid, m, by simp, .inr ⟨message, by rw [hturn]⟩⟩
  | passed last ending states holds =>
      obtain ⟨holds, all⟩ := holds
      by_cases hfinished : last.members.all (·.stage.isFinished) = true
      · rw [if_pos hfinished] at ending
        exact .inl ⟨_, ending⟩
      · rw [List.all_eq_true] at hfinished
        push Not at hfinished
        obtain ⟨m, hmem, hm⟩ := hfinished
        have hsettled := (all m hmem).2 rfl
        refine .inr ⟨last, _, holds, m, hmem, .inl ?_⟩
        obtain ⟨actor, s, stage⟩ := m
        cases stage with
        | hung => rfl
        | finished a => exact absurd rfl hm
        | ready p => cases hsettled
        | calling n r effect next => cases hsettled
        | resting n next => cases hsettled

end Completes

end GatedRollout
