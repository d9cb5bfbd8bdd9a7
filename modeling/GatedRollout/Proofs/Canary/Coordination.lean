import GatedRollout.Proofs.Canary.Set
import GatedRollout.Proofs.Process.Turns
import GatedRollout.Rehearsal.StandIn

/-!
# How a set coordinates its canaries

Whatever the canaries are, a set starts them one after the other up to the first that does not
succeed, and waits for them and stops them all, in any order of their turns: each of them once, to
its end, and with the failure of the canary that failed first in time.
-/

namespace GatedRollout.CanarySet

variable {ι : Interface} {S σ : Type} (env : Environment ι S) (token : Token)

/-! ## One after the other -/

/-- The canaries before the number `k` were started in order and succeeded, each in the world that
the one before had left; the one with this number, if there is one, did not succeed; and those
after it were left alone. `v` are the worlds in which the starts began. -/
structure StartsInOrder (i : Nat) (entries : List (Entry ι σ)) (w : World ι S)
    (out : Aftermath ι S (List (Entry ι σ)) (Except TaskError Unit)) (k : Nat)
    (v : Nat → World ι S) : Prop where
  first : v 0 = w
  started : ∀ j e, j < k → entries[j]? = some e →
    let begun := run env token (some (i + j)) e.task.start.run e.state (v j)
    begun.ending = .returned (.ok ()) ∧ v (j + 1) = begun.world ∧
      out.state[j]? = some { e with state := begun.state }
  stopped : ∀ e, entries[k]? = some e →
    let begun := run env token (some (i + k)) e.task.start.run e.state (v k)
    begun.ending ≠ .returned (.ok ()) ∧ out.ending = begun.ending ∧ out.world = begun.world ∧
      out.state[k]? = some { e with state := begun.state }
  exhausted : entries[k]? = none →
    k = entries.length ∧ out.ending = .returned (.ok ()) ∧ out.world = v k
  spared : ∀ j e, k < j → entries[j]? = some e →
    out.state[j]? = some e ∧ out.world.deeds (some (i + j)) = w.deeds (some (i + j))

section Starting

variable {i k : Nat} {e : Entry ι σ} {rest : List (Entry ι σ)} {w : World ι S}
  {v : Nat → World ι S}

theorem StartsInOrder.nil (i : Nat) (w : World ι S) :
    StartsInOrder env token i ([] : List (Entry ι σ)) w ⟨.returned (.ok ()), [], w⟩ 0
      (fun _ => w) :=
  ⟨rfl, nofun, nofun, fun _ => ⟨rfl, rfl, rfl⟩, nofun⟩

/-- A start that did not succeed is the last. -/
theorem StartsInOrder.of_not_ok
    (h : (run env token (some i) e.task.start.run e.state w).ending ≠ .returned (.ok ())) :
    let begun := run env token (some i) e.task.start.run e.state w
    StartsInOrder env token i (e :: rest) w
      ⟨begun.ending, { e with state := begun.state } :: rest, begun.world⟩ 0 (fun _ => w) := by
  intro begun
  refine ⟨rfl, nofun, fun e' he' => ?_, nofun, fun j e' hj he' => ?_⟩
  · obtain rfl := Option.some.inj he'
    exact ⟨h, rfl, rfl, rfl⟩
  · obtain ⟨j, rfl⟩ := Nat.exists_eq_succ_of_ne_zero (Nat.ne_of_gt hj)
    have hne : some i ≠ some (i + (j + 1)) := fun heq => by
      have := Option.some.inj heq
      omega
    exact ⟨he', run_others env token hne e.task.start.run e.state w⟩

/-- After a start that succeeded come the others, in the world that it left. -/
theorem StartsInOrder.cons
    (hok : (run env token (some i) e.task.start.run e.state w).ending = .returned (.ok ()))
    {others : Aftermath ι S (List (Entry ι σ)) (Except TaskError Unit)}
    (h : StartsInOrder env token (i + 1) rest
      (run env token (some i) e.task.start.run e.state w).world others k v) :
    let begun := run env token (some i) e.task.start.run e.state w
    StartsInOrder env token i (e :: rest) w
      ⟨others.ending, { e with state := begun.state } :: others.state, others.world⟩ (k + 1)
      (fun j => match j with | 0 => w | j + 1 => v j) := by
  intro begun
  have hshift : ∀ j, i + 1 + j = i + (j + 1) := fun j => by omega
  refine ⟨rfl, fun j e' hj he' => ?_, fun e' he' => ?_, fun hnone => ?_, fun j e' hj he' => ?_⟩
  · cases j with
    | zero =>
        obtain rfl := Option.some.inj he'
        exact ⟨hok, h.first, rfl⟩
    | succ j =>
        have hj := h.started j e' (Nat.lt_of_succ_lt_succ hj) he'
        rw [hshift] at hj
        exact hj
  · have hk := h.stopped e' he'
    rw [hshift] at hk
    exact hk
  · obtain ⟨hk, hending, hworld⟩ := h.exhausted hnone
    exact ⟨congrArg Nat.succ hk, hending, hworld⟩
  · obtain ⟨j, rfl⟩ := Nat.exists_eq_succ_of_ne_zero (Nat.ne_of_gt (Nat.zero_lt_of_lt hj))
    obtain ⟨hstate, hdeeds⟩ := h.spared j e' (Nat.lt_of_succ_lt_succ hj) he'
    rw [hshift] at hdeeds
    have hne : some i ≠ some (i + (j + 1)) := fun heq => by
      have := Option.some.inj heq
      omega
    exact ⟨hstate, hdeeds.trans (run_others env token hne e.task.start.run e.state w)⟩

end Starting

theorem startFrom_in_order (entries : List (Entry ι σ)) : ∀ (i : Nat) (w : World ι S),
    ∃ k v, StartsInOrder env token i entries w (startFrom env token i entries w) k v := by
  induction entries with
  | nil => exact fun i w => ⟨0, _, .nil env token i w⟩
  | cons e rest ih =>
      intro i w
      by_cases hok :
          (run env token (some i) e.task.start.run e.state w).ending = .returned (.ok ())
      · obtain ⟨k, v, hrest⟩ := ih (i + 1) (run env token (some i) e.task.start.run e.state w).world
        rw [startFrom_of_ok env token hok]
        exact ⟨k + 1, _, .cons env token hok hrest⟩
      · rw [startFrom_of_not_ok env token hok]
        exact ⟨0, _, .of_not_ok env token hok⟩

theorem tasks_startFrom (entries : List (Entry ι σ)) : ∀ (i : Nat) (w : World ι S),
    (startFrom env token i entries w).state.map (·.task) = entries.map (·.task) := by
  induction entries with
  | nil => exact fun i w => rfl
  | cons e rest ih =>
      intro i w
      by_cases hok :
          (run env token (some i) e.task.start.run e.state w).ending = .returned (.ok ())
      · rw [startFrom_of_ok env token hok]
        exact congrArg (e.task :: ·) (ih (i + 1) _)
      · rw [startFrom_of_not_ok env token hok]
        rfl

/-- The starts leave the canaries of the set, each in the state that its start left. -/
theorem entries_start (set : CanarySet ι σ) (w : World ι S) :
    (set.start env token w).state.entries = (startFrom env token 0 set.entries w).state := by
  have htasks := tasks_startFrom env token set.entries 0 w
  have hlength := congrArg List.length htasks
  simp only [List.length_map] at hlength
  refine List.ext_getElem (by rw [start, length_withStates, hlength]) fun j hj hj' => ?_
  have hin : j < set.entries.length := hlength ▸ hj'
  have htask : (startFrom env token 0 set.entries w).state[j].task = set.entries[j].task := by
    have hget := List.getElem_of_eq htasks (by simpa using hj')
    simpa using hget
  simp [start, withStates, ← htask, hj']

/-! ## Side by side -/

variable (op : CanaryTask ι σ → Attempt ι σ TaskError Unit) (set : CanarySet ι σ)

/-- The canaries of a set, each about to begin this operation. -/
def crew : List (Process ι σ (Except TaskError Unit) × σ) :=
  set.entries.map fun e => ((op e.task).run, e.state)

/-- What an operation came to that has been brought to its end for every canary. -/
structure Coordinated (w : World ι S) (last : Crew ι σ (Except TaskError Unit)) (w' : World ι S) :
    Prop where
  /-- Each canary has run the operation once, and has the one result of that. -/
  once : ∀ i e, set.entries[i]? = some e → ∃ r s,
    Visits recorded (op e.task).run e.state [] (some r) s (deedsOf (some i) (w'.since w)) ∧
      ∀ r', (i, r') ∈ last.results ↔ r' = r
  all : (last.results.map Prod.fst).Perm (List.range set.entries.length)
  ok : firstError last.results = .ok () ↔ ∀ i r, (i, r) ∈ last.results → r = .ok ()
  /-- Where there is an error, it is that of a canary that had just finished when nobody else but
  those that succeeded had. -/
  error : ∀ e, firstError last.results = .error e → ∃ before i after,
    last.results = before ++ (i, .error e) :: after ∧ (∀ j r, (j, r) ∈ before → r = .ok ()) ∧
      ∃ mid v, Crew.Turns env token (Crew.assemble (set.crew op)) w mid v ∧
        Crew.Turns env token mid v last w' ∧ ∀ j m, mid.members[j]? = some m →
          (m.stage.isFinished = true ↔ ∃ r, (j, r) ∈ before ++ [(i, .error e)])

theorem coordinated_of_completes {w w' : World ι S} {last : Crew ι σ (Except TaskError Unit)}
    (h : Crew.Completes env token (set.crew op) w last w') :
    Coordinated env token op set w last w' := by
  have hlength : (set.crew op).length = set.entries.length := List.length_map _
  refine ⟨fun i e he => ?_, hlength ▸ h.results_perm, firstError_ok_iff, fun e he => ?_⟩
  · exact h.visits (by rw [crew, List.getElem?_map, he]; rfl)
  · obtain ⟨before, i, after, hresults, hbefore⟩ := firstError_eq_error he
    exact ⟨before, i, after, hresults, hbefore, h.in_order hresults⟩

/-- How an operation on all the canaries of a set ends: it returns unless one of them gets stuck or
panics; when it returns every one of them has come to its end; and what it returns is what any
order of turns makes of their results. -/
structure Gathers (w : World ι S) (out : Outcome ι S σ) : Prop where
  returns : (∃ result, out.ending = .returned result) ∨ Crew.Fails env token (set.crew op) w
  returned : ∀ result, out.ending = .returned result →
    ∃ last, Crew.Completes env token (set.crew op) w last out.world ∧
      result = firstError last.results
  anyOrder : ∀ last w', Crew.Completes env token (set.crew op) w last w' →
    Coordinated env token op set w last w'
  /-- Where each canary succeeds in the one order exactly if it succeeds in the other, so does the
  whole. -/
  orderless : ∀ last₁ w₁ last₂ w₂, Crew.Completes env token (set.crew op) w last₁ w₁ →
    Crew.Completes env token (set.crew op) w last₂ w₂ →
      (∀ i r₁ r₂, (i, r₁) ∈ last₁.results → (i, r₂) ∈ last₂.results →
        (r₁ = .ok () ↔ r₂ = .ok ())) →
      (firstError last₁.results = .ok () ↔ firstError last₂.results = .ok ())

/-- Where every canary that succeeded in one order succeeds in another, so does the whole. -/
theorem ok_of_completes {w₁ w₁' w₂ w₂' : World ι S}
    {last₁ last₂ : Crew ι σ (Except TaskError Unit)}
    (h₁ : Crew.Completes env token (set.crew op) w₁ last₁ w₁')
    (h₂ : Crew.Completes env token (set.crew op) w₂ last₂ w₂')
    (hsame : ∀ i r₁ r₂, (i, r₁) ∈ last₁.results → (i, r₂) ∈ last₂.results →
      r₁ = .ok () → r₂ = .ok ())
    (hok : firstError last₁.results = .ok ()) : firstError last₂.results = .ok () := by
  refine firstError_ok_iff.mpr fun i r₂ hr₂ => ?_
  obtain ⟨r₁, -, -, hr₁⟩ := h₁.visits (List.getElem?_eq_getElem (h₂.lt_length hr₂))
  have hmem : (i, r₁) ∈ last₁.results := (hr₁ r₁).mpr rfl
  exact hsame i r₁ r₂ hmem hr₂ (firstError_ok hok hmem)

theorem gathers_fanOut (w : World ι S) :
    Gathers env token op set w (set.gather (fanOut env token (set.crew op) w)) := by
  refine ⟨?_, fun result hresult => ?_,
    fun last w' h => coordinated_of_completes env token op set h,
    fun last₁ w₁ last₂ w₂ h₁ h₂ hsame => ⟨?_, ?_⟩⟩
  · rcases fanOut_returns_or_fails (set.crew op) w with ⟨results, hresults⟩ | hfails
    · exact .inl ⟨firstError results, by rw [gather, hresults]⟩
    · exact .inr hfails
  · obtain ⟨results, hresults, rfl⟩ := gather_returned hresult
    obtain ⟨last, hcompletes, rfl⟩ := completes_fanOut hresults
    exact ⟨last, hcompletes, rfl⟩
  · exact ok_of_completes env token op set h₁ h₂ fun i r₁ r₂ hr₁ hr₂ =>
      (hsame i r₁ r₂ hr₁ hr₂).mp
  · exact ok_of_completes env token op set h₂ h₁ fun i r₂ r₁ hr₂ hr₁ =>
      (hsame i r₁ r₂ hr₁ hr₂).mpr

/-! ## Whole sets -/

/-- Starting begins the canaries in order and stops at the first that does not succeed; nothing is
waited for unless all of them succeed; and waiting and stopping run for every canary, in any order
of their turns. -/
theorem operations_coordinate (set : CanarySet ι σ) (env : Environment ι S) (token : Token)
    (w : World ι S) :
    let started := set.start env token w
    (∃ k v, StartsInOrder env token 0 set.entries w
      ⟨started.ending, started.state.entries, started.world⟩ k v) ∧
    (started.ending ≠ .returned (.ok ()) → set.exec env token w = started) ∧
    (started.ending = .returned (.ok ()) →
      set.exec env token w = started.state.wait env token started.world) ∧
    Gathers env token (·.wait) set w (set.wait env token w) ∧
    Gathers env token (·.stop) set w (set.cleanup env token w) := by
  intro started
  refine ⟨?_, fun hfailed => ?_, fun hok => ?_, gathers_fanOut env token (·.wait) set w,
    gathers_fanOut env token (·.stop) set w⟩
  · rw [entries_start]
    exact startFrom_in_order env token set.entries 0 w
  · unfold exec
    dsimp only
    split
    · next hok => exact absurd hok hfailed
    · rfl
  · unfold exec
    dsimp only
    rw [show (set.start env token w).ending = .returned (.ok ()) from hok]

/-! ## Two failures -/

open Rehearsal (standIn standIns)

/-- Two stand-ins, of which the first is the slower. -/
def slowAndFast : CanarySet standIns Unit :=
  ⟨[⟨standIn 0 1, ()⟩, ⟨standIn 1 2, ()⟩], List.cons_ne_nil _ _⟩

/-- Every action is refused, at the first place after three turns of the other and at the second
after one. -/
def refusing : Environment standIns Unit where
  react s _ r :=
    (⟨.zero, false, if r.place = 0 then 3 else 1,
      .answer (.error (.rejected r.action.name (toString r.task)))⟩, s)
  wake s _ := (⟨false, 0⟩, s)

theorem operations_coordinate_slow_and_fast :
    let w : World standIns Unit := .start default false ()
    let out := slowAndFast.wait refusing .caller w
    let fast : TaskError := .client (.rejected "wait" "2")
    out.ending = .returned (.error fast) ∧
      ∃ last, Crew.Completes refusing .caller (slowAndFast.crew (·.wait)) w last out.world ∧
        firstError last.results = .error fast ∧ (last.results.map Prod.fst).Perm [0, 1] := by
  intro w out fast
  have hending : out.ending = .returned (.error fast) := by rfl
  obtain ⟨-, -, -, hwait, -⟩ := operations_coordinate slowAndFast refusing .caller w
  obtain ⟨last, hcompletes, hfirst⟩ := hwait.returned _ hending
  exact ⟨hending, last, hcompletes, hfirst.symm, (hwait.anyOrder last _ hcompletes).all⟩

end GatedRollout.CanarySet
