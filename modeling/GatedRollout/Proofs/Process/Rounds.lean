import GatedRollout.Proofs.Process.SideBySide

/-!
# Fan-outs in rounds

A fan-out is concluded process by process, each driven to its end, but what happens is that its
processes take their turns in rounds. So a fan-out that is left after some rounds has done what the
same fan-out does that nobody cuts off, and where all of its processes have finished by then, there
is no difference between the two.
-/

namespace GatedRollout

variable {ι : Interface} {S σ α : Type} {env : Environment ι S} {token : Token}

/-! ## The front process -/

/-- The same end, except that a panic may have left the front process at another stage. -/
structure Driven.Alike (d d' : Driven ι S (Member ι σ α) Unit (Crew ι σ α)) : Prop where
  ending : d.ending = d'.ending
  state : d.state.state = d'.state.state
  others : d.others = d'.others
  world : d.world = d'.world
  member : d.ending.panic? = none → d.state = d'.state

theorem Driven.Alike.refl (d : Driven ι S (Member ι σ α) Unit (Crew ι σ α)) : d.Alike d :=
  ⟨rfl, rfl, rfl, rfl, fun _ => rfl⟩

theorem Driven.Alike.trans {d d' d'' : Driven ι S (Member ι σ α) Unit (Crew ι σ α)}
    (h : d.Alike d') (h' : d'.Alike d'') : d.Alike d'' where
  ending := h.ending.trans h'.ending
  state := h.state.trans h'.state
  others := h.others.trans h'.others
  world := h.world.trans h'.world
  member hcalm := (h.member hcalm).trans (h'.member (h.ending ▸ hcalm))

/-- Let the others have so many rounds, and then go on. -/
def Member.linger (env : Environment ι S) (token : Token) (n : Nat) (m : Member ι σ α)
    (goOn : Crew ι σ α → World ι S → Driven ι S (Member ι σ α) Unit (Crew ι σ α))
    (others : Crew ι σ α) (w : World ι S) : Driven ι S (Member ι σ α) Unit (Crew ι σ α) :=
  match (Crew.round env token).times n others w with
  | (some message, others, w) => ⟨.panicked message, m, others, w⟩
  | (none, others, w) => goOn others w

/-- The conclusion of the front process after a turn that has left it as this member: the others
come first, unless there is nothing more for it to do. -/
def Member.resume (env : Environment ι S) (token : Token) (turn : Turn α) (m : Member ι σ α)
    (others : Crew ι σ α) (w : World ι S) : Driven ι S (Member ι σ α) Unit (Crew ι σ α) :=
  match turn with
  | .panicked message => ⟨.panicked message, m, others, w⟩
  | .finished a =>
      m.conclude env token { others with results := others.results ++ [(m.actor, a)] } w
  | .passed =>
      if m.stage.isSettled then m.conclude env token others w
      else m.linger env token 1 (m.conclude env token) others w

section Lingering

variable {goOn : Crew ι σ α → World ι S → Driven ι S (Member ι σ α) Unit (Crew ι σ α)}

/-- Only the stage of the member is lost in a panic. -/
theorem Member.linger_alike {m m' : Member ι σ α} (h : m.state = m'.state) (n : Nat)
    (others : Crew ι σ α) (w : World ι S) :
    (m.linger env token n goOn others w).Alike (m'.linger env token n goOn others w) := by
  unfold linger
  split
  · exact ⟨rfl, h, rfl, rfl, nofun⟩
  · exact .refl _

/-- One round more is one round first. -/
theorem Member.linger_succ (m : Member ι σ α) (n : Nat) (others : Crew ι σ α) (w : World ι S) :
    m.linger env token (n + 1) goOn others w =
      m.linger env token 1 (m.linger env token n goOn) others w := by
  simp only [linger, Interlude.times]
  rcases Crew.round env token others w with ⟨panic, others₁, w₁⟩
  cases panic <;> rfl

theorem Member.linger_congr {m : Member ι σ α}
    {goOn' : Crew ι σ α → World ι S → Driven ι S (Member ι σ α) Unit (Crew ι σ α)}
    (h : ∀ others w, (goOn others w).Alike (goOn' others w)) (n : Nat) (others : Crew ι σ α)
    (w : World ι S) :
    (m.linger env token n goOn others w).Alike (m.linger env token n goOn' others w) := by
  unfold linger
  split
  · exact .refl _
  · exact h _ _

/-- A member that counts its turns down resumes as it was concluded. -/
theorem Member.resume_idling {actor : Nat} {s : σ} (stage : Nat → Stage ι σ α)
    (hstage : ∀ n, Member.conclude env token ⟨actor, s, stage n⟩ =
      Member.linger env token n ⟨actor, s, stage n⟩ goOn)
    (hunsettled : ∀ n, (stage n).isSettled = false) {m : Member ι σ α} (hm : m.state = s) (n : Nat)
    (others : Crew ι σ α) (w : World ι S) :
    (m.linger env token (n + 1) goOn others w).Alike
      (Member.resume env token .passed ⟨actor, s, stage n⟩ others w) := by
  simp only [resume, hunsettled, Bool.false_eq_true, if_false]
  rw [linger_succ]
  have hfirst : Driven.Alike (m.linger env token 1 (m.linger env token n goOn) others w)
      (Member.linger env token 1 ⟨actor, s, stage n⟩ (m.linger env token n goOn) others w) :=
    linger_alike hm 1 others w
  refine hfirst.trans (linger_congr (fun others w => ?_) 1 others w)
  rw [hstage]
  exact linger_alike hm n others w

end Lingering

/-- A process that is driven to its end takes a turn, and is concluded from there. -/
theorem drive_alike_resume (actor : Nat) (p : Process ι σ α) :
    ∀ (s : σ) (others : Crew ι σ α) (w : World ι S),
      let (turn, m, v) := takeTurn env token actor p s w
      Driven.Alike
        ((drive env token (some actor) (Crew.round env token) p s others w).asMember actor)
        (m.resume env token turn others v) := by
  induction p with
  | done a => exact fun s others w => .refl _
  | call r next ih =>
      intro s others w
      rcases hi : w.issue env (some actor) r with ⟨⟨advance, fires, yields, effect⟩, w₁⟩
      have hdrive : (drive env token (some actor) (Crew.round env token) (.call r next) s others
          w).asMember actor = Member.linger env token yields ⟨actor, s, .hung⟩
            (Member.conclude env token ⟨actor, s, .calling 0 r effect next⟩) others w₁ := by
        simp only [drive, hi, Member.linger]
        rcases (Crew.round env token).times yields others w₁ with ⟨panic, others₁, w₂⟩
        cases panic with
        | some message => rfl
        | none => cases effect <;> rfl
      simp only [takeTurn, hi, hdrive]
      cases yields with
      | zero =>
          cases effect with
          | answer answer => exact ih answer s others _
          | panic message => exact .refl _
          | hang => exact .refl _
      | succ n =>
          exact Member.resume_idling (fun n => .calling n r effect next) (fun _ => rfl)
            (fun _ => rfl) rfl n others w₁
  | pause d next ih =>
      intro s others w
      simp only [takeTurn]
      split
      · next hcancelled =>
          simp only [drive, if_pos hcancelled]
          exact ih .cancelled s others w
      · next hlasts =>
          rcases hs : w.sleep env (some actor) d with ⟨⟨fires, n⟩, w₁⟩
          have hdrive : (drive env token (some actor) (Crew.round env token) (.pause d next) s
              others w).asMember actor = Member.linger env token (n + 1) ⟨actor, s, .hung⟩
                (Member.conclude env token ⟨actor, s, .resting 0 next⟩) others w₁ := by
            simp only [drive, if_neg hlasts, hs, Member.linger]
            rcases (Crew.round env token).times (n + 1) others w₁ with ⟨panic, others₁, w₂⟩
            cases panic <;> rfl
          rw [hdrive]
          exact Member.resume_idling (fun n => .resting n next) (fun _ => rfl) (fun _ => rfl)
            rfl n others w₁
  | look next ih => exact fun s others w => ih _ s others w
  | put t next ih => exact fun s others w => ih t others w
  | panic message => exact fun s others w => .refl _
  | stall => exact fun s others w => .refl _

/-- A member that is concluded takes a turn, and is concluded from there. -/
theorem Member.conclude_alike_resume (env : Environment ι S) (token : Token) (m : Member ι σ α)
    (others : Crew ι σ α) (w : World ι S) :
    let (turn, m', v) := m.turn env token w
    Driven.Alike (m.conclude env token others w) (m'.resume env token turn others v) := by
  obtain ⟨actor, s, stage⟩ := m
  cases stage with
  | ready p => exact drive_alike_resume actor p s others w
  | calling n r effect next =>
      cases n with
      | zero =>
          cases effect with
          | answer answer => exact drive_alike_resume actor (next answer) s others _
          | panic message => exact .refl _
          | hang => exact .refl _
      | succ n =>
          exact Member.resume_idling (fun n => .calling n r effect next) (fun _ => rfl)
            (fun _ => rfl) rfl n others w
  | resting n next =>
      cases n with
      | zero => exact drive_alike_resume actor (next (w.restEnd token)) s others w
      | succ n =>
          exact Member.resume_idling (fun n => .resting n next) (fun _ => rfl) (fun _ => rfl)
            rfl n others w
  | finished a => exact .refl _
  | hung => exact .refl _

/-! ## Rounds of the whole crew -/

/-- The conclusion of the others after that of the front process. -/
def Driven.proceed (env : Environment ι S) (token : Token) (n : Nat) (past : List (Member ι σ α))
    (d : Driven ι S (Member ι σ α) Unit (Crew ι σ α)) : Gathered ι S σ α :=
  match d.ending with
  | .panicked message =>
      ⟨.panicked message, (past.reverse ++ d.state :: d.others.members).map (·.state), d.world⟩
  | _ => Crew.conclude env token n (d.state :: past) d.others d.world

theorem Driven.Alike.proceed_eq {d d' : Driven ι S (Member ι σ α) Unit (Crew ι σ α)}
    (h : d.Alike d') (env : Environment ι S) (token : Token) (n : Nat)
    (past : List (Member ι σ α)) :
    d.proceed env token n past = d'.proceed env token n past := by
  obtain ⟨ending, m, others, w⟩ := d
  obtain ⟨ending', m', others', w'⟩ := d'
  obtain ⟨hending, hstate, hothers, hworld, hmember⟩ := h
  obtain rfl : ending = ending' := hending
  obtain rfl : others = others' := hothers
  obtain rfl : w = w' := hworld
  cases ending with
  | panicked message => simp [Driven.proceed, show m.state = m'.state from hstate]
  | returned u => rw [show m = m' from hmember rfl]
  | hung => rw [show m = m' from hmember rfl]

theorem Member.proceed_settled (env : Environment ι S) (token : Token) {m : Member ι σ α}
    (h : m.stage.isSettled = true) (n : Nat) (past : List (Member ι σ α)) (others : Crew ι σ α)
    (w : World ι S) :
    (m.conclude env token others w).proceed env token n past =
      Crew.conclude env token n (m :: past) others w := by
  obtain ⟨actor, s, stage⟩ := m
  cases stage with
  | ready p => cases h
  | calling n r effect next => cases h
  | resting n next => cases h
  | finished a => rfl
  | hung => rfl

/-- What is left of a fan-out where a panic ended a round, and otherwise what its conclusion
leaves. -/
def Crew.goOn (env : Environment ι S) (token : Token) (n : Nat) (past : List (Member ι σ α)) :
    Option String × Crew ι σ α × World ι S → Gathered ι S σ α
  | (some message, crew, w) =>
      ⟨.panicked message, (past.reverse ++ crew.members).map (·.state), w⟩
  | (none, crew, w) => Crew.conclude env token n past crew w

/-- A crew is concluded by a round and the conclusion of what this leaves. -/
theorem Crew.conclude_takeTurns (members : List (Member ι σ α)) :
    ∀ (n : Nat) (past : List (Member ι σ α)) (results : List (Nat × α)) (w : World ι S),
      members.length ≤ n → Crew.conclude env token n past ⟨members, results⟩ w =
        Crew.goOn env token n past (Crew.takeTurns env token members results w) := by
  induction members with
  | nil => exact fun _ _ _ _ _ => rfl
  | cons m rest ih =>
      intro n past results w hlength
      obtain ⟨k, rfl⟩ : ∃ k, n = k + 1 := ⟨n - 1, by simp only [List.length_cons] at hlength; omega⟩
      have hrest : rest.length ≤ k := by simpa using hlength
      have hagrees := m.turn_agrees env token w
      have halike := m.conclude_alike_resume env token ⟨rest, results⟩ w
      rcases hm : m.turn env token w with ⟨turn, m', v⟩
      rw [hm] at hagrees halike
      have hturn : Crew.conclude env token (k + 1) past ⟨m :: rest, results⟩ w =
          (m'.resume env token turn ⟨rest, results⟩ v).proceed env token k past :=
        halike.proceed_eq env token k past
      rw [hturn]
      -- Nothing is left for the front process to do: the round goes on with the others.
      have hsettled : m'.stage.isSettled = true → ∀ results,
          (m'.conclude env token ⟨rest, results⟩ v).proceed env token k past =
            let out := Crew.takeTurns env token rest results v
            Crew.goOn env token (k + 1) past
              (out.1, { out.2.1 with members := m' :: out.2.1.members }, out.2.2) := by
        intro hsettled results
        rw [Member.proceed_settled env token hsettled, ih k (m' :: past) results v hrest]
        rcases Crew.takeTurns env token rest results v with ⟨panic, crew, v'⟩
        cases panic with
        | some message => simp [Crew.goOn]
        | none => exact (Member.proceed_settled env token hsettled k past crew v').symm
      cases turn with
      | panicked message => simp [Crew.takeTurns, hm, Member.resume, Driven.proceed, Crew.goOn]
      | finished a =>
          have hfinished : m'.stage = .finished a := by
            have hstage := hagrees.2
            split at hstage
            · cases hstage.1
            · exact hstage
          simp only [Crew.takeTurns, hm, Member.resume]
          exact hsettled (by simp [hfinished, Stage.isSettled, Stage.isFinished]) _
      | passed =>
          simp only [Crew.takeTurns, hm, Member.resume]
          split
          · next h => exact hsettled h results
          · simp only [Member.linger, Interlude.times, Crew.round]
            rcases Crew.takeTurns env token rest results v with ⟨panic, crew, v'⟩
            cases panic with
            | some message => rfl
            | none => rfl

/-- A crew is concluded from where any number of rounds have brought it. -/
theorem Crew.conclude_times (rounds : Nat) :
    ∀ (crew : Crew ι σ α) (w : World ι S) (n : Nat), crew.members.length ≤ n →
      Crew.conclude env token n [] crew w =
        Crew.goOn env token n [] ((Crew.round env token).times rounds crew w) := by
  induction rounds with
  | zero => exact fun _ _ _ _ => rfl
  | succ rounds ih =>
      intro crew w n hlength
      rw [Crew.conclude_takeTurns crew.members n [] crew.results w hlength]
      have hsteady : Crew.Steady env token fun (last : Crew ι σ α) (_ : World ι S) =>
          last.members.length = crew.members.length := Crew.steady_length _
      have hsize := hsteady.sustained.takeTurns crew.members [] crew.results w rfl
      simp only [Interlude.times, Crew.round]
      rcases hr : Crew.takeTurns env token crew.members crew.results w with ⟨panic, crew', w'⟩
      rw [hr] at hsize
      cases panic with
      | some message => rfl
      | none => exact ih crew' w' n (Nat.le_trans (Nat.le_of_eq hsize) hlength)

theorem Crew.conclude_finished (members : List (Member ι σ α)) :
    ∀ (n : Nat) (past : List (Member ι σ α)) (results : List (Nat × α)) (w : World ι S),
      members.length ≤ n → (∀ m ∈ past, m.stage.isFinished = true) →
        (∀ m ∈ members, m.stage.isFinished = true) →
          Crew.conclude env token n past ⟨members, results⟩ w =
            ⟨.returned results, (past.reverse ++ members).map (·.state), w⟩ := by
  induction members with
  | nil =>
      intro n past results w _ hpast _
      have hall : past.reverse.all (·.stage.isFinished) = true := by simpa using hpast
      cases n <;> simp [Crew.conclude, hall]
  | cons m rest ih =>
      intro n past results w hlength hpast hmembers
      obtain ⟨k, rfl⟩ : ∃ k, n = k + 1 := ⟨n - 1, by simp only [List.length_cons] at hlength; omega⟩
      obtain ⟨hm, hrest⟩ := List.forall_mem_cons.mp hmembers
      have hsettled : m.stage.isSettled = true := by simp [Stage.isSettled, hm]
      have hnext : Crew.conclude env token (k + 1) past ⟨m :: rest, results⟩ w =
          Crew.conclude env token k (m :: past) ⟨rest, results⟩ w :=
        Member.proceed_settled env token hsettled k past ⟨rest, results⟩ w
      rw [hnext, ih k (m :: past) results w (by simpa using hlength)
        (List.forall_mem_cons.mpr ⟨hm, hpast⟩) hrest]
      simp

/-- A fan-out that is not cut off is the one that has all the time it needs. -/
theorem fanOutWithin_eq_fanOut {limit : Option Nat} {crew : List (Process ι σ α × σ)}
    {w : World ι S} (h : (fanOutWithin env token limit crew w).ending ≠ .hung) :
    fanOutWithin env token limit crew w = fanOut env token crew w := by
  cases limit with
  | none => rfl
  | some rounds =>
      have hlength : (Crew.assemble crew).members.length ≤ crew.length := by simp [Crew.assemble]
      have hsteady : Crew.Steady env token fun (last : Crew ι σ α) (_ : World ι S) =>
          last.members.length = (Crew.assemble crew).members.length := Crew.steady_length _
      have hsize := hsteady.sustained.times (rounds + 1) (Crew.assemble crew) w rfl
      rw [fanOut, Crew.conclude_times (rounds + 1) (Crew.assemble crew) w crew.length hlength]
      simp only [fanOutWithin, fanOutFor] at h ⊢
      rcases ht : (Crew.round env token).times (rounds + 1) (Crew.assemble crew) w
        with ⟨panic, last, w'⟩
      rw [ht] at h hsize
      cases panic with
      | some message => rfl
      | none =>
          dsimp only at h ⊢
          have hall : last.members.all (·.stage.isFinished) = true :=
            Decidable.byContradiction fun hall => h (if_neg hall)
          rw [if_pos hall]
          exact (Crew.conclude_finished last.members crew.length [] last.results w'
            (Nat.le_trans (Nat.le_of_eq hsize) hlength) (List.forall_mem_nil _)
            (List.all_eq_true.mp hall)).symm

end GatedRollout
