import GatedRollout.Proofs.Process.Requests

/-!
# The same process in two worlds

A process knows its world only by the answers to its requests, by the clock, and by its token. Two
environments are coupled for requests of some kind if these cannot tell them apart; a process that
makes no other requests then ends in the same way in both, alone or beside others, however much the
environments differ otherwise.
-/

namespace GatedRollout

variable {ι : Interface} {S S' σ α ρ : Type} {ok : ι.Request → Prop} {env : Environment ι S}
  {env' : Environment ι S'} {token : Token} {alike : World ι S → World ι S' → Prop}

/-- In worlds that are alike, requests of this kind and pauses have the same outcome in both
environments and lead to worlds that are alike. -/
structure Couples (ok : ι.Request → Prop) (env : Environment ι S) (env' : Environment ι S')
    (token : Token) (alike : World ι S → World ι S' → Prop) : Prop where
  clock : ∀ {w w'}, alike w w' → w.clock = w'.clock
  cancelled : ∀ {w w'}, alike w w' → w.cancelled token = w'.cancelled token
  issue : ∀ {w w' r} (actor : Option Nat), alike w w' → ok r →
    (w.issue env actor r).1.yields = (w'.issue env' actor r).1.yields ∧
      (w.issue env actor r).1.effect = (w'.issue env' actor r).1.effect ∧
        alike (w.issue env actor r).2 (w'.issue env' actor r).2
  sleep : ∀ {w w'} (actor : Option Nat) (d : Duration), alike w w' →
    (w.sleep env actor d).1.yields = (w'.sleep env' actor d).1.yields ∧
      alike (w.sleep env actor d).2 (w'.sleep env' actor d).2
  returned : ∀ {w w'} (actor : Option Nat) (r : ι.Request)
    (answer : Except ClientError (ι.Reply r)), alike w w' →
      alike (w.note actor (.returned r answer)) (w'.note actor (.returned r answer))

theorem Couples.restEnd (couples : Couples ok env env' token alike) {w : World ι S}
    {w' : World ι S'} (h : alike w w') : w.restEnd token = w'.restEnd token := by
  rw [World.restEnd, World.restEnd, couples.cancelled h]

/-! ## Driving -/

/-- The same happens to the others in both worlds. -/
def Interlude.Couples (alike : World ι S → World ι S' → Prop) (keeps : ρ → Prop)
    (relax : Interlude ι S ρ) (relax' : Interlude ι S' ρ) : Prop :=
  ∀ x w w', keeps x → alike w w' → ∃ panic x₁ v v', relax x w = (panic, x₁, v) ∧
    relax' x w' = (panic, x₁, v') ∧ keeps x₁ ∧ alike v v'

theorem Interlude.Couples.times {keeps : ρ → Prop} {relax : Interlude ι S ρ}
    {relax' : Interlude ι S' ρ} (couples : Interlude.Couples alike keeps relax relax') (n : Nat) :
    Interlude.Couples alike keeps (relax.times n) (relax'.times n) := by
  induction n with
  | zero => exact fun x w w' hx h => ⟨none, x, w, w', rfl, rfl, hx, h⟩
  | succ n ih =>
      intro x w w' hx h
      obtain ⟨panic, x₁, v, v', hrelax, hrelax', hx₁, hv⟩ := couples x w w' hx h
      cases panic with
      | none =>
          obtain ⟨panic, x₂, u, u', htimes, htimes', hx₂, hu⟩ := ih x₁ v v' hx₁ hv
          exact ⟨panic, x₂, u, u', by simp [Interlude.times, hrelax, htimes],
            by simp [Interlude.times, hrelax', htimes'], hx₂, hu⟩
      | some message =>
          exact ⟨some message, x₁, v, v', by simp [Interlude.times, hrelax],
            by simp [Interlude.times, hrelax'], hx₁, hv⟩

/-- A process that is driven to its end in both worlds ends in the same way. -/
theorem Couples.drive (couples : Couples ok env env' token alike) {keeps : ρ → Prop}
    {relax : Interlude ι S ρ} {relax' : Interlude ι S' ρ}
    (interludes : Interlude.Couples alike keeps relax relax') (actor : Option Nat)
    (p : Process ι σ α) :
    ∀ s x w w', p.Asks ok → keeps x → alike w w' → ∃ ending s₁ x₁ v v',
      drive env token actor relax p s x w = ⟨ending, s₁, x₁, v⟩ ∧
        drive env' token actor relax' p s x w' = ⟨ending, s₁, x₁, v'⟩ ∧ keeps x₁ ∧ alike v v' := by
  induction p with
  | done a => exact fun s x w w' _ hx h => ⟨.returned a, s, x, w, w', rfl, rfl, hx, h⟩
  | call r next ih =>
      intro s x w w' hasks hx h
      obtain ⟨hyields, heffect, hissued⟩ := couples.issue actor h hasks.1
      rcases hi : w.issue env actor r with ⟨⟨advance, fires, yields, effect⟩, v⟩
      rcases hi' : w'.issue env' actor r with ⟨⟨advance', fires', yields', effect'⟩, v'⟩
      rw [hi, hi'] at hyields heffect hissued
      obtain rfl : yields = yields' := hyields
      obtain rfl : effect = effect' := heffect
      obtain ⟨panic, x₁, u, u', ht, ht', hx₁, hu⟩ := interludes.times yields x v v' hx hissued
      simp only [GatedRollout.drive, hi, hi', ht, ht']
      cases panic with
      | some message => exact ⟨_, _, _, _, _, rfl, rfl, hx₁, hu⟩
      | none =>
          cases effect with
          | answer answer =>
              exact ih answer s x₁ _ _ (hasks.2 answer trivial) hx₁
                (couples.returned actor r answer hu)
          | panic message => exact ⟨_, _, _, _, _, rfl, rfl, hx₁, hu⟩
          | hang => exact ⟨_, _, _, _, _, rfl, rfl, hx₁, hu⟩
  | pause d next ih =>
      intro s x w w' hasks hx h
      have hcancelled := couples.cancelled h
      simp only [GatedRollout.drive, ← hcancelled]
      split
      · exact ih .cancelled s x w w' (hasks _) hx h
      · obtain ⟨hyields, hslept⟩ := couples.sleep actor d h
        rcases hs : w.sleep env actor d with ⟨⟨fires, yields⟩, v⟩
        rcases hs' : w'.sleep env' actor d with ⟨⟨fires', yields'⟩, v'⟩
        rw [hs, hs'] at hyields hslept
        obtain rfl : yields = yields' := hyields
        obtain ⟨panic, x₁, u, u', ht, ht', hx₁, hu⟩ :=
          interludes.times (yields + 1) x v v' hx hslept
        simp only [ht, ht']
        cases panic with
        | some message => exact ⟨_, _, _, _, _, rfl, rfl, hx₁, hu⟩
        | none =>
            dsimp only
            rw [← couples.restEnd hu]
            exact ih _ s x₁ u u' (hasks _) hx₁ hu
  | look next ih =>
      intro s x w w' hasks hx h
      simp only [GatedRollout.drive, ← couples.clock h, ← couples.cancelled h]
      exact ih _ s x w w' (hasks _ trivial) hx h
  | put t next ih => exact fun s x w w' hasks hx h => ih t x w w' hasks.2 hx h
  | panic message =>
      exact fun s x w w' _ hx h => ⟨.panicked message, s, x, w, w', rfl, rfl, hx, h⟩
  | stall => exact fun s x w w' _ hx h => ⟨.hung, s, x, w, w', rfl, rfl, hx, h⟩

/-- A process that runs alone in both worlds ends in the same way. -/
theorem Couples.run (couples : Couples ok env env' token alike) (actor : Option Nat)
    {p : Process ι σ α} (hasks : p.Asks ok) (s : σ) {w : World ι S} {w' : World ι S'}
    (h : alike w w') :
    ∃ ending s₁ v v', run env token actor p s w = ⟨ending, s₁, v⟩ ∧
      run env' token actor p s w' = ⟨ending, s₁, v'⟩ ∧ alike v v' := by
  have interludes : Interlude.Couples alike (fun _ : Unit => True) Interlude.nothing
      Interlude.nothing := fun x v v' _ hv => ⟨none, x, v, v', rfl, rfl, trivial, hv⟩
  obtain ⟨ending, s₁, x₁, v, v', hdrive, hdrive', -, hv⟩ :=
    couples.drive interludes actor p s () w w' hasks trivial h
  exact ⟨ending, s₁, v, v', by rw [GatedRollout.run, hdrive], by rw [GatedRollout.run, hdrive'], hv⟩

/-! ## Turns -/

section Turns

variable (couples : Couples ok env env' token alike)

include couples

theorem Couples.takeTurn (actor : Nat) (p : Process ι σ α) :
    ∀ s w w', p.Asks ok → alike w w' → ∃ turn m v v',
      takeTurn env token actor p s w = (turn, m, v) ∧
        takeTurn env' token actor p s w' = (turn, m, v') ∧ m.stage.Asks ok ∧ alike v v' := by
  induction p with
  | done a => exact fun s w w' _ h => ⟨_, _, _, _, rfl, rfl, trivial, h⟩
  | call r next ih =>
      intro s w w' hasks h
      obtain ⟨hyields, heffect, hissued⟩ := couples.issue (some actor) h hasks.1
      rcases hi : w.issue env (some actor) r with ⟨⟨advance, fires, yields, effect⟩, v⟩
      rcases hi' : w'.issue env' (some actor) r with ⟨⟨advance', fires', yields', effect'⟩, v'⟩
      rw [hi, hi'] at hyields heffect hissued
      obtain rfl : yields = yields' := hyields
      obtain rfl : effect = effect' := heffect
      simp only [GatedRollout.takeTurn, hi, hi']
      cases yields with
      | zero =>
          cases effect with
          | answer answer =>
              exact ih answer s _ _ (hasks.2 answer trivial) (couples.returned _ r answer hissued)
          | panic message => exact ⟨_, _, _, _, rfl, rfl, trivial, hissued⟩
          | hang => exact ⟨_, _, _, _, rfl, rfl, trivial, hissued⟩
      | succ n =>
          exact ⟨_, _, _, _, rfl, rfl, ⟨hasks.1, fun answer => hasks.2 answer trivial⟩, hissued⟩
  | pause d next ih =>
      intro s w w' hasks h
      have hcancelled := couples.cancelled h
      simp only [GatedRollout.takeTurn, ← hcancelled]
      split
      · exact ih .cancelled s w w' (hasks _) h
      · obtain ⟨hyields, hslept⟩ := couples.sleep (some actor) d h
        exact ⟨_, _, _, _, rfl, by rw [hyields], hasks, hslept⟩
  | look next ih =>
      intro s w w' hasks h
      simp only [GatedRollout.takeTurn, ← couples.clock h, ← couples.cancelled h]
      exact ih _ s w w' (hasks _ trivial) h
  | put t next ih => exact fun s w w' hasks h => ih t w w' hasks.2 h
  | panic message => exact fun s w w' _ h => ⟨_, _, _, _, rfl, rfl, trivial, h⟩
  | stall => exact fun s w w' _ h => ⟨_, _, _, _, rfl, rfl, trivial, h⟩

theorem Couples.turn {m : Member ι σ α} (hasks : m.stage.Asks ok) {w : World ι S}
    {w' : World ι S'} (h : alike w w') :
    ∃ turn m₁ v v', m.turn env token w = (turn, m₁, v) ∧ m.turn env' token w' = (turn, m₁, v') ∧
      m₁.stage.Asks ok ∧ alike v v' := by
  obtain ⟨actor, s, stage⟩ := m
  cases stage with
  | ready p => exact couples.takeTurn actor p s w w' hasks h
  | calling n r effect next =>
      cases n with
      | zero =>
          cases effect with
          | answer answer =>
              exact couples.takeTurn actor _ s _ _ (hasks.2 answer) (couples.returned _ r answer h)
          | panic message => exact ⟨_, _, _, _, rfl, rfl, trivial, h⟩
          | hang => exact ⟨_, _, _, _, rfl, rfl, trivial, h⟩
      | succ n => exact ⟨_, _, _, _, rfl, rfl, hasks, h⟩
  | resting n next =>
      cases n with
      | zero =>
          simp only [Member.turn, ← couples.restEnd h]
          exact couples.takeTurn actor _ s w w' (hasks _) h
      | succ n => exact ⟨_, _, _, _, rfl, rfl, hasks, h⟩
  | finished a => exact ⟨_, _, _, _, rfl, rfl, trivial, h⟩
  | hung => exact ⟨_, _, _, _, rfl, rfl, trivial, h⟩

/-! ## Fan-outs -/

theorem Couples.takeTurns (members : List (Member ι σ α)) :
    ∀ results w w', (∀ m ∈ members, m.stage.Asks ok) → alike w w' → ∃ panic crew v v',
      Crew.takeTurns env token members results w = (panic, crew, v) ∧
        Crew.takeTurns env' token members results w' = (panic, crew, v') ∧
          (∀ m ∈ crew.members, m.stage.Asks ok) ∧ alike v v' := by
  induction members with
  | nil => exact fun results w w' hasks h => ⟨_, _, _, _, rfl, rfl, hasks, h⟩
  | cons m rest ih =>
      intro results w w' hasks h
      obtain ⟨hm, hrest⟩ := List.forall_mem_cons.mp hasks
      obtain ⟨turn, m₁, v, v', hturn, hturn', hm₁, hv⟩ := couples.turn hm h
      simp only [Crew.takeTurns, hturn, hturn']
      cases turn with
      | panicked message =>
          exact ⟨_, _, _, _, rfl, rfl, List.forall_mem_cons.mpr ⟨hm₁, hrest⟩, hv⟩
      | passed =>
          obtain ⟨panic, crew, u, u', hturns, hturns', hcrew, hu⟩ := ih results v v' hrest hv
          simp only [hturns, hturns']
          exact ⟨_, _, _, _, rfl, rfl, List.forall_mem_cons.mpr ⟨hm₁, hcrew⟩, hu⟩
      | finished a =>
          obtain ⟨panic, crew, u, u', hturns, hturns', hcrew, hu⟩ :=
            ih (results ++ [(m₁.actor, a)]) v v' hrest hv
          simp only [hturns, hturns']
          exact ⟨_, _, _, _, rfl, rfl, List.forall_mem_cons.mpr ⟨hm₁, hcrew⟩, hu⟩

theorem Couples.round :
    Interlude.Couples alike (fun crew : Crew ι σ α => ∀ m ∈ crew.members, m.stage.Asks ok)
      (Crew.round env token) (Crew.round env' token) :=
  fun crew w w' hcrew h => couples.takeTurns crew.members crew.results w w' hcrew h

theorem Couples.resume (actor : Nat) {p : Process ι σ α} (hasks : p.Asks ok) (s : σ)
    {others : Crew ι σ α} (hothers : ∀ m ∈ others.members, m.stage.Asks ok) {w : World ι S}
    {w' : World ι S'} (h : alike w w') :
    ∃ ending m others₁ v v',
      (GatedRollout.drive env token (some actor) (Crew.round env token) p s others w).asMember
          actor = ⟨ending, m, others₁, v⟩ ∧
        (GatedRollout.drive env' token (some actor) (Crew.round env' token) p s others w').asMember
          actor = ⟨ending, m, others₁, v'⟩ ∧
        (∀ m ∈ others₁.members, m.stage.Asks ok) ∧ alike v v' := by
  obtain ⟨ending, s₁, others₁, v, v', hdrive, hdrive', hothers₁, hv⟩ :=
    couples.drive couples.round (some actor) p s others w w' hasks hothers h
  rw [hdrive, hdrive']
  cases ending with
  | returned a => exact ⟨_, _, _, _, _, rfl, rfl, hothers₁, hv⟩
  | panicked message => exact ⟨_, _, _, _, _, rfl, rfl, hothers₁, hv⟩
  | hung => exact ⟨_, _, _, _, _, rfl, rfl, hothers₁, hv⟩

/-- The front process of a crew is concluded in the same way. -/
theorem Couples.conclude_front {m : Member ι σ α} (hasks : m.stage.Asks ok)
    (others : Crew ι σ α) (hothers : ∀ m ∈ others.members, m.stage.Asks ok) {w : World ι S}
    {w' : World ι S'} (h : alike w w') :
    ∃ ending m₁ others₁ v v', m.conclude env token others w = ⟨ending, m₁, others₁, v⟩ ∧
      m.conclude env' token others w' = ⟨ending, m₁, others₁, v'⟩ ∧
        (∀ m ∈ others₁.members, m.stage.Asks ok) ∧ alike v v' := by
  have hround : Interlude.Couples alike
      (fun crew : Crew ι σ α => ∀ m ∈ crew.members, m.stage.Asks ok) (Crew.round env token)
      (Crew.round env' token) := couples.round
  obtain ⟨actor, s, stage⟩ := m
  cases stage with
  | ready p => exact couples.resume actor hasks s hothers h
  | calling n r effect next =>
      obtain ⟨panic, others₁, v, v', ht, ht', hothers₁, hv⟩ := hround.times n others w w' hothers h
      simp only [Member.conclude, ht, ht']
      cases panic with
      | some message => exact ⟨_, _, _, _, _, rfl, rfl, hothers₁, hv⟩
      | none =>
          cases effect with
          | answer answer =>
              exact couples.resume actor (hasks.2 answer) s hothers₁
                (couples.returned _ r answer hv)
          | panic message => exact ⟨_, _, _, _, _, rfl, rfl, hothers₁, hv⟩
          | hang => exact ⟨_, _, _, _, _, rfl, rfl, hothers₁, hv⟩
  | resting n next =>
      obtain ⟨panic, others₁, v, v', ht, ht', hothers₁, hv⟩ := hround.times n others w w' hothers h
      simp only [Member.conclude, ht, ht']
      cases panic with
      | some message => exact ⟨_, _, _, _, _, rfl, rfl, hothers₁, hv⟩
      | none =>
          dsimp only
          rw [← couples.restEnd hv]
          exact couples.resume actor (hasks _) s hothers₁ hv
  | finished a => exact ⟨_, _, _, _, _, rfl, rfl, hothers, h⟩
  | hung => exact ⟨_, _, _, _, _, rfl, rfl, hothers, h⟩

theorem Couples.conclude (n : Nat) :
    ∀ (past : List (Member ι σ α)) (crew : Crew ι σ α) (w : World ι S) (w' : World ι S'),
      (∀ m ∈ crew.members, m.stage.Asks ok) → alike w w' → ∃ ending states v v',
        Crew.conclude env token n past crew w = ⟨ending, states, v⟩ ∧
          Crew.conclude env' token n past crew w' = ⟨ending, states, v'⟩ ∧ alike v v' := by
  induction n with
  | zero => exact fun past crew w w' _ h => ⟨_, _, _, _, rfl, rfl, h⟩
  | succ n ih =>
      intro past crew w w' hcrew h
      obtain ⟨_ | ⟨m, rest⟩, results⟩ := crew
      · exact ⟨_, _, _, _, rfl, rfl, h⟩
      · obtain ⟨hm, hrest⟩ := List.forall_mem_cons.mp hcrew
        obtain ⟨ending, m₁, others, v, v', hfront, hfront', hothers, hv⟩ :=
          couples.conclude_front hm ⟨rest, results⟩ hrest h
        simp only [Crew.conclude, hfront, hfront']
        cases ending with
        | panicked message => exact ⟨_, _, _, _, rfl, rfl, hv⟩
        | returned u => exact ih (m₁ :: past) others v v' hothers hv
        | hung => exact ih (m₁ :: past) others v v' hothers hv

/-- A fan-out in both worlds ends in the same way. -/
theorem Couples.fanOutWithin (limit : Option Nat) {crew : List (Process ι σ α × σ)}
    (hasks : ∀ p ∈ crew, p.1.Asks ok) {w : World ι S} {w' : World ι S'} (h : alike w w') :
    ∃ ending states v v', fanOutWithin env token limit crew w = ⟨ending, states, v⟩ ∧
      fanOutWithin env' token limit crew w' = ⟨ending, states, v'⟩ ∧ alike v v' := by
  have hcrew := (Crew.asks_assemble (w := w) hasks).1
  cases limit with
  | none => exact couples.conclude crew.length [] (Crew.assemble crew) w w' hcrew h
  | some rounds =>
      have hround : Interlude.Couples alike
          (fun crew : Crew ι σ α => ∀ m ∈ crew.members, m.stage.Asks ok) (Crew.round env token)
          (Crew.round env' token) := couples.round
      obtain ⟨panic, last, v, v', htimes, htimes', -, hv⟩ :=
        hround.times (rounds + 1) (Crew.assemble crew) w w' hcrew h
      simp only [GatedRollout.fanOutWithin, fanOutFor, htimes, htimes']
      exact ⟨_, _, _, _, rfl, rfl, hv⟩

end Turns

end GatedRollout
