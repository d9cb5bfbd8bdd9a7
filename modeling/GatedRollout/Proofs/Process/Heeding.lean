import GatedRollout.Proofs.Process.Discipline
import GatedRollout.Proofs.Process.Pauses

/-!
# Processes that heed the token

A process heeds the token if it looks at it in its pauses alone, and gives up in the first pause in
which it finds it fired. It may still finish what it can without a pause: once the token has fired
in a call, calls may follow. Once it has fired in a pause, none does. -/

namespace GatedRollout

variable {ι : Interface} {S σ ε ε' α β γ : Type}

/-! ## Giving up -/

/-- Where the token has fired, nothing more is done. -/
def Discipline.halting : Discipline ι σ σ where
  call _ _ _ := False
  pause _ s K := K .cancelled s
  look s K := ∀ now, K ⟨now, true, s⟩
  put t _ K := K t
  panic _ _ := False
  stall _ := False
  call_mono _ h := h
  pause_mono hK h := hK _ _ h
  look_mono hK h := fun now => hK _ (h now)
  put_mono hK h := hK _ h

/-- Where the token has fired, the process ends with such an answer, and does nothing more. -/
def Process.Halts (gaveUp : α → σ → Prop) (p : Process ι σ α) (s : σ) : Prop :=
  p.Obeys .halting gaveUp s

/-- The process looks at the token in its pauses alone, and gives up in the first in which it has
fired. What it comes to otherwise satisfies the postcondition, which is told whether there was no
call since the latest pause; `rested` tells so of the beginning. -/
def Process.Heeds (gaveUp : α → σ → Prop) (post : Bool → α → σ → Prop) :
    Bool → Process ι σ α → σ → Prop
  | rested, .done a, s => post rested a s
  | _, .call _ next, s => ∀ answer, (next answer).Heeds gaveUp post false s
  | _, .pause _ next, s =>
      (next .cancelled).Halts gaveUp s ∧ (next .elapsed).Heeds gaveUp post true s
  | rested, .look next, s => ∀ now, next ⟨now, true, s⟩ = next ⟨now, false, s⟩ ∧
      (next ⟨now, false, s⟩).Heeds gaveUp post rested s
  | rested, .put t next, _ => next.Heeds gaveUp post rested t
  | _, .panic _, _ => True
  | _, .stall, _ => True

namespace Process

variable {s : σ} {rested : Bool}

theorem Heeds.mono {G : α → σ → Prop} {Q Q' : Bool → α → σ → Prop} {p : Process ι σ α}
    (h : p.Heeds G Q rested s) (hpost : ∀ rested a t, Q rested a t → Q' rested a t) :
    p.Heeds G Q' rested s := by
  induction p generalizing s rested with
  | done a => exact hpost rested a s h
  | call r next ih => exact fun answer => ih answer (h answer)
  | pause d next ih => exact ⟨h.1, ih .elapsed h.2⟩
  | look next ih => exact fun now => ⟨(h now).1, ih _ (h now).2⟩
  | put t next ih => exact ih h
  | panic message => trivial
  | stall => trivial

theorem Heeds.bind {G : α → σ → Prop} {G' : β → σ → Prop} {Q : Bool → α → σ → Prop}
    {Q' : Bool → β → σ → Prop} {p : Process ι σ α} {f : α → Process ι σ β}
    (h : p.Heeds G Q rested s) (halts : ∀ a t, G a t → (f a).Halts G' t)
    (next : ∀ rested a t, Q rested a t → (f a).Heeds G' Q' rested t) :
    (p >>= f).Heeds G' Q' rested s := by
  induction p generalizing s rested with
  | done a => exact next rested a s h
  | call r tail ih => exact fun answer => ih answer (h answer)
  | pause d tail ih => exact ⟨Obeys.bind h.1 halts, ih .elapsed h.2⟩
  | look tail ih =>
      refine fun now => ⟨?_, ih _ (h now).2⟩
      show (tail ⟨now, true, s⟩).bind f = (tail ⟨now, false, s⟩).bind f
      rw [(h now).1]
  | put t tail ih => exact ih h
  | panic message => trivial
  | stall => trivial

/-! ### Watches -/

theorem heeds_watch (watch : Watch ι β γ) (patience : Nat) :
    (watch.run patience).Heeds (fun a t => a = .cancelled ∧ t = s)
      (fun rested _ t => rested = false ∧ t = s) rested s := by
  have hpoll : ∀ deadline n seen rested, (watch.poll deadline n seen : Process ι σ _).Heeds
      (fun a t => a = .cancelled ∧ t = s) (fun rested _ t => rested = false ∧ t = s) rested s := by
    intro deadline n
    induction n with
    | zero => exact fun _ _ => trivial
    | succ n ih =>
        intro seen rested answer
        cases answer with
        | error e => exact ⟨rfl, rfl⟩
        | ok reply =>
            dsimp only
            cases watch.judge seen reply with
            | settled b => exact ⟨rfl, rfl⟩
            | pending seen' =>
                refine fun now => ⟨rfl, ?_⟩
                dsimp only
                split
                · exact ⟨rfl, rfl⟩
                · exact ⟨⟨rfl, rfl⟩, ih seen' true⟩
  exact fun now => ⟨rfl, hpoll _ _ _ _⟩

theorem heeds_idle (limit interval : Duration) (patience : Nat) :
    (idle limit interval patience : Process ι σ _).Heeds (fun a t => a = .cancelled ∧ t = s)
      (fun _ a t => a = .elapsed ∧ t = s) rested s := by
  have hslices : ∀ deadline n rested, (idleSlices deadline interval n : Process ι σ _).Heeds
      (fun a t => a = .cancelled ∧ t = s) (fun _ a t => a = .elapsed ∧ t = s) rested s := by
    intro deadline n
    induction n with
    | zero => exact fun _ => trivial
    | succ n ih =>
        refine fun rested now => ⟨rfl, ?_⟩
        dsimp only
        split
        · exact ⟨rfl, rfl⟩
        · exact ⟨⟨rfl, rfl⟩, ih true⟩
  exact fun now => ⟨rfl, hslices _ _ _⟩

end Process

/-! ## Attempts -/

/-- The attempt gave up with an error of this kind. -/
def GivesUp (kind : ε → Prop) (result : Except ε α) : Prop := ∃ e, result = .error e ∧ kind e

/-- What was given up is not gone on with. -/
theorem Process.Halts.attempt {kind : ε → Prop} {m : Attempt ι σ ε α} {f : α → Attempt ι σ ε β}
    {s : σ} (h : m.run.Halts (fun result _ => GivesUp kind result) s) :
    (m >>= f).run.Halts (fun result _ => GivesUp kind result) s := by
  refine Process.Obeys.bind h fun result t hgave => ?_
  obtain ⟨e, rfl, he⟩ := hgave
  exact ⟨e, rfl, he⟩

/-- What an attempt that heeds the token comes to: it keeps a property of the state, has made a call
since its latest pause if it fails, and also if it succeeds unless `rested` allows that. -/
def Attempt.Comes (keeps : σ → Prop) (rested : Bool) (now : Bool) (result : Except ε α) (t : σ) :
    Prop :=
  keeps t ∧ match result with
    | .ok _ => now = true → rested = true
    | .error _ => now = false

/-- From every state with the property, the attempt heeds the token, and gives up with errors of
this kind. The flags tell whether there may be no call since the latest pause, before and after. -/
def Attempt.Heeds (kind : ε → Prop) (keeps : σ → Prop) (before after : Bool)
    (m : Attempt ι σ ε α) : Prop :=
  ∀ (s : σ) (rested : Bool), keeps s → (rested = true → before = true) →
    Process.Heeds (fun result _ => GivesUp kind result) (Attempt.Comes keeps after) rested m.run s

namespace Attempt.Heeds

variable {kind : ε → Prop} {keeps : σ → Prop} {before between after : Bool}

theorem bind {m : Attempt ι σ ε α} {f : α → Attempt ι σ ε β}
    (h : m.Heeds kind keeps before between)
    (next : ∀ a, (f a).Heeds kind keeps between after) :
    (m >>= f).Heeds kind keeps before after := by
  intro s rested hs hrested
  refine Process.Heeds.bind (h s rested hs hrested) ?_ ?_
  · intro result t hgave
    obtain ⟨e, rfl, he⟩ := hgave
    exact ⟨e, rfl, he⟩
  · intro now result t hcomes
    cases result with
    | ok a => exact next a t now hcomes.1 hcomes.2
    | error e => exact hcomes

theorem pure (a : α) : (Pure.pure a : Attempt ι σ ε α).Heeds kind keeps before before :=
  fun _ _ hs hrested => ⟨hs, hrested⟩

/-- An outcome that is known already, after a call. -/
theorem known (result : Except ε α) :
    (liftM result : Attempt ι σ ε α).Heeds kind keeps false false := by
  intro s rested hs hrested
  have hnow : rested = false := Bool.eq_false_iff.mpr fun h => Bool.false_ne_true (hrested h)
  refine ⟨hs, ?_⟩
  cases result with
  | ok a => exact hrested
  | error e => exact hnow

theorem ask (r : ι.Request) (fault : ClientError → ε) :
    (Attempt.ask r fault : Attempt ι σ ε _).Heeds kind keeps before false := by
  intro s rested hs _ answer
  cases answer with
  | ok reply => exact ⟨hs, id⟩
  | error e => exact ⟨hs, rfl⟩

theorem rest (d : Duration) {fault : ε} (hfault : kind fault) :
    (Attempt.rest d fault : Attempt ι σ ε _).Heeds kind keeps before true :=
  fun _ _ hs _ => ⟨⟨fault, rfl, hfault⟩, hs, fun _ => rfl⟩

theorem modify {f : σ → σ} (h : ∀ s, keeps s → keeps (f s)) :
    (Attempt.modify f : Attempt ι σ ε _).Heeds kind keeps before before :=
  fun s _ hs hrested _ => ⟨rfl, h s hs, hrested⟩

theorem now_then {f : Instant → Attempt ι σ ε β}
    (next : ∀ now, (f now).Heeds kind keeps before after) :
    (Attempt.now >>= f).Heeds kind keeps before after :=
  fun s rested hs hrested now => ⟨rfl, next now s rested hs hrested⟩

theorem state_then {f : σ → Attempt ι σ ε β}
    (next : ∀ s, keeps s → (f s).Heeds kind keeps before after) :
    (Attempt.state >>= f).Heeds kind keeps before after :=
  fun s rested hs hrested _ => ⟨rfl, next s hs s rested hs hrested⟩

theorem within {kind' : ε' → Prop} {m : Attempt ι σ ε α} (h : m.Heeds kind keeps before after)
    {wrap : ε → ε'} (hwrap : ∀ e, kind e → kind' (wrap e)) :
    (m.within wrap).Heeds kind' keeps before after := by
  intro s rested hs hrested
  refine Process.Heeds.bind (h s rested hs hrested) ?_ ?_
  · intro result t hgave
    obtain ⟨e, rfl, he⟩ := hgave
    exact ⟨wrap e, rfl, hwrap e he⟩
  · intro now result t hcomes
    cases result with
    | ok a => exact hcomes
    | error e => exact hcomes

/-- A watch, of which the end settles what follows. -/
theorem watch_then {watch : Watch ι β γ} {patience : Nat} {f : Watched β γ → Attempt ι σ ε α}
    (halts : ∀ s, (f .cancelled).run.Halts (fun result _ => GivesUp kind result) s)
    (next : ∀ watched, (f watched).Heeds kind keeps false after) :
    (ExceptT.lift (watch.run patience) >>= f : Attempt ι σ ε α).Heeds kind keeps before after := by
  intro s rested hs _
  rw [ExceptT.run_bind_lift]
  refine (Process.heeds_watch watch patience).bind (fun watched t h => ?_) fun now watched t h => ?_
  · obtain ⟨rfl, rfl⟩ := h
    exact halts t
  · obtain ⟨rfl, rfl⟩ := h
    exact next watched t false hs nofun

/-- A time without calls, after which the attempt goes on. -/
theorem idle_then {limit interval : Duration} {patience : Nat} {f : Rest → Attempt ι σ ε α}
    (halts : ∀ s, (f .cancelled).run.Halts (fun result _ => GivesUp kind result) s)
    (next : (f .elapsed).Heeds kind keeps true after) :
    (ExceptT.lift (idle limit interval patience) >>= f : Attempt ι σ ε α).Heeds kind keeps before
      after := by
  intro s rested hs _
  rw [ExceptT.run_bind_lift]
  refine (Process.heeds_idle limit interval patience).bind (fun rest t h => ?_)
    fun now rest t h => ?_
  · obtain ⟨rfl, rfl⟩ := h
    exact halts t
  · obtain ⟨rfl, rfl⟩ := h
    exact next t now hs fun _ => rfl

end Attempt.Heeds

/-! ## What is done after the firing -/

/-- These deeds end with falling asleep, or there are none, and the process was to pause first. -/
def AtRest (pausesFirst : Bool) (y : List (Event ι)) : Prop :=
  (pausesFirst = true ∧ y = []) ∨ ∃ d, y.getLast? = some (.slept d)

theorem not_atRest_append {pausesFirst : Bool} (y : List (Event ι)) {e : Event ι}
    (he : e.isSlept = false) : ¬AtRest pausesFirst (y ++ [e]) := by
  intro hrest
  rcases hrest with ⟨-, hnil⟩ | ⟨d, hlast⟩
  · simp at hnil
  · rw [List.getLast?_concat] at hlast
    cases hlast
    cases he

/-- How a process that heeds the token takes its firing: it never sleeps again, it does nothing more
and gives up if it was at rest, and it does nothing more if it had come to its end. -/
def Heeded (pausesFirst : Bool) (gaveUp : Prop) : View (Event ι) → Prop
  | .unfired _ => True
  | .fired y z => Wakeful z ∧ (AtRest pausesFirst y → z = [] ∧ gaveUp) ∧
      ((∃ r answer, y.getLast? = some (.returned r answer)) → z = [])

/-- The same of an answer, which is not given at rest before the firing. -/
def HeededBy (pausesFirst : Bool) (gaveUp : α → Prop) (a : α) (v : View (Event ι)) : Prop :=
  Heeded pausesFirst (gaveUp a) v ∧ ∀ y, v = .unfired y → ¬AtRest pausesFirst y

theorem HeededBy.onward {pausesFirst : Bool} {gaveUp : α → Prop} {a : α} {v v' : View (Event ι)}
    (h : HeededBy pausesFirst gaveUp a v) (hv : v.Onward v') :
    HeededBy pausesFirst gaveUp a v' := by
  rcases hv with rfl | rfl
  · exact h
  · cases v with
    | unfired y =>
        exact ⟨⟨wakeful_nil, fun hrest => absurd hrest (h.2 y rfl), fun _ => rfl⟩, nofun⟩
    | fired y z => exact h

section Abiding

variable {pausesFirst : Bool} {gaveUp : α → Prop} {post : Bool → α → σ → Prop}

theorem Process.Halts.abides {G : α → σ → Prop} {inv : σ → View (Event ι) → Prop}
    {p : Process ι σ α} {s : σ} (h : p.Halts G s) {v : View (Event ι)} (hv : v.isFired = true) :
    Abides inv (fun a t v' => G a t ∧ v' = v) p s v := by
  induction p generalizing s with
  | done a => exact ⟨h, rfl⟩
  | call r next ih => exact h.elim
  | pause d next ih => exact ⟨fun _ => ih .cancelled h, by simp [hv]⟩
  | look next ih =>
      intro now
      rw [hv]
      exact ih _ (h now)
  | put t next ih => exact ih h
  | panic message => exact h.elim
  | stall => exact h.elim

/-- Where the token fired in a call, or before the process began, no pause follows. -/
theorem Process.Heeds.abides_fired {p : Process ι σ α} {rested : Bool} {s : σ}
    (h : p.Heeds (fun a _ => gaveUp a) post rested s) {y : List (Event ι)}
    (hrest : ¬AtRest pausesFirst y) (hreturned : ∀ r answer, y.getLast? ≠ some (.returned r answer))
    {z : List (Event ι)} (hz : Wakeful z) :
    Abides (fun _ => Heeded pausesFirst False) (fun a _ => HeededBy pausesFirst gaveUp a) p s
      (.fired y z) := by
  have hheeded : ∀ {z : List (Event ι)} {G : Prop}, Wakeful z →
      Heeded pausesFirst G (.fired y z) := by
    intro z G hz
    refine ⟨hz, fun hy => absurd hy hrest, fun hy => ?_⟩
    obtain ⟨r, answer, hlast⟩ := hy
    exact absurd hlast (hreturned r answer)
  induction p generalizing rested s z with
  | done a => exact ⟨hheeded hz, nofun⟩
  | call r next ih =>
      intro v' hv'
      obtain rfl : v' = .fired y (z ++ [.issued r]) := hv'.elim id id
      have hissued : Wakeful (z ++ [.issued r]) := hz.append rfl
      exact ⟨hheeded hissued, fun answer => ih answer (h answer) (hissued.append rfl)⟩
  | pause d next ih =>
      have hhalts : Abides (fun _ => Heeded pausesFirst False)
          (fun a _ => HeededBy pausesFirst gaveUp a) (next .cancelled) s (.fired y z) := by
        refine (h.1.abides rfl).mono (fun _ _ h => h) fun a t v' hv' => ?_
        rw [hv'.2]
        exact ⟨hheeded hz, nofun⟩
      exact ⟨fun _ => hhalts, nofun⟩
  | look next ih =>
      intro now
      rw [show (View.fired y z).isFired = true from rfl, (h now).1]
      exact ih _ (h now).2 hz
  | put t next ih => exact ih h hz
  | panic message => exact hheeded hz
  | stall => exact hheeded hz

theorem Process.Heeds.abides_unfired {p : Process ι σ α} {rested : Bool} {s : σ}
    (h : p.Heeds (fun a _ => gaveUp a) (fun rested _ _ => rested = false) rested s)
    {y : List (Event ι)} (hrest : AtRest pausesFirst y → rested = true) :
    Abides (fun _ => Heeded pausesFirst False) (fun a _ => HeededBy pausesFirst gaveUp a) p s
      (.unfired y) := by
  induction p generalizing rested s y with
  | done a =>
      refine ⟨trivial, fun y' hy' hatrest => ?_⟩
      cases hy'
      exact Bool.false_ne_true (h.symm.trans (hrest hatrest))
  | call r next ih =>
      have hissued : ¬AtRest pausesFirst (y ++ [.issued r]) := not_atRest_append y rfl
      have hlast : ∀ r' answer, (y ++ [Event.issued r]).getLast? ≠ some (.returned r' answer) := by
        simp
      intro v' hv'
      rcases hv' with rfl | rfl
      · refine ⟨trivial, fun answer => ih answer (h answer) fun hatrest => ?_⟩
        exact absurd hatrest (not_atRest_append _ rfl)
      · refine ⟨⟨wakeful_nil, (absurd · hissued), fun _ => rfl⟩, fun answer => ?_⟩
        exact (h answer).abides_fired hissued hlast (wakeful_nil.append rfl)
  | pause d next ih =>
      have hhalts : Abides (fun _ => Heeded pausesFirst False)
          (fun a _ => HeededBy pausesFirst gaveUp a) (next .cancelled) s
          (.fired (y ++ [.slept d]) []) := by
        refine (h.1.abides rfl).mono (fun _ _ h => h) fun a t v' hv' => ?_
        rw [hv'.2]
        exact ⟨⟨wakeful_nil, fun _ => ⟨rfl, hv'.1⟩, fun _ => rfl⟩, nofun⟩
      refine ⟨nofun, fun _ v' hv' => ?_⟩
      rcases hv' with rfl | rfl
      · exact ih .elapsed h.2 fun _ => rfl
      · exact hhalts
  | look next ih => exact fun now => ih _ (h now).2 hrest
  | put t next ih => exact ih h hrest
  | panic message => trivial
  | stall => trivial

end Abiding

/-! ## Whole runs -/

theorem Attempt.Heeds.run_heeds {kind : ε → Prop} {keeps : σ → Prop} {before : Bool}
    {m : Attempt ι σ ε α} (h : m.Heeds kind keeps before false) {s : σ} (hs : keeps s) :
    m.run.Heeds (fun result _ => GivesUp kind result) (fun rested _ _ => rested = false) false
      s := by
  refine (h s false hs nofun).mono fun rested result t hcomes => ?_
  cases result with
  | ok a => exact Bool.eq_false_iff.mpr fun hrested => Bool.false_ne_true (hcomes.2 hrested)
  | error e => exact hcomes.2

section Runs

variable {gaveUp : α → Prop} {p : Process ι σ α} {s : σ}
  (h : p.Heeds (fun a _ => gaveUp a) (fun rested _ _ => rested = false) false s)
  (env : Environment ι S) (actor : Option Nat) (w : World ι S)

include h

theorem Process.Heeds.run_sees :
    let out := run env .caller actor p s w
    ∃ v, World.Sees w out.world v ∧
      Secured (fun _ => Heeded false False) (fun a _ => HeededBy false gaveUp a)
        out.ending.answer? out.state (v.deedsOf actor) := by
  have hrest : ¬AtRest (ι := ι) false [] := by simp [AtRest]
  have hw := World.sees_self w
  cases hfired : w.fired with
  | true =>
      rw [hfired] at hw
      have habides := h.abides_fired hrest (by simp) wakeful_nil
      exact Abides.run env actor (v := .fired [] []) habides hw
  | false =>
      rw [hfired] at hw
      have habides := h.abides_unfired fun hatrest => absurd hatrest hrest
      exact Abides.run env actor (v := .unfired []) habides hw

/-- Once the token has fired the process never pauses again. If it fired in a pause, then nothing
more was done, and the process gave up. -/
theorem Process.Heeds.run_fired {before after : List (Entry ι)} :
    let out := run env .caller actor p s w
    FiresAt w.fired (out.world.since w) before after →
      Sleepless after ∧ (EndsAsleep before →
        after = [] ∧ ∃ a, out.ending = .returned a ∧ gaveUp a) := by
  intro out hfires
  obtain ⟨v, hsees, hsecured⟩ := h.run_sees env actor w
  obtain rfl := hsees.eq_fired hfires
  have hheeded : Heeded false (∃ a, out.ending = .returned a ∧ gaveUp a)
      (.fired (deedsOf actor before) (deedsOf actor after)) := by
    change Secured _ _ out.ending.answer? out.state _ at hsecured
    cases hending : out.ending with
    | returned a =>
        rw [hending] at hsecured
        obtain ⟨⟨hwakeful, hrest, hended⟩, -⟩ := hsecured
        exact ⟨hwakeful, fun hy => ⟨(hrest hy).1, a, rfl, (hrest hy).2⟩, hended⟩
    | panicked message =>
        rw [hending] at hsecured
        exact ⟨hsecured.1, fun hy => (hsecured.2.1 hy).2.elim, hsecured.2.2⟩
    | hung =>
        rw [hending] at hsecured
        exact ⟨hsecured.1, fun hy => (hsecured.2.1 hy).2.elim, hsecured.2.2⟩
  have hothers : ∀ other, actor ≠ other → deedsOf other before = [] ∧ deedsOf other after = [] := by
    intro other hne
    have hnone := (run_others env .caller hne p s w).trans (List.append_nil _).symm
    rw [← List.append_eq_nil_iff, ← hfires.deedsOf_eq other]
    exact (run_follows env .caller actor p s w).deedsOf_since hnone
  refine ⟨sleepless_of_deedsOf fun other => ?_, fun hasleep => ?_⟩
  · by_cases hother : actor = other
    · exact hother ▸ hheeded.1
    · rw [(hothers other hother).2]
      exact wakeful_nil
  · obtain ⟨other, d, hlast⟩ := hasleep.exists_actor
    have hother : actor = other := Decidable.byContradiction fun hne => by
      rw [(hothers other hne).1] at hlast
      cases hlast
    subst hother
    obtain ⟨hnone, hgave⟩ := hheeded.2.1 (.inr ⟨d, hlast⟩)
    refine ⟨eq_nil_of_deedsOf (fun other => ?_) (hsees.once hfires), hgave⟩
    by_cases hother : actor = other
    · exact hother ▸ hnone
    · exact (hothers other hother).2

/-- As long as the token has not fired, the process does not end with a pause. -/
theorem Process.Heeds.run_unfired {a : α} :
    let out := run env .caller actor p s w
    out.ending = .returned a → out.world.fired = false → ¬EndsAsleep (out.world.since w) := by
  intro out hending hunfired hasleep
  obtain ⟨v, hsees, hsecured⟩ := h.run_sees env actor w
  rw [show (run env .caller actor p s w).ending = .returned a from hending] at hsecured
  obtain ⟨other, d, hlast⟩ := hasleep.exists_actor
  have hother : actor = other := Decidable.byContradiction fun hne => by
    have hnone := (run_others env .caller hne p s w).trans (List.append_nil _).symm
    rw [(run_follows env .caller actor p s w).deedsOf_since hnone] at hlast
    cases hlast
  subst hother
  cases hsees with
  | unfired => exact hsecured.2 _ rfl (.inr ⟨d, hlast⟩)
  | fired _ hfired _ _ => exact Bool.false_ne_true (hunfired.symm.trans hfired)

theorem Process.Heeds.run_returned {a : α}
    (hending : (run env .caller actor p s w).ending = .returned a) :
    World.Heeds w (run env .caller actor p s w).world fun _ => gaveUp a := by
  obtain ⟨v, hsees, -⟩ := h.run_sees env actor w
  refine ⟨⟨v, hsees⟩, fun hfires hpause => ?_, h.run_unfired env actor w hending⟩
  obtain ⟨hnone, a', hending', hgave⟩ := (h.run_fired env actor w hfires).2 hpause.asleep
  cases hending.symm.trans hending'
  exact ⟨hnone, hgave⟩

end Runs

/-! ## Runs with and without the token -/

/-- Where the token has fired, a process that halts does nothing. -/
theorem Process.Halts.run {G : α → σ → Prop} {p : Process ι σ α} {s : σ} (h : p.Halts G s)
    (env : Environment ι S) (actor : Option Nat) {w : World ι S} (hw : w.fired = true) :
    ∃ a t, GatedRollout.run env .caller actor p s w = ⟨.returned a, t, w⟩ ∧ G a t := by
  induction p generalizing s with
  | done a => exact ⟨a, s, rfl, h⟩
  | call r next ih => exact h.elim
  | pause d next ih =>
      rw [run_pause, if_pos (show w.cancelled .caller = true from hw)]
      exact ih .cancelled h
  | look next ih =>
      rw [run_look, World.cancelled, hw]
      exact ih _ (h w.clock)
  | put t next ih => exact ih h
  | panic message => exact h.elim
  | stall => exact h.elim

/-- A process that heeds the token gives up, or the token has no effect on it at all. -/
theorem Process.Heeds.run_caller {G : α → σ → Prop} {Q : Bool → α → σ → Prop}
    {p : Process ι σ α} {rested : Bool} {s : σ} (h : p.Heeds G Q rested s) (env : Environment ι S)
    (actor : Option Nat) (w : World ι S) :
    (∃ a t, (GatedRollout.run env .caller actor p s w).ending = .returned a ∧ G a t) ∨
      GatedRollout.run env .caller actor p s w = GatedRollout.run env .shielded actor p s w := by
  induction p generalizing rested s w with
  | done a => exact .inr rfl
  | call r next ih =>
      rw [run_call, run_call]
      dsimp only
      split
      · exact ih _ (h _) _
      · exact .inr rfl
      · exact .inr rfl
  | pause d next ih =>
      rw [run_pause, run_pause, if_neg (show ¬w.cancelled .shielded = true from Bool.false_ne_true)]
      have hhalts : ∀ w' : World ι S, w'.fired = true → ∃ a t,
          (GatedRollout.run env .caller actor (next .cancelled) s w').ending = .returned a ∧
            G a t := by
        intro w' hw'
        obtain ⟨a, t, hrun, hG⟩ := h.1.run env actor hw'
        exact ⟨a, t, by rw [hrun], hG⟩
      split
      · next hfired => exact .inl (hhalts w hfired)
      · dsimp only
        generalize (w.sleep env actor d).2 = w'
        cases hfired : w'.fired with
        | true =>
            have hrest : w'.restEnd .caller = .cancelled := if_pos hfired
            rw [hrest]
            exact .inl (hhalts w' hfired)
        | false =>
            have hrest : w'.restEnd .caller = .elapsed := if_neg (by simp [World.cancelled, hfired])
            rw [hrest]
            exact ih .elapsed h.2 w'
  | look next ih =>
      rw [run_look, run_look]
      have hsame : next ⟨w.clock, w.cancelled .caller, s⟩ = next ⟨w.clock, false, s⟩ := by
        cases w.cancelled .caller with
        | true => exact (h w.clock).1
        | false => rfl
      rw [hsame]
      exact ih _ (h w.clock).2 w
  | put t next ih => exact ih h w
  | panic message => exact .inr rfl
  | stall => exact .inr rfl

end GatedRollout
