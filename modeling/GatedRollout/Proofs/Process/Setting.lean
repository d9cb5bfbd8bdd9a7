import GatedRollout.Proofs.Process.Discipline

/-!
# Processes in a setting

A setting says how the surroundings of a process may change with what it does: when it issues a
call, when the call returns, and over a pause. `Secures` is what holds of a process in a setting
whatever the answers, the clock and the token: an invariant wherever the process waits or is stuck,
and a postcondition of what it returns. The rules below follow the constructors of processes and
the combinators of attempts, so that a proof about a piece of the engine follows its text.
-/

namespace GatedRollout

/-- How the surroundings of a process may change with its calls and pauses. -/
structure Setting (ι : Interface) (X : Type) where
  issues : X → ι.Request → X → Prop
  returns : X → (r : ι.Request) → Except ClientError (ι.Reply r) → X → Prop
  sleeps : X → Duration → X → Prop

variable {ι : Interface} {X σ ε ε' α β : Type}

/-- The account has the state and the surroundings, of which the invariant is to hold wherever the
process waits or is stuck. -/
def Setting.securing (E : Setting ι X) (inv : σ → X → Prop) : Discipline ι σ (σ × X) where
  call r c K := ∀ y, E.issues c.2 r y → inv c.1 y ∧
    ∀ answer z, E.returns y r answer z → K answer (c.1, z)
  pause d c K := K .cancelled c ∧
    ∀ y, E.sleeps c.2 d y → inv c.1 y ∧ ∀ rest, K rest (c.1, y)
  look c K := ∀ now cancelled, K ⟨now, cancelled, c.1⟩
  put t c K := K (t, c.2)
  panic _ c := inv c.1 c.2
  stall c := inv c.1 c.2
  call_mono hK h := fun y hy =>
    ⟨(h y hy).1, fun answer z hz => hK _ _ ((h y hy).2 answer z hz)⟩
  pause_mono hK h :=
    ⟨hK _ _ h.1, fun y hy => ⟨(h.2 y hy).1, fun rest => hK _ _ ((h.2 y hy).2 rest)⟩⟩
  look_mono hK h := fun now cancelled => hK _ (h now cancelled)
  put_mono hK h := hK _ h

/-- From this state and in these surroundings, the process keeps the invariant wherever it waits or
is stuck, and returns only what satisfies the postcondition. -/
def Secures (E : Setting ι X) (inv : σ → X → Prop) (post : α → σ → X → Prop)
    (p : Process ι σ α) (s : σ) (x : X) : Prop :=
  p.Obeys (E.securing inv) (fun a c => post a c.1 c.2) (s, x)

namespace Secures

variable {E : Setting ι X} {inv inv' : σ → X → Prop} {s : σ} {x : X}

/-! ## Composition -/

theorem mono {post post' : α → σ → X → Prop} {p : Process ι σ α}
    (h : Secures E inv post p s x) (hinv : ∀ t y, inv t y → inv' t y)
    (hpost : ∀ a t y, post a t y → post' a t y) : Secures E inv' post' p s x := by
  refine Process.Obeys.mono h ⟨?_, ?_, id, id, hinv _ _, hinv _ _⟩ fun a c => hpost a c.1 c.2
  · exact fun h y hy => ⟨hinv _ y (h y hy).1, (h y hy).2⟩
  · exact fun h => ⟨h.1, fun y hy => ⟨hinv _ y (h.2 y hy).1, (h.2 y hy).2⟩⟩

theorem weaken {post post' : α → σ → X → Prop} {p : Process ι σ α}
    (h : Secures E inv post p s x) (hpost : ∀ a t y, post a t y → post' a t y) :
    Secures E inv post' p s x :=
  h.mono (fun _ _ hi => hi) hpost

/-- What a process secures by itself it secures together. -/
theorem both {post post' : α → σ → X → Prop} {p : Process ι σ α}
    (h : Secures E inv post p s x) (h' : Secures E inv' post' p s x) :
    Secures E (fun t y => inv t y ∧ inv' t y) (fun a t y => post a t y ∧ post' a t y) p s x := by
  induction p generalizing s x with
  | done a => exact ⟨h, h'⟩
  | call r next ih =>
      intro y hy
      obtain ⟨hwait, hnext⟩ := h y hy
      obtain ⟨hwait', hnext'⟩ := h' y hy
      exact ⟨⟨hwait, hwait'⟩,
        fun answer z hz => ih answer (hnext answer z hz) (hnext' answer z hz)⟩
  | pause d next ih =>
      refine ⟨ih _ h.1 h'.1, fun y hy => ?_⟩
      obtain ⟨hwait, hnext⟩ := h.2 y hy
      obtain ⟨hwait', hnext'⟩ := h'.2 y hy
      exact ⟨⟨hwait, hwait'⟩, fun rest => ih rest (hnext rest) (hnext' rest)⟩
  | look next ih => exact fun now cancelled => ih _ (h now cancelled) (h' now cancelled)
  | put t next ih => exact ih h h'
  | panic message => exact ⟨h, h'⟩
  | stall => exact ⟨h, h'⟩

theorem bind_iff {post : β → σ → X → Prop} {p : Process ι σ α} {f : α → Process ι σ β} :
    Secures E inv post (p.bind f) s x ↔
      Secures E inv (fun a t y => Secures E inv post (f a) t y) p s x :=
  Process.Obeys.bind_iff

/-- Do one thing after the other. -/
theorem bind {Q : α → σ → X → Prop} {post : β → σ → X → Prop} {p : Process ι σ α}
    {f : α → Process ι σ β} (h : Secures E inv Q p s x)
    (next : ∀ a t y, Q a t y → Secures E inv post (f a) t y) :
    Secures E inv post (p >>= f) s x :=
  bind_iff.mpr (h.weaken next)

/-! ## Processes -/

theorem pure {post : α → σ → X → Prop} {a : α} (h : post a s x) :
    Secures E inv post (Pure.pure a : Process ι σ α) s x := h

theorem modify {post : Unit → σ → X → Prop} {f : σ → σ} (h : post () (f s) x) :
    Secures E inv post (Process.modify f : Process ι σ Unit) s x := fun _ _ => h

theorem state_bind {post : β → σ → X → Prop} {f : σ → Process ι σ β}
    (h : Secures E inv post (f s) s x) :
    Secures E inv post (Process.state >>= f) s x := fun _ _ => h

theorem modify_bind {post : β → σ → X → Prop} {g : σ → σ} {f : Unit → Process ι σ β}
    (h : Secures E inv post (f ()) (g s) x) :
    Secures E inv post (Process.modify g >>= f) s x := fun _ _ => h

/-! ## Attempts -/

/-- Attempt one thing after the other: what follows needs to be looked at only where the first
succeeds. -/
theorem attempt {Q : Except ε α → σ → X → Prop} {post : Except ε β → σ → X → Prop}
    {m : Attempt ι σ ε α} {f : α → Attempt ι σ ε β} (h : Secures E inv Q m.run s x)
    (ok : ∀ a t y, Q (.ok a) t y → Secures E inv post (f a).run t y)
    (error : ∀ e t y, Q (.error e) t y → post (.error e) t y) :
    Secures E inv post (m >>= f).run s x := by
  refine bind_iff.mpr (h.weaken fun result t y hQ => ?_)
  cases result with
  | ok a => exact ok a t y hQ
  | error e => exact error e t y hQ

theorem attempt_pure {post : Except ε α → σ → X → Prop} {a : α} (h : post (.ok a) s x) :
    Secures E inv post (Pure.pure a : Attempt ι σ ε α).run s x := h

theorem attempt_throw {post : Except ε α → σ → X → Prop} {e : ε} (h : post (.error e) s x) :
    Secures E inv post (throw e : Attempt ι σ ε α).run s x := h

/-- An outcome that is known already. -/
theorem attempt_lift {post : Except ε α → σ → X → Prop} {result : Except ε α}
    (h : post result s x) :
    Secures E inv post (liftM result : Attempt ι σ ε α).run s x := h

/-- A process that cannot fail, as an attempt. -/
theorem attempt_run {post : Except ε α → σ → X → Prop} {p : Process ι σ α}
    (h : Secures E inv (fun a t y => post (.ok a) t y) p s x) :
    Secures E inv post (ExceptT.lift p : Attempt ι σ ε α).run s x := by
  refine bind_iff.mpr (h.weaken fun a t y hpost => hpost)

theorem attempt_modify {post : Except ε Unit → σ → X → Prop} {f : σ → σ}
    (h : post (.ok ()) (f s) x) :
    Secures E inv post (Attempt.modify f : Attempt ι σ ε Unit).run s x := fun _ _ => h

theorem attempt_rest {post : Except ε Unit → σ → X → Prop} {d : Duration} {fault : ε}
    (cancelled : post (.error fault) s x)
    (slept : ∀ y, E.sleeps x d y → inv s y ∧ post (.ok ()) s y ∧ post (.error fault) s y) :
    Secures E inv post (Attempt.rest d fault : Attempt ι σ ε Unit).run s x := by
  refine ⟨cancelled, fun y hy => ?_⟩
  obtain ⟨hwait, hok, herror⟩ := slept y hy
  refine ⟨hwait, fun rest => ?_⟩
  cases rest with
  | elapsed => exact hok
  | cancelled => exact herror

theorem attempt_within {post : Except ε' α → σ → X → Prop} {m : Attempt ι σ ε α} {wrap : ε → ε'}
    (h : Secures E inv (fun result t y => post (result.mapError wrap) t y) m.run s x) :
    Secures E inv post (m.within wrap).run s x := by
  refine bind_iff.mpr (h.weaken fun result t y hpost => ?_)
  cases result with
  | ok a => exact hpost
  | error e => exact hpost

/-! ## Attempts that go on

The same where the attempt goes on with what it found; nothing lies between that the invariant
would have to hold of. -/

theorem state_then {post : Except ε β → σ → X → Prop} {f : σ → Attempt ι σ ε β}
    (h : Secures E inv post (f s).run s x) :
    Secures E inv post (Attempt.state >>= f).run s x := fun _ _ => h

theorem modify_then {post : Except ε β → σ → X → Prop} {g : σ → σ} {f : Unit → Attempt ι σ ε β}
    (h : Secures E inv post (f ()).run (g s) x) :
    Secures E inv post (Attempt.modify g >>= f).run s x := fun _ _ => h

theorem now_then {post : Except ε β → σ → X → Prop} {f : Instant → Attempt ι σ ε β}
    (h : ∀ now, Secures E inv post (f now).run s x) :
    Secures E inv post (Attempt.now >>= f).run s x := fun now _ => h now

theorem cancelled_then {post : Except ε β → σ → X → Prop} {f : Bool → Attempt ι σ ε β}
    (h : ∀ cancelled, Secures E inv post (f cancelled).run s x) :
    Secures E inv post (Attempt.cancelled >>= f).run s x := fun _ cancelled => h cancelled

theorem lift_then {post : Except ε β → σ → X → Prop} {result : Except ε α}
    {f : α → Attempt ι σ ε β} (ok : ∀ a, result = .ok a → Secures E inv post (f a).run s x)
    (error : ∀ e, result = .error e → post (.error e) s x) :
    Secures E inv post (liftM result >>= f).run s x := by
  cases result with
  | ok a => exact ok a rfl
  | error e => exact error e rfl

theorem run_then {post : Except ε β → σ → X → Prop} {p : Process ι σ α} {f : α → Attempt ι σ ε β}
    (h : Secures E inv (fun a t y => Secures E inv post (f a).run t y) p s x) :
    Secures E inv post ((ExceptT.lift p : Attempt ι σ ε α) >>= f).run s x :=
  bind_iff.mpr (attempt_run h)

theorem ask_then {r : ι.Request} {fault : ClientError → ε} {post : Except ε β → σ → X → Prop}
    {f : ι.Reply r → Attempt ι σ ε β}
    (h : ∀ y, E.issues x r y → inv s y ∧
      (∀ reply z, E.returns y r (.ok reply) z → Secures E inv post (f reply).run s z) ∧
      ∀ e z, E.returns y r (.error e) z → post (.error (fault e)) s z) :
    Secures E inv post (Attempt.ask r fault >>= f).run s x := by
  intro y hy
  obtain ⟨hwait, hok, herror⟩ := h y hy
  refine ⟨hwait, fun answer z hz => ?_⟩
  cases answer with
  | ok reply => exact hok reply z hz
  | error e => exact herror e z hz

end Secures

/-! ## Two settings at once -/

/-- The surroundings of two settings, side by side. -/
def Setting.along {Y : Type} (E : Setting ι X) (F : Setting ι Y) : Setting ι (X × Y) where
  issues x r y := E.issues x.1 r y.1 ∧ F.issues x.2 r y.2
  returns x r answer y := E.returns x.1 r answer y.1 ∧ F.returns x.2 r answer y.2
  sleeps x d y := E.sleeps x.1 d y.1 ∧ F.sleeps x.2 d y.2

theorem Secures.along {Y : Type} {E : Setting ι X} {F : Setting ι Y} {inv : σ → X → Prop}
    {inv' : σ → Y → Prop} {post : α → σ → X → Prop} {post' : α → σ → Y → Prop}
    {p : Process ι σ α} {s : σ} {x : X} {y : Y} (h : Secures E inv post p s x)
    (h' : Secures F inv' post' p s y) :
    Secures (E.along F) (fun t z => inv t z.1 ∧ inv' t z.2)
      (fun a t z => post a t z.1 ∧ post' a t z.2) p s (x, y) := by
  induction p generalizing s x y with
  | done a => exact ⟨h, h'⟩
  | call r next ih =>
      intro z hz
      obtain ⟨hwait, hnext⟩ := h z.1 hz.1
      obtain ⟨hwait', hnext'⟩ := h' z.2 hz.2
      exact ⟨⟨hwait, hwait'⟩, fun answer v hv =>
        ih answer (hnext answer v.1 hv.1) (hnext' answer v.2 hv.2)⟩
  | pause d next ih =>
      refine ⟨ih _ h.1 h'.1, fun z hz => ?_⟩
      obtain ⟨hwait, hnext⟩ := h.2 z.1 hz.1
      obtain ⟨hwait', hnext'⟩ := h'.2 z.2 hz.2
      exact ⟨⟨hwait, hwait'⟩, fun rest => ih rest (hnext rest) (hnext' rest)⟩
  | look next ih => exact fun now cancelled => ih _ (h now cancelled) (h' now cancelled)
  | put t next ih => exact ih h h'
  | panic message => exact ⟨h, h'⟩
  | stall => exact ⟨h, h'⟩

/-- Of any process, nothing is secured for nothing. -/
theorem Secures.anything {E : Setting ι X} (p : Process ι σ α) (s : σ) (x : X) :
    Secures E (fun _ _ => True) (fun _ _ _ => True) p s x := by
  induction p generalizing s x with
  | done a => trivial
  | call r next ih => exact fun y _ => ⟨trivial, fun answer z _ => ih answer s z⟩
  | pause d next ih => exact ⟨ih _ s x, fun y _ => ⟨trivial, fun rest => ih rest s y⟩⟩
  | look next ih => exact fun now cancelled => ih _ s x
  | put t next ih => exact ih t x
  | panic message => trivial
  | stall => trivial

/-! ## Visited states -/

/-- From a state and its surroundings, a process may be found in others: waiting for a call or in a
pause, stuck, or with its answer, in which case the answer is given. -/
inductive Visits (E : Setting ι X) : Process ι σ α → σ → X → Option α → σ → X → Prop
  | done (a : α) (s : σ) (x : X) : Visits E (.done a) s x (some a) s x
  | panic (message : String) (s : σ) (x : X) : Visits E (.panic message) s x none s x
  | stall (s : σ) (x : X) : Visits E .stall s x none s x
  | waiting {r next s x y} (issued : E.issues x r y) : Visits E (.call r next) s x none s y
  | answered {r next s x y a z found t v} (issued : E.issues x r y)
      (returned : E.returns y r a z) (rest : Visits E (next a) s z found t v) :
      Visits E (.call r next) s x found t v
  | sleeping {d next s x y} (slept : E.sleeps x d y) : Visits E (.pause d next) s x none s y
  | slept {d next s x y rest found t v} (slept : E.sleeps x d y)
      (later : Visits E (next rest) s y found t v) : Visits E (.pause d next) s x found t v
  | cancelled {d next s x found t v} (later : Visits E (next .cancelled) s x found t v) :
      Visits E (.pause d next) s x found t v
  | looked (now : Instant) (cancelled : Bool) {next s x found t v}
      (later : Visits E (next ⟨now, cancelled, s⟩) s x found t v) :
      Visits E (.look next) s x found t v
  | wrote {u next s x found t v} (later : Visits E next u x found t v) :
      Visits E (.put u next) s x found t v

/-- A process secures of every state that it visits it. -/
theorem secures_visits {E : Setting ι X} (p : Process ι σ α) (s : σ) (x : X) :
    Secures E (fun t y => Visits E p s x none t y) (fun a t y => Visits E p s x (some a) t y) p s
      x := by
  induction p generalizing s x with
  | done a => exact .done a s x
  | call r next ih =>
      refine fun y issued => ⟨.waiting issued, fun answer z returned => ?_⟩
      exact (ih answer s z).mono (fun _ _ hv => .answered issued returned hv)
        (fun _ _ _ hv => .answered issued returned hv)
  | pause d next ih =>
      refine ⟨(ih .cancelled s x).mono (fun _ _ hv => .cancelled hv)
        (fun _ _ _ hv => .cancelled hv), fun y slept => ⟨.sleeping slept, fun rest => ?_⟩⟩
      exact (ih rest s y).mono (fun _ _ hv => .slept slept hv) (fun _ _ _ hv => .slept slept hv)
  | look next ih =>
      refine fun now cancelled => (ih ⟨now, cancelled, s⟩ s x).mono ?_ ?_
      · exact fun _ _ hv => .looked now cancelled hv
      · exact fun _ _ _ hv => .looked now cancelled hv
  | put t next ih =>
      exact (ih t x).mono (fun _ _ hv => .wrote hv) (fun _ _ _ hv => .wrote hv)
  | panic message => exact .panic message s x
  | stall => exact .stall s x

/-- What is secured of a state: the postcondition where there is an answer, otherwise the
invariant. -/
def Secured (inv : σ → X → Prop) (post : α → σ → X → Prop) : Option α → σ → X → Prop
  | some a => post a
  | none => inv

theorem Secured.elim {inv : σ → X → Prop} {found : Option α} {s : σ} {x : X}
    (h : Secured inv (fun _ => inv) found s x) : inv s x := by
  cases found with
  | none => exact h
  | some a => exact h

/-- What a process secures holds of every state that it visits. -/
theorem Secures.visits {E : Setting ι X} {inv : σ → X → Prop} {post : α → σ → X → Prop}
    {p : Process ι σ α} {s t : σ} {x y : X} {found : Option α} (h : Secures E inv post p s x)
    (visit : Visits E p s x found t y) : Secured inv post found t y := by
  induction visit with
  | done | panic | stall => exact h
  | waiting issued => exact (h _ issued).1
  | answered issued returned _ ih => exact ih ((h _ issued).2 _ _ returned)
  | sleeping slept => exact (h.2 _ slept).1
  | slept slept _ ih => exact ih ((h.2 _ slept).2 _)
  | cancelled _ ih => exact ih h.1
  | looked now cancelled _ ih => exact ih (h now cancelled)
  | wrote _ ih => exact ih h

end GatedRollout
