import GatedRollout.Process.Watch

/-!
# Disciplines

Most of what is said of a process is said of each of its steps, with an account of what came before
it: how much time is left, which state was written last, whether the token has fired. A `Discipline`
is what such an account allows at a step, given what is to hold of all that may follow, and a
process `Obeys` it if every step of the process does. How processes that obey a discipline are put
together does not depend on the discipline.

`Conduct` is the case without an account, in which each step is looked at by itself.
-/

namespace GatedRollout

variable {ι : Interface} {σ X ε ε' α β γ : Type}

/-- What is required at each step of a process, where `K` holds of what may follow it. -/
structure Discipline (ι : Interface) (σ X : Type) where
  call : (r : ι.Request) → X → (Except ClientError (ι.Reply r) → X → Prop) → Prop
  pause : Duration → X → (Rest → X → Prop) → Prop
  look : X → (Glimpse σ → Prop) → Prop
  put : σ → X → (X → Prop) → Prop
  panic : String → X → Prop
  stall : X → Prop
  call_mono : ∀ {r x K K'}, (∀ answer y, K answer y → K' answer y) → call r x K → call r x K'
  pause_mono : ∀ {d x K K'}, (∀ rest y, K rest y → K' rest y) → pause d x K → pause d x K'
  look_mono : ∀ {x K K'}, (∀ glimpse, K glimpse → K' glimpse) → look x K → look x K'
  put_mono : ∀ {t x K K'}, (∀ y, K y → K' y) → put t x K → put t x K'

/-- From this account on, every step of the process is as the discipline requires, and what it
returns satisfies the postcondition. -/
def Process.Obeys (D : Discipline ι σ X) (post : α → X → Prop) : Process ι σ α → X → Prop
  | .done a, x => post a x
  | .call r next, x => D.call r x fun answer => (next answer).Obeys D post
  | .pause d next, x => D.pause d x fun rest => (next rest).Obeys D post
  | .look next, x => D.look x fun glimpse => (next glimpse).Obeys D post x
  | .put t next, x => D.put t x (next.Obeys D post)
  | .panic message, x => D.panic message x
  | .stall, x => D.stall x

/-! ## Composition -/

/-- What one discipline requires at a step, the other does. -/
structure Discipline.Below (D' D : Discipline ι σ X) : Prop where
  call : ∀ {r x K}, D.call r x K → D'.call r x K
  pause : ∀ {d x K}, D.pause d x K → D'.pause d x K
  look : ∀ {x K}, D.look x K → D'.look x K
  put : ∀ {t x K}, D.put t x K → D'.put t x K
  panic : ∀ {message x}, D.panic message x → D'.panic message x
  stall : ∀ {x}, D.stall x → D'.stall x

/-- The discipline requires nothing of a step but what is to hold of all that may follow. -/
structure Discipline.Lax (D : Discipline ι σ X) : Prop where
  call : ∀ {r x K}, (∀ answer y, K answer y) → D.call r x K
  pause : ∀ {d x K}, (∀ rest y, K rest y) → D.pause d x K
  look : ∀ {x K}, (∀ glimpse, K glimpse) → D.look x K
  put : ∀ {t x K}, (∀ y, K y) → D.put t x K
  panic : ∀ message x, D.panic message x
  stall : ∀ x, D.stall x

namespace Process.Obeys

variable {D D' : Discipline ι σ X} {x : X}

theorem mono {post post' : α → X → Prop} {p : Process ι σ α} (h : p.Obeys D post x)
    (below : D'.Below D) (hpost : ∀ a y, post a y → post' a y) : p.Obeys D' post' x := by
  induction p generalizing x with
  | done a => exact hpost a x h
  | call r next ih => exact below.call (D.call_mono (fun answer y => ih answer) h)
  | pause d next ih => exact below.pause (D.pause_mono (fun rest y => ih rest) h)
  | look next ih => exact below.look (D.look_mono (fun glimpse => ih glimpse) h)
  | put t next ih => exact below.put (D.put_mono (fun y => ih) h)
  | panic message => exact below.panic h
  | stall => exact below.stall h

theorem weaken {post post' : α → X → Prop} {p : Process ι σ α} (h : p.Obeys D post x)
    (hpost : ∀ a y, post a y → post' a y) : p.Obeys D post' x :=
  h.mono ⟨id, id, id, id, id, id⟩ hpost

/-- Any process obeys a discipline that requires nothing. -/
theorem of_lax (lax : D.Lax) (p : Process ι σ α) (x : X) : p.Obeys D (fun _ _ => True) x := by
  induction p generalizing x with
  | done a => trivial
  | call r next ih => exact lax.call fun answer y => ih answer y
  | pause d next ih => exact lax.pause fun rest y => ih rest y
  | look next ih => exact lax.look fun glimpse => ih glimpse x
  | put t next ih => exact lax.put fun y => ih y
  | panic message => exact lax.panic message x
  | stall => exact lax.stall x

theorem bind_iff {post : β → X → Prop} {p : Process ι σ α} {f : α → Process ι σ β} :
    (p.bind f).Obeys D post x ↔ p.Obeys D (fun a => (f a).Obeys D post) x := by
  induction p generalizing x with
  | done a => rfl
  | call r next ih =>
      exact ⟨D.call_mono fun answer y => ih answer |>.mp,
        D.call_mono fun answer y => ih answer |>.mpr⟩
  | pause d next ih =>
      exact ⟨D.pause_mono fun rest y => ih rest |>.mp, D.pause_mono fun rest y => ih rest |>.mpr⟩
  | look next ih =>
      exact ⟨D.look_mono fun glimpse => ih glimpse |>.mp,
        D.look_mono fun glimpse => ih glimpse |>.mpr⟩
  | put t next ih => exact ⟨D.put_mono fun y => ih.mp, D.put_mono fun y => ih.mpr⟩
  | panic message => rfl
  | stall => rfl

/-- Do one thing after the other. -/
theorem bind {Q : α → X → Prop} {post : β → X → Prop} {p : Process ι σ α} {f : α → Process ι σ β}
    (h : p.Obeys D Q x) (next : ∀ a y, Q a y → (f a).Obeys D post y) :
    (p >>= f).Obeys D post x :=
  bind_iff.mpr (h.weaken next)

/-- Attempt one thing after the other: what follows is looked at only where the first succeeds. -/
theorem attempt {Q : Except ε α → X → Prop} {post : Except ε β → X → Prop} {m : Attempt ι σ ε α}
    {f : α → Attempt ι σ ε β} (h : m.run.Obeys D Q x)
    (ok : ∀ a y, Q (.ok a) y → (f a).run.Obeys D post y)
    (error : ∀ e y, Q (.error e) y → post (.error e) y) : (m >>= f).run.Obeys D post x := by
  refine bind h fun result y hresult => ?_
  cases result with
  | ok a => exact ok a y hresult
  | error e => exact error e y hresult

theorem run_attempt {post : Except ε α → X → Prop} {p : Process ι σ α}
    (h : p.Obeys D (fun a => post (.ok a)) x) :
    (ExceptT.lift p : Attempt ι σ ε α).run.Obeys D post x :=
  bind h fun _ _ ha => ha

theorem within {post : Except ε' α → X → Prop} {m : Attempt ι σ ε α} {wrap : ε → ε'}
    (h : m.run.Obeys D (fun result => post (result.mapError wrap)) x) :
    (m.within wrap).run.Obeys D post x := by
  refine bind h fun result y hresult => ?_
  cases result with
  | ok a => exact hresult
  | error e => exact hresult

end Process.Obeys

/-! ## Watches -/

/-- What a discipline requires of a loop between two rounds: the deadline is past, or there is a
pause, after which the token has fired or the loop goes on. -/
def Discipline.Between (D : Discipline ι σ X) (deadline : Deadline) (interval : Duration)
    (late cancelled again : X → Prop) (x : X) : Prop :=
  D.look x fun glimpse =>
    if deadline.expired glimpse.now then late x
    else D.pause (deadline.nextInterval glimpse.now interval) x fun
      | .cancelled, y => cancelled y
      | .elapsed, y => again y

/-- What a discipline requires of a watch after its next reply. -/
def Watch.Requires (watch : Watch ι β γ) (D : Discipline ι σ X) (deadline : Deadline)
    (post : Watched β γ → X → Prop) (again : γ → X → Prop) (seen : γ) :
    Except ClientError (ι.Reply watch.request) → X → Prop
  | .error e, x => post (.failed e) x
  | .ok reply, x =>
      match watch.judge seen reply with
      | .settled b => post (.settled b) x
      | .pending seen' =>
          D.Between deadline watch.interval (post (.overdue seen')) (post .cancelled)
            (again seen') x

namespace Process.Obeys

variable {D : Discipline ι σ X} {deadline : Deadline}

theorem between {interval : Duration} {post : α → X → Prop} {late cancelled : α}
    {again : X → Prop} {next : Process ι σ α} {x : X}
    (h : D.Between deadline interval (post late) (post cancelled) again x)
    (hnext : ∀ y, again y → next.Obeys D post y) :
    (Process.look fun glimpse =>
      if deadline.expired glimpse.now then .done late
      else .pause (deadline.nextInterval glimpse.now interval) fun
        | .cancelled => .done cancelled
        | .elapsed => next).Obeys D post x := by
  refine D.look_mono (fun glimpse hglimpse => ?_) h
  dsimp only
  split at hglimpse
  · next hexpired => rwa [if_pos hexpired]
  · next hexpired =>
      rw [if_neg hexpired]
      refine D.pause_mono (fun rest y hy => ?_) hglimpse
      cases rest with
      | elapsed => exact hnext y hy
      | cancelled => exact hy

/-- What is to hold before each request is by the number of requests that are left. -/
theorem poll {watch : Watch ι β γ} {post : Watched β γ → X → Prop} (again : Nat → γ → X → Prop)
    (stuck : ∀ seen x, again 0 seen x → D.stall x)
    (request : ∀ n seen x, again (n + 1) seen x →
      D.call watch.request x (watch.Requires D deadline post (again n) seen))
    {n : Nat} {seen : γ} {x : X} (h : again n seen x) :
    (watch.poll deadline n seen).Obeys D post x := by
  induction n generalizing seen x with
  | zero => exact stuck seen x h
  | succ n ih =>
      refine D.call_mono (fun answer y hy => ?_) (request n seen x h)
      cases answer with
      | error e => exact hy
      | ok reply =>
          revert hy
          dsimp only [Watch.Requires]
          cases watch.judge seen reply with
          | settled b => exact id
          | pending seen' => exact fun hbetween => between hbetween fun z => ih

theorem idleSlices {interval : Duration} {post : Rest → X → Prop} (again : X → Prop)
    (stuck : ∀ x, again x → D.stall x)
    (slice : ∀ x, again x →
      D.Between deadline interval (post .elapsed) (post .cancelled) again x)
    (n : Nat) {x : X} (h : again x) :
    (GatedRollout.idleSlices deadline interval n).Obeys D post x := by
  induction n generalizing x with
  | zero => exact stuck x h
  | succ n ih => exact between (slice x h) fun y => ih

end Process.Obeys

/-! ## Conduct -/

/-- What a process asks for and writes, and how it panics, as long as it hears such answers and
finds such states. What is left out is anything at all. -/
structure Conduct (ι : Interface) (σ : Type) where
  asks : ι.Request → Prop := fun _ => True
  hears : (r : ι.Request) → Except ClientError (ι.Reply r) → Prop := fun _ _ => True
  finds : σ → Prop := fun _ => True
  writes : σ → Prop := fun _ => True
  panics : String → Prop := fun _ => True

def Conduct.discipline (c : Conduct ι σ) : Discipline ι σ Unit where
  call r _ K := c.asks r ∧ ∀ answer, c.hears r answer → K answer ()
  pause _ _ K := ∀ rest, K rest ()
  look _ K := ∀ glimpse, c.finds glimpse.state → K glimpse
  put t _ K := c.writes t ∧ K ()
  panic message _ := c.panics message
  stall _ := True
  call_mono hK h := ⟨h.1, fun answer hheard => hK answer () (h.2 answer hheard)⟩
  pause_mono hK h := fun rest => hK rest () (h rest)
  look_mono hK h := by
    intro glimpse hfound
    exact hK glimpse (h glimpse hfound)
  put_mono hK h := ⟨h.1, hK () h.2⟩

/-- The conduct allows no more than the other. -/
structure Conduct.Below (c c' : Conduct ι σ) : Prop where
  asks : ∀ r, c.asks r → c'.asks r
  hears : ∀ r answer, c'.hears r answer → c.hears r answer
  finds : ∀ s, c'.finds s → c.finds s
  writes : ∀ s, c.writes s → c'.writes s
  panics : ∀ message, c.panics message → c'.panics message

/-- Whatever the clock and the token, this is how the process conducts itself. -/
def Process.Conforms (c : Conduct ι σ) (p : Process ι σ α) : Prop :=
  p.Obeys c.discipline (fun _ _ => True) ()

namespace Process.Conforms

variable {c c' : Conduct ι σ}

theorem mono {p : Process ι σ α} (h : p.Conforms c) (below : c.Below c') : p.Conforms c' := by
  refine Obeys.mono h ⟨?_, id, ?_, ?_, below.panics _, id⟩ fun _ _ => id
  · exact fun h => ⟨below.asks _ h.1, fun answer hheard => h.2 answer (below.hears _ _ hheard)⟩
  · exact fun h glimpse hfound => h glimpse (below.finds _ hfound)
  · exact fun h => ⟨below.writes _ h.1, h.2⟩

/-- Any process conforms to a conduct that allows everything. -/
theorem anything (p : Process ι σ α) : p.Conforms {} := by
  refine Obeys.of_lax ⟨?_, ?_, ?_, ?_, fun _ _ => trivial, fun _ => trivial⟩ p ()
  · exact fun h => ⟨trivial, fun answer _ => h answer ()⟩
  · exact fun h rest => h rest ()
  · exact fun h glimpse _ => h glimpse
  · exact fun h => ⟨trivial, h ()⟩

theorem pure (a : α) : (Pure.pure a : Process ι σ α).Conforms c := trivial

theorem bind {p : Process ι σ α} {f : α → Process ι σ β} (h : p.Conforms c)
    (next : ∀ a, (f a).Conforms c) : (p >>= f).Conforms c :=
  Obeys.bind h fun a _ _ => next a

theorem ask {r : ι.Request} (h : c.asks r) : (Process.ask r : Process ι σ _).Conforms c :=
  ⟨h, fun _ _ => trivial⟩

theorem state : (Process.state : Process ι σ _).Conforms c := fun _ _ => trivial

theorem modify {f : σ → σ} (h : ∀ s, c.finds s → c.writes (f s)) :
    (Process.modify f : Process ι σ _).Conforms c :=
  fun glimpse hfound => ⟨h glimpse.state hfound, trivial⟩

theorem between {deadline : Deadline} {interval : Duration} :
    c.discipline.Between deadline interval (fun _ => True) (fun _ => True) (fun _ => True) () := by
  intro glimpse _
  dsimp only
  split
  · trivial
  · intro rest
    cases rest <;> trivial

theorem watch {watch : Watch ι β γ} (h : c.asks watch.request) (patience : Nat) :
    (watch.run patience : Process ι σ _).Conforms c := by
  refine fun glimpse _ => Obeys.poll (fun _ _ _ => True) (fun _ _ _ => trivial) ?_ trivial
  refine fun n seen _ _ => ⟨h, fun answer _ => ?_⟩
  cases answer with
  | error e => trivial
  | ok reply =>
      dsimp only [Watch.Requires]
      cases watch.judge seen reply with
      | settled b => trivial
      | pending seen' => exact between

theorem idle (limit interval : Duration) (patience : Nat) :
    (GatedRollout.idle limit interval patience : Process ι σ _).Conforms c :=
  fun _ _ => Obeys.idleSlices (fun _ => True) (fun _ _ => trivial) (fun _ _ => between) _ trivial

/-! ### Attempts -/

theorem attempt {m : Attempt ι σ ε α} {f : α → Attempt ι σ ε β} (h : m.run.Conforms c)
    (next : ∀ a, (f a).run.Conforms c) : (m >>= f).run.Conforms c :=
  Obeys.attempt h (fun a _ _ => next a) fun _ _ h => h

theorem known (result : Except ε α) : (liftM result : Attempt ι σ ε α).run.Conforms c := trivial

theorem run_attempt {p : Process ι σ α} (h : p.Conforms c) :
    (ExceptT.lift p : Attempt ι σ ε α).run.Conforms c :=
  Obeys.run_attempt h

theorem attempt_ask {r : ι.Request} (h : c.asks r) (fault : ClientError → ε) :
    (Attempt.ask r fault : Attempt ι σ ε _).run.Conforms c := by
  refine ⟨h, fun answer _ => ?_⟩
  cases answer with
  | ok reply => trivial
  | error e => trivial

theorem attempt_rest (d : Duration) (fault : ε) :
    (Attempt.rest d fault : Attempt ι σ ε _).run.Conforms c := by
  intro rest
  cases rest with
  | elapsed => trivial
  | cancelled => trivial

theorem attempt_modify {f : σ → σ} (h : ∀ s, c.finds s → c.writes (f s)) :
    (Attempt.modify f : Attempt ι σ ε _).run.Conforms c :=
  fun glimpse hfound => ⟨h glimpse.state hfound, trivial⟩

theorem attempt_state : (Attempt.state : Attempt ι σ ε _).run.Conforms c := fun _ _ => trivial

theorem attempt_now : (Attempt.now : Attempt ι σ ε _).run.Conforms c := fun _ _ => trivial

theorem attempt_cancelled : (Attempt.cancelled : Attempt ι σ ε _).run.Conforms c :=
  fun _ _ => trivial

theorem within {m : Attempt ι σ ε α} (h : m.run.Conforms c) (wrap : ε → ε') :
    (m.within wrap).run.Conforms c :=
  Obeys.within h

end Process.Conforms

end GatedRollout
