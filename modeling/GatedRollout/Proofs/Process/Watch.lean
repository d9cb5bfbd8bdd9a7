import GatedRollout.Process.Watch
import GatedRollout.Proofs.Process.Trace

/-!
# What watches secure

A watch is a loop that never touches the state of its process. `Watch.Keeps` names an invariant of
its surroundings that holds before every request, and the rules carry it through any number of
requests. Of its own deeds a watch leaves only requests, replies and pauses, and where it settled
the matter, the reply that did so is the last of them.
-/

namespace GatedRollout

variable {ι : Interface} {X σ β γ : Type}

namespace Watch

/-! ## Loops -/

/-- Surroundings that hold before every request of a watch, where its process has this state. -/
structure Keeps (E : Setting ι X) (watch : Watch ι β γ) (inv : σ → X → Prop)
    (post : Watched β γ → σ → X → Prop) (s : σ) (K : X → Prop) : Prop where
  resting : ∀ {x}, K x → inv s x ∧ post .cancelled s x
  slept : ∀ {x d y}, K x → E.sleeps x d y → K y
  issued : ∀ {x y}, K x → E.issues x watch.request y → inv s y
  failed : ∀ {x y e z}, K x → E.issues x watch.request y →
    E.returns y watch.request (.error e) z → post (.failed e) s z
  settled : ∀ {x y seen reply b z}, K x → E.issues x watch.request y →
    E.returns y watch.request (.ok reply) z → watch.judge seen reply = .settled b →
      post (.settled b) s z
  pending : ∀ {x y seen reply seen' z}, K x → E.issues x watch.request y →
    E.returns y watch.request (.ok reply) z → watch.judge seen reply = .pending seen' →
      K z ∧ post (.overdue seen') s z

variable {E : Setting ι X} {watch : Watch ι β γ} {inv : σ → X → Prop}
  {post : Watched β γ → σ → X → Prop} {s : σ} {K : X → Prop}

theorem Keeps.poll (keeps : watch.Keeps E inv post s K) (deadline : Deadline) (n : Nat)
    {seen : γ} {x : X} (hx : K x) : Secures E inv post (watch.poll deadline n seen) s x := by
  refine Process.Obeys.poll (fun _ _ c => c.1 = s ∧ K c.2) ?_ ?_ ⟨rfl, hx⟩
  · rintro seen ⟨_, x⟩ ⟨rfl, hx⟩
    exact (keeps.resting hx).1
  · rintro n seen ⟨_, x⟩ ⟨rfl, hx⟩ y hy
    refine ⟨keeps.issued hx hy, fun answer z hz => ?_⟩
    cases answer with
    | error e => exact keeps.failed hx hy hz
    | ok reply =>
        dsimp only [Requires]
        cases hjudge : watch.judge seen reply with
        | settled b => exact keeps.settled hx hy hz hjudge
        | pending seen' =>
            obtain ⟨hK, hoverdue⟩ := keeps.pending hx hy hz hjudge
            intro now cancelled
            dsimp only
            split
            · exact hoverdue
            · refine ⟨(keeps.resting hK).2, fun v hv => ?_⟩
              have hslept := keeps.slept hK hv
              refine ⟨(keeps.resting hslept).1, fun rest => ?_⟩
              cases rest with
              | elapsed => exact ⟨rfl, hslept⟩
              | cancelled => exact (keeps.resting hslept).2

theorem Keeps.run (keeps : watch.Keeps E inv post s K) (patience : Nat) {x : X} (hx : K x) :
    Secures E inv post (watch.run patience) s x :=
  fun _ _ => keeps.poll _ _ hx

/-! ## The deeds of a watch -/

end Watch

/-- Whether a deed is a request of this kind, a reply to one, or a pause. -/
def Event.IsAbout (r : ι.Request) : Event ι → Prop
  | .issued r' => r' = r
  | .returned r' _ => r' = r
  | .slept _ => True
  | .fired => False

namespace Watch

/-- The deeds of a watch that no reply has settled so far. -/
def Pends (watch : Watch ι β γ) (es : List (Event ι)) : Prop :=
  ∀ e ∈ es, e.IsAbout watch.request ∧
    ∀ reply, e = .returned watch.request (.ok reply) →
      ∃ seen seen', watch.judge seen reply = .pending seen'

/-- What the deeds of a watch show of how it ended. A reply that settled the matter is the latest
of them. -/
def Observes (watch : Watch ι β γ) (es : List (Event ι)) : Watched β γ → Prop
  | .settled b => ∃ before seen reply, es = before ++ [Event.returned watch.request (.ok reply)] ∧
      watch.Pends before ∧ watch.judge seen reply = .settled b
  | _ => watch.Pends es

theorem Pends.about {watch : Watch ι β γ} {es : List (Event ι)} (h : watch.Pends es) :
    ∀ e ∈ es, e.IsAbout watch.request := fun e he => (h e he).1

theorem Observes.about {watch : Watch ι β γ} {es : List (Event ι)} {result : Watched β γ}
    (h : watch.Observes es result) : ∀ e ∈ es, e.IsAbout watch.request := by
  cases result with
  | settled b =>
      obtain ⟨before, seen, reply, rfl, hbefore, -⟩ := h
      intro e he
      rcases List.mem_append.mp he with he | he
      · exact hbefore.about e he
      · rw [List.mem_singleton.mp he]
        rfl
  | overdue seen => exact Pends.about h
  | cancelled => exact Pends.about h
  | failed e => exact Pends.about h

theorem pends_nil (watch : Watch ι β γ) : watch.Pends [] := List.forall_mem_nil _

theorem Pends.append {watch : Watch ι β γ} {es : List (Event ι)} {e : Event ι}
    (h : watch.Pends es) (habout : e.IsAbout watch.request)
    (hreply : ∀ reply, e = .returned watch.request (.ok reply) →
      ∃ seen seen', watch.judge seen reply = .pending seen') : watch.Pends (es ++ [e]) := by
  intro d hd
  rcases List.mem_append.mp hd with hd | hd
  · exact h d hd
  · rw [List.mem_singleton.mp hd]
    exact ⟨habout, hreply⟩

section Pending

variable {watch : Watch ι β γ} {es : List (Event ι)} (h : watch.Pends es)

include h

theorem Pends.slept (d : Duration) : watch.Pends (es ++ [Event.slept d]) := h.append trivial nofun

theorem Pends.issued : watch.Pends (es ++ [Event.issued watch.request]) :=
  Pends.append (e := .issued watch.request) h rfl nofun

theorem Pends.failed (e : ClientError) :
    watch.Pends (es ++ [Event.returned watch.request (.error e)]) :=
  Pends.append (e := .returned watch.request (.error e)) h rfl nofun

theorem Pends.replied {reply : ι.Reply watch.request} {seen seen' : γ}
    (hjudge : watch.judge seen reply = .pending seen') :
    watch.Pends (es ++ [Event.returned watch.request (.ok reply)]) := by
  apply Pends.append (e := .returned watch.request (.ok reply)) h rfl
  intro reply' hreply
  cases hreply
  exact ⟨seen, seen', hjudge⟩

end Pending

/-- A watch secures what holds after any deeds of its kind, and returns what these show. -/
theorem secures_run {watch : Watch ι β γ} {inv : σ → List (Event ι) → Prop}
    {post : Watched β γ → σ → List (Event ι) → Prop} {s : σ} {x : List (Event ι)}
    (hinv : ∀ es, watch.Pends es → inv s (x ++ es))
    (hpost : ∀ es result, watch.Observes es result → post result s (x ++ es)) (patience : Nat) :
    Secures recorded inv post (watch.run patience) s x := by
  have keeps : watch.Keeps recorded inv post s fun y => ∃ es, y = x ++ es ∧ watch.Pends es := by
    refine ⟨?_, ?_, ?_, ?_, ?_, ?_⟩
    · intro y hy
      obtain ⟨es, rfl, hes⟩ := hy
      exact ⟨hinv es hes, hpost es .cancelled hes⟩
    · intro y d z hy hz
      obtain ⟨es, rfl, hes⟩ := hy
      subst hz
      exact ⟨_, List.append_assoc .., hes.slept d⟩
    · intro y z hy hz
      obtain ⟨es, rfl, hes⟩ := hy
      subst hz
      rw [List.append_assoc]
      exact hinv _ hes.issued
    · intro y z e v hy hz hv
      obtain ⟨es, rfl, hes⟩ := hy
      subst hz hv
      rw [List.append_assoc, List.append_assoc, ← List.append_assoc es]
      exact hpost _ (.failed e) (hes.issued.failed e)
    · intro y z seen reply b v hy hz hv hjudge
      obtain ⟨es, rfl, hes⟩ := hy
      subst hz hv
      rw [List.append_assoc, List.append_assoc, ← List.append_assoc es]
      exact hpost _ (.settled b) ⟨_, seen, reply, rfl, hes.issued, hjudge⟩
    · intro y z seen reply seen' v hy hz hv hjudge
      obtain ⟨es, rfl, hes⟩ := hy
      subst hz hv
      rw [List.append_assoc, List.append_assoc, ← List.append_assoc es]
      have hpends := hes.issued.replied hjudge
      exact ⟨⟨_, rfl, hpends⟩, hpost _ (.overdue seen') hpends⟩
  exact keeps.run patience ⟨[], (List.append_nil x).symm, watch.pends_nil⟩

end Watch

/-! ## Idle waits -/

/-- Doing nothing secures what holds after any pauses. -/
theorem secures_idle {inv : σ → List (Event ι) → Prop} {post : Rest → σ → List (Event ι) → Prop}
    {s : σ} {x : List (Event ι)} (hinv : ∀ ds, inv s (x ++ List.map .slept ds))
    (hpost : ∀ ds rest, post rest s (x ++ List.map .slept ds)) (limit interval : Duration)
    (patience : Nat) : Secures recorded inv post (idle limit interval patience) s x := by
  intro now cancelled
  refine Process.Obeys.idleSlices (fun c => ∃ ds, c = (s, x ++ List.map .slept ds)) ?_ ?_ _
    ⟨[], by rw [List.map_nil, List.append_nil]⟩
  · rintro _ ⟨ds, rfl⟩
    exact hinv ds
  · rintro _ ⟨ds, rfl⟩ now cancelled
    dsimp only
    split
    · exact hpost ds .elapsed
    · refine ⟨hpost ds .cancelled, ?_⟩
      rintro _ rfl
      generalize Deadline.nextInterval _ now interval = d
      have hmore : x ++ List.map .slept ds ++ [Event.slept d] =
          x ++ List.map .slept (ds ++ [d]) := by simp
      dsimp only
      rw [hmore]
      refine ⟨hinv _, fun rest => ?_⟩
      cases rest with
      | elapsed => exact ⟨_, rfl⟩
      | cancelled => exact hpost _ .cancelled

end GatedRollout
