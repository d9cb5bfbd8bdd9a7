import GatedRollout.Process.Run
import GatedRollout.Proofs.Process.Setting

/-!
# The traces of processes

What a process has done can be read off the history of its world: the deeds of its actor, in their
order. In the setting `recorded` the surroundings of a process are its own deeds, so what a process
secures there holds of its part of the history after every run, however the run ended.
-/

namespace GatedRollout

variable {ι : Interface} {S X σ α : Type}

/-! ## Deeds -/

/-- Whether an event was done by a process, which the firing of the token is not. -/
def Event.isDeed : Event ι → Bool
  | .fired => false
  | _ => true

/-- What an actor did, in a list of entries with the earliest first. -/
def deedsOf (actor : Option Nat) (entries : List (Entry ι)) : List (Event ι) :=
  (entries.filter fun e => e.actor == actor && e.event.isDeed).map (·.event)

@[simp] theorem deedsOf_append (actor : Option Nat) (first rest : List (Entry ι)) :
    deedsOf actor (first ++ rest) = deedsOf actor first ++ deedsOf actor rest := by
  simp [deedsOf]

namespace World

/-- All that an actor has done so far, the earliest first. -/
def deeds (w : World ι S) (actor : Option Nat) : List (Event ι) := deedsOf actor w.history.reverse

/-- What has happened since an earlier world, the earliest first. -/
def since (w earlier : World ι S) : List (Entry ι) :=
  (w.history.take (w.history.length - earlier.history.length)).reverse

/-- A later world has all of the history of the earlier one. -/
def Follows (w earlier : World ι S) : Prop := earlier.history <:+ w.history

theorem Follows.refl (w : World ι S) : w.Follows w := List.suffix_rfl

theorem Follows.trans {w₁ w₂ w₃ : World ι S} (h₁ : w₂.Follows w₁) (h₂ : w₃.Follows w₂) :
    w₃.Follows w₁ := List.IsSuffix.trans h₁ h₂

@[simp] theorem since_self (w : World ι S) : w.since w = [] := by simp [since]

theorem Follows.history_eq {w earlier : World ι S} (h : w.Follows earlier) :
    w.history = (w.since earlier).reverse ++ earlier.history := by
  obtain ⟨new, hnew⟩ := h
  simp [since, ← hnew]

theorem Follows.since_trans {w₁ w₂ w₃ : World ι S} (h₁ : w₂.Follows w₁) (h₂ : w₃.Follows w₂) :
    w₃.since w₁ = w₂.since w₁ ++ w₃.since w₂ := by
  have whole := (h₁.trans h₂).history_eq
  rw [h₂.history_eq, h₁.history_eq, ← List.append_assoc, List.append_cancel_right_eq] at whole
  simpa using (congrArg List.reverse whole).symm

theorem Follows.deeds_eq {w earlier : World ι S} (h : w.Follows earlier) (actor : Option Nat) :
    w.deeds actor = earlier.deeds actor ++ deedsOf actor (w.since earlier) := by
  simp [deeds, h.history_eq]

theorem Follows.deedsOf_since {w earlier : World ι S} (h : w.Follows earlier)
    {actor : Option Nat} {y : List (Event ι)} (hy : w.deeds actor = earlier.deeds actor ++ y) :
    deedsOf actor (w.since earlier) = y :=
  List.append_cancel_left ((h.deeds_eq actor).symm.trans hy)

/-- Where only the first actors have done anything, the surroundings have not. -/
theorem deeds_none_of_others {w earlier : World ι S} {size : Nat}
    (h : ∀ other, (∀ i < size, other ≠ some i) → w.deeds other = earlier.deeds other) :
    w.deeds none = earlier.deeds none := by
  apply h
  intro i _ hi
  cases hi

theorem deeds_some_of_others {w earlier : World ι S} {size i : Nat}
    (h : ∀ other, (∀ i < size, other ≠ some i) → w.deeds other = earlier.deeds other)
    (hi : size ≤ i) : w.deeds (some i) = earlier.deeds (some i) := by
  apply h
  intro j hj hij
  have hij := Option.some.inj hij
  omega

/-! ## Deeds after each change of a world -/

theorem deeds_note (w : World ι S) (actor other : Option Nat) (event : Event ι) :
    (w.note actor event).deeds other =
      if actor = other ∧ event.isDeed = true then w.deeds other ++ [event] else w.deeds other := by
  simp only [deeds, note, List.reverse_cons, deedsOf_append]
  split <;> simp_all [deedsOf]

@[simp] theorem deeds_fire (w : World ι S) (actor : Option Nat) :
    w.fire.deeds actor = w.deeds actor := by
  unfold fire
  split
  · rfl
  · exact (deeds_note w none actor .fired).trans (if_neg (by simp [Event.isDeed]))

@[simp] theorem deeds_fireIf (w : World ι S) (fires : Bool) (actor : Option Nat) :
    (w.fireIf fires).deeds actor = w.deeds actor := by
  cases fires <;> simp [fireIf]

@[simp] theorem clock_fireIf (w : World ι S) (fires : Bool) : (w.fireIf fires).clock = w.clock := by
  unfold fireIf fire
  split
  · split <;> rfl
  · rfl

@[simp] theorem env_fireIf (w : World ι S) (fires : Bool) : (w.fireIf fires).env = w.env := by
  unfold fireIf fire
  split
  · split <;> rfl
  · rfl

theorem deeds_issue (env : Environment ι S) (w : World ι S) (actor other : Option Nat)
    (r : ι.Request) :
    (w.issue env actor r).2.deeds other =
      if actor = other then w.deeds other ++ [Event.issued r] else w.deeds other := by
  refine (deeds_fireIf _ _ other).trans ((deeds_note w actor other (.issued r)).trans ?_)
  simp [Event.isDeed]

theorem deeds_sleep (env : Environment ι S) (w : World ι S) (actor other : Option Nat)
    (d : Duration) :
    (w.sleep env actor d).2.deeds other =
      if actor = other then w.deeds other ++ [Event.slept d] else w.deeds other := by
  refine (deeds_fireIf _ _ other).trans ((deeds_note w actor other (.slept d)).trans ?_)
  simp [Event.isDeed]

theorem follows_note (w : World ι S) (actor : Option Nat) (event : Event ι) :
    (w.note actor event).Follows w := List.suffix_cons _ _

theorem follows_fireIf (w : World ι S) (fires : Bool) : (w.fireIf fires).Follows w := by
  unfold fireIf fire
  split
  · split
    · exact Follows.refl w
    · exact List.suffix_cons _ _
  · exact Follows.refl w

theorem follows_issue (env : Environment ι S) (w : World ι S) (actor : Option Nat)
    (r : ι.Request) : (w.issue env actor r).2.Follows w := by
  refine List.IsSuffix.trans ?_ (follows_fireIf _ _)
  exact List.suffix_cons _ _

theorem follows_sleep (env : Environment ι S) (w : World ι S) (actor : Option Nat)
    (d : Duration) : (w.sleep env actor d).2.Follows w := by
  refine List.IsSuffix.trans ?_ (follows_fireIf _ _)
  exact List.suffix_cons _ _

end World

/-! ## Runs in a setting -/

deriving instance DecidableEq for Ending

/-- What a run returned, if it did. -/
def Ending.answer? : Ending α → Option α
  | .returned a => some a
  | _ => none

/-- In this environment, the world changes with the deeds of an actor as the setting allows. -/
structure Tracks (E : Setting ι X) (env : Environment ι S) (actor : Option Nat)
    (rel : World ι S → X → Prop) : Prop where
  answered : ∀ {w x r answer}, rel w x → (w.issue env actor r).1.effect = .answer answer →
    ∃ y z, E.issues x r y ∧ E.returns y r answer z ∧
      rel ((w.issue env actor r).2.note actor (.returned r answer)) z
  unanswered : ∀ {w x r}, rel w x → ∃ y, E.issues x r y ∧
    ((∀ answer, (w.issue env actor r).1.effect ≠ .answer answer) → rel (w.issue env actor r).2 y)
  slept : ∀ {w x d}, rel w x → ∃ y, E.sleeps x d y ∧ rel (w.sleep env actor d).2 y

/-- Every run ends in a state that the process visits. -/
theorem Tracks.run_visits {E : Setting ι X} {env : Environment ι S} {actor : Option Nat}
    {rel : World ι S → X → Prop} (tracks : Tracks E env actor rel) (token : Token)
    (p : Process ι σ α) {s : σ} {w : World ι S} {x : X} (h : rel w x) :
    let out := run env token actor p s w
    ∃ y, rel out.world y ∧ Visits E p s x out.ending.answer? out.state y := by
  induction p generalizing s w x with
  | done a => exact ⟨x, h, .done a s x⟩
  | call r next ih =>
      rw [run_call]
      dsimp only
      obtain ⟨y, hissue, hrel⟩ := tracks.unanswered (r := r) h
      split
      · next answer heffect =>
          obtain ⟨y, z, hissue, hreturn, hrel⟩ := tracks.answered h heffect
          obtain ⟨v, hv, hvisit⟩ := ih answer hrel
          exact ⟨v, hv, .answered hissue hreturn hvisit⟩
      · next message heffect => exact ⟨y, hrel (by simp [heffect]), .waiting hissue⟩
      · next heffect => exact ⟨y, hrel (by simp [heffect]), .waiting hissue⟩
  | pause d next ih =>
      rw [run_pause]
      split
      · obtain ⟨y, hy, hvisit⟩ := ih .cancelled h
        exact ⟨y, hy, .cancelled hvisit⟩
      · obtain ⟨y, hslept, hrel⟩ := tracks.slept (d := d) h
        obtain ⟨v, hv, hvisit⟩ := ih _ hrel
        exact ⟨v, hv, .slept hslept hvisit⟩
  | look next ih =>
      obtain ⟨y, hy, hvisit⟩ := ih ⟨w.clock, w.cancelled token, s⟩ h
      exact ⟨y, hy, .looked _ _ hvisit⟩
  | put t next ih =>
      obtain ⟨y, hy, hvisit⟩ := ih h
      exact ⟨y, hy, .wrote hvisit⟩
  | panic message => exact ⟨x, h, .panic message s x⟩
  | stall => exact ⟨x, h, .stall s x⟩

theorem Tracks.along {Y : Type} {E : Setting ι X} {F : Setting ι Y} {env : Environment ι S}
    {actor : Option Nat} {rel : World ι S → X → Prop} {rel' : World ι S → Y → Prop}
    (tracks : Tracks E env actor rel) (tracks' : Tracks F env actor rel') :
    Tracks (E.along F) env actor fun w x => rel w x.1 ∧ rel' w x.2 where
  answered h heffect := by
    obtain ⟨y, z, hissue, hreturn, hrel⟩ := tracks.answered h.1 heffect
    obtain ⟨y', z', hissue', hreturn', hrel'⟩ := tracks'.answered h.2 heffect
    exact ⟨(y, y'), (z, z'), ⟨hissue, hissue'⟩, ⟨hreturn, hreturn'⟩, hrel, hrel'⟩
  unanswered {w x r} h := by
    obtain ⟨y, hissue, hrel⟩ := tracks.unanswered (r := r) h.1
    obtain ⟨y', hissue', hrel'⟩ := tracks'.unanswered (r := r) h.2
    exact ⟨(y, y'), ⟨hissue, hissue'⟩, fun hnone => ⟨hrel hnone, hrel' hnone⟩⟩
  slept {w x d} h := by
    obtain ⟨y, hslept, hrel⟩ := tracks.slept (d := d) h.1
    obtain ⟨y', hslept', hrel'⟩ := tracks'.slept (d := d) h.2
    exact ⟨(y, y'), ⟨hslept, hslept'⟩, hrel, hrel'⟩

/-- What every deed of an actor keeps, a run of it keeps. -/
theorem run_keeps {J : World ι S → Prop} {env : Environment ι S} {actor : Option Nat}
    (issue : ∀ w r, J w → J (w.issue env actor r).2)
    (note : ∀ w r answer, J w → J (w.note actor (.returned r answer)))
    (sleep : ∀ w d, J w → J (w.sleep env actor d).2) (token : Token) (p : Process ι σ α) (s : σ)
    {w : World ι S} (h : J w) : J (run env token actor p s w).world := by
  let anything : Setting ι Unit := ⟨fun _ _ _ => True, fun _ _ _ _ => True, fun _ _ _ => True⟩
  have tracks : Tracks anything env actor fun w _ => J w :=
    ⟨fun h _ => ⟨(), (), trivial, trivial, note _ _ _ (issue _ _ h)⟩,
      fun h => ⟨(), trivial, fun _ => issue _ _ h⟩, fun h => ⟨(), trivial, sleep _ _ h⟩⟩
  obtain ⟨_, hkept, _⟩ := tracks.run_visits token p (s := s) (x := ()) h
  exact hkept

theorem run_follows (env : Environment ι S) (token : Token) (actor : Option Nat)
    (p : Process ι σ α) (s : σ) (w : World ι S) :
    (run env token actor p s w).world.Follows w :=
  run_keeps (J := fun later => later.Follows w) (fun _ _ h => h.trans (World.follows_issue ..))
    (fun _ _ _ h => h.trans (World.follows_note ..))
    (fun _ _ h => h.trans (World.follows_sleep ..)) token p s (World.Follows.refl w)

/-- A run leaves the deeds of the other actors alone. -/
theorem run_others (env : Environment ι S) (token : Token) {actor other : Option Nat}
    (hne : actor ≠ other) (p : Process ι σ α) (s : σ) (w : World ι S) :
    (run env token actor p s w).world.deeds other = w.deeds other :=
  run_keeps (J := fun later => later.deeds other = w.deeds other)
    (fun _ _ h => by rw [World.deeds_issue, if_neg hne, h])
    (fun _ _ _ h => by rw [World.deeds_note, if_neg (fun hc => hne hc.1), h])
    (fun _ _ h => by rw [World.deeds_sleep, if_neg hne, h]) token p s rfl

/-! ## Recorded runs -/

/-- The setting in which a process sees its own deeds. -/
def recorded : Setting ι (List (Event ι)) where
  issues x r y := y = x ++ [Event.issued r]
  returns x r answer y := y = x ++ [Event.returned r answer]
  sleeps x d y := y = x ++ [Event.slept d]

theorem tracks_recorded (env : Environment ι S) (actor : Option Nat) (past : List (Event ι)) :
    Tracks recorded env actor fun w x => w.deeds actor = past ++ x where
  answered h _ :=
    ⟨_, _, rfl, rfl, by simp [World.deeds_note, World.deeds_issue, Event.isDeed, h]⟩
  unanswered h := ⟨_, rfl, fun _ => by simp [World.deeds_issue, h]⟩
  slept h := ⟨_, rfl, by simp [World.deeds_sleep, h]⟩

section Asking

variable {ε β : Type} {inv : σ → List (Event ι) → Prop} {s : σ} {x : List (Event ι)}
  {r : ι.Request}

theorem Secures.recorded_ask_bind {f : Except ClientError (ι.Reply r) → Process ι σ β}
    {post : β → σ → List (Event ι) → Prop} (issued : inv s (x ++ [Event.issued r]))
    (next : ∀ answer, Secures recorded inv post (f answer) s
      (x ++ [Event.issued r] ++ [Event.returned r answer])) :
    Secures recorded inv post (Process.ask r >>= f) s x := by
  intro y hy
  subst hy
  refine ⟨issued, fun answer z hz => ?_⟩
  subst hz
  exact next answer

theorem Secures.recorded_ask_then {fault : ClientError → ε} {f : ι.Reply r → Attempt ι σ ε β}
    {post : Except ε β → σ → List (Event ι) → Prop} (issued : inv s (x ++ [Event.issued r]))
    (accepted : ∀ reply, Secures recorded inv post (f reply).run s
      (x ++ [Event.issued r] ++ [Event.returned r (.ok reply)]))
    (refused : ∀ e, post (.error (fault e)) s
      (x ++ [Event.issued r] ++ [Event.returned r (.error e)])) :
    Secures recorded inv post (Attempt.ask r fault >>= f).run s x := by
  intro y hy
  subst hy
  refine ⟨issued, fun answer z hz => ?_⟩
  subst hz
  cases answer with
  | ok reply => exact accepted reply
  | error e => exact refused e

end Asking

/-- A process never takes back what it has done. -/
theorem Secures.extends {inv : σ → List (Event ι) → Prop} {post : α → σ → List (Event ι) → Prop}
    {p : Process ι σ α} {s : σ} {x₀ x : List (Event ι)} (h : Secures recorded inv post p s x)
    (hx : x₀ <+: x) :
    Secures recorded (fun t y => inv t y ∧ x₀ <+: y) (fun a t y => post a t y ∧ x₀ <+: y) p s
      x := by
  induction p generalizing s x with
  | done a => exact ⟨h, hx⟩
  | call r next ih =>
      rintro _ rfl
      obtain ⟨hwait, hnext⟩ := h _ rfl
      have hissued := hx.trans (List.prefix_append x [Event.issued r])
      refine ⟨⟨hwait, hissued⟩, ?_⟩
      rintro answer _ rfl
      exact ih answer (hnext answer _ rfl) (hissued.trans (List.prefix_append _ _))
  | pause d next ih =>
      refine ⟨ih _ h.1 hx, ?_⟩
      rintro _ rfl
      obtain ⟨hwait, hnext⟩ := h.2 _ rfl
      have hslept := hx.trans (List.prefix_append x [Event.slept d])
      exact ⟨⟨hwait, hslept⟩, fun rest => ih rest (hnext rest) hslept⟩
  | look next ih => exact fun now cancelled => ih _ (h now cancelled) hx
  | put t next ih => exact ih h hx
  | panic message => exact ⟨h, hx⟩
  | stall => exact ⟨h, hx⟩

/-- The history of a run that begins with a call begins with its request. -/
theorem since_call (env : Environment ι S) (token : Token) (actor : Option Nat) (r : ι.Request)
    (next : Except ClientError (ι.Reply r) → Process ι σ α) (s : σ) (w : World ι S) :
    ∃ rest, (run env token actor (.call r next) s w).world.since w =
      ⟨w.clock, actor, .issued r⟩ :: rest := by
  have hnoted := World.follows_note w actor (.issued r)
  have hissued : (w.issue env actor r).2.Follows (w.note actor (.issued r)) := by
    refine World.Follows.trans ?_ (World.follows_fireIf _ _)
    exact List.suffix_rfl
  have hrun : (run env token actor (.call r next) s w).world.Follows (w.issue env actor r).2 := by
    rw [run_call]
    dsimp only
    split
    · exact (World.follows_note ..).trans (run_follows ..)
    · exact World.Follows.refl _
    · exact World.Follows.refl _
  have hfirst : (w.note actor (.issued r)).since w = [⟨w.clock, actor, .issued r⟩] := by
    simp [World.since, World.note]
  rw [hnoted.since_trans (hissued.trans hrun), hfirst]
  exact ⟨_, rfl⟩

/-- What a process secures of its deeds holds after every run of it. -/
theorem Secures.run {inv : σ → List (Event ι) → Prop} {post : α → σ → List (Event ι) → Prop}
    {p : Process ι σ α} {s : σ} {x : List (Event ι)} (h : Secures recorded inv post p s x)
    (env : Environment ι S) (token : Token) (actor : Option Nat) {w : World ι S}
    {past : List (Event ι)} (hw : w.deeds actor = past ++ x) :
    let out := GatedRollout.run env token actor p s w
    ∃ y, out.world.deeds actor = past ++ y ∧ Secured inv post out.ending.answer? out.state y := by
  obtain ⟨y, hy, hvisit⟩ := (tracks_recorded env actor past).run_visits token p (s := s) hw
  exact ⟨y, hy, h.visits hvisit⟩

end GatedRollout
