import GatedRollout.Proofs.Process.Requests
import GatedRollout.Proofs.Process.Rules

/-!
# How a wait ends

In any environment and under any token, a wait goes from reply to reply until one decides the
matter, a request fails, a reply comes at the end of the limit, or the pause after it is cut short.
`Rules.Ends` tells this by the rules of the wait alone, and a wait that keeps the rules returns
exactly what it ends with.
-/

namespace GatedRollout

variable {ι : Interface} {S σ ε ε' α β γ : Type} {env : Environment ι S} {token : Token}
  {actor : Option Nat} {r : ι.Request} {s t : σ} {w w' : World ι S}

/-! ## What comes of one step -/

namespace World

variable (w : World ι S) (env : Environment ι S) (token : Token) (actor : Option Nat)

/-- The call is answered so. -/
def Tells (r : ι.Request) (answer : Except ClientError (ι.Reply r)) : Prop :=
  (w.issue env actor r).1.effect = .answer answer

/-- The world in which the call has returned with this answer. -/
def told (r : ι.Request) (answer : Except ClientError (ι.Reply r)) : World ι S :=
  (w.issue env actor r).2.note actor (.returned r answer)

/-- How a pause ends, and the world after it. -/
def rested (d : Duration) : Rest × World ι S :=
  if w.cancelled token then (.cancelled, w)
  else ((w.sleep env actor d).2.restEnd token, (w.sleep env actor d).2)

end World

/-! ### What it adds to the history -/

namespace World

theorem since_of_history {earlier : World ι S} {es : List (Entry ι)}
    (h : w.history = es ++ earlier.history) : w.since earlier = es.reverse := by
  simp [since, h]

theorem Follows.requestsIn_trans {w₁ w₂ w₃ : World ι S} (h₁ : w₂.Follows w₁)
    (h₂ : w₃.Follows w₂) :
    requestsIn (w₃.since w₁) = requestsIn (w₂.since w₁) ++ requestsIn (w₃.since w₂) := by
  rw [h₁.since_trans h₂, requestsIn_append]

theorem requestsIn_note (w : World ι S) (actor : Option Nat) (event : Event ι) :
    requestsIn ((w.note actor event).since w) = event.request?.toList := by
  have hhistory : (w.note actor event).history = [⟨w.clock, actor, event⟩] ++ w.history := rfl
  rw [since_of_history hhistory]
  cases event <;> rfl

theorem requestsIn_fireIf (w : World ι S) (fires : Bool) :
    requestsIn ((w.fireIf fires).since w) = [] := by
  unfold fireIf fire
  split
  · split
    · rw [since_self]
      rfl
    · exact requestsIn_note w none .fired
  · rw [since_self]
    rfl

variable (w : World ι S) (env : Environment ι S) (token : Token) (actor : Option Nat)

theorem requestsIn_issue (r : ι.Request) :
    requestsIn ((w.issue env actor r).2.since w) = [r] := by
  have hfollows : (w.issue env actor r).2.Follows (w.note actor (.issued r)) := by
    refine Follows.trans ?_ (follows_fireIf _ _)
    exact List.suffix_rfl
  have hfired : requestsIn ((w.issue env actor r).2.since (w.note actor (.issued r))) = [] :=
    requestsIn_fireIf _ _
  rw [(follows_note w actor (.issued r)).requestsIn_trans hfollows, requestsIn_note, hfired]
  rfl

theorem follows_told (r : ι.Request) (answer : Except ClientError (ι.Reply r)) :
    (w.told env actor r answer).Follows w :=
  (follows_issue env w actor r).trans (follows_note _ _ _)

theorem requestsIn_told (r : ι.Request) (answer : Except ClientError (ι.Reply r)) :
    requestsIn ((w.told env actor r answer).since w) = [r] := by
  rw [told, (follows_issue env w actor r).requestsIn_trans (follows_note _ _ _), requestsIn_issue,
    requestsIn_note]
  rfl

end World

theorem run_call_told {next : Except ClientError (ι.Reply r) → Process ι σ α}
    {answer : Except ClientError (ι.Reply r)} (h : w.Tells env actor r answer) :
    run env token actor (.call r next) s w =
      run env token actor (next answer) s (w.told env actor r answer) := by
  unfold World.Tells at h
  rw [run_call]
  dsimp only
  rw [h]
  rfl

theorem run_call_returned_iff {next : Except ClientError (ι.Reply r) → Process ι σ α} {a : α} :
    run env token actor (.call r next) s w = ⟨.returned a, t, w'⟩ ↔
      ∃ answer, w.Tells env actor r answer ∧
        run env token actor (next answer) s (w.told env actor r answer) =
          ⟨.returned a, t, w'⟩ := by
  constructor
  · intro h
    rw [run_call] at h
    dsimp only at h
    split at h
    · next answer heffect => exact ⟨answer, heffect, h⟩
    · cases h
    · cases h
  · rintro ⟨answer, htells, h⟩
    rw [run_call_told htells, h]

/-- The request of a call that is answered is the first of a run, and the others are those of what
follows the answer. -/
theorem requestsIn_run_told {next : Except ClientError (ι.Reply r) → Process ι σ α}
    {answer : Except ClientError (ι.Reply r)} (h : w.Tells env actor r answer) :
    let after := w.told env actor r answer
    requestsIn ((run env token actor (.call r next) s w).world.since w) =
      r :: requestsIn ((run env token actor (next answer) s after).world.since after) := by
  intro after
  rw [run_call_told h, (World.follows_told w env actor r answer).requestsIn_trans
    (run_follows env token actor (next answer) s after), World.requestsIn_told]
  rfl

/-- A call that crashes or never returns is the last request of a run. -/
theorem requestsIn_run_unanswered (h : ∀ answer, ¬w.Tells env actor r answer)
    (next : Except ClientError (ι.Reply r) → Process ι σ α) (s : σ) :
    requestsIn ((run env token actor (.call r next) s w).world.since w) = [r] := by
  rw [run_call]
  dsimp only
  split
  · next answer heffect => exact absurd heffect (h answer)
  · exact World.requestsIn_issue w env actor r
  · exact World.requestsIn_issue w env actor r

/-- Whatever becomes of a call, its request is the first of a run, and the others come of what
follows the answer. -/
theorem requestsIn_run_call {ok : ι.Request → Prop}
    {next : Except ClientError (ι.Reply r) → Process ι σ α}
    (h : ∀ answer, w.Tells env actor r answer → World.Concerns ok (w.told env actor r answer)
      (run env token actor (next answer) s (w.told env actor r answer)).world) :
    ∃ rest, requestsIn ((run env token actor (.call r next) s w).world.since w) = r :: rest ∧
      ∀ r' ∈ rest, ok r' := by
  by_cases hanswered : ∃ answer, w.Tells env actor r answer
  · obtain ⟨answer, htells⟩ := hanswered
    refine ⟨_, requestsIn_run_told htells, fun r' hr' => ?_⟩
    obtain ⟨e, he, hissued⟩ := mem_requestsIn.mp hr'
    have hevent := (h answer htells).events e he
    rw [hissued] at hevent
    exact hevent
  · exact ⟨[], requestsIn_run_unanswered (not_exists.mp hanswered) next s, List.forall_mem_nil _⟩

theorem exists_requestsIn_run_call (r : ι.Request)
    (next : Except ClientError (ι.Reply r) → Process ι σ α) (s : σ) (w : World ι S) :
    ∃ rest, requestsIn ((run env token actor (.call r next) s w).world.since w) = r :: rest := by
  by_cases hanswered : ∃ answer, w.Tells env actor r answer
  · obtain ⟨answer, htells⟩ := hanswered
    exact ⟨_, requestsIn_run_told htells⟩
  · exact ⟨[], requestsIn_run_unanswered (not_exists.mp hanswered) next s⟩

theorem run_pause_rested (d : Duration) (next : Rest → Process ι σ α) :
    run env token actor (.pause d next) s w =
      run env token actor (next (w.rested env token actor d).1) s
        (w.rested env token actor d).2 := by
  rw [run_pause, World.rested]
  split <;> rfl

/-! ## One thing after another -/

theorem run_bind_returned_iff {p : Process ι σ α} {f : α → Process ι σ β} {b : β} :
    run env token actor (p.bind f) s w = ⟨.returned b, t, w'⟩ ↔
      ∃ a s₁ w₁, run env token actor p s w = ⟨.returned a, s₁, w₁⟩ ∧
        run env token actor (f a) s₁ w₁ = ⟨.returned b, t, w'⟩ := by
  induction p generalizing s w with
  | done a =>
      refine ⟨fun h => ⟨a, s, w, rfl, h⟩, ?_⟩
      rintro ⟨_, _, _, ⟨⟩, h⟩
      exact h
  | call r next ih =>
      simp only [Process.bind, run_call_returned_iff, ih]
      constructor
      · rintro ⟨answer, htells, a, s₁, w₁, hfirst, hrest⟩
        exact ⟨a, s₁, w₁, ⟨answer, htells, hfirst⟩, hrest⟩
      · rintro ⟨a, s₁, w₁, ⟨answer, htells, hfirst⟩, hrest⟩
        exact ⟨answer, htells, a, s₁, w₁, hfirst, hrest⟩
  | pause d next ih => simp only [Process.bind, run_pause_rested, ih]
  | look next ih => exact ih _
  | put u next ih => exact ih
  | panic message =>
      constructor
      · rintro ⟨⟩
      · rintro ⟨_, _, _, ⟨⟩, -⟩
  | stall =>
      constructor
      · rintro ⟨⟩
      · rintro ⟨_, _, _, ⟨⟩, -⟩

/-- An attempt at one thing after the other ends with the failure of the first, or as the second
does. -/
theorem run_attempt_returned_iff {m : Attempt ι σ ε α} {f : α → Attempt ι σ ε β}
    {result : Except ε β} :
    run env token actor (m >>= f).run s w = ⟨.returned result, t, w'⟩ ↔
      (∃ e, result = .error e ∧ run env token actor m.run s w = ⟨.returned (.error e), t, w'⟩) ∨
        ∃ a s₁ w₁, run env token actor m.run s w = ⟨.returned (.ok a), s₁, w₁⟩ ∧
          run env token actor (f a).run s₁ w₁ = ⟨.returned result, t, w'⟩ := by
  refine run_bind_returned_iff.trans ⟨?_, ?_⟩
  · rintro ⟨first, s₁, w₁, hfirst, hrest⟩
    cases first with
    | ok a => exact .inr ⟨a, s₁, w₁, hfirst, hrest⟩
    | error e =>
        cases hrest
        exact .inl ⟨e, rfl, hfirst⟩
  · rintro (⟨e, rfl, hfirst⟩ | ⟨a, s₁, w₁, hfirst, hrest⟩)
    · exact ⟨.error e, t, w', hfirst, rfl⟩
    · exact ⟨.ok a, s₁, w₁, hfirst, hrest⟩

theorem run_within_returned_iff {m : Attempt ι σ ε α} {wrap : ε → ε'} {result : Except ε' α} :
    run env token actor (m.within wrap).run s w = ⟨.returned result, t, w'⟩ ↔
      ∃ inner, run env token actor m.run s w = ⟨.returned inner, t, w'⟩ ∧
        result = inner.mapError wrap := by
  refine run_bind_returned_iff.trans ⟨?_, ?_⟩
  · rintro ⟨inner, s₁, w₁, hinner, hrest⟩
    cases inner <;> cases hrest <;> exact ⟨_, hinner, rfl⟩
  · rintro ⟨inner, hinner, rfl⟩
    refine ⟨inner, t, w', hinner, ?_⟩
    cases inner <;> rfl

theorem run_within_ok_iff {m : Attempt ι σ ε α} {wrap : ε → ε'} {a : α} :
    run env token actor (m.within wrap).run s w = ⟨.returned (.ok a), t, w'⟩ ↔
      run env token actor m.run s w = ⟨.returned (.ok a), t, w'⟩ := by
  refine run_within_returned_iff.trans ⟨?_, fun h => ⟨.ok a, h, rfl⟩⟩
  rintro ⟨inner, hinner, hresult⟩
  cases inner with
  | ok b =>
      cases hresult
      exact hinner
  | error e => cases hresult

/-- What does not come of a failure of the first attempt comes of what follows its success. -/
theorem run_within_then_iff {m : Attempt ι σ ε α} {wrap : ε → ε'} {f : α → Attempt ι σ ε' β}
    {result : Except ε' β} (hresult : ∀ e, result ≠ .error (wrap e)) :
    run env token actor (m.within wrap >>= f).run s w = ⟨.returned result, t, w'⟩ ↔
      ∃ a s₁ w₁, run env token actor m.run s w = ⟨.returned (.ok a), s₁, w₁⟩ ∧
        run env token actor (f a).run s₁ w₁ = ⟨.returned result, t, w'⟩ := by
  simp only [run_attempt_returned_iff, run_within_ok_iff]
  refine or_iff_right ?_
  rintro ⟨e', rfl, hfailed⟩
  obtain ⟨inner, -, hinner⟩ := run_within_returned_iff.mp hfailed
  cases inner with
  | ok a => cases hinner
  | error e => exact hresult e (congrArg _ (Except.error.inj hinner))

theorem run_state_then {f : σ → Attempt ι σ ε α} :
    run env token actor (Attempt.state >>= f).run s w = run env token actor (f s).run s w := rfl

theorem run_rest_then_iff {d : Duration} {fault : ε} {f : Unit → Attempt ι σ ε α} {a : α} :
    run env token actor (Attempt.rest d fault >>= f).run s w = ⟨.returned (.ok a), t, w'⟩ ↔
      ∃ w₁, w.rested env token actor d = (.elapsed, w₁) ∧
        run env token actor (f ()).run s w₁ = ⟨.returned (.ok a), t, w'⟩ := by
  show run env token actor (.pause d _) s w = _ ↔ _
  rw [run_pause_rested]
  rcases w.rested env token actor d with ⟨_ | _, w₁⟩
  · constructor
    · exact fun h => ⟨w₁, rfl, h⟩
    · rintro ⟨_, ⟨⟩, h⟩
      exact h
  · refine ⟨nofun, ?_⟩
    rintro ⟨_, ⟨⟩, -⟩

/-! ## Polls -/

namespace Watch

variable (watch : Watch ι β γ) {deadline : Deadline} {n : Nat} {seen : γ}

theorem tells_of_poll {watched : Watched β γ}
    (h : GatedRollout.run env token actor (watch.poll deadline (n + 1) seen) s w =
      ⟨.returned watched, t, w'⟩) : ∃ answer, w.Tells env actor watch.request answer := by
  obtain ⟨answer, htells, -⟩ := run_call_returned_iff.mp h
  exact ⟨answer, htells⟩

theorem poll_failed {e : ClientError} (h : w.Tells env actor watch.request (.error e)) :
    GatedRollout.run env token actor (watch.poll deadline (n + 1) seen) s w =
      ⟨.returned (.failed e), s, w.told env actor watch.request (.error e)⟩ := by
  rw [poll, run_call_told h]
  rfl

theorem poll_settled {reply : ι.Reply watch.request} {b : β}
    (h : w.Tells env actor watch.request (.ok reply))
    (hjudge : watch.judge seen reply = .settled b) :
    GatedRollout.run env token actor (watch.poll deadline (n + 1) seen) s w =
      ⟨.returned (.settled b), s, w.told env actor watch.request (.ok reply)⟩ := by
  rw [poll, run_call_told h]
  simp only [hjudge]
  rfl

/-- A reply that settles nothing is followed by the end of the watch or by a pause. -/
theorem poll_pending {reply : ι.Reply watch.request} {seen' : γ}
    (h : w.Tells env actor watch.request (.ok reply))
    (hjudge : watch.judge seen reply = .pending seen') :
    let after := w.told env actor watch.request (.ok reply)
    GatedRollout.run env token actor (watch.poll deadline (n + 1) seen) s w =
      if deadline.expired after.clock then ⟨.returned (.overdue seen'), s, after⟩
      else
        match after.rested env token actor (deadline.nextInterval after.clock watch.interval) with
        | (.cancelled, v) => ⟨.returned .cancelled, s, v⟩
        | (.elapsed, v) =>
            GatedRollout.run env token actor (watch.poll deadline n seen') s v := by
  intro after
  rw [poll, run_call_told h]
  simp only [hjudge]
  rw [run_look]
  dsimp only
  split
  · rfl
  · rw [run_pause_rested]
    rcases after.rested env token actor _ with ⟨_ | _, v⟩ <;> rfl

end Watch

/-! ## Ends of a wait -/

namespace Rules

/-- From a world in which a wait has read these replies and asks again, it comes to this, within so
many more requests; `cut` is what it makes of a pause that is cut short. -/
inductive Ends (rules : Rules (ι.Reply r) α) (env : Environment ι S) (token : Token)
    (actor : Option Nat) (cut : α) (deadline : Deadline) :
    Nat → List (ι.Reply r) → World ι S → α → World ι S → Prop
  | failed {n earlier w e} (tells : w.Tells env actor r (.error e)) :
      Ends rules env token actor cut deadline (n + 1) earlier w (rules.failure e)
        (w.told env actor r (.error e))
  | decided {n earlier w reply a} (tells : w.Tells env actor r (.ok reply))
      (decides : rules.decides earlier reply = some a) :
      Ends rules env token actor cut deadline (n + 1) earlier w a
        (w.told env actor r (.ok reply))
  | overdue {n earlier w reply} (tells : w.Tells env actor r (.ok reply))
      (undecided : rules.decides earlier reply = none)
      (expired : deadline.expired (w.told env actor r (.ok reply)).clock = true) :
      Ends rules env token actor cut deadline (n + 1) earlier w
        (rules.timeout (earlier ++ [reply])) (w.told env actor r (.ok reply))
  | cut {n earlier w reply v} (tells : w.Tells env actor r (.ok reply))
      (undecided : rules.decides earlier reply = none)
      (going : deadline.expired (w.told env actor r (.ok reply)).clock = false)
      (rests : (w.told env actor r (.ok reply)).rested env token actor
        (deadline.nextInterval (w.told env actor r (.ok reply)).clock rules.interval) =
          (.cancelled, v)) :
      Ends rules env token actor cut deadline (n + 1) earlier w cut v
  | later {n earlier w reply v a w'} (tells : w.Tells env actor r (.ok reply))
      (undecided : rules.decides earlier reply = none)
      (going : deadline.expired (w.told env actor r (.ok reply)).clock = false)
      (rests : (w.told env actor r (.ok reply)).rested env token actor
        (deadline.nextInterval (w.told env actor r (.ok reply)).clock rules.interval) =
          (.elapsed, v))
      (ends : Ends rules env token actor cut deadline n (earlier ++ [reply]) v a w') :
      Ends rules env token actor cut deadline (n + 1) earlier w a w'

section Watches

variable {watch : Watch ι β γ} {rules : Rules (ι.Reply watch.request) α}
  {remember : List (ι.Reply watch.request) → γ} {conclude : Watched β γ → α}

theorem Describe.ends_of_poll (describe : Describe watch rules remember conclude)
    (deadline : Deadline) (n : Nat) :
    ∀ {earlier : List (ι.Reply watch.request)} {w : World ι S} {watched : Watched β γ},
      run env token actor (watch.poll deadline n (remember earlier)) s w =
        ⟨.returned watched, t, w'⟩ →
      t = s ∧ rules.Ends env token actor (conclude .cancelled) deadline n earlier w
        (conclude watched) w' := by
  induction n with
  | zero => exact fun h => nomatch h
  | succ n ih =>
      intro earlier w watched h
      obtain ⟨answer, htells⟩ := watch.tells_of_poll h
      cases answer with
      | error e =>
          rw [watch.poll_failed htells] at h
          cases h
          rw [describe.failed]
          exact ⟨rfl, .failed htells⟩
      | ok reply =>
          cases hjudge : watch.judge (remember earlier) reply with
          | settled b =>
              rw [watch.poll_settled htells hjudge] at h
              cases h
              exact ⟨rfl, .decided htells (describe.settled hjudge)⟩
          | pending seen =>
              obtain ⟨hundecided, rfl⟩ := describe.pending hjudge
              rw [watch.poll_pending htells hjudge, ← describe.interval] at h
              split at h
              · next hexpired =>
                  cases h
                  rw [describe.overdue]
                  exact ⟨rfl, .overdue htells hundecided hexpired⟩
              · next hgoing =>
                  split at h
                  · next v hrests =>
                      cases h
                      exact ⟨rfl, .cut htells hundecided (by simpa using hgoing) hrests⟩
                  · next v hrests =>
                      obtain ⟨rfl, hends⟩ := ih h
                      exact ⟨rfl, .later htells hundecided (by simpa using hgoing) hrests hends⟩

theorem Describe.judge_undecided (describe : Describe watch rules remember conclude)
    {earlier : List (ι.Reply watch.request)} {reply : ι.Reply watch.request}
    (h : rules.decides earlier reply = none) :
    watch.judge (remember earlier) reply = .pending (remember (earlier ++ [reply])) := by
  cases hjudge : watch.judge (remember earlier) reply with
  | settled b =>
      rw [describe.settled hjudge] at h
      cases h
  | pending seen => rw [(describe.pending hjudge).2]

theorem Describe.judge_decided (describe : Describe watch rules remember conclude)
    {earlier : List (ι.Reply watch.request)} {reply : ι.Reply watch.request} {a : α}
    (h : rules.decides earlier reply = some a) :
    ∃ b, watch.judge (remember earlier) reply = .settled b ∧ conclude (.settled b) = a := by
  cases hjudge : watch.judge (remember earlier) reply with
  | settled b => exact ⟨b, rfl, Option.some.inj ((describe.settled hjudge).symm.trans h)⟩
  | pending seen =>
      rw [(describe.pending hjudge).1] at h
      cases h

theorem Describe.poll_of_ends (describe : Describe watch rules remember conclude)
    {deadline : Deadline} {n : Nat} {earlier : List (ι.Reply watch.request)} {a : α}
    (h : rules.Ends env token actor (conclude .cancelled) deadline n earlier w a w') :
    ∃ watched, conclude watched = a ∧
      run env token actor (watch.poll deadline n (remember earlier)) s w =
        ⟨.returned watched, s, w'⟩ := by
  induction h with
  | failed tells => exact ⟨_, describe.failed _, watch.poll_failed tells⟩
  | decided tells decides =>
      obtain ⟨b, hjudge, hb⟩ := describe.judge_decided decides
      exact ⟨.settled b, hb, watch.poll_settled tells hjudge⟩
  | overdue tells undecided expired =>
      refine ⟨_, describe.overdue _, ?_⟩
      rw [watch.poll_pending tells (describe.judge_undecided undecided), if_pos expired]
  | cut tells undecided going rests =>
      refine ⟨.cancelled, rfl, ?_⟩
      rw [watch.poll_pending tells (describe.judge_undecided undecided), ← describe.interval,
        if_neg (by simp [going]), rests]
  | later tells undecided going rests _ ih =>
      obtain ⟨watched, hwatched, hrun⟩ := ih
      refine ⟨watched, hwatched, ?_⟩
      rw [watch.poll_pending tells (describe.judge_undecided undecided), ← describe.interval,
        if_neg (by simp [going]), rests]
      exact hrun

/-- A wait that only concludes from the end of a watch returns exactly what it ends with, and leaves
the state alone. -/
theorem Describe.run_returned_iff (describe : Describe watch rules remember conclude)
    {p : Process ι σ α} {patience : Nat}
    (hp : p = (watch.run patience).bind fun watched => .done (conclude watched)) {a : α} :
    run env token actor p s w = ⟨.returned a, t, w'⟩ ↔
      t = s ∧ rules.Ends env token actor (conclude .cancelled) ⟨w.clock, rules.limit⟩
        (rules.cover + 1 + patience) [] w a w' := by
  subst hp
  rw [run_bind_returned_iff, describe.cover_eq, describe.limit]
  simp only [Watch.run, run_look, run_done, ← describe.unseen]
  constructor
  · rintro ⟨watched, s₁, w₁, hwatched, ⟨⟩⟩
    exact describe.ends_of_poll _ _ hwatched
  · rintro ⟨rfl, hends⟩
    obtain ⟨watched, rfl, hwatched⟩ := describe.poll_of_ends (s := t) hends
    exact ⟨watched, t, w', hwatched, rfl⟩

end Watches

/-- A wait fails with its request, or is cut short, or has come to a decision by its last reply or
to the end of its limit. -/
theorem Ends.last {rules : Rules (ι.Reply r) α} {cut a : α} {deadline : Deadline} {n : Nat}
    {earlier : List (ι.Reply r)} (h : rules.Ends env token actor cut deadline n earlier w a w') :
    (∃ e, a = rules.failure e) ∨ a = cut ∨
      (∃ (replies : List (ι.Reply r)) (reply : ι.Reply r) (v : World ι S),
        rules.decides replies reply = some a ∧ w' = v.told env actor r (.ok reply)) ∨
      ∃ replies, a = rules.timeout replies ∧ deadline.expired w'.clock = true := by
  induction h with
  | failed => exact .inl ⟨_, rfl⟩
  | decided _ decides => exact .inr (.inr (.inl ⟨_, _, _, decides, rfl⟩))
  | overdue _ _ expired => exact .inr (.inr (.inr ⟨_, rfl, expired⟩))
  | cut => exact .inr (.inl rfl)
  | later _ _ _ _ _ ih => exact ih

/-! ## The first reply of a kind -/

/-- The rules make of a reply the same whatever was read before. -/
def Forgets {ρ : Type} (rules : Rules ρ α) : Prop :=
  ∀ earlier reply, rules.decides earlier reply = rules.decides [] reply

end Rules

/-- Of the replies that are read from a world on, this is the first of its kind: those before it are
of another, come within the limit, and are followed by pauses that nothing cuts short. There are so
many requests at most. -/
inductive FirstRead (env : Environment ι S) (token : Token) (actor : Option Nat) (r : ι.Request)
    (interval : Duration) (deadline : Deadline) (counts : ι.Reply r → Prop) :
    Nat → World ι S → ι.Reply r → World ι S → Prop
  | here {n w reply} (tells : w.Tells env actor r (.ok reply)) (counted : counts reply) :
      FirstRead env token actor r interval deadline counts (n + 1) w reply
        (w.told env actor r (.ok reply))
  | later {n w passed v reply w'} (tells : w.Tells env actor r (.ok passed))
      (passes : ¬counts passed)
      (going : deadline.expired (w.told env actor r (.ok passed)).clock = false)
      (rests : (w.told env actor r (.ok passed)).rested env token actor
        (deadline.nextInterval (w.told env actor r (.ok passed)).clock interval) = (.elapsed, v))
      (found : FirstRead env token actor r interval deadline counts n v reply w') :
      FirstRead env token actor r interval deadline counts (n + 1) w reply w'

theorem FirstRead.counts {interval : Duration} {deadline : Deadline} {counts : ι.Reply r → Prop}
    {n : Nat} {reply : ι.Reply r}
    (h : FirstRead env token actor r interval deadline counts n w reply w') : counts reply := by
  induction h with
  | here _ counted => exact counted
  | later _ _ _ _ _ ih => exact ih

namespace Rules

section Decided

variable {rules : Rules (ι.Reply r) α} {counts : ι.Reply r → Prop} {cut a : α}
  {deadline : Deadline}

/-- A wait that keeps nothing in mind comes to a decision by the first reply that decides
anything. -/
theorem Ends.firstRead {n : Nat} {earlier : List (ι.Reply r)}
    (h : rules.Ends env token actor cut deadline n earlier w a w')
    (forgets : rules.Forgets) (hcounts : ∀ reply, counts reply ↔ rules.decides [] reply ≠ none)
    (hfailure : ∀ e, rules.failure e ≠ a) (htimeout : ∀ earlier, rules.timeout earlier ≠ a)
    (hcut : cut ≠ a) :
    ∃ reply, FirstRead env token actor r rules.interval deadline counts n w reply w' ∧
      rules.decides [] reply = some a := by
  induction h with
  | failed => exact absurd rfl (hfailure _)
  | @decided n earlier w reply a tells decides =>
      rw [forgets] at decides
      exact ⟨reply, .here tells ((hcounts reply).mpr (by simp [decides])), decides⟩
  | overdue => exact absurd rfl (htimeout _)
  | cut => exact absurd rfl hcut
  | later tells undecided going rests _ ih =>
      obtain ⟨reply, hfound, hdecides⟩ := ih hfailure htimeout hcut
      rw [forgets] at undecided
      exact ⟨reply, .later tells (by simp [hcounts, undecided]) going rests hfound, hdecides⟩

theorem ends_of_firstRead {n : Nat} {reply : ι.Reply r} (forgets : rules.Forgets)
    (hcounts : ∀ reply, counts reply ↔ rules.decides [] reply ≠ none)
    (h : FirstRead env token actor r rules.interval deadline counts n w reply w')
    (hdecides : rules.decides [] reply = some a) (earlier : List (ι.Reply r)) :
    rules.Ends env token actor cut deadline n earlier w a w' := by
  induction h generalizing earlier with
  | here tells _ => exact .decided tells ((forgets _ _).trans hdecides)
  | later tells passes going rests _ ih =>
      rw [hcounts, not_not] at passes
      exact .later tells ((forgets _ _).trans passes) going rests (ih hdecides _)

end Decided

end Rules

end GatedRollout
