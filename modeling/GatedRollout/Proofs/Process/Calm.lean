import GatedRollout.Proofs.Process.Ends
import GatedRollout.Proofs.Process.Pacing
import GatedRollout.Proofs.Process.Watch

/-!
# Waits in calm environments

In a calm environment every call is answered and nothing fires the token. On a clock that can come
to the end of its limit a wait then always ends, and what it comes to is told by the answers that it
was given. Where no answer takes time it ends within its limit, and at the end of it if no answer
decides anything.
-/

namespace GatedRollout

variable {ι : Interface} {S σ α β γ : Type} {env : Environment ι S} {token : Token}
  {actor : Option Nat} {r : ι.Request} {s t : σ} {w w' : World ι S}

/-- Every call is answered, and nothing fires the token. -/
structure Environment.Calm (env : Environment ι S) : Prop where
  answers : ∀ s now r, ∃ answer, (env.react s now r).1.effect = .answer answer
  calls : ∀ s now r, (env.react s now r).1.fires = false
  pauses : ∀ s now, (env.wake s now).1.fires = false

/-! ## Single steps -/

namespace Environment.Calm

variable (calm : env.Calm)

include calm

theorem tells (w : World ι S) (actor : Option Nat) (r : ι.Request) :
    ∃ answer, w.Tells env actor r answer := calm.answers _ _ r

theorem history_issue (w : World ι S) (actor : Option Nat) (r : ι.Request) :
    (w.issue env actor r).2.history = ⟨w.clock, actor, .issued r⟩ :: w.history := by
  rw [World.issue]
  dsimp only
  rw [calm.calls]
  rfl

theorem cancelled_issue (w : World ι S) (actor : Option Nat) (r : ι.Request) :
    (w.issue env actor r).2.cancelled token = w.cancelled token := by
  rw [World.issue]
  dsimp only
  rw [calm.calls]
  cases token <;> rfl

theorem history_sleep (w : World ι S) (actor : Option Nat) (d : Duration) :
    (w.sleep env actor d).2.history = ⟨w.clock, actor, .slept d⟩ :: w.history := by
  rw [World.sleep]
  dsimp only
  rw [calm.pauses]
  rfl

theorem cancelled_sleep (w : World ι S) (actor : Option Nat) (d : Duration) :
    (w.sleep env actor d).2.cancelled token = w.cancelled token := by
  rw [World.sleep]
  dsimp only
  rw [calm.pauses]
  cases token <;> rfl

/-- A call adds its request and its answer. -/
theorem since_told (w : World ι S) (actor : Option Nat) (r : ι.Request)
    (answer : Except ClientError (ι.Reply r)) :
    (w.told env actor r answer).since w =
      [⟨w.clock, actor, .issued r⟩,
        ⟨(w.told env actor r answer).clock, actor, .returned r answer⟩] := by
  have hhistory : (w.told env actor r answer).history =
      [⟨(w.told env actor r answer).clock, actor, .returned r answer⟩,
        ⟨w.clock, actor, .issued r⟩] ++ w.history :=
    congrArg (List.cons _) (calm.history_issue w actor r)
  rw [World.since_of_history hhistory]
  rfl

theorem returned_mem (w : World ι S) (actor : Option Nat) (r : ι.Request)
    (answer : Except ClientError (ι.Reply r)) :
    ⟨(w.told env actor r answer).clock, actor, .returned r answer⟩ ∈
      (w.told env actor r answer).since w := by
  rw [calm.since_told]
  simp

theorem cancelled_told (w : World ι S) (actor : Option Nat) (r : ι.Request)
    (answer : Except ClientError (ι.Reply r)) :
    (w.told env actor r answer).cancelled token = w.cancelled token := by
  refine Eq.trans ?_ (calm.cancelled_issue w actor r)
  cases token <;> rfl

/-- Nothing cuts a pause short. -/
theorem rested (unfired : w.cancelled token = false) (d : Duration) :
    w.rested env token actor d = (.elapsed, (w.sleep env actor d).2) := by
  rw [World.rested, if_neg (by simp [unfired]), World.restEnd, calm.cancelled_sleep, unfired]
  rfl

theorem since_sleep (w : World ι S) (actor : Option Nat) (d : Duration) :
    (w.sleep env actor d).2.since w = [⟨w.clock, actor, .slept d⟩] := by
  have hhistory : (w.sleep env actor d).2.history = [⟨w.clock, actor, .slept d⟩] ++ w.history :=
    calm.history_sleep w actor d
  rw [World.since_of_history hhistory]
  rfl

end Environment.Calm

theorem World.clock_le_told (env : Environment ι S) (actor : Option Nat) (w : World ι S)
    (answer : Except ClientError (ι.Reply r)) :
    w.clock.nanos ≤ (w.told env actor r answer).clock.nanos :=
  World.clock_issue_le env actor w r

theorem Environment.Punctual.clock_told (punctual : env.Punctual) (actor : Option Nat)
    (w : World ι S) (answer : Except ClientError (ι.Reply r)) :
    (w.told env actor r answer).clock = w.clock :=
  World.clock_issue_of_punctual env actor w punctual r

/-! ## From one request to the next -/

/-- The world in which a wait asks again that has read a reply and paused. -/
def World.resumed (env : Environment ι S) (actor : Option Nat) (deadline : Deadline)
    (interval : Duration) (w : World ι S) (reply : ι.Reply r) : World ι S :=
  let after := w.told env actor r (.ok reply)
  (after.sleep env actor (deadline.nextInterval after.clock interval)).2

section Resumed

variable {deadline : Deadline} {interval : Duration} {reply : ι.Reply r}

theorem Environment.Calm.rested_told (calm : env.Calm) (unfired : w.cancelled token = false) :
    (w.told env actor r (.ok reply)).rested env token actor
        (deadline.nextInterval (w.told env actor r (.ok reply)).clock interval) =
      (.elapsed, w.resumed env actor deadline interval reply) :=
  calm.rested ((calm.cancelled_told ..).trans unfired) _

/-- Every pause of a wait ends in the world in which it asks again. -/
theorem Environment.Calm.eq_resumed (calm : env.Calm) (unfired : w.cancelled token = false)
    {rest : Rest} {v : World ι S}
    (rests : (w.told env actor r (.ok reply)).rested env token actor
      (deadline.nextInterval (w.told env actor r (.ok reply)).clock interval) = (rest, v)) :
    rest = .elapsed ∧ v = w.resumed env actor deadline interval reply := by
  rw [calm.rested_told unfired] at rests
  cases rests
  exact ⟨rfl, rfl⟩

theorem Environment.Calm.cancelled_resumed (calm : env.Calm) (unfired : w.cancelled token = false) :
    (w.resumed env actor deadline interval reply).cancelled token = false :=
  (calm.cancelled_sleep ..).trans ((calm.cancelled_told ..).trans unfired)

theorem World.follows_resumed : (w.resumed env actor deadline interval reply).Follows w :=
  (World.follows_told ..).trans (World.follows_sleep ..)

theorem World.clock_resumed :
    (w.resumed env actor deadline interval reply).clock =
      (w.told env actor r (.ok reply)).clock.advance
        (deadline.nextInterval (w.told env actor r (.ok reply)).clock interval) :=
  World.clock_sleep ..

theorem World.clock_le_resumed :
    w.clock.nanos ≤ (w.resumed env actor deadline interval reply).clock.nanos := by
  rw [World.clock_resumed]
  exact (World.clock_le_told env actor w (.ok reply)).trans (Instant.le_advance ..)

/-- A pause takes its length from what remains. -/
theorem World.remaining_resumed
    (hend : deadline.started.nanos + deadline.limit.nanos ≤ Instant.latest)
    (hstart : deadline.started.nanos ≤ w.clock.nanos) :
    (deadline.remaining (w.resumed env actor deadline interval reply).clock).nanos =
      (deadline.remaining (w.told env actor r (.ok reply)).clock).nanos - interval.nanos := by
  have hlater := World.clock_le_told env actor w (.ok reply)
  have hpause : (deadline.nextInterval (w.told env actor r (.ok reply)).clock interval).nanos =
      min (deadline.remaining (w.told env actor r (.ok reply)).clock).nanos interval.nanos :=
    Duration.nanos_shorter _ _
  rw [World.clock_resumed, Deadline.remaining_advance hend (hstart.trans hlater) (by omega), hpause]
  omega

/-- Where the answers take no time, no pause goes beyond the limit. -/
theorem Environment.Punctual.clock_resumed_le (punctual : env.Punctual)
    (hend : deadline.started.nanos + deadline.limit.nanos ≤ Instant.latest)
    (hstart : deadline.started.nanos ≤ w.clock.nanos)
    (hwithin : w.clock.nanos ≤ deadline.started.nanos + deadline.limit.nanos) :
    (w.resumed env actor deadline interval reply).clock.nanos ≤
      deadline.started.nanos + deadline.limit.nanos := by
  have hpause : (deadline.nextInterval w.clock interval).nanos =
      min (deadline.remaining w.clock).nanos interval.nanos := Duration.nanos_shorter _ _
  have hremaining := deadline.nanos_remaining w.clock
  rw [World.clock_resumed, punctual.clock_told, Instant.nanos_advance (by omega)]
  omega

end Resumed

/-! ## What a wait comes to -/

/-- The answers in a history. -/
def returnsIn (trace : List (Entry ι)) : List (Event ι) :=
  (trace.map (·.event)).filter fun e => e matches .returned _ _

@[simp] theorem returnsIn_append (first rest : List (Entry ι)) :
    returnsIn (first ++ rest) = returnsIn first ++ returnsIn rest := by
  simp [returnsIn]

namespace Rules

variable {rules : Rules (ι.Reply r) α} {deadline : Deadline} {cut a : α} {n : Nat}
  {earlier : List (ι.Reply r)}

/-- What a wait comes to that has read some replies and is then given exactly these answers: the
last of them decides the matter, fails the wait or is read at the end of its limit. -/
def upshot {ρ : Type} (rules : Rules ρ α) : List ρ → List (Except ClientError ρ) → Option α
  | _, [] => none
  | _, [.error e] => some (rules.failure e)
  | earlier, [.ok reply] =>
      some ((rules.decides earlier reply).getD (rules.timeout (earlier ++ [reply])))
  | _, .error _ :: _ :: _ => none
  | earlier, .ok reply :: next :: later =>
      match rules.decides earlier reply with
      | some _ => none
      | none => rules.upshot (earlier ++ [reply]) (next :: later)

theorem upshot_later {reply : ι.Reply r} {answers : List (Except ClientError (ι.Reply r))}
    (undecided : rules.decides earlier reply = none)
    (h : rules.upshot (earlier ++ [reply]) answers = some a) :
    rules.upshot earlier (.ok reply :: answers) = some a := by
  cases answers with
  | nil => cases h
  | cons next later =>
      rw [upshot, undecided]
      exact h

/-- A reply that decides anything decides what the wait comes to. -/
theorem upshot_of_decided {ρ : Type} {rules : Rules ρ α} {answers : List (Except ClientError ρ)}
    {earlier : List ρ} {reply : ρ} {b : α} (forgets : rules.Forgets)
    (h : rules.upshot earlier answers = some a) (hreply : .ok reply ∈ answers)
    (hdecides : rules.decides [] reply = some b) : a = b := by
  rw [← forgets earlier] at hdecides
  fun_induction rules.upshot earlier answers with
  | case1 => cases h
  | case2 => simp at hreply
  | case3 earlier last =>
      obtain rfl : reply = last := by simpa using hreply
      rw [hdecides] at h
      exact (Option.some.inj h).symm
  | case4 => cases h
  | case5 => cases h
  | case6 earlier first next later undecided ih =>
      rw [List.mem_cons] at hreply
      rcases hreply with hfirst | hlater
      · obtain rfl : reply = first := by simpa using hfirst
        rw [hdecides] at undecided
        cases undecided
      · exact ih h hlater ((forgets _ _).trans ((forgets _ _).symm.trans hdecides))

/-- Where no reply decides anything, the wait fails or its limit passes. -/
theorem upshot_of_undecided {ρ : Type} {rules : Rules ρ α} {answers : List (Except ClientError ρ)}
    {earlier : List ρ} (forgets : rules.Forgets) (h : rules.upshot earlier answers = some a)
    (hundecided : ∀ reply, .ok reply ∈ answers → rules.decides [] reply = none) :
    (∃ e, a = rules.failure e) ∨ ∃ earlier, a = rules.timeout earlier := by
  fun_induction rules.upshot earlier answers with
  | case1 => cases h
  | case2 earlier e => exact .inl ⟨e, (Option.some.inj h).symm⟩
  | case3 earlier last =>
      rw [forgets, hundecided last (by simp)] at h
      exact .inr ⟨_, (Option.some.inj h).symm⟩
  | case4 => cases h
  | case5 => cases h
  | case6 earlier first next later _ ih =>
      exact ih h fun reply hreply => hundecided reply (List.mem_cons_of_mem _ hreply)

/-- What a wait adds to the history that comes to this: the requests that it makes, and the answers,
which tell what it comes to. -/
structure Reads (rules : Rules (ι.Reply r) α) (actor : Option Nat) (earlier : List (ι.Reply r))
    (w w' : World ι S) (a : α) (answers : List (Except ClientError (ι.Reply r))) : Prop where
  follows : w'.Follows w
  about : ∀ e ∈ w'.since w, e.actor = actor ∧ e.event.IsAbout r
  returns : returnsIn (w'.since w) = answers.map (.returned r)
  comes : rules.upshot earlier answers = some a

theorem Reads.mem_answers {answers : List (Except ClientError (ι.Reply r))}
    (h : rules.Reads actor earlier w w' a answers) {answer : Except ClientError (ι.Reply r)} :
    answer ∈ answers ↔ ∃ e ∈ w'.since w, e.event = .returned r answer := by
  have hreturns : answer ∈ answers ↔ .returned r answer ∈ returnsIn (w'.since w) := by
    rw [h.returns]
    simp
  rw [hreturns, returnsIn, List.mem_filter, List.mem_map]
  simp

theorem reads_told (calm : env.Calm) {answer : Except ClientError (ι.Reply r)}
    (hcomes : rules.upshot earlier [answer] = some a) (w : World ι S) :
    rules.Reads actor earlier w (w.told env actor r answer) a [answer] := by
  refine ⟨World.follows_told .., ?_, ?_, hcomes⟩
  · simp [calm.since_told, Event.IsAbout]
  · simp [calm.since_told, returnsIn]

/-- A reply that decides nothing, and a pause, come before what is read later. -/
theorem Reads.later {reply : ι.Reply r} {answers : List (Except ClientError (ι.Reply r))}
    (calm : env.Calm) (undecided : rules.decides earlier reply = none)
    (h : rules.Reads actor (earlier ++ [reply])
      (w.resumed env actor deadline rules.interval reply) w' a answers) :
    rules.Reads actor earlier w w' a (.ok reply :: answers) := by
  have htold := World.follows_told w env actor r (.ok reply)
  have hslept : (w.resumed env actor deadline rules.interval reply).Follows
      (w.told env actor r (.ok reply)) := World.follows_sleep ..
  have hpause : (w.resumed env actor deadline rules.interval reply).since
      (w.told env actor r (.ok reply)) = [⟨_, actor, .slept _⟩] := calm.since_sleep ..
  have hsince := htold.since_trans (hslept.trans h.follows)
  rw [hslept.since_trans h.follows, calm.since_told, hpause] at hsince
  refine ⟨htold.trans (hslept.trans h.follows), ?_, ?_, ?_⟩
  · rw [hsince]
    simpa [Event.IsAbout] using h.about
  · rw [hsince, returnsIn_append, returnsIn_append, h.returns]
    simp [returnsIn]
  · exact upshot_later undecided h.comes

theorem Ends.reads (calm : env.Calm)
    (h : rules.Ends env token actor cut deadline n earlier w a w')
    (unfired : w.cancelled token = false) :
    ∃ answers, rules.Reads actor earlier w w' a answers := by
  induction h with
  | failed tells => exact ⟨[.error _], reads_told calm rfl _⟩
  | decided tells decides => exact ⟨[.ok _], reads_told calm (by simp [upshot, decides]) _⟩
  | overdue tells undecided expired =>
      exact ⟨[.ok _], reads_told calm (by simp [upshot, undecided]) _⟩
  | cut tells undecided going rests => exact nomatch (calm.eq_resumed unfired rests).1
  | later tells undecided going rests ends ih =>
      obtain ⟨-, rfl⟩ := calm.eq_resumed unfired rests
      obtain ⟨answers, hreads⟩ := ih (calm.cancelled_resumed unfired)
      exact ⟨_, hreads.later calm undecided⟩

/-! ## How long a wait takes -/

/-- However long the answers take, so many intervals as cover what is left of the limit are enough
for the requests. -/
theorem exists_ends (calm : env.Calm) (rules : Rules (ι.Reply r) α) (cut : α)
    (hend : deadline.started.nanos + deadline.limit.nanos ≤ Instant.latest) (n : Nat) :
    ∀ {most : Nat} {earlier : List (ι.Reply r)} {w : World ι S}, most < n →
      w.cancelled token = false → deadline.started.nanos ≤ w.clock.nanos →
      (deadline.remaining w.clock).nanos ≤ rules.interval.nanos * most →
      ∃ a w', rules.Ends env token actor cut deadline n earlier w a w' := by
  induction n with
  | zero => exact fun hmost => absurd hmost (Nat.not_lt_zero _)
  | succ n ih =>
      intro most earlier w hmost unfired hstart hcover
      obtain ⟨answer, htells⟩ := calm.tells w actor r
      cases answer with
      | error e => exact ⟨_, _, .failed htells⟩
      | ok reply =>
          cases hdecides : rules.decides earlier reply with
          | some a => exact ⟨_, _, .decided htells hdecides⟩
          | none =>
              cases hexpired : deadline.expired (w.told env actor r (.ok reply)).clock with
              | true => exact ⟨_, _, .overdue htells hdecides hexpired⟩
              | false =>
                  have hgoing := (deadline.expired_iff_remaining _).not.mp
                    (Bool.eq_false_iff.mp hexpired)
                  have hleft := deadline.remaining_later
                    (World.clock_le_told env actor w (.ok reply))
                  -- A pause uses up a whole interval or all that is left, so one interval less
                  -- covers the rest.
                  cases most with
                  | zero => omega
                  | succ most =>
                      rw [Nat.mul_succ] at hcover
                      have hrest : (deadline.remaining
                          (w.resumed env actor deadline rules.interval reply).clock).nanos ≤
                            rules.interval.nanos * most := by
                        rw [World.remaining_resumed hend hstart]
                        omega
                      obtain ⟨a, w', hends⟩ := ih (Nat.lt_of_succ_lt_succ hmost)
                        (calm.cancelled_resumed unfired) (hstart.trans World.clock_le_resumed) hrest
                      exact ⟨a, w', .later htells hdecides hexpired (calm.rested_told unfired)
                        hends⟩

variable (calm : env.Calm) (punctual : env.Punctual)
  (h : rules.Ends env token actor cut deadline n earlier w a w')
  (unfired : w.cancelled token = false)
  (hend : deadline.started.nanos + deadline.limit.nanos ≤ Instant.latest)
  (hstart : deadline.started.nanos ≤ w.clock.nanos)
  (hwithin : w.clock.nanos ≤ deadline.started.nanos + deadline.limit.nanos)

include calm punctual h unfired hend hstart hwithin

theorem Ends.clock_le : w'.clock.nanos ≤ deadline.started.nanos + deadline.limit.nanos := by
  induction h with
  | failed tells => rwa [punctual.clock_told]
  | decided tells decides => rwa [punctual.clock_told]
  | overdue tells undecided expired => rwa [punctual.clock_told]
  | cut tells undecided going rests => exact nomatch (calm.eq_resumed unfired rests).1
  | later tells undecided going rests ends ih =>
      obtain ⟨-, rfl⟩ := calm.eq_resumed unfired rests
      exact ih (calm.cancelled_resumed unfired) (hstart.trans World.clock_le_resumed)
        (punctual.clock_resumed_le hend hstart hwithin)

/-- Where no answer decides anything, the wait lasts to the end of its limit. -/
theorem Ends.clock_eq (undecided : ∀ e ∈ w'.since w, ∀ answer, e.event = .returned r answer →
      ∃ reply, answer = .ok reply ∧ ∀ earlier, rules.decides earlier reply = none) :
    w'.clock.nanos = deadline.started.nanos + deadline.limit.nanos := by
  induction h with
  | failed tells =>
      obtain ⟨_, ⟨⟩, -⟩ := undecided _ (calm.returned_mem ..) _ rfl
  | decided tells decides =>
      obtain ⟨_, ⟨⟩, hnone⟩ := undecided _ (calm.returned_mem ..) _ rfl
      rw [hnone] at decides
      cases decides
  | overdue tells _ expired =>
      rw [punctual.clock_told, deadline.expired_iff_remaining, Deadline.nanos_remaining] at expired
      rw [punctual.clock_told]
      omega
  | cut tells undecided going rests => exact nomatch (calm.eq_resumed unfired rests).1
  | later tells _ going rests ends ih =>
      obtain ⟨-, rfl⟩ := calm.eq_resumed unfired rests
      obtain ⟨_, hreads⟩ := ends.reads calm (calm.cancelled_resumed unfired)
      refine ih (calm.cancelled_resumed unfired) (hstart.trans World.clock_le_resumed)
        (punctual.clock_resumed_le hend hstart hwithin) fun e he => undecided e ?_
      rw [World.follows_resumed.since_trans hreads.follows]
      exact List.mem_append_right _ he

end Rules

/-! ## Waits -/

/-- Nothing that runs in a calm environment finds its token fired. -/
theorem Environment.Calm.cancelled_run (calm : env.Calm) (p : Process ι σ α)
    (unfired : w.cancelled token = false) :
    (run env token actor p s w).world.cancelled token = false :=
  run_keeps (J := fun later => later.cancelled token = false)
    (fun _ _ h => (calm.cancelled_issue ..).trans h)
    (fun _ _ _ h => Eq.trans (by cases token <;> rfl) h)
    (fun _ _ h => (calm.cancelled_sleep ..).trans h) token p s unfired

/-- How a wait by these rules goes that starts in one world and comes to this in another: it is told
by its answers, and where these take no time, it ends within its limit, and at the end of it if
none of them decides anything. -/
structure Rules.Lasts (rules : Rules (ι.Reply r) α) (env : Environment ι S) (actor : Option Nat)
    (w w' : World ι S) (a : α) (answers : List (Except ClientError (ι.Reply r))) : Prop where
  reads : rules.Reads actor [] w w' a answers
  clock_le : env.Punctual → w'.clock.nanos ≤ w.clock.nanos + rules.limit.nanos
  clock_eq : env.Punctual → (∀ e ∈ w'.since w, ∀ answer, e.event = .returned r answer →
      ∃ reply, answer = .ok reply ∧ ∀ earlier, rules.decides earlier reply = none) →
    w'.clock.nanos = w.clock.nanos + rules.limit.nanos

/-- A wait by rules always ends, where the clock can come to the end of its limit. -/
theorem Rules.Describe.run_lasts {watch : Watch ι β γ} {rules : Rules (ι.Reply watch.request) α}
    {remember : List (ι.Reply watch.request) → γ} {conclude : Watched β γ → α}
    (describe : rules.Describe watch remember conclude) {p : Process ι σ α} {patience : Nat}
    (hp : p = (watch.run patience).bind fun watched => .done (conclude watched))
    (hinterval : 0 < rules.interval.nanos) (calm : env.Calm)
    (unfired : w.cancelled token = false)
    (hend : w.clock.nanos + rules.limit.nanos ≤ Instant.latest) :
    ∃ a w' answers, run env token actor p s w = ⟨.returned a, s, w'⟩ ∧
      rules.Lasts env actor w w' a answers := by
  have hfull : (Deadline.remaining ⟨w.clock, rules.limit⟩ w.clock).nanos ≤
      rules.interval.nanos * rules.cover := by
    rw [Deadline.nanos_remaining, Nat.mul_comm]
    have hcover := (rules.cover_le_iff hinterval rules.cover).mp le_rfl
    simpa using hcover
  obtain ⟨a, w', hends⟩ : ∃ a w', rules.Ends env token actor (conclude .cancelled)
      ⟨w.clock, rules.limit⟩ (rules.cover + 1 + patience) [] w a w' :=
    Rules.exists_ends calm rules _ hend _ (by omega) unfired (le_refl _) hfull
  obtain ⟨answers, hreads⟩ := hends.reads calm unfired
  have hwithin : w.clock.nanos ≤ w.clock.nanos + rules.limit.nanos := by omega
  exact ⟨a, w', answers, (describe.run_returned_iff hp).mpr ⟨rfl, hends⟩, hreads,
    fun punctual => hends.clock_le calm punctual unfired hend (le_refl _) hwithin,
    fun punctual => hends.clock_eq calm punctual unfired hend (le_refl _) hwithin⟩

end GatedRollout
