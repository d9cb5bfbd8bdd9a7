import GatedRollout.Proofs.Process.Firing
import GatedRollout.Proofs.Process.Heeding
import GatedRollout.Proofs.Process.Requests

/-!
# Winding down

Once the token has fired, a process that winds down pauses no more, and makes only so many further
requests as a budget allows, whatever the replies and the time limits. A budget also counts what the
requests cost that were made before, so that a process that has got further has less left to do.
-/

namespace GatedRollout

variable {ι : Interface} {S σ ε ε' α β γ : Type}

/-! ## Budgets -/

/-- What the requests among these deeds cost. -/
def charge (cost : ι.Request → Nat) : List (Event ι) → Nat
  | [] => 0
  | e :: rest => e.request?.elim 0 cost + charge cost rest

/-- Requests that cost nothing. -/
def free (_ : ι.Request) : Nat := 0

@[simp] theorem charge_append (cost : ι.Request → Nat) (x y : List (Event ι)) :
    charge cost (x ++ y) = charge cost x + charge cost y := by
  induction x with
  | nil => exact (Nat.zero_add _).symm
  | cons e x ih => simp only [List.cons_append, charge, ih, Nat.add_assoc]

@[simp] theorem charge_free (y : List (Event ι)) : charge free y = 0 := by
  induction y with
  | nil => rfl
  | cons e y ih => cases e <;> simp [charge, Event.request?, free, ih]

/-- What a process may still do: make so many requests once the token has fired, and requests of
this cost as long as it has not. -/
structure Budget where
  fired : Nat
  unfired : Nat

/-- Nothing may be done any more. -/
def Budget.spent : Budget := ⟨0, 0⟩

/-- These deeds leave a budget of this limit. Once the token has fired there is no pause among them,
and no request either if it fired in one. -/
def View.Affords (cost : ι.Request → Nat) (limit : Nat) (b : Budget) : View (Event ι) → Prop
  | .unfired y => charge cost y + b.unfired ≤ limit
  | .fired y z => Wakeful z ∧ charge cost y + (requests z).length + b.fired ≤ limit ∧
      (AtRest false y → requests z = [] ∧ b.fired = 0)

namespace View.Affords

variable {cost : ι.Request → Nat} {limit : Nat} {b b' : Budget} {v v' : View (Event ι)}

theorem mono (h : v.Affords cost limit b) (hfired : b'.fired ≤ b.fired)
    (hunfired : b'.unfired ≤ b.unfired) : v.Affords cost limit b' := by
  cases v with
  | unfired y => exact Nat.le_trans (Nat.add_le_add_left hunfired _) h
  | fired y z =>
      refine ⟨h.1, Nat.le_trans (Nat.add_le_add_left hfired _) h.2.1, fun hrest => ?_⟩
      obtain ⟨hnone, hzero⟩ := h.2.2 hrest
      exact ⟨hnone, by omega⟩

theorem spent (h : v.Affords cost limit b) : v.Affords cost limit .spent :=
  h.mono (Nat.zero_le _) (Nat.zero_le _)

theorem within_limit {limit' : Nat} (h : v.Affords cost limit b) (hlimit : limit ≤ limit') :
    v.Affords cost limit' b := by
  cases v with
  | unfired y => exact Nat.le_trans h hlimit
  | fired y z => exact ⟨h.1, Nat.le_trans h.2.1 hlimit, h.2.2⟩

/-- Where nothing costs anything, the whole limit is left as long as the token has not fired. -/
theorem refill (h : v.Affords free limit b) (hfired : b'.fired ≤ b.fired)
    (hunfired : b'.unfired ≤ limit) : v.Affords free limit b' := by
  cases v with
  | unfired y =>
      show charge free y + b'.unfired ≤ limit
      rwa [charge_free, Nat.zero_add]
  | fired y z =>
      have hfired' : (View.fired y z).Affords free limit ⟨b'.fired, b.unfired⟩ :=
        h.mono hfired (Nat.le_refl _)
      exact hfired'

/-- The token may fire while there is at most so much left to do, and nothing in a pause. -/
theorem onward (h : v.Affords cost limit b) (hv : v.Onward v') (hbudget : b.fired ≤ b.unfired)
    (hrest : ∀ y, v = .unfired y → AtRest false y → b.fired = 0) : v'.Affords cost limit b := by
  rcases hv with rfl | rfl
  · exact h
  · cases v with
    | unfired y =>
        refine ⟨wakeful_nil, ?_, fun hatrest => ⟨rfl, hrest y rfl hatrest⟩⟩
        exact Nat.le_trans (Nat.add_le_add_left hbudget _) h
    | fired y z => exact h

theorem lasts (h : v.Affords cost limit .spent) (hv : v.Onward v') : v'.Affords cost limit .spent :=
  h.onward hv (Nat.le_refl 0) fun _ _ _ => rfl

/-- No later deed mends what was spent too much. -/
theorem of_add {e : Event ι} (h : (v.add e).Affords cost limit .spent) :
    v.Affords cost limit .spent := by
  cases v with
  | unfired y =>
      have hle : charge cost (y ++ [e]) + 0 ≤ limit := h
      rw [charge_append] at hle
      show charge cost y + 0 ≤ limit
      omega
  | fired y z =>
      obtain ⟨hwakeful, hle, hrest⟩ := h
      simp only [requests_append, List.length_append] at hle
      refine ⟨fun e' he' => hwakeful e' (List.mem_append_left _ he'), Nat.le_trans (by omega) hle,
        fun hatrest => ⟨?_, rfl⟩⟩
      obtain ⟨hnone, -⟩ := hrest hatrest
      rw [requests_append, List.append_eq_nil_iff] at hnone
      exact hnone.1

/-- A request spends its cost, and one of those that may be made once the token has fired. -/
theorem issue {r : ι.Request} {fired unfired : Nat}
    (h : v.Affords cost limit ⟨fired + 1, unfired + cost r⟩) (hbudget : fired ≤ unfired)
    (hv : (v.add (.issued r)).Onward v') : v'.Affords cost limit ⟨fired, unfired⟩ := by
  refine View.Affords.onward (v := v.add (.issued r)) ?_ hv hbudget ?_
  · cases v with
    | unfired y =>
        have hle : charge cost y + (unfired + cost r) ≤ limit := h
        have hcharge : charge cost [.issued r] = cost r := by simp [charge, Event.request?]
        show charge cost (y ++ [.issued r]) + unfired ≤ limit
        rw [charge_append, hcharge]
        omega
    | fired y z =>
        obtain ⟨hwakeful, hle, hrest⟩ := h
        have hone : requests (z ++ [.issued r]) = requests z ++ [r] := requests_append z [.issued r]
        refine ⟨hwakeful.append rfl, ?_, fun hatrest => ?_⟩
        · rw [hone, List.length_append, List.length_singleton]
          dsimp only at hle ⊢
          omega
        · exact absurd (hrest hatrest).2 (Nat.succ_ne_zero fired)
  · intro y hy hatrest
    cases v with
    | unfired y' =>
        cases hy
        exact absurd hatrest (not_atRest_append y' rfl)
    | fired y' z => cases hy

theorem returned (h : v.Affords cost limit b) (r : ι.Request)
    (answer : Except ClientError (ι.Reply r)) :
    (v.add (.returned r answer)).Affords cost limit b := by
  have hnone : requests [.returned r answer] = [] := rfl
  cases v with
  | unfired y =>
      have hcharge : charge cost [.returned r answer] = 0 := rfl
      show charge cost (y ++ [.returned r answer]) + b.unfired ≤ limit
      rw [charge_append, hcharge]
      exact h
  | fired y z =>
      obtain ⟨hwakeful, hle, hrest⟩ := h
      refine ⟨hwakeful.append rfl, ?_⟩
      rw [requests_append, hnone, List.append_nil]
      exact ⟨hle, hrest⟩

/-- A pause ends with the token fired, and then nothing may be done any more, or without. -/
theorem slept {y : List (Event ι)} (h : (View.unfired y).Affords cost limit b) (d : Duration)
    (hv : ((View.unfired y).add (.slept d)).Onward v') :
    (v'.restEnd = .cancelled ∧ v'.Affords cost limit .spent) ∨
      (v'.restEnd = .elapsed ∧ ∀ fired, v'.Affords cost limit ⟨fired, b.unfired⟩) := by
  have hcharge : charge cost [.slept d] = 0 := rfl
  have hslept : charge cost (y ++ [.slept d]) + b.unfired ≤ limit := by
    rw [charge_append, hcharge]
    exact h
  rcases hv with rfl | rfl
  · exact .inr ⟨rfl, fun _ => hslept⟩
  · exact .inl ⟨rfl, wakeful_nil, Nat.le_trans (Nat.add_le_add_left (Nat.zero_le _) _) hslept,
      fun _ => ⟨rfl, rfl⟩⟩

end View.Affords

/-! ## Processes that wind down -/

/-- Wherever it has this budget, the process keeps within the limit, wherever the token fires, and
leaves the budget that its result tells. -/
def Process.Winds (cost : ι.Request → Nat) (limit : Nat) (b : Budget) (left : α → Budget)
    (p : Process ι σ α) : Prop :=
  ∀ s v, v.Affords cost limit b →
    Abides (fun _ v => v.Affords cost limit .spent) (fun a _ v => v.Affords cost limit (left a)) p s
      v

theorem Abides.bind {inv : σ → View (Event ι) → Prop} {mid : α → σ → View (Event ι) → Prop}
    {post : β → σ → View (Event ι) → Prop} {p : Process ι σ α} {f : α → Process ι σ β} {s : σ}
    {v : View (Event ι)} (h : Abides inv mid p s v)
    (next : ∀ a t v, mid a t v → Abides inv post (f a) t v) : Abides inv post (p >>= f) s v :=
  Process.Obeys.bind h fun a x => next a x.1 x.2

namespace Process.Winds

variable {cost : ι.Request → Nat} {limit : Nat} {b : Budget} {left left' : α → Budget}
  {fired unfired : Nat}

theorem weaken {b' : Budget} {p : Process ι σ α} (h : p.Winds cost limit b left)
    (hfired : b.fired ≤ b'.fired) (hunfired : b.unfired ≤ b'.unfired) :
    p.Winds cost limit b' left :=
  fun s v hv => h s v (hv.mono hfired hunfired)

theorem done (a : α) : (Process.done a : Process ι σ α).Winds cost limit (left a) left :=
  fun _ _ hv => hv

theorem call {r : ι.Request} {next : Except ClientError (ι.Reply r) → Process ι σ α}
    (hbudget : fired ≤ unfired)
    (h : ∀ answer, (next answer).Winds cost limit ⟨fired, unfired⟩ left) :
    (Process.call r next).Winds cost limit ⟨fired + 1, unfired + cost r⟩ left := by
  intro s v hv v' hv'
  have hissued := hv.issue hbudget hv'
  exact ⟨hissued.spent, fun answer => h answer s _ (hissued.returned r answer)⟩

theorem call_free {r : ι.Request} {next : Except ClientError (ι.Reply r) → Process ι σ α}
    (hcost : cost r = 0) (hbudget : fired ≤ unfired)
    (h : ∀ answer, (next answer).Winds cost limit ⟨fired, unfired⟩ left) :
    (Process.call r next).Winds cost limit ⟨fired + 1, unfired⟩ left := by
  have hcall := call hbudget h
  rwa [hcost] at hcall

/-- A pause that the token ends is the last of what is done. -/
theorem pause {d : Duration} {next : Rest → Process ι σ α}
    (cancelled : (next .cancelled).Winds cost limit .spent left)
    (elapsed : (next .elapsed).Winds cost limit ⟨fired, unfired⟩ left) :
    (Process.pause d next).Winds cost limit ⟨0, unfired⟩ left := by
  intro s v hv
  refine ⟨fun _ => cancelled s v hv.spent, fun hunfired v' hv' => ?_⟩
  cases v with
  | fired y z => cases hunfired
  | unfired y =>
      rcases hv.slept d hv' with ⟨hrest, hspent⟩ | ⟨hrest, hleft⟩
      · rw [hrest]
        exact cancelled s v' hspent
      · rw [hrest]
        exact elapsed s v' (hleft fired)

theorem look {next : Glimpse σ → Process ι σ α}
    (h : ∀ glimpse, (next glimpse).Winds cost limit b left) :
    (Process.look next).Winds cost limit b left :=
  fun s v hv _ => h _ s v hv

/-- A look at the token tells which budget counts. -/
theorem look_token {next : Glimpse σ → Process ι σ α}
    (h : ∀ now s, (next ⟨now, true, s⟩).Winds cost limit ⟨b.fired, unfired⟩ left)
    (h' : ∀ now s, (next ⟨now, false, s⟩).Winds cost limit ⟨fired, b.unfired⟩ left) :
    (Process.look next).Winds cost limit b left := by
  intro s v hv now
  cases v with
  | unfired y => exact h' now s s _ hv
  | fired y z => exact h now s s _ hv

theorem put {t : σ} {next : Process ι σ α} (h : next.Winds cost limit b left) :
    (Process.put t next).Winds cost limit b left :=
  fun _ v hv => h t v hv

theorem stall : (Process.stall : Process ι σ α).Winds cost limit b left := fun _ _ hv => hv.spent

theorem bind {p : Process ι σ α} {f : α → Process ι σ β} {left' : β → Budget}
    (h : p.Winds cost limit b left) (next : ∀ a, (f a).Winds cost limit (left a) left') :
    (p >>= f).Winds cost limit b left' :=
  fun s v hv => (h s v hv).bind fun a t v' hv' => next a t v' hv'

/-! ### Watches -/

/-- The budget that is left where a watch was not given up. -/
def watchLeft (b : Budget) : Watched β γ → Budget
  | .cancelled => .spent
  | _ => b

/-- A watch makes one request once the token has fired. -/
theorem watch {watch : Watch ι β γ} (hcost : cost watch.request = 0) (hbudget : fired ≤ unfired)
    (patience : Nat) :
    (watch.run patience : Process ι σ _).Winds cost limit ⟨fired + 1, unfired⟩
      (watchLeft ⟨fired, unfired⟩) := by
  have hpoll : ∀ deadline n seen, (watch.poll deadline n seen : Process ι σ _).Winds cost limit
      ⟨fired + 1, unfired⟩ (watchLeft ⟨fired, unfired⟩) := by
    intro deadline n
    induction n with
    | zero => exact fun _ => stall
    | succ n ih =>
        refine fun seen => .call_free hcost hbudget fun answer => ?_
        cases answer with
        | error e => exact .done _
        | ok reply =>
            dsimp only
            cases watch.judge seen reply with
            | settled b => exact .done _
            | pending seen' =>
                refine .look fun glimpse => ?_
                split
                · exact .done _
                · exact (Process.Winds.pause (.done _) (ih seen')).weaken (Nat.zero_le _)
                    (Nat.le_refl _)
  exact .look fun glimpse => hpoll _ _ _

/-- The budget that is left where a time without calls was not given up. -/
def idleLeft (b : Budget) : Rest → Budget
  | .cancelled => .spent
  | .elapsed => b

theorem idle (limit' interval : Duration) (patience : Nat) :
    (idle limit' interval patience : Process ι σ _).Winds cost limit ⟨fired, unfired⟩
      (idleLeft ⟨fired, unfired⟩) := by
  have hslices : ∀ deadline n, (idleSlices deadline interval n : Process ι σ _).Winds cost limit
      ⟨fired, unfired⟩ (idleLeft ⟨fired, unfired⟩) := by
    intro deadline n
    induction n with
    | zero => exact stall
    | succ n ih =>
        refine .look fun glimpse => ?_
        split
        · exact .done _
        · exact (Process.Winds.pause (.done _) ih).weaken (Nat.zero_le _) (Nat.le_refl _)
  exact .look fun glimpse => hslices _ _

end Process.Winds

/-! ## Attempts that wind down -/

/-- The budget that an attempt leaves: none where it failed. -/
def Attempt.left (b : Budget) : Except ε α → Budget
  | .ok _ => b
  | .error _ => .spent

/-- With the first budget the attempt keeps within the limit, and it leaves the second one. -/
def Attempt.Winds (cost : ι.Request → Nat) (limit : Nat) (b b' : Budget) (m : Attempt ι σ ε α) :
    Prop :=
  m.run.Winds cost limit b (Attempt.left b')

namespace Attempt.Winds

variable {cost : ι.Request → Nat} {limit fired unfired : Nat} {b b' b'' : Budget}

theorem weaken {m : Attempt ι σ ε α} (h : m.Winds cost limit b b'') (hfired : b.fired ≤ b'.fired)
    (hunfired : b.unfired ≤ b'.unfired) : m.Winds cost limit b' b'' :=
  Process.Winds.weaken h hfired hunfired

theorem bind {m : Attempt ι σ ε α} {f : α → Attempt ι σ ε β} (h : m.Winds cost limit b b')
    (next : ∀ a, (f a).Winds cost limit b' b'') : (m >>= f).Winds cost limit b b'' := by
  refine Process.Winds.bind h fun result => ?_
  cases result with
  | ok a => exact next a
  | error e => exact .done _

theorem pure (a : α) : (Pure.pure a : Attempt ι σ ε α).Winds cost limit b b :=
  fun _ _ hv => hv

theorem throw (e : ε) : (throw e : Attempt ι σ ε α).Winds cost limit b b' :=
  (Process.Winds.done (Except.error e)).weaken (Nat.zero_le _) (Nat.zero_le _)

/-- An outcome that is known already. -/
theorem known (result : Except ε α) : (liftM result : Attempt ι σ ε α).Winds cost limit b b := by
  cases result with
  | ok a => exact .pure a
  | error e => exact .throw e

theorem modify (f : σ → σ) : (Attempt.modify f : Attempt ι σ ε _).Winds cost limit b b :=
  Process.Winds.look fun _ => .put (Attempt.Winds.pure ())

theorem now_then {f : Instant → Attempt ι σ ε β} (next : ∀ now, (f now).Winds cost limit b b') :
    (Attempt.now >>= f).Winds cost limit b b' :=
  Process.Winds.look fun _ => next _

theorem state_then {f : σ → Attempt ι σ ε β} (next : ∀ s, (f s).Winds cost limit b b') :
    (Attempt.state >>= f).Winds cost limit b b' :=
  Process.Winds.look fun _ => next _

/-- A look at the token tells which budget counts. -/
theorem cancelled_then {f : Bool → Attempt ι σ ε β} (fired unfired : Nat)
    (next : (f true).Winds cost limit ⟨b.fired, unfired⟩ b')
    (next' : (f false).Winds cost limit ⟨fired, b.unfired⟩ b') :
    (Attempt.cancelled >>= f).Winds cost limit b b' :=
  Process.Winds.look_token (fun _ _ => next) fun _ _ => next'

theorem spend {r : ι.Request} (hbudget : fired ≤ unfired) (fault : ClientError → ε) :
    (Attempt.ask r fault : Attempt ι σ ε _).Winds cost limit ⟨fired + 1, unfired + cost r⟩
      ⟨fired, unfired⟩ := by
  refine Process.Winds.call hbudget fun answer => ?_
  cases answer with
  | ok reply => exact Attempt.Winds.pure reply
  | error e => exact Attempt.Winds.throw (fault e)

theorem ask {r : ι.Request} (hcost : cost r = 0) (hbudget : fired ≤ unfired)
    (fault : ClientError → ε) :
    (Attempt.ask r fault : Attempt ι σ ε _).Winds cost limit ⟨fired + 1, unfired⟩
      ⟨fired, unfired⟩ := by
  have hspend : (Attempt.ask r fault : Attempt ι σ ε _).Winds cost limit
      ⟨fired + 1, unfired + cost r⟩ ⟨fired, unfired⟩ := spend hbudget fault
  rwa [hcost] at hspend

/-- After a pause in which the token did not fire, the budget counts anew. -/
theorem rest (d : Duration) (fault : ε) (fired : Nat) :
    (Attempt.rest d fault : Attempt ι σ ε _).Winds cost limit ⟨0, unfired⟩ ⟨fired, unfired⟩ :=
  Process.Winds.pause (.done _) (Attempt.Winds.pure ())

theorem within {m : Attempt ι σ ε α} (h : m.Winds cost limit b b') (wrap : ε → ε') :
    (m.within wrap).Winds cost limit b b' := by
  refine Process.Winds.bind h fun result => ?_
  cases result with
  | ok a => exact .done _
  | error e => exact .done _

/-- A watch, of which the end settles what follows. -/
theorem watch_then {watch : Watch ι β γ} {patience : Nat} {f : Watched β γ → Attempt ι σ ε α}
    (hcost : cost watch.request = 0) (hbudget : fired ≤ unfired)
    (cancelled : (f .cancelled).Winds cost limit .spent b)
    (next : ∀ watched, (f watched).Winds cost limit ⟨fired, unfired⟩ b) :
    (ExceptT.lift (watch.run patience) >>= f : Attempt ι σ ε α).Winds cost limit
      ⟨fired + 1, unfired⟩ b := by
  unfold Attempt.Winds
  rw [ExceptT.run_bind_lift]
  refine (Process.Winds.watch hcost hbudget patience).bind fun watched => ?_
  cases watched with
  | cancelled => exact cancelled
  | settled b => exact next _
  | overdue seen => exact next _
  | failed e => exact next _

/-- A time without calls, after which the attempt goes on. -/
theorem idle_then {limit' interval : Duration} {patience : Nat} {f : Rest → Attempt ι σ ε α}
    (cancelled : (f .cancelled).Winds cost limit .spent b')
    (next : (f .elapsed).Winds cost limit b b') :
    (ExceptT.lift (idle limit' interval patience) >>= f : Attempt ι σ ε α).Winds cost limit b
      b' := by
  unfold Attempt.Winds
  rw [ExceptT.run_bind_lift]
  refine (Process.Winds.idle limit' interval patience).bind fun rest => ?_
  cases rest with
  | cancelled => exact cancelled
  | elapsed => exact next

end Attempt.Winds

/-! ## Whole runs -/

section Runs

variable {cost : ι.Request → Nat} {limit : Nat} {b : Budget} {left : α → Budget}
  {earlier w : World ι S} {v : View (Entry ι)}

/-- What a process that winds down has left at the end of its run. -/
theorem Process.Winds.run {p : Process ι σ α} (h : p.Winds cost limit b left)
    (env : Environment ι S) (actor : Option Nat) (s : σ) (hsees : World.Sees earlier w v)
    (haffords : (v.deedsOf actor).Affords cost limit b) :
    let out := GatedRollout.run env .caller actor p s w
    ∃ v', World.Sees earlier out.world v' ∧ (v'.deedsOf actor).Affords cost limit .spent ∧
      ∀ a, out.ending = .returned a → (v'.deedsOf actor).Affords cost limit (left a) := by
  intro out
  obtain ⟨v', hsees', hsecured⟩ := (h s _ haffords).run env actor hsees
  refine ⟨v', hsees', ?_, fun a hending => ?_⟩
  · cases hending : out.ending.answer? with
    | none =>
        rw [hending] at hsecured
        exact hsecured
    | some a =>
        rw [hending] at hsecured
        exact View.Affords.spent hsecured
  · have hout : (GatedRollout.run env .caller actor p s w).ending = .returned a := hending
    rw [hout] at hsecured
    exact hsecured

/-- Side by side every process keeps within its limit, whatever becomes of the others. -/
theorem affords_fanOut (env : Environment ι S) {limit : Nat → Nat} {unfired : Nat → Nat}
    {left : Nat → α → Budget} {crew : List (Process ι σ α × σ)} (hsees : World.Sees earlier w v)
    (h : ∀ (i : Nat) (p : Process ι σ α) (s : σ), crew[i]? = some (p, s) →
      p.Winds cost (limit i) ⟨0, unfired i⟩ (left i) ∧
        (v.deedsOf (some i)).Affords cost (limit i) ⟨0, unfired i⟩) :
    ∃ v', World.Sees earlier (fanOut env .caller crew w).world v' ∧
      ∀ i < crew.length, (v'.deedsOf (some i)).Affords cost (limit i) .spent := by
  have hlasts : ∀ i : Nat, Lasts (View.Affords cost (limit i) .spent)
      fun (_ : α) (_ : σ) v => v.Affords cost (limit i) .spent :=
    fun i => ⟨fun _ _ h hv => h.lasts hv, fun _ _ _ _ h hv => h.lasts hv⟩
  obtain ⟨v', hsees', hstages, -⟩ := abides_fanOut env hlasts hsees fun i p s hi v' hv' => by
    obtain ⟨hwinds, haffords⟩ := h i p s hi
    have hnow := haffords.onward hv' (Nat.zero_le _) fun _ _ _ => rfl
    exact (hwinds s v' hnow).mono (fun _ _ h => h) fun _ _ _ h => h.spent
  refine ⟨v', hsees', fun i hi => ?_⟩
  obtain ⟨stage, s, hstage⟩ := hstages i hi
  refine Stage.Abides.now ?_ ?_ hstage
  · exact fun _ _ h => h.of_add
  · exact fun _ _ _ h => h

end Runs

/-! ## Histories within limits -/

/-- From one world to another every actor has kept within its limit, wherever the token fired. -/
def World.Winds (cost : ι.Request → Nat) (limit : Option Nat → Nat) (earlier w : World ι S) :
    Prop :=
  ∃ v, World.Sees earlier w v ∧ ∀ actor, (v.deedsOf actor).Affords cost (limit actor) .spent

/-- Before anything is done, everything may be. -/
theorem affords_self (cost : ι.Request → Nat) (w : World ι S) (actor : Option Nat) {limit : Nat}
    {b : Budget} (hfired : b.fired ≤ limit) (hunfired : b.unfired ≤ limit) :
    ((if w.fired then View.fired [] [] else .unfired []).deedsOf actor).Affords cost limit b := by
  split
  · refine ⟨wakeful_nil, ?_, fun hrest => ?_⟩
    · simpa [charge, requests, deedsOf] using hfired
    · simp [AtRest, deedsOf] at hrest
  · simpa [View.deedsOf, View.Affords, charge, requests, deedsOf] using hunfired

namespace World.Winds

variable {cost : ι.Request → Nat} {limit : Option Nat → Nat} {earlier w : World ι S}
  {v : View (Entry ι)}

theorem mono (h : World.Winds cost limit earlier w) {limit' : Option Nat → Nat}
    (hlimit : ∀ actor, limit actor ≤ limit' actor) : World.Winds cost limit' earlier w := by
  obtain ⟨v, hsees, haffords⟩ := h
  exact ⟨v, hsees, fun actor => (haffords actor).within_limit (hlimit actor)⟩

/-- What one actor does leaves the others within their limits. -/
theorem run {b : Budget} {left : α → Budget} {p : Process ι σ α} {actor : Option Nat}
    (hp : p.Winds cost (limit actor) b left) (env : Environment ι S) (s : σ)
    (hsees : World.Sees earlier w v)
    (haffords : ∀ other, (v.deedsOf other).Affords cost (limit other) .spent)
    (hbudget : (v.deedsOf actor).Affords cost (limit actor) b) :
    let out := GatedRollout.run env .caller actor p s w
    ∃ v', World.Sees earlier out.world v' ∧
      (∀ other, (v'.deedsOf other).Affords cost (limit other) .spent) ∧
        ∀ a, out.ending = .returned a → (v'.deedsOf actor).Affords cost (limit actor) (left a) := by
  intro out
  obtain ⟨v', hsees', hspent, hreturned⟩ := hp.run env actor s hsees hbudget
  refine ⟨v', hsees', fun other => ?_, hreturned⟩
  by_cases hother : actor = other
  · exact hother ▸ hspent
  · refine (haffords other).lasts (hsees.onward hsees' (run_follows ..) ?_)
    exact run_others env .caller hother p s w

/-- The history tells what was left to do when the token fired. -/
theorem affords (h : World.Winds cost limit earlier w) {before after : List (Entry ι)}
    (hfires : FiresAt earlier.fired (w.since earlier) before after) (actor : Option Nat) :
    ((View.fired before after).deedsOf actor).Affords cost (limit actor) .spent := by
  obtain ⟨v, hsees, haffords⟩ := h
  rw [← hsees.eq_fired hfires]
  exact haffords actor

end World.Winds

/-- A run of a process that winds down. -/
theorem Process.Winds.run_winds {cost : ι.Request → Nat} {limit : Nat} {b : Budget}
    {left : α → Budget} {p : Process ι σ α} (h : p.Winds cost limit b left)
    (hfired : b.fired ≤ limit) (hunfired : b.unfired ≤ limit) (env : Environment ι S)
    (actor : Option Nat) (s : σ) (w : World ι S) :
    World.Winds cost (fun other => if other = actor then limit else 0) w
      (GatedRollout.run env .caller actor p s w).world := by
  let limits (other : Option Nat) : Nat := if other = actor then limit else 0
  have hlimit : limits actor = limit := if_pos rfl
  have hwinds : p.Winds cost (limits actor) b left := hlimit.symm ▸ h
  obtain ⟨v, hsees, haffords, -⟩ := World.Winds.run hwinds env s (World.sees_self w)
    (fun other => affords_self cost w other (Nat.zero_le _) (Nat.zero_le _))
    (affords_self cost w actor (hlimit.symm ▸ hfired) (hlimit.symm ▸ hunfired))
  exact ⟨v, hsees, haffords⟩

end GatedRollout
