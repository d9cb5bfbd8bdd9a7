import GatedRollout.Proofs.Process.Trace

/-!
# Streams of answers

A process that runs alone, with a token that does not fire, may be answered from a stream: its
requests get one answer each, and an answer may take time. What such a run adds to the world is
known call by call and pause by pause.
-/

namespace GatedRollout

variable {ι : Interface} {S σ α β : Type}

/-! ## One process after another -/

/-- What follows a process that returned goes on from where that process ended. -/
theorem run_bind_returned (env : Environment ι S) (token : Token) (actor : Option Nat)
    (p : Process ι σ α) (f : α → Process ι σ β) (s : σ) (w : World ι S) {a : α}
    (h : (run env token actor p s w).ending = .returned a) :
    run env token actor (p.bind f) s w =
      run env token actor (f a) (run env token actor p s w).state
        (run env token actor p s w).world := by
  induction p generalizing s w with
  | done b =>
      rw [run_done] at h ⊢
      cases h
      rfl
  | call r next ih =>
      rw [run_call] at h ⊢
      rw [Process.bind, run_call]
      dsimp only at h ⊢
      cases heffect : (w.issue env actor r).1.effect with
      | answer answer =>
          simp only [heffect] at h ⊢
          exact ih answer s _ h
      | panic message =>
          simp only [heffect] at h
          cases h
      | hang =>
          simp only [heffect] at h
          cases h
  | pause d next ih =>
      rw [run_pause] at h ⊢
      rw [Process.bind, run_pause]
      split
      · next hcancelled =>
          simp only [if_pos hcancelled] at h ⊢
          exact ih .cancelled s w h
      · next hcancelled =>
          simp only [if_neg hcancelled] at h ⊢
          exact ih _ s _ h
  | look next ih => exact ih _ s w h
  | put t next ih => exact ih t w h
  | panic message => cases h
  | stall => cases h

/-! ## Streams of answers -/

/-- What each call is answered with, in their order, and the time that each answer takes. -/
abbrev Stream (ι : Interface) := Nat → (r : ι.Request) → Duration × Except ClientError (ι.Reply r)

/-- What a stream answers to calls that all make the same request. -/
def Stream.answers (stream : Stream ι) (r : ι.Request) (k : Nat) :
    Except ClientError (ι.Reply r) := (stream k r).2

/-- The environment that plays a stream and never fires the token. Its state is the number of
calls so far. -/
def Environment.playing (stream : Stream ι) : Environment ι Nat where
  react k _ r := (⟨(stream k r).1, false, 0, .answer (stream k r).2⟩, k + 1)
  wake k _ := (⟨false, 0⟩, k)

/-- The instants of the requests among some entries. -/
def polls (entries : List (Entry ι)) : List Int :=
  entries.filterMap fun e =>
    match e.event with
    | .issued _ => some e.time.nanos
    | _ => none

/-- The lengths of the pauses among some entries. -/
def naps (entries : List (Entry ι)) : List Nat :=
  entries.filterMap fun e =>
    match e.event with
    | .slept d => some d.nanos
    | _ => none

@[simp] theorem polls_append (first rest : List (Entry ι)) :
    polls (first ++ rest) = polls first ++ polls rest := List.filterMap_append

@[simp] theorem naps_append (first rest : List (Entry ι)) :
    naps (first ++ rest) = naps first ++ naps rest := List.filterMap_append

namespace World

/-- The world after the next call to a stream. -/
def asked (w : World ι Nat) (stream : Stream ι) (actor : Option Nat) (r : ι.Request) :
    World ι Nat :=
  (w.issue (.playing stream) actor r).2.note actor (.returned r (stream w.env r).2)

/-- The world after a pause that nothing cut short. -/
def napped (w : World ι Nat) (stream : Stream ι) (actor : Option Nat) (d : Duration) :
    World ι Nat :=
  (w.sleep (.playing stream) actor d).2

variable (w : World ι Nat) (stream : Stream ι) (actor : Option Nat) (r : ι.Request) (d : Duration)
  (token : Token)

@[simp] theorem env_asked : (w.asked stream actor r).env = w.env + 1 := rfl

@[simp] theorem clock_asked :
    (w.asked stream actor r).clock = w.clock.advance (stream w.env r).1 := rfl

@[simp] theorem cancelled_asked : (w.asked stream actor r).cancelled token = w.cancelled token := by
  cases token <;> rfl

@[simp] theorem env_napped : (w.napped stream actor d).env = w.env := rfl

@[simp] theorem clock_napped : (w.napped stream actor d).clock = w.clock.advance d := rfl

@[simp] theorem cancelled_napped :
    (w.napped stream actor d).cancelled token = w.cancelled token := by
  cases token <;> rfl

theorem follows_asked : (w.asked stream actor r).Follows w :=
  (follows_issue _ w actor r).trans (follows_note ..)

theorem follows_napped : (w.napped stream actor d).Follows w := follows_sleep _ w actor d

theorem since_asked : (w.asked stream actor r).since w =
    [⟨w.clock, actor, .issued r⟩,
      ⟨w.clock.advance (stream w.env r).1, actor, .returned r (stream w.env r).2⟩] := by
  have hhistory : (w.asked stream actor r).history =
      ⟨w.clock.advance (stream w.env r).1, actor, .returned r (stream w.env r).2⟩ ::
        ⟨w.clock, actor, .issued r⟩ :: w.history := rfl
  simp only [since, hhistory, List.length_cons, Nat.add_assoc, Nat.add_sub_cancel_left]
  rfl

theorem since_napped : (w.napped stream actor d).since w = [⟨w.clock, actor, .slept d⟩] := by
  have hhistory : (w.napped stream actor d).history = ⟨w.clock, actor, .slept d⟩ :: w.history := rfl
  simp [since, hhistory]

/-- The polls since a call are those after it and its own. -/
theorem polls_since_asked {later : World ι Nat} (h : later.Follows (w.asked stream actor r)) :
    polls (later.since w) = w.clock.nanos :: polls (later.since (w.asked stream actor r)) := by
  rw [(w.follows_asked stream actor r).since_trans h, since_asked, polls_append]
  rfl

theorem naps_since_asked {later : World ι Nat} (h : later.Follows (w.asked stream actor r)) :
    naps (later.since w) = naps (later.since (w.asked stream actor r)) := by
  rw [(w.follows_asked stream actor r).since_trans h, since_asked, naps_append]
  rfl

/-- The polls since a call and the pause after it are the ones after both and its own. -/
theorem polls_since_round {later : World ι Nat}
    (h : later.Follows ((w.asked stream actor r).napped stream actor d)) :
    polls (later.since w) =
      w.clock.nanos :: polls (later.since ((w.asked stream actor r).napped stream actor d)) := by
  have hnap := (w.asked stream actor r).follows_napped stream actor d
  rw [polls_since_asked w stream actor r (hnap.trans h), hnap.since_trans h, since_napped,
    polls_append]
  rfl

theorem naps_since_round {later : World ι Nat}
    (h : later.Follows ((w.asked stream actor r).napped stream actor d)) :
    naps (later.since w) =
      d.nanos :: naps (later.since ((w.asked stream actor r).napped stream actor d)) := by
  have hnap := (w.asked stream actor r).follows_napped stream actor d
  rw [naps_since_asked w stream actor r (hnap.trans h), hnap.since_trans h, since_napped,
    naps_append]
  rfl

end World

section Steps

variable (stream : Stream ι) (token : Token) (actor : Option Nat) (s : σ) (w : World ι Nat)

theorem run_call_playing (r : ι.Request) (next : Except ClientError (ι.Reply r) → Process ι σ α) :
    run (.playing stream) token actor (.call r next) s w =
      run (.playing stream) token actor (next (stream w.env r).2) s (w.asked stream actor r) := by
  rw [run_call]
  rfl

theorem run_pause_playing (d : Duration) (next : Rest → Process ι σ α)
    (h : w.cancelled token = false) :
    run (.playing stream) token actor (.pause d next) s w =
      run (.playing stream) token actor (next .elapsed) s (w.napped stream actor d) := by
  have hrest : (w.napped stream actor d).restEnd token = .elapsed := by simp [World.restEnd, h]
  rw [run_pause, h, ← hrest]
  rfl

end Steps

end GatedRollout
