import GatedRollout.Process.Run

/-!
# Running processes side by side

A fan-out runs several processes on one thread, first come first served. The front process runs
until it yields and then goes to the back; one that ends or hangs leaves the queue. Since the
queue keeps its cyclic order, this is the same as driving the front process to its end, with one
turn for each later process wherever it yields, and then doing the same with the next: each
process is followed by recursion on its own tree, and no bound on the number of turns is needed.

A panic in any process ends the fan-out at once, with the others left where they are.
-/

namespace GatedRollout

variable {ι : Interface} {S σ α : Type}

/-! ## Turns -/

/-- Where a process stands between two of its turns. -/
inductive Stage (ι : Interface) (σ α : Type)
  | ready (p : Process ι σ α)
  /-- Its call has been reacted to, and it yields so many times more before the call ends. -/
  | calling (yields : Nat) (r : ι.Request) (effect : Effect (ι.Reply r))
      (next : Except ClientError (ι.Reply r) → Process ι σ α)
  /-- It has slept, and yields so many times more before it looks at its token. -/
  | resting (yields : Nat) (next : Rest → Process ι σ α)
  | finished (a : α)
  | hung

namespace Stage

def isFinished : Stage ι σ α → Bool
  | finished _ => true
  | _ => false

def isHung : Stage ι σ α → Bool
  | hung => true
  | _ => false

end Stage

inductive Turn (α : Type)
  /-- The process yielded, hung, or had nothing to do. -/
  | passed
  | finished (a : α)
  | panicked (message : String)

structure Member (ι : Interface) (σ α : Type) where
  actor : Nat
  state : σ
  stage : Stage ι σ α

/-- A turn that begins in the middle of a process: run it until it yields. -/
def takeTurn (env : Environment ι S) (token : Token) (actor : Nat) :
    Process ι σ α → σ → World ι S → Turn α × Member ι σ α × World ι S
  | .done a, s, w => (.finished a, ⟨actor, s, .finished a⟩, w)
  | .call r next, s, w =>
      let (reaction, w) := w.issue env (some actor) r
      match reaction.yields, reaction.effect with
      | 0, .answer a =>
          takeTurn env token actor (next a) s (w.note (some actor) (.returned r a))
      | 0, .panic message => (.panicked message, ⟨actor, s, .hung⟩, w)
      | 0, .hang => (.passed, ⟨actor, s, .hung⟩, w)
      | n + 1, effect => (.passed, ⟨actor, s, .calling n r effect next⟩, w)
  | .pause d next, s, w =>
      if w.cancelled token then takeTurn env token actor (next .cancelled) s w
      else
        let (waking, w) := w.sleep env (some actor) d
        (.passed, ⟨actor, s, .resting waking.yields next⟩, w)
  | .look next, s, w => takeTurn env token actor (next ⟨w.clock, w.cancelled token, s⟩) s w
  | .put s next, _, w => takeTurn env token actor next s w
  | .panic message, s, w => (.panicked message, ⟨actor, s, .hung⟩, w)
  | .stall, s, w => (.passed, ⟨actor, s, .hung⟩, w)

namespace Member

def turn (env : Environment ι S) (token : Token) (m : Member ι σ α) (w : World ι S) :
    Turn α × Member ι σ α × World ι S :=
  match m.stage with
  | .ready p => takeTurn env token m.actor p m.state w
  | .calling (n + 1) r effect next =>
      (.passed, { m with stage := .calling n r effect next }, w)
  | .calling 0 r (.answer a) next =>
      takeTurn env token m.actor (next a) m.state (w.note (some m.actor) (.returned r a))
  | .calling 0 _ (.panic message) _ => (.panicked message, { m with stage := .hung }, w)
  | .calling 0 _ .hang _ => (.passed, { m with stage := .hung }, w)
  | .resting (n + 1) next => (.passed, { m with stage := .resting n next }, w)
  | .resting 0 next => takeTurn env token m.actor (next (w.restEnd token)) m.state w
  | .finished _ => (.passed, m, w)
  | .hung => (.passed, m, w)

end Member

/-! ## Rounds -/

/-- The processes of a fan-out, and what the finished ones returned, in the order in which they
finished. -/
structure Crew (ι : Interface) (σ α : Type) where
  members : List (Member ι σ α)
  results : List (Nat × α)

def Crew.takeTurns (env : Environment ι S) (token : Token) :
    List (Member ι σ α) → List (Nat × α) → World ι S →
      Option String × Crew ι σ α × World ι S
  | [], results, w => (none, ⟨[], results⟩, w)
  | m :: rest, results, w =>
      match m.turn env token w with
      | (.panicked message, m, w) => (some message, ⟨m :: rest, results⟩, w)
      | (.passed, m, w) =>
          let (panic, crew, w) := takeTurns env token rest results w
          (panic, { crew with members := m :: crew.members }, w)
      | (.finished a, m, w) =>
          let (panic, crew, w) := takeTurns env token rest (results ++ [(m.actor, a)]) w
          (panic, { crew with members := m :: crew.members }, w)

def Crew.round (env : Environment ι S) (token : Token) : Interlude ι S (Crew ι σ α) :=
  fun crew w => Crew.takeTurns env token crew.members crew.results w

/-! ## Fan-outs -/

/-- What the end of the front process means for its member and for the results. -/
def Driven.asMember (actor : Nat) (d : Driven ι S σ α (Crew ι σ α)) :
    Driven ι S (Member ι σ α) Unit (Crew ι σ α) :=
  match d.ending with
  | .returned a =>
      ⟨.returned (), ⟨actor, d.state, .finished a⟩,
        { d.others with results := d.others.results ++ [(actor, a)] }, d.world⟩
  | .panicked message => ⟨.panicked message, ⟨actor, d.state, .hung⟩, d.others, d.world⟩
  | .hung => ⟨.hung, ⟨actor, d.state, .hung⟩, d.others, d.world⟩

def Member.conclude (env : Environment ι S) (token : Token) (m : Member ι σ α)
    (others : Crew ι σ α) (w : World ι S) : Driven ι S (Member ι σ α) Unit (Crew ι σ α) :=
  let relax := Crew.round env token
  let resume (p : Process ι σ α) (others : Crew ι σ α) (w : World ι S) :=
    (drive env token (some m.actor) relax p m.state others w).asMember m.actor
  match m.stage with
  | .ready p => resume p others w
  | .calling n r effect next =>
      match relax.times n others w with
      | (some message, others, w) => ⟨.panicked message, m, others, w⟩
      | (none, others, w) =>
          match effect with
          | .answer a => resume (next a) others (w.note (some m.actor) (.returned r a))
          | .panic message => ⟨.panicked message, { m with stage := .hung }, others, w⟩
          | .hang => ⟨.hung, { m with stage := .hung }, others, w⟩
  | .resting n next =>
      match relax.times n others w with
      | (some message, others, w) => ⟨.panicked message, m, others, w⟩
      | (none, others, w) => resume (next (w.restEnd token)) others w
  | .finished _ => ⟨.returned (), m, others, w⟩
  | .hung => ⟨.hung, m, others, w⟩

/-- How a fan-out ended, and what it left behind. The results stand in the order in which the
processes finished, the states in the order of the processes. -/
structure Gathered (ι : Interface) (S σ α : Type) where
  ending : Ending (List (Nat × α))
  states : List σ
  world : World ι S

def Crew.conclude (env : Environment ι S) (token : Token) :
    Nat → List (Member ι σ α) → Crew ι σ α → World ι S → Gathered ι S σ α
  | n + 1, past, ⟨m :: rest, results⟩, w =>
      let d := m.conclude env token ⟨rest, results⟩ w
      match d.ending with
      | .panicked message =>
          ⟨.panicked message,
            (past.reverse ++ d.state :: d.others.members).map (·.state), d.world⟩
      | _ => conclude env token n (d.state :: past) d.others d.world
  | _, past, crew, w =>
      let all := past.reverse ++ crew.members
      let ending := if all.all (·.stage.isFinished) then .returned crew.results else .hung
      ⟨ending, all.map (·.state), w⟩

def Crew.assemble (crew : List (Process ι σ α × σ)) : Crew ι σ α :=
  ⟨crew.mapIdx fun i (p, s) => ⟨i, s, .ready p⟩, []⟩

/-- Run every process to its end, all of them side by side. A fan-out of which some process hangs
has run every other process to its end. -/
def fanOut (env : Environment ι S) (token : Token) (crew : List (Process ι σ α × σ))
    (w : World ι S) : Gathered ι S σ α :=
  Crew.conclude env token crew.length [] (Crew.assemble crew) w

/-- Give every process a turn, and so many more in rounds, and leave it at that. The fan-out has
returned if every process has finished by then; otherwise it is cut off, which its ending `hung`
says. Since the environment decides in how many turns a call or a pause is over, a cut between two
rounds leaves each process in any call or pause of its own. -/
def fanOutFor (env : Environment ι S) (token : Token) (rounds : Nat)
    (crew : List (Process ι σ α × σ)) (w : World ι S) : Gathered ι S σ α :=
  let (panic, crew, w) := (Crew.round env token).times (rounds + 1) (Crew.assemble crew) w
  let ending := match panic with
    | some message => .panicked message
    | none =>
        if crew.members.all (·.stage.isFinished) then .returned crew.results else .hung
  ⟨ending, crew.members.map (·.state), w⟩

def fanOutWithin (env : Environment ι S) (token : Token) :
    Option Nat → List (Process ι σ α × σ) → World ι S → Gathered ι S σ α
  | none => fanOut env token
  | some rounds => fanOutFor env token rounds

end GatedRollout
