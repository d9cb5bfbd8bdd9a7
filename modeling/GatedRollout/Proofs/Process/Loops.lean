import GatedRollout.Proofs.Process.Watch
import GatedRollout.Proofs.Process.Winding

/-!
# Polling loops

A polling loop makes the same request again and again, with a pause before each request but the
first. Whatever a watch does is such a loop. Where a process winds down, a loop that the token finds
running makes no further request, and one that begins afterwards makes a single one.
-/

namespace GatedRollout

variable {ι : Interface} {S σ α β γ : Type} {y z : List (Event ι)} {r : ι.Request}

/-! ## Stretches of loops -/

/-- These deeds are a stretch of a polling loop. -/
structure Polls (r : ι.Request) (y : List (Event ι)) : Prop where
  about : ∀ e ∈ y, e.IsAbout r
  /-- Before a request is a pause, or the beginning. -/
  paused : ∀ first rest, y = first ++ .issued r :: rest → AtRest true first

theorem polls_nil (r : ι.Request) : Polls r [] := ⟨nofun, by simp⟩

theorem Polls.snoc (h : Polls r y) {e : Event ι} (habout : e.IsAbout r)
    (hpaused : e = .issued r → AtRest true y) : Polls r (y ++ [e]) := by
  refine ⟨List.forall_mem_append.mpr ⟨h.about, List.forall_mem_singleton.mpr habout⟩, ?_⟩
  intro first rest heq
  rcases List.eq_nil_or_concat rest with rfl | ⟨rest, last, rfl⟩
  · obtain ⟨rfl, he⟩ := List.append_inj' heq rfl
    exact hpaused (List.singleton_inj.mp he)
  · rw [List.concat_eq_append, ← List.cons_append, ← List.append_assoc] at heq
    exact h.paused first rest (List.append_inj' heq rfl).1

/-- Whatever a watch does is a polling loop. -/
theorem polls_watch (watch : Watch ι β γ) (patience : Nat) (s : σ) :
    Secures recorded (fun _ y => Polls watch.request y) (fun _ _ y => Polls watch.request y)
      (watch.run patience : Process ι σ _) s [] := by
  intro now cancelled
  refine Process.Obeys.poll (fun _ _ c => c.1 = s ∧ Polls watch.request c.2 ∧ AtRest true c.2)
    ?_ ?_ ⟨rfl, polls_nil _, .inl ⟨rfl, rfl⟩⟩
  · rintro seen ⟨_, y⟩ ⟨rfl, hy, -⟩
    exact hy
  · rintro n seen ⟨_, y⟩ ⟨rfl, hy, hpaused⟩ _ rfl
    have hissued : Polls watch.request (y ++ [.issued watch.request]) :=
      hy.snoc rfl fun _ => hpaused
    refine ⟨hissued, ?_⟩
    rintro answer _ rfl
    have hreturned := hissued.snoc (e := .returned watch.request answer) rfl nofun
    cases answer with
    | error e => exact hreturned
    | ok reply =>
        dsimp only [Watch.Requires]
        cases watch.judge seen reply with
        | settled b => exact hreturned
        | pending seen' =>
            intro now cancelled
            dsimp only
            split
            · exact hreturned
            · refine ⟨hreturned, ?_⟩
              rintro _ rfl
              generalize Deadline.nextInterval _ now watch.interval = d
              have hslept := hreturned.snoc (e := .slept d) trivial nofun
              refine ⟨hslept, fun rest => ?_⟩
              cases rest with
              | elapsed => exact ⟨rfl, hslept, .inr ⟨_, List.getLast?_concat⟩⟩
              | cancelled => exact hslept

/-- So it is from any world on, and with either token. -/
theorem run_polls (watch : Watch ι β γ) (patience : Nat) (env : Environment ι S) (token : Token)
    (actor : Option Nat) (s : σ) (w : World ι S) : ∃ loop,
      (run env token actor (watch.run patience) s w).world.deeds actor = w.deeds actor ++ loop ∧
        Polls watch.request loop := by
  obtain ⟨loop, hdeeds, hsecured⟩ :=
    (polls_watch watch patience s).run env token actor (List.append_nil _).symm
  refine ⟨loop, hdeeds, ?_⟩
  exact hsecured.elim

/-! ## Loops without pauses -/

theorem Wakeful.not_atRest (h : Wakeful y) : ¬AtRest false y := by
  rintro (⟨hfalse, -⟩ | ⟨d, hlast⟩)
  · cases hfalse
  · exact Bool.noConfusion (h _ (List.mem_of_getLast? hlast))

theorem AtRest.of_append {pausesFirst : Bool} (h : AtRest pausesFirst (y ++ z)) (hz : z ≠ []) :
    AtRest false z := by
  rcases h with ⟨-, hnil⟩ | ⟨d, hlast⟩
  · exact absurd (List.append_eq_nil_iff.mp hnil).2 hz
  · obtain ⟨e, he⟩ : ∃ e, z.getLast? = some e := ⟨_, List.getLast?_eq_some_getLast hz⟩
    rw [List.getLast?_append, he] at hlast
    exact .inr ⟨d, he.trans hlast⟩

theorem AtRest.append (h : AtRest false z) (y : List (Event ι)) : AtRest false (y ++ z) := by
  rcases h with ⟨hfalse, -⟩ | ⟨d, hlast⟩
  · cases hfalse
  · refine .inr ⟨d, ?_⟩
    rw [List.getLast?_append, hlast]
    rfl

/-- A loop that has polled and does not rest polls no more without a pause. -/
theorem Polls.requests_eq_nil (h : Polls r (y ++ z)) (hy : y ≠ []) (hrest : ¬AtRest false y)
    (hz : Wakeful z) : requests z = [] := by
  refine List.eq_nil_iff_forall_not_mem.mpr fun r' hr' => ?_
  have hmem := mem_requests.mp hr'
  obtain rfl : r' = r := h.about _ (List.mem_append_right y hmem)
  obtain ⟨first, rest, rfl⟩ := List.append_of_mem hmem
  have hpaused := h.paused (y ++ first) rest (List.append_assoc ..).symm
  cases first with
  | nil =>
      rw [List.append_nil] at hpaused
      exact hrest (AtRest.of_append (y := []) hpaused hy)
  | cons e first =>
      have hwakeful : Wakeful (e :: first) := fun e' he' => hz e' (List.mem_append_left _ he')
      exact hwakeful.not_atRest (hpaused.of_append nofun)

/-- Without a pause a loop polls once at most. -/
theorem Polls.length_requests_le (h : Polls r y) (hwakeful : Wakeful y) :
    (requests y).length ≤ 1 := by
  cases y with
  | nil => exact Nat.zero_le 1
  | cons e rest =>
      have hfirst : Wakeful [e] := fun e' he' => hwakeful e' (List.mem_cons.mpr (by simp_all))
      have hnone : requests rest = [] :=
        Polls.requests_eq_nil (y := [e]) h nofun hfirst.not_atRest fun e' he' =>
          hwakeful e' (List.mem_cons_of_mem e he')
      have hsplit : requests (e :: rest) = requests [e] ++ requests rest := requests_append [e] rest
      rw [hsplit, hnone, List.append_nil]
      exact List.length_filterMap_le _ _

/-! ## Histories that wind down -/

/-- How a history winds down once the token has fired: nobody pauses any more, every loop that
begins makes a single request, and those that had begun make none. -/
structure WindsDown (before after : List (Entry ι)) : Prop where
  sleepless : Sleepless after
  polls_once : ∀ actor r loop, Polls r loop → loop <:+: deedsOf actor after →
    (requests loop).length ≤ 1
  polls_no_more : ∀ actor r past loop, Polls r (past ++ loop) → requests past ≠ [] →
    past <:+ deedsOf actor before → loop <+: deedsOf actor after → requests loop = []

theorem windsDown_of_affords {cost : ι.Request → Nat} {limit : Option Nat → Nat}
    {before after : List (Entry ι)}
    (h : ∀ actor, ((View.fired before after).deedsOf actor).Affords cost (limit actor) .spent) :
    WindsDown before after := by
  refine ⟨sleepless_of_deedsOf fun actor => (h actor).1, fun actor r loop hloop hpart => ?_,
    fun actor r past loop hloop hpast hend hstart => ?_⟩
  · exact hloop.length_requests_le fun e he => (h actor).1 e (hpart.subset he)
  · obtain ⟨hwakeful, -, hrest⟩ := h actor
    have hne : past ≠ [] := fun hnil => hpast (hnil ▸ rfl)
    by_cases hpaused : AtRest false past
    · obtain ⟨earlier, hbefore⟩ := hend
      obtain ⟨rest, hafter⟩ := hstart
      have hnone := (hrest (hbefore ▸ hpaused.append earlier)).1
      rw [← hafter, requests_append, List.append_eq_nil_iff] at hnone
      exact hnone.1
    · exact hloop.requests_eq_nil hne hpaused fun e he => hwakeful e (hstart.subset he)

/-- A process that winds down alone: what it asks for after the firing fills up its limit at most.
-/
theorem Process.Winds.run_windsDown {cost : ι.Request → Nat} {limit : Nat} {b : Budget}
    {left : α → Budget} {p : Process ι σ α} (h : p.Winds cost limit b left)
    (hfired : b.fired ≤ limit) (hunfired : b.unfired ≤ limit) (env : Environment ι S)
    (actor : Option Nat) (s : σ) (w : World ι S) {before after : List (Entry ι)}
    (hfires : FiresAt w.fired ((GatedRollout.run env .caller actor p s w).world.since w) before
      after) :
    WindsDown before after ∧
      charge cost (deedsOf actor before) + (requestsIn after).length ≤ limit := by
  have haffords := (h.run_winds hfired hunfired env actor s w).affords hfires
  refine ⟨windsDown_of_affords haffords, ?_⟩
  have hlone : ∀ other, other ≠ actor → (requests (deedsOf other after)).length = 0 := by
    intro other hother
    obtain ⟨-, hle, -⟩ := haffords other
    rw [if_neg hother] at hle
    omega
  obtain ⟨-, hle, -⟩ := haffords actor
  rw [if_pos rfl] at hle
  rwa [length_requestsIn_of_lone hlone]

end GatedRollout
