import GatedRollout.Wire.Codec
import Mathlib.Data.List.Forall2
import Mathlib.Data.List.Nodup

/-!
# Spellings of a document

The document of a value can be spelled in more than one way. The members of an object stand in any
order; a record may have members by names that it does not know; and a member may be left out that
holds the value which stands for its absence. All of this may be so at any depth. What a codec
writes is one of the spellings.
-/

namespace GatedRollout

mutual

/-- The document is made from the one of this value by a change of its spelling. -/
def Codec.Spells {α : Type} : Codec α → α → Json → Prop
  | .plain write _, a, j => j = write a
  | .optional codec, a, j =>
      match a with
      | none => j = .null
      | some a => codec.Spells a j
  | .list codec, as, j => ∃ items, j = .arr items ∧ List.Forall₂ codec.Spells as items
  | .table, table, j =>
      ∃ m : Members, j = .obj m ∧ m.Perm (table.map fun (key, value) => (key, .str value))
  | .record _ fields, r, j =>
      ∃ m kept added : Members, j = .obj m ∧ m.Perm (kept ++ added) ∧ fields.Keeps r kept ∧
        ∀ member ∈ added, member.1 ∉ fields.names

/-- These are the members of this record without some that hold what stands for their absence. -/
def Fields.Keeps {ρ β : Type} : Fields ρ β → ρ → Members → Prop
  | .done, _, kept => kept = []
  | .member codec name get absent rest, r, kept =>
      (∃ j others, kept = (name, j) :: others ∧ codec.Spells (get r) j ∧ rest.Keeps r others) ∨
        absent = some (get r) ∧ rest.Keeps r kept

end

namespace Fields.Keeps

variable {ρ α β : Type} {codec : Codec α} {name : String} {get : ρ → α} {absent : Option α}
  {rest : Fields ρ β} {r : ρ}

theorem done : (Fields.done : Fields ρ ρ).Keeps r [] := rfl

theorem keep {j : Json} {others : Members} (h : codec.Spells (get r) j)
    (hothers : rest.Keeps r others) :
    (Fields.member codec name get absent rest).Keeps r ((name, j) :: others) :=
  Or.inl ⟨j, others, rfl, h, hothers⟩

theorem leave {kept : Members} (h : absent = some (get r)) (hkept : rest.Keeps r kept) :
    (Fields.member codec name get absent rest).Keeps r kept :=
  Or.inr ⟨h, hkept⟩

end Fields.Keeps

mutual

/-- What a codec writes is a spelling of itself. -/
theorem Codec.spells_encode {α : Type} :
    ∀ (codec : Codec α) (a : α), codec.Spells a (codec.encode a)
  | .plain .., _ => rfl
  | .optional codec, a => by
      cases a with
      | none => rfl
      | some a => exact codec.spells_encode a
  | .list codec, as => by
      refine ⟨as.map codec.encode, rfl, ?_⟩
      rw [List.forall₂_map_right_iff, List.forall₂_same]
      exact fun a _ => codec.spells_encode a
  | .table, _ => ⟨_, rfl, .refl _⟩
  | .record _ fields, r => by
      refine ⟨fields.write r, fields.write r, [], rfl, ?_, fields.keeps_write r, by simp⟩
      rw [List.append_nil]

theorem Fields.keeps_write {ρ β : Type} :
    ∀ (fields : Fields ρ β) (r : ρ), fields.Keeps r (fields.write r)
  | .done, _ => .done
  | .member codec _ get _ rest, r => .keep (codec.spells_encode (get r)) (rest.keeps_write r)

end

/-- The members that are kept stand in their order, and none of them twice. -/
theorem Fields.Keeps.sublist {ρ β : Type} :
    ∀ {fields : Fields ρ β} {r : ρ} {kept : Members}, fields.Keeps r kept →
      (kept.map Prod.fst).Sublist fields.names
  | .done, _, _, h => by
      obtain rfl : _ = [] := h
      exact .slnil
  | .member .., _, _, h => by
      rcases h with ⟨j, others, rfl, -, hrest⟩ | ⟨-, hrest⟩
      · exact hrest.sublist.cons_cons _
      · exact hrest.sublist.cons _

/-! ## Looking up members -/

section Lookup

variable {γ : Type} {m kept added : List (String × γ)} {name : String}

theorem lookup_eq_some_iff_mem (hunique : ∀ c c', (name, c) ∈ m → (name, c') ∈ m → c = c')
    (c : γ) : m.lookup name = some c ↔ (name, c) ∈ m := by
  constructor
  · intro hlookup
    obtain ⟨before, after, hm, -⟩ := List.lookup_eq_some_iff.mp hlookup
    simp [hm]
  · intro hmem
    cases hlookup : m.lookup name with
    | none => simpa using List.lookup_eq_none_iff.mp hlookup _ hmem
    | some c' =>
        obtain ⟨before, after, hm, -⟩ := List.lookup_eq_some_iff.mp hlookup
        exact congrArg some (hunique c' c (by simp [hm]) hmem)

/-- Where members by different names stand in any order among others, each of them is found. -/
theorem lookup_eq_of_perm (hperm : m.Perm (kept ++ added)) (hkept : (kept.map Prod.fst).Nodup)
    (hadded : ∀ member ∈ added, member.1 ≠ name) : m.lookup name = kept.lookup name := by
  have hmem : ∀ c, (name, c) ∈ m ↔ (name, c) ∈ kept := by
    intro c
    rw [hperm.mem_iff, List.mem_append, or_iff_left fun h => hadded _ h rfl]
  have hunique : ∀ c c', (name, c) ∈ kept → (name, c') ∈ kept → c = c' := by
    intro c c' hc hc'
    exact congrArg Prod.snd (List.inj_on_of_nodup_map hkept hc hc' rfl)
  ext1 c
  rw [lookup_eq_some_iff_mem hunique, lookup_eq_some_iff_mem, hmem]
  simpa only [hmem] using hunique

end Lookup

end GatedRollout
