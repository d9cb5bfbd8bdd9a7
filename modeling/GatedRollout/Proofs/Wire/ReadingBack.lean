import GatedRollout.Proofs.Wire.Spelling
import Mathlib.Data.List.Perm.Basic

/-!
# Reading documents back

A codec reads a value back if it reads every spelling of the value's document, and reads it as it
should. For a value written in one piece that is a matter of its own. A list, an optional value and
a record are read back because what is in them is, however their codecs are put together. `Exact`
are the types of which every value is read back as itself.
-/

namespace GatedRollout

variable {α ρ β : Type}

/-- However the document of this value is spelled, it is read as a value with the property. -/
def Codec.ReadsBack (codec : Codec α) (a : α) (P : α → Prop) : Prop :=
  ∀ j, codec.Spells a j → ∃ a', codec.decode j = some a' ∧ P a'

/-- A record is made with the property, whatever the members of this one are read back as. -/
def Fields.ReadsBack {ρ β : Type} : Fields ρ β → β → ρ → (ρ → Prop) → Prop
  | .done, made, _, P => P made
  | .member codec _ get _ rest, make, r, P =>
      ∃ Q : _ → Prop, Q (get r) ∧ codec.ReadsBack (get r) Q ∧
        ∀ a, Q a → rest.ReadsBack (make a) r P

theorem Codec.ReadsBack.decode_encode {codec : Codec α} {a : α} (h : codec.ReadsBack a (· = a)) :
    codec.decode (codec.encode a) = some a := by
  obtain ⟨a', hdecode, rfl⟩ := h _ (codec.spells_encode a)
  exact hdecode

/-! ## Codecs but those of records -/

theorem Codec.readsBack_plain {write : α → Json} {read : Json → Option α} {a : α}
    (h : read (write a) = some a) : (Codec.plain write read).ReadsBack a (· = a) := by
  rintro j rfl
  exact ⟨a, h, rfl⟩

theorem Codec.ReadsBack.optional {codec : Codec α} (hnull : codec.decode .null = none)
    {a : Option α} (h : ∀ b ∈ a, codec.ReadsBack b (· = b)) :
    (Codec.optional codec).ReadsBack a (· = a) := by
  intro j hj
  cases a with
  | none =>
      obtain rfl : j = .null := hj
      exact ⟨none, rfl, rfl⟩
  | some a =>
      obtain ⟨a', hdecode, rfl⟩ := h a rfl j hj
      refine ⟨some a', ?_, rfl⟩
      cases j with
      | null => rw [hnull] at hdecode; cases hdecode
      | _ => simp only [Codec.decode, hdecode, Option.map_some]

theorem Codec.ReadsBack.list {codec : Codec α} {as : List α}
    (h : ∀ a ∈ as, codec.ReadsBack a (· = a)) : (Codec.list codec).ReadsBack as (· = as) := by
  rintro _ ⟨items, rfl, hitems⟩
  refine ⟨as, ?_, rfl⟩
  simp only [Codec.decode]
  induction hitems with
  | nil => rfl
  | cons hitem _ ih =>
      obtain ⟨a', hdecode, rfl⟩ := h _ List.mem_cons_self _ hitem
      rw [List.mapM_cons, hdecode, ih fun a ha => h a (List.mem_cons_of_mem _ ha)]
      rfl

theorem decodeTable_encodeTable (table : List (String × String)) :
    Wire.decodeTable (Wire.encodeTable table) = some table := by
  simp only [Wire.decodeTable, Wire.encodeTable]
  induction table with
  | nil => rfl
  | cons entry table ih =>
      rw [List.map_cons, List.mapM_cons, ih]
      rfl

/-- The entries of a table are read in the order in which they stand in its document. -/
theorem Codec.readsBack_table (table : List (String × String)) :
    Codec.table.ReadsBack table (·.Perm table) := by
  rintro _ ⟨m, rfl, hperm⟩
  have hcomp := congrFun₂ (List.eq_map_comp_perm fun entry => (entry.1, Json.str entry.2)) m table
  obtain ⟨table', rfl, hperm'⟩ := hcomp.mpr hperm
  exact ⟨table', decodeTable_encodeTable table', hperm'⟩

/-! ## Records -/

/-- A record is read from nothing but the members that its names look up. -/
theorem Fields.read_congr {ρ β : Type} :
    ∀ (fields : Fields ρ β) (make : β) {m m' : Members},
      (∀ name ∈ fields.names, m.lookup name = m'.lookup name) →
        fields.read make m = fields.read make m'
  | .done, _, _, _, _ => rfl
  | .member codec name get absent rest, make, m, m', h => by
      have hrest : ∀ a, rest.read (make a) m = rest.read (make a) m' := fun a =>
        rest.read_congr (make a) fun other hother => h other (List.mem_cons_of_mem _ hother)
      simp only [Fields.read, h name List.mem_cons_self, hrest]

/-- A member under another name in front is not read. -/
theorem Fields.read_cons (fields : Fields ρ β) (make : β) {name : String} (j : Json)
    (others : Members) (h : name ∉ fields.names) :
    fields.read make ((name, j) :: others) = fields.read make others := by
  refine fields.read_congr make fun other hother => ?_
  have hne : other ≠ name := fun heq => h (heq ▸ hother)
  simp [List.lookup_cons, beq_eq_false_iff_ne.mpr hne]

theorem Fields.read_keeps {ρ β : Type} :
    ∀ (fields : Fields ρ β) (make : β) {r : ρ} {kept : Members} {P : ρ → Prop},
      fields.names.Nodup → fields.Keeps r kept → fields.ReadsBack make r P →
        ∃ r', fields.read make kept = some r' ∧ P r'
  | .done, made, _, _, _, _, _, hreads => ⟨made, rfl, hreads⟩
  | .member codec name get absent rest, make, r, kept, P, hnames, hkept, hreads => by
      obtain ⟨hname, hrest⟩ := List.nodup_cons.mp hnames
      obtain ⟨Q, hown, hback, hnext⟩ := hreads
      rcases hkept with ⟨j, others, rfl, hj, hothers⟩ | ⟨rfl, hothers⟩
      · obtain ⟨a, hdecode, ha⟩ := hback j hj
        obtain ⟨r', hread, hr'⟩ := rest.read_keeps (make a) hrest hothers (hnext a ha)
        refine ⟨r', ?_, hr'⟩
        simp only [Fields.read, List.lookup_cons_self, hdecode, Option.bind_eq_bind,
          Option.bind_some]
        rw [rest.read_cons (make a) j others hname, hread]
      · obtain ⟨r', hread, hr'⟩ := rest.read_keeps (make (get r)) hrest hothers (hnext _ hown)
        refine ⟨r', ?_, hr'⟩
        have hlookup : kept.lookup name = none := by
          refine List.lookup_eq_none_iff.mpr fun member hmember => ?_
          have hknown := hothers.sublist.mem (List.mem_map_of_mem hmember)
          have hne : name ≠ member.1 := fun heq => hname (heq ▸ hknown)
          simpa using hne
        simp only [Fields.read, hlookup, Option.bind_eq_bind, Option.bind_some]
        exact hread

theorem Codec.ReadsBack.record {make : β} {fields : Fields ρ β} {r : ρ} {P : ρ → Prop}
    (hnames : fields.names.Nodup) (h : fields.ReadsBack make r P) :
    (Codec.record make fields).ReadsBack r P := by
  rintro _ ⟨m, kept, added, rfl, hperm, hkept, hadded⟩
  have hlookup : ∀ name ∈ fields.names, m.lookup name = kept.lookup name := by
    intro name hname
    refine lookup_eq_of_perm hperm (hkept.sublist.nodup hnames) fun member hmember heq => ?_
    exact hadded member hmember (heq ▸ hname)
  have hread : (Codec.record make fields).decode (.obj m) = fields.read make m := rfl
  rw [hread, fields.read_congr make hlookup]
  exact fields.read_keeps make hnames hkept h

/-- A record is read from the members that are kept of it. -/
theorem Codec.ReadsBack.decode_kept {make : β} {fields : Fields ρ β} {r : ρ} {kept : Members}
    (h : (Codec.record make fields).ReadsBack r (· = r)) (hkept : fields.Keeps r kept) :
    (Codec.record make fields).decode (.obj kept) = some r := by
  have hperm : kept.Perm (kept ++ []) := by rw [List.append_nil]
  obtain ⟨r', hdecode, rfl⟩ := h _ ⟨kept, kept, [], rfl, hperm, hkept, nofun⟩
  exact hdecode

/-! ## Exact types -/

/-- Every value is read back as itself. -/
class Exact (α : Type) [Wire α] : Prop where
  readsBack : ∀ a : α, (Wire.codec : Codec α).ReadsBack a (· = a)

/-- No value is read from `null`. -/
class NeverNull (α : Type) [Wire α] : Prop where
  decode_null : (Wire.codec : Codec α).decode .null = none

instance [Wire α] [Exact α] [NeverNull α] : Exact (Option α) where
  readsBack _ := .optional NeverNull.decode_null fun b _ => Exact.readsBack b

instance [Wire α] [Exact α] : Exact (List α) where
  readsBack _ := .list fun a _ => Exact.readsBack a

/-- The record that is made of the members of this one. -/
def Fields.build {ρ β : Type} : Fields ρ β → β → ρ → ρ
  | .done, made, _ => made
  | .member _ _ get _ rest, make, r => rest.build (make (get r)) r

/-- Every member is read back as itself. -/
class Fields.Exact (fields : Fields ρ β) : Prop where
  readsBack : ∀ (make : β) (r : ρ), fields.ReadsBack make r (· = fields.build make r)

instance : (Fields.done : Fields ρ ρ).Exact := ⟨fun _ _ => rfl⟩

theorem Fields.readsBack_member {codec : Codec α} {get : ρ → α} {r : ρ}
    (h : codec.ReadsBack (get r) (· = get r)) (name : String) (absent : Option α)
    (rest : Fields ρ β) [rest.Exact] (make : α → β) :
    (Fields.member codec name get absent rest).ReadsBack make r
      (· = rest.build (make (get r)) r) := by
  refine ⟨(· = get r), rfl, h, ?_⟩
  rintro _ rfl
  exact Fields.Exact.readsBack (make (get r)) r

instance [Wire α] [Exact α] {name : String} {get : ρ → α} {absent : Option α}
    {rest : Fields ρ β} [rest.Exact] : (Fields.member Wire.codec name get absent rest).Exact where
  readsBack make r := Fields.readsBack_member (Exact.readsBack (get r)) name absent rest make

/-- Records are exact whose members are exact and go by different names. -/
theorem Exact.of_record [Wire ρ] {make : β} {fields : Fields ρ β}
    (hcodec : (Wire.codec : Codec ρ) = .record make fields) (hnames : fields.names.Nodup)
    (hmake : ∀ r, fields.build make r = r) [fields.Exact] : Exact ρ where
  readsBack r := by
    rw [hcodec]
    refine .record hnames ?_
    have hreads : fields.ReadsBack make r (· = fields.build make r) :=
      Fields.Exact.readsBack make r
    rwa [hmake] at hreads

end GatedRollout
