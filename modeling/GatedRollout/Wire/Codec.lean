/-!
# Codecs for the control plane's documents

An object keeps its members in the order in which they stand, and one is looked up by its first
occurrence. A number that is not written as an integer is kept as text, because no value of the
model holds one.

A codec describes how the values of a type are written as documents and read back. Reading follows
fixed rules.

* Nothing is converted: an integer is not read from a text or a decimal number, a text not from a
  number, and an integer has to lie in the range of its type.
* A record is an object, read by the names of its members, other members being ignored; or an
  array of its members in their order, which may stop early and holds nothing more.
* A member is either needed, or has a value that stands for its absence. Only an optional value
  is read from `null`.
* A choice is the text that names it, or an object with that name as its only member and the
  value `null`.
-/

namespace GatedRollout

/-! ## Documents -/

inductive Json
  | null
  | bool (b : Bool)
  | int (n : Int)
  | decimal (text : String)
  | str (s : String)
  | arr (items : List Json)
  | obj (members : List (String × Json))

namespace Json

instance : Inhabited Json := ⟨.null⟩

def ofNat (n : Nat) : Json := .int n

/-- An absent value is written `null`. -/
def ofOption {α : Type} (encode : α → Json) : Option α → Json
  | none => .null
  | some a => encode a

end Json

abbrev Members := List (String × Json)

/-! ## Descriptions -/

mutual

inductive Codec : Type → Type 1
  | plain {α : Type} (write : α → Json) (read : Json → Option α) : Codec α
  | optional {α : Type} (codec : Codec α) : Codec (Option α)
  | list {α : Type} (codec : Codec α) : Codec (List α)
  /-- A table from texts to texts, written as an object. -/
  | table : Codec (List (String × String))
  | record {ρ β : Type} (make : β) (fields : Fields ρ β) : Codec ρ

/-- The members of a record, in the order in which they are written. `Fields ρ β` has those that a
function of type `β` takes to make a record. -/
inductive Fields : Type → Type → Type 1
  | done {ρ : Type} : Fields ρ ρ
  /-- A member, with the value that stands for its absence, unless it is needed. -/
  | member {ρ α β : Type} (codec : Codec α) (name : String) (get : ρ → α) (absent : Option α)
      (rest : Fields ρ β) : Fields ρ (α → β)

end

def Fields.names {ρ β : Type} : Fields ρ β → List String
  | .done => []
  | .member _ name _ _ rest => name :: rest.names

/-! ## Writing -/

def Wire.encodeTable (table : List (String × String)) : Json :=
  .obj (table.map fun (key, value) => (key, .str value))

mutual

def Codec.encode {α : Type} : Codec α → α → Json
  | .plain write _, a => write a
  | .optional codec, a => Json.ofOption codec.encode a
  | .list codec, as => .arr (as.map codec.encode)
  | .table, table => Wire.encodeTable table
  | .record _ fields, r => .obj (fields.write r)

def Fields.write {ρ β : Type} : Fields ρ β → ρ → Members
  | .done, _ => []
  | .member codec name get _ rest, r => (name, codec.encode (get r)) :: rest.write r

end

/-! ## Reading -/

def Json.text? : Json → Option String
  | .str s => some s
  | _ => none

def Wire.decodeTable : Json → Option (List (String × String))
  | .obj members => members.mapM fun (key, j) => j.text?.map fun value => (key, value)
  | _ => none

/-- The members of a record of the given member names, however it is written. -/
def Json.members? (names : List String) : Json → Option Members
  | .obj members => some members
  | .arr items => if items.length ≤ names.length then some (names.zip items) else none
  | _ => none

mutual

def Codec.decode {α : Type} : Codec α → Json → Option α
  | .plain _ read, j => read j
  | .optional codec, j =>
      match j with
      | .null => some none
      | j => (codec.decode j).map some
  | .list codec, j =>
      match j with
      | .arr items => items.mapM codec.decode
      | _ => none
  | .table, j => Wire.decodeTable j
  | .record make fields, j => (j.members? fields.names).bind (fields.read make)

def Fields.read {ρ β : Type} : Fields ρ β → β → Members → Option ρ
  | .done, r, _ => some r
  | .member codec name _ absent rest, make, m => do
      let a ← match m.lookup name with
        | none => absent
        | some j => codec.decode j
      rest.read (make a) m

end

/-! ## The codec of a type -/

class Wire (α : Type) where
  codec : Codec α

namespace Wire

variable {α : Type} [Wire α]

def encode (a : α) : Json := codec.encode a

def decode (j : Json) : Option α := codec.decode j

instance : Wire String := ⟨.plain .str Json.text?⟩

instance : Wire Bool where
  codec := .plain .bool fun
    | .bool b => some b
    | _ => none

instance : Wire UInt16 where
  codec := .plain (fun n => .ofNat n.toNat) fun
    | .int n => if 0 ≤ n ∧ n < UInt16.size then some (UInt16.ofNat n.toNat) else none
    | _ => none

instance : Wire UInt32 where
  codec := .plain (fun n => .ofNat n.toNat) fun
    | .int n => if 0 ≤ n ∧ n < UInt32.size then some (UInt32.ofNat n.toNat) else none
    | _ => none

instance : Wire Int32 where
  codec := .plain (fun n => .int n.toInt) fun
    | .int n =>
        if Int32.minValue.toInt ≤ n ∧ n ≤ Int32.maxValue.toInt then some (Int32.ofInt n) else none
    | _ => none

instance : Wire (Option α) := ⟨.optional codec⟩

instance : Wire (List α) := ⟨.list codec⟩

end Wire

/-! ## Choices -/

def Json.choice? : Json → Option String
  | .str name => some name
  | .obj [(name, .null)] => some name
  | _ => none

namespace Codec

def choice {α : Type} (all : List α) (name : α → String) : Codec α :=
  .plain (fun a => .str (name a)) fun j =>
    j.choice?.bind fun chosen => all.find? fun a => name a == chosen

/-- As `choice`, with `other` for a name that none of them has. -/
def choiceOr {α : Type} (other : α) (all : List α) (name : α → String) : Codec α :=
  .plain (fun a => .str (name a)) fun j =>
    j.choice?.map fun chosen => (all.find? fun a => name a == chosen).getD other

end Codec

/-! ## Members -/

namespace Fields

variable {ρ α β : Type} [Wire α]

abbrev need (name : String) (get : ρ → α) (rest : Fields ρ β) : Fields ρ (α → β) :=
  .member Wire.codec name get none rest

/-- A member with a value that stands for its absence. -/
abbrev getOr (name : String) (get : ρ → α) (absent : α) (rest : Fields ρ β) :
    Fields ρ (α → β) :=
  .member Wire.codec name get (some absent) rest

abbrev may (name : String) (get : ρ → Option α) (rest : Fields ρ β) : Fields ρ (Option α → β) :=
  .getOr name get none rest

abbrev list (name : String) (get : ρ → List α) (rest : Fields ρ β) : Fields ρ (List α → β) :=
  .getOr name get [] rest

end Fields

end GatedRollout
