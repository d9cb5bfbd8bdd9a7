/-!
# Service names

A service name has 1 to 255 ASCII letters, digits, hyphens and underscores. `parse` accepts
exactly those texts. The name of the transit service that stands in for a service while it is
replaced is derived by `transit`, which keeps the length limit.
-/

namespace GatedRollout

structure ServiceName where
  text : String
  deriving DecidableEq, Repr

namespace ServiceName

instance : Inhabited ServiceName := ⟨⟨""⟩⟩

/-- The longest name, in bytes. -/
def maxLength : Nat := 255

inductive Error
  | empty
  | tooLong
  | invalidChar (c : Char)
  deriving DecidableEq, Repr

def Error.message : Error → String
  | .empty => "service name cannot be empty"
  | .tooLong => "service name exceeds maximum length of 255 characters"
  | .invalidChar c => s!"invalid character in service name: '{c}'"

def isNameChar (c : Char) : Bool := c.isAlphanum || c == '-' || c == '_'

/-- Read a name. The length is judged before the characters. -/
def parse (s : String) : Except Error ServiceName :=
  if s.isEmpty then .error .empty
  else if maxLength < s.utf8ByteSize then .error .tooLong
  else
    match s.toList.find? fun c => !isNameChar c with
    | some c => .error (.invalidChar c)
    | none => .ok ⟨s⟩

/-- A name that `parse` accepts. -/
def isValid (name : ServiceName) : Bool := (parse name.text).isOk

theorem parse_eq_ok_iff {s : String} {name : ServiceName} :
    parse s = .ok name ↔
      name = ⟨s⟩ ∧ s.isEmpty = false ∧ s.utf8ByteSize ≤ maxLength ∧
        ∀ c ∈ s.toList, isNameChar c = true := by
  have hchars : (∀ c ∈ s.toList, isNameChar c = true) ↔
      (s.toList.find? fun c => !isNameChar c) = none := by
    simp
  rw [hchars]
  unfold parse
  cases hempty : s.isEmpty with
  | true => simp
  | false =>
      by_cases hlong : maxLength < s.utf8ByteSize
      · simp [hlong, Nat.not_le.mpr hlong]
      · cases hfind : s.toList.find? fun c => !isNameChar c with
        | some c => simp [hlong]
        | none => simp [hlong, Nat.not_lt.mp hlong, eq_comm]

theorem isValid_iff {name : ServiceName} : name.isValid = true ↔ parse name.text = .ok name := by
  unfold isValid
  cases hparse : parse name.text with
  | error e => simp [Except.isOk, Except.toBool]
  | ok parsed =>
      obtain ⟨rfl, -⟩ := parse_eq_ok_iff.mp hparse
      exact iff_of_true rfl rfl

def transitTail (suffix : String) : String := "-transit-" ++ suffix

/--
The name of the temporary service that holds capacity while this one is replaced. As much of the
name is kept in front of the tail as fits into the longest name.
-/
def transit (name : ServiceName) (suffix : String) : ServiceName :=
  let tail := transitTail suffix
  let kept := min (maxLength - tail.utf8ByteSize) name.text.utf8ByteSize
  ⟨String.ofList (name.text.toList.take kept) ++ tail⟩

end ServiceName

end GatedRollout
