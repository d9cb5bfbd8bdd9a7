import GatedRollout.Wire.Documents

/-!
# Names and transit names

Which texts are service names, said by their bytes and characters, and which parts a transit name
is made of. A transit name holds as much of its name as fits, so it is a name again wherever the
suffix is made of name characters and leaves room for itself.
-/

namespace GatedRollout.ServiceName

/-! ## Characters -/

/-- An ASCII letter or digit, a hyphen or an underscore. -/
def IsPlain (c : Char) : Prop :=
  'a' ≤ c ∧ c ≤ 'z' ∨ 'A' ≤ c ∧ c ≤ 'Z' ∨ '0' ≤ c ∧ c ≤ '9' ∨ c = '-' ∨ c = '_'

instance (c : Char) : Decidable (IsPlain c) :=
  inferInstanceAs (Decidable ('a' ≤ c ∧ c ≤ 'z' ∨ 'A' ≤ c ∧ c ≤ 'Z' ∨ '0' ≤ c ∧ c ≤ '9' ∨
    c = '-' ∨ c = '_'))

theorem isNameChar_iff {c : Char} : isNameChar c = true ↔ IsPlain c := by
  unfold isNameChar Char.isAlphanum Char.isAlpha Char.isUpper Char.isLower Char.isDigit IsPlain
  simp only [Bool.or_eq_true, Bool.and_eq_true, decide_eq_true_eq, beq_iff_eq, Char.le_def,
    ge_iff_le]
  grind

theorem isPlain_of_all {cs : List Char} (h : cs.all isNameChar = true) : ∀ c ∈ cs, IsPlain c :=
  fun c hc => isNameChar_iff.mp (List.all_eq_true.mp h c hc)

theorem utf8Size_of_isNameChar {c : Char} (h : isNameChar c = true) : c.utf8Size = 1 := by
  have hascii : c.val ≤ 127 := by
    rcases isNameChar_iff.mp h with h | h | h | rfl | rfl
    · exact UInt32.le_trans h.2 (by decide)
    · exact UInt32.le_trans h.2 (by decide)
    · exact UInt32.le_trans h.2 (by decide)
    · decide
    · decide
  simp [Char.utf8Size, hascii]

theorem utf8ByteSize_ofList {cs : List Char} (h : ∀ c ∈ cs, isNameChar c = true) :
    (String.ofList cs).utf8ByteSize = cs.length := by
  induction cs with
  | nil => rfl
  | cons c cs ih =>
      obtain ⟨hc, hcs⟩ := List.forall_mem_cons.mp h
      have hsingle : (String.ofList [c]).utf8ByteSize = 1 := by simp [utf8Size_of_isNameChar hc]
      rw [← List.singleton_append, String.ofList_append, String.utf8ByteSize_append, hsingle,
        ih hcs, List.length_append, List.length_singleton]

/-! ## Reading -/

/-- What is wrong with a text that is no name. -/
inductive Refuses (s : String) : Error → Prop
  | empty (h : s = "") : Refuses s .empty
  | tooLong (h : maxLength < s.utf8ByteSize) : Refuses s .tooLong
  /-- The text is of a fitting length, and this is the first of its characters that no name has. -/
  | invalidChar {before after : List Char} {c : Char} (filled : s ≠ "")
      (fits : s.utf8ByteSize ≤ maxLength) (split : s.toList = before ++ c :: after)
      (plain : ∀ d ∈ before, IsPlain d) (offends : ¬IsPlain c) : Refuses s (.invalidChar c)

theorem parse_eq_error_iff {s : String} {e : Error} : parse s = .error e ↔ Refuses s e := by
  constructor
  · intro h
    unfold parse at h
    split at h
    · next hempty =>
        cases h
        exact .empty (String.isEmpty_iff.mp hempty)
    · next hfilled =>
        split at h
        · next hlong =>
            cases h
            exact .tooLong hlong
        · next hfits =>
            split at h
            · next c hfind =>
                cases h
                obtain ⟨hc, before, after, hsplit, hbefore⟩ :=
                  List.find?_eq_some_iff_append.mp hfind
                refine .invalidChar (by simpa using hfilled) (Nat.not_lt.mp hfits) hsplit ?_ ?_
                · exact fun d hd => isNameChar_iff.mp (by simpa using hbefore d hd)
                · exact fun hplain => by simp [isNameChar_iff.mpr hplain] at hc
            · cases h
  · intro h
    cases h with
    | empty h => simp [parse, h]
    | tooLong h =>
        have hfilled : s ≠ "" := by
          rintro rfl
          exact absurd h (by decide)
        simp [parse, hfilled, h]
    | @invalidChar before after c filled fits split plain offends =>
        have hfind : (s.toList.find? fun c => !isNameChar c) = some c := by
          refine List.find?_eq_some_iff_append.mpr ⟨?_, before, after, split, fun d hd => ?_⟩
          · simpa [← isNameChar_iff] using offends
          · simpa using isNameChar_iff.mpr (plain d hd)
        simp [parse, filled, Nat.not_lt.mpr fits, hfind]

/-- A text is a name exactly if it has from one byte to the longest length, all of them plain. -/
theorem parse_eq_ok_iff_plain {s : String} {name : ServiceName} :
    parse s = .ok name ↔
      name = ⟨s⟩ ∧ 1 ≤ s.utf8ByteSize ∧ s.utf8ByteSize ≤ maxLength ∧ ∀ c ∈ s.toList, IsPlain c := by
  have hfilled : s.isEmpty = false ↔ 1 ≤ s.utf8ByteSize := by
    rw [String.isEmpty_eq_utf8ByteSize_beq_zero]
    simp [Nat.one_le_iff_ne_zero]
  simp only [parse_eq_ok_iff, hfilled, isNameChar_iff]

theorem decode_text (s : String) :
    (Wire.decode (.str s) : Option ServiceName) = (parse s).toOption := rfl

theorem isValid_iff_plain {name : ServiceName} :
    name.isValid = true ↔ 1 ≤ name.text.utf8ByteSize ∧ name.text.utf8ByteSize ≤ maxLength ∧
      ∀ c ∈ name.text.toList, IsPlain c := by
  rw [isValid_iff, parse_eq_ok_iff_plain, and_iff_right rfl]

/-! ## Transit names -/

theorem utf8ByteSize_transitTail (suffix : String) :
    (transitTail suffix).utf8ByteSize = 9 + suffix.utf8ByteSize := by
  rw [transitTail, String.utf8ByteSize_append]
  rfl

/-- The part of a name that its transit name keeps has the number of bytes that is asked for, and
ends where a character does. -/
theorem transit_slices {name : ServiceName} (h : name.isValid = true) (suffix : String) :
    ∃ front back, name.text = front ++ back ∧
      name.transit suffix = ⟨front ++ transitTail suffix⟩ ∧
        front.utf8ByteSize =
          min (maxLength - (transitTail suffix).utf8ByteSize) name.text.utf8ByteSize := by
  let kept := min (maxLength - (transitTail suffix).utf8ByteSize) name.text.utf8ByteSize
  obtain ⟨-, -, -, hchars⟩ := parse_eq_ok_iff.mp (isValid_iff.mp h)
  have hsize : name.text.utf8ByteSize = name.text.toList.length := by
    rw [← utf8ByteSize_ofList hchars, String.ofList_toList]
  have hkept : kept ≤ name.text.toList.length := hsize ▸ Nat.min_le_right _ _
  refine ⟨String.ofList (name.text.toList.take kept), String.ofList (name.text.toList.drop kept),
    ?_, rfl, ?_⟩
  · rw [← String.ofList_append, List.take_append_drop, String.ofList_toList]
  · rw [utf8ByteSize_ofList fun c hc => hchars c (List.mem_of_mem_take hc), List.length_take]
    exact Nat.min_eq_left hkept

/-- Text that ends alike and is of one size begins alike. -/
theorem append_inj_left {a b c d : String} (h : a ++ b = c ++ d)
    (hsize : a.utf8ByteSize = c.utf8ByteSize) : a = c := by
  have hbytes : a.toByteArray ++ b.toByteArray = c.toByteArray ++ d.toByteArray := by
    rw [← String.toByteArray_append, h, String.toByteArray_append]
  exact String.toByteArray_inj.mp (ByteArray.append_inj_left hbytes hsize)

/-- The name, the tail of its transit name and nothing else make a name that is not too long. -/
def Fits (name : ServiceName) (suffix : String) : Prop :=
  (name.text ++ "-transit-" ++ suffix).utf8ByteSize ≤ maxLength

theorem fits_iff {name : ServiceName} {suffix : String} :
    name.Fits suffix ↔
      name.text.utf8ByteSize + (transitTail suffix).utf8ByteSize ≤ maxLength := by
  rw [Fits, String.append_assoc, String.utf8ByteSize_append]
  rfl

section Transit

variable {name : ServiceName} {suffix : String} (h : name.isValid = true)

include h

theorem transit_of_fits (hfits : name.Fits suffix) :
    name.transit suffix = ⟨name.text ++ transitTail suffix⟩ := by
  obtain ⟨front, back, hname, htransit, hfront⟩ := transit_slices h suffix
  rw [fits_iff] at hfits
  have hback : front ++ back = name.text ++ "" := by rw [← hname, String.append_empty]
  rw [htransit, append_inj_left hback (by omega)]

/-- Where something of the name is left out, the transit name has the longest length. -/
theorem utf8ByteSize_transit (hroom : (transitTail suffix).utf8ByteSize ≤ maxLength)
    (hfits : ¬name.Fits suffix) : (name.transit suffix).text.utf8ByteSize = maxLength := by
  obtain ⟨front, back, -, htransit, hfront⟩ := transit_slices h suffix
  rw [fits_iff] at hfits
  rw [htransit, String.utf8ByteSize_append]
  omega

/-- A transit name is a name exactly if its suffix has no other characters than names have. -/
theorem isValid_transit_iff (hroom : (transitTail suffix).utf8ByteSize ≤ maxLength) :
    (name.transit suffix).isValid = true ↔ ∀ c ∈ suffix.toList, IsPlain c := by
  obtain ⟨front, back, hname, htransit, hfront⟩ := transit_slices h suffix
  have hplain : ∀ c ∈ front.toList, IsPlain c := by
    intro c hc
    refine (isValid_iff_plain.mp h).2.2 c ?_
    rw [hname, String.toList_append]
    exact List.mem_append_left _ hc
  have htail : ∀ c ∈ "-transit-".toList, IsPlain c := isPlain_of_all (by decide)
  rw [isValid_iff_plain, htransit]
  simp only [transitTail, String.toList_append, List.forall_mem_append, String.utf8ByteSize_append]
    at hroom hfront ⊢
  constructor
  · exact fun hvalid => hvalid.2.2.2.2
  · intro hsuffix
    have hpos : 0 < "-transit-".utf8ByteSize := by decide
    exact ⟨by omega, by omega, hplain, htail, hsuffix⟩

/-- A name is its own transit name exactly if it has the longest length and ends as its transit name
would. -/
theorem transit_eq_self_iff (hroom : (transitTail suffix).utf8ByteSize ≤ maxLength) :
    name.transit suffix = name ↔
      name.text.utf8ByteSize = maxLength ∧ ∃ front, name.text = front ++ transitTail suffix := by
  obtain ⟨front, back, hname, htransit, hfront⟩ := transit_slices h suffix
  have htail := utf8ByteSize_transitTail suffix
  constructor
  · intro hself
    have htext : front ++ transitTail suffix = name.text :=
      congrArg ServiceName.text (htransit.symm.trans hself)
    have hsize := congrArg String.utf8ByteSize htext
    rw [String.utf8ByteSize_append] at hsize
    exact ⟨by omega, front, htext.symm⟩
  · rintro ⟨hlong, front', htext⟩
    have hsize := congrArg String.utf8ByteSize htext
    rw [String.utf8ByteSize_append] at hsize
    have hsame : front = front' := append_inj_left (hname.symm.trans htext) (by omega)
    rw [htransit, hsame, ← htext]

end Transit

theorem utf8ByteSize_of_plain {s : String} (h : ∀ c ∈ s.toList, IsPlain c) :
    s.utf8ByteSize = s.length := by
  have hsize := utf8ByteSize_ofList fun c hc => isNameChar_iff.mpr (h c hc)
  rwa [String.ofList_toList, String.length_toList] at hsize

/-! ## Names and their transit names -/

/-- A text is read as a name, by itself or in a document, if it has from one to 255 bytes of plain
characters, and is otherwise refused for the first thing that is wrong with it. A transit name is
such a text again: as much of its name as fits, the middle and the suffix. Names that fit whole are
told apart by their transit names. -/
theorem names_keep_to_limit :
    (∀ s : String,
      (∀ name, parse s = .ok name ↔
        name = ⟨s⟩ ∧ 1 ≤ s.utf8ByteSize ∧ s.utf8ByteSize ≤ 255 ∧ ∀ c ∈ s.toList, IsPlain c) ∧
      (∀ e, parse s = .error e ↔ Refuses s e) ∧
      ∀ name, (Wire.decode (.str s) : Option ServiceName) = some name ↔ parse s = .ok name) ∧
    (∀ (name : ServiceName) (suffix : String), parse name.text = .ok name →
      (∀ c ∈ suffix.toList, IsPlain c) → suffix.length ≤ 246 →
        parse (name.transit suffix).text = .ok (name.transit suffix) ∧
          ∃ front back, name.text = front ++ back ∧
            (name.transit suffix).text = front ++ "-transit-" ++ suffix ∧
              (name.Fits suffix → front = name.text) ∧
              (¬name.Fits suffix → (name.transit suffix).text.utf8ByteSize = 255)) ∧
    ∀ (a b : ServiceName) (suffix : String), parse a.text = .ok a → parse b.text = .ok b →
      a.Fits suffix → b.Fits suffix → a.transit suffix = b.transit suffix → a = b := by
  refine ⟨fun s => ⟨fun name => parse_eq_ok_iff_plain, fun e => parse_eq_error_iff, fun name => ?_⟩,
    fun name suffix hname hplain hlength => ?_, fun a b suffix ha hb hfitsa hfitsb hsame => ?_⟩
  · rw [decode_text]
    cases parse s <;> simp [Except.toOption]
  · rw [← isValid_iff] at hname
    have hroom : (transitTail suffix).utf8ByteSize ≤ maxLength := by
      rw [utf8ByteSize_transitTail, utf8ByteSize_of_plain hplain, maxLength]
      omega
    refine ⟨isValid_iff.mp ((isValid_transit_iff hname hroom).mpr hplain), ?_⟩
    obtain ⟨front, back, htext, htransit, -⟩ := transit_slices hname suffix
    refine ⟨front, back, htext, ?_, fun hfits => ?_, utf8ByteSize_transit hname hroom⟩
    · rw [htransit, String.append_assoc]
      rfl
    · have hwhole := htransit.symm.trans (transit_of_fits hname hfits)
      exact (String.append_left_inj _).mp (congrArg ServiceName.text hwhole)
  · rw [transit_of_fits (isValid_iff.mpr ha) hfitsa, transit_of_fits (isValid_iff.mpr hb) hfitsb]
      at hsame
    have htext := (String.append_left_inj _).mp (congrArg ServiceName.text hsame)
    cases a
    exact congrArg ServiceName.mk htext

/-- A name of 250 bytes gives up 18 of them to the stamp of an instant, and two short names keep
apart. -/
theorem names_keep_to_limit_cut :
    let name : ServiceName := ⟨String.ofList (List.replicate 250 'a')⟩
    let suffix := "19700101000000"
    parse name.text = .ok name ∧ ¬name.Fits suffix ∧
      (name.transit suffix).text.utf8ByteSize = 255 ∧
      parse (name.transit suffix).text = .ok (name.transit suffix) ∧
      (⟨"api"⟩ : ServiceName).transit suffix ≠ (⟨"web"⟩ : ServiceName).transit suffix := by
  intro name suffix
  obtain ⟨htexts, htransits, hunique⟩ := names_keep_to_limit
  have hplain : ∀ c ∈ name.text.toList, IsPlain c := by
    intro c hc
    rw [String.toList_ofList] at hc
    rw [List.eq_of_mem_replicate hc]
    exact isNameChar_iff.mp rfl
  have hsize : name.text.utf8ByteSize = 250 := by
    rw [utf8ByteSize_of_plain hplain, ← String.length_toList, String.toList_ofList]
    exact List.length_replicate
  have hname : parse name.text = .ok name :=
    ((htexts name.text).1 name).mpr ⟨rfl, by omega, by omega, hplain⟩
  have hsuffix : ∀ c ∈ suffix.toList, IsPlain c := isPlain_of_all (by decide)
  have hcut : ¬name.Fits suffix := by
    rw [fits_iff, hsize]
    decide
  obtain ⟨hvalid, -, -, -, -, -, hlong⟩ := htransits name suffix hname hsuffix (by decide)
  refine ⟨hname, hcut, hlong hcut, hvalid, fun hsame => ?_⟩
  have hequal := hunique ⟨"api"⟩ ⟨"web"⟩ suffix rfl rfl (by unfold Fits; decide)
    (by unfold Fits; decide) hsame
  exact absurd hequal (by decide)

end GatedRollout.ServiceName
