import Mathlib.Order.Bounds.Basic
import PapyrusScript.Batch.Report

/-!
# Bytes that are UTF-8

Valid bytes are rows of the sequences that the standard's table allows, and
these are the encodings of the characters.  Reading takes valid bytes to the
text that they encode, and of other bytes it gives the length of their longest
valid beginning: a sequence is told by its first bytes, so the characters in
front of the first bad sequence are those of every longer beginning too.

The order of texts is that of their bytes.
-/

namespace PapyrusScript

namespace Text

variable {bytes : List UInt8}

/-! ## The bytes of a text -/

def bytesOf (letters : List Char) : List UInt8 :=
  letters.flatMap String.utf8EncodeChar

@[simp]
theorem bytesOf_nil : bytesOf [] = [] := rfl

@[simp]
theorem bytesOf_cons (letter : Char) (letters : List Char) :
    bytesOf (letter :: letters) =
      String.utf8EncodeChar letter ++ bytesOf letters :=
  rfl

theorem byteArray_loop_eq (bytes : ByteArray) (index : Nat)
    (passed : List UInt8) :
    ByteArray.toList.loop bytes index passed =
      passed.reverse ++ bytes.data.toList.drop index := by
  fun_induction ByteArray.toList.loop bytes index passed with
  | case1 index passed inside ih =>
    have inList : index < bytes.data.toList.length := by simpa using inside
    rw [ih, List.drop_eq_getElem_cons (l := bytes.data.toList) inList]
    simp [ByteArray.get!, inside]
  | case2 index passed outside =>
    rw [List.drop_eq_nil_of_le (by simpa using Nat.le_of_not_lt outside)]
    simp

theorem toList_toUTF8 (text : String) :
    text.toUTF8.toList = bytesOf text.toList := by
  have encoded : text.toUTF8 = text.toList.utf8Encode := by
    rw [String.toUTF8_eq_toByteArray, ← String.toByteArray_ofList,
      String.ofList_toList]
  rw [encoded, ByteArray.toList, byteArray_loop_eq]
  simp [List.utf8Encode, bytesOf]

/-! ## The bytes of a character -/

section Character

variable {letter : Char} {first second third fourth : UInt8}

theorem toNat_lt (letter : Char) : letter.toNat < 0x110000 := by
  have valid : letter.toNat.isValidChar := letter.valid
  unfold Nat.isValidChar at valid
  omega

/-- The encoding of a character, by the size of its code. -/
theorem utf8EncodeChar_eq (letter : Char) :
    String.utf8EncodeChar letter =
      if letter.toNat ≤ 0x7F then [UInt8.ofNat letter.toNat]
      else if letter.toNat ≤ 0x7FF then
        [UInt8.ofNat (letter.toNat / 64 % 32 + 192),
          UInt8.ofNat (letter.toNat % 64 + 128)]
      else if letter.toNat ≤ 0xFFFF then
        [UInt8.ofNat (letter.toNat / 4096 % 16 + 224),
          UInt8.ofNat (letter.toNat / 64 % 64 + 128),
          UInt8.ofNat (letter.toNat % 64 + 128)]
      else
        [UInt8.ofNat (letter.toNat / 262144 % 8 + 240),
          UInt8.ofNat (letter.toNat / 4096 % 64 + 128),
          UInt8.ofNat (letter.toNat / 64 % 64 + 128),
          UInt8.ofNat (letter.toNat % 64 + 128)] :=
  rfl

theorem ofNat_eq_iff {value : Nat} {byte : UInt8} (small : value < 0x100) :
    UInt8.ofNat value = byte ↔ byte.toNat = value := by
  rw [← UInt8.toNat_inj, UInt8.toNat_ofNat']
  omega

theorem utf8EncodeChar_eq_one_iff :
    String.utf8EncodeChar letter = [first] ↔
      letter.toNat ≤ 0x7F ∧ first.toNat = letter.toNat := by
  rw [utf8EncodeChar_eq]
  split
  · rw [List.cons.injEq, ofNat_eq_iff (by omega)]
    simp [*]
  split
  · simp [*]
  split <;> simp [*]

/-- Two bytes encode the characters between the first two limits. -/
theorem utf8EncodeChar_eq_two_iff :
    String.utf8EncodeChar letter = [first, second] ↔
      (0x7F < letter.toNat ∧ letter.toNat ≤ 0x7FF) ∧
        first.toNat = letter.toNat / 64 + 0xC0 ∧
        second.toNat = letter.toNat % 64 + 0x80 := by
  rw [utf8EncodeChar_eq]
  split
  · simp
    omega
  split
  · rw [List.cons.injEq, List.cons.injEq, ofNat_eq_iff (by omega),
      ofNat_eq_iff (by omega)]
    simp only [and_true]
    omega
  split
  · simp
    omega
  · simp
    omega

/-- Three bytes encode the characters between the second and third limit. -/
theorem utf8EncodeChar_eq_three_iff :
    String.utf8EncodeChar letter = [first, second, third] ↔
      (0x7FF < letter.toNat ∧ letter.toNat ≤ 0xFFFF) ∧
        first.toNat = letter.toNat / 4096 + 0xE0 ∧
        second.toNat = letter.toNat / 64 % 64 + 0x80 ∧
        third.toNat = letter.toNat % 64 + 0x80 := by
  rw [utf8EncodeChar_eq]
  split
  · simp
    omega
  split
  · simp
    omega
  split
  · rw [List.cons.injEq, List.cons.injEq, List.cons.injEq,
      ofNat_eq_iff (by omega), ofNat_eq_iff (by omega), ofNat_eq_iff (by omega)]
    simp only [and_true]
    omega
  · simp
    omega

/-- Four bytes encode the characters beyond the third limit. -/
theorem utf8EncodeChar_eq_four_iff :
    String.utf8EncodeChar letter = [first, second, third, fourth] ↔
      0xFFFF < letter.toNat ∧
        first.toNat = letter.toNat / 262144 + 0xF0 ∧
        second.toNat = letter.toNat / 4096 % 64 + 0x80 ∧
        third.toNat = letter.toNat / 64 % 64 + 0x80 ∧
        fourth.toNat = letter.toNat % 64 + 0x80 := by
  have limit := toNat_lt letter
  rw [utf8EncodeChar_eq]
  split
  · simp
    omega
  split
  · simp
    omega
  split
  · simp
    omega
  · rw [List.cons.injEq, List.cons.injEq, List.cons.injEq, List.cons.injEq,
      ofNat_eq_iff (by omega), ofNat_eq_iff (by omega),
      ofNat_eq_iff (by omega), ofNat_eq_iff (by omega)]
    simp only [and_true]
    omega

/-! ## Reading a character -/

theorem continuation?_eq_some_iff {byte : UInt8} {payload : Nat} :
    continuation? byte = some payload ↔
      byte.toNat = payload + 0x80 ∧ payload < 0x40 := by
  unfold continuation?
  split
  · rename_i range
    simp only [Bool.and_eq_true, decide_eq_true_eq] at range
    rw [Option.some.injEq]
    omega
  · rename_i range
    simp only [Bool.and_eq_true, decide_eq_true_eq] at range
    simp only [reduceCtorEq, false_iff]
    omega

theorem toNat_ofNat_of_isValidChar {code : Nat} (valid : code.isValidChar) :
    (Char.ofNat code).toNat = code := by
  rw [Char.ofNat, dif_pos valid]
  rfl

/-- A code is that of a character that needs as many bytes. -/
theorem character?_eq_some_iff {shorter code : Nat} :
    character? shorter code = some letter ↔
      letter.toNat = code ∧ shorter ≤ code := by
  unfold character?
  split
  · rename_i isCharacter
    simp only [Bool.and_eq_true, decide_eq_true_eq] at isCharacter
    obtain ⟨long, valid⟩ := isCharacter
    have value := toNat_ofNat_of_isValidChar valid
    rw [Option.some.injEq, and_iff_left long]
    constructor
    · rintro rfl
      exact value
    · rintro rfl
      exact Char.ofNat_toNat letter
  · rename_i noCharacter
    simp only [Bool.and_eq_true, decide_eq_true_eq] at noCharacter
    simp only [reduceCtorEq, false_iff]
    rintro ⟨rfl, long⟩
    exact noCharacter ⟨long, letter.valid⟩

theorem twoBytes?_eq_some_iff
    (low : 0xC0 ≤ first.toNat) (high : first.toNat < 0xE0) :
    twoBytes? first second = some letter ↔
      String.utf8EncodeChar letter = [first, second] := by
  rw [utf8EncodeChar_eq_two_iff]
  simp only [twoBytes?, Option.bind_eq_bind, Option.bind_eq_some_iff,
    continuation?_eq_some_iff, character?_eq_some_iff]
  constructor
  · rintro ⟨payload, ⟨isSecond, small⟩, isCode, long⟩
    omega
  · rintro ⟨range, isFirst, isSecond⟩
    exact ⟨letter.toNat % 64, by omega, by omega, by omega⟩

theorem threeBytes?_eq_some_iff
    (low : 0xE0 ≤ first.toNat) (high : first.toNat < 0xF0) :
    threeBytes? first second third = some letter ↔
      String.utf8EncodeChar letter = [first, second, third] := by
  rw [utf8EncodeChar_eq_three_iff]
  simp only [threeBytes?, Option.bind_eq_bind, Option.bind_eq_some_iff,
    continuation?_eq_some_iff, character?_eq_some_iff]
  constructor
  · rintro ⟨middle, ⟨isSecond, small⟩, last, ⟨isThird, alsoSmall⟩, isCode, long⟩
    omega
  · rintro ⟨range, isFirst, isSecond, isThird⟩
    exact ⟨letter.toNat / 64 % 64, by omega, letter.toNat % 64, by omega,
      by omega, by omega⟩

theorem fourBytes?_eq_some_iff (low : 0xF0 ≤ first.toNat) :
    fourBytes? first second third fourth = some letter ↔
      String.utf8EncodeChar letter = [first, second, third, fourth] := by
  rw [utf8EncodeChar_eq_four_iff]
  simp only [fourBytes?, Option.bind_eq_bind, Option.bind_eq_some_iff,
    continuation?_eq_some_iff, character?_eq_some_iff]
  constructor
  · rintro ⟨high, ⟨isSecond, small⟩, middle, ⟨isThird, alsoSmall⟩, last,
      ⟨isFourth, lastSmall⟩, isCode, long⟩
    omega
  · rintro ⟨range, isFirst, isSecond, isThird, isFourth⟩
    exact ⟨letter.toNat / 4096 % 64, by omega, letter.toNat / 64 % 64,
      by omega, letter.toNat % 64, by omega, by omega, by omega⟩

/-- A character is encoded by one to four bytes. -/
theorem utf8EncodeChar_cases (letter : Char) :
    (∃ first, String.utf8EncodeChar letter = [first]) ∨
      (∃ first second, String.utf8EncodeChar letter = [first, second]) ∨
      (∃ first second third,
        String.utf8EncodeChar letter = [first, second, third]) ∨
      ∃ first second third fourth,
        String.utf8EncodeChar letter = [first, second, third, fourth] := by
  rw [utf8EncodeChar_eq]
  split
  · exact .inl ⟨_, rfl⟩
  split
  · exact .inr (.inl ⟨_, _, rfl⟩)
  split
  · exact .inr (.inr (.inl ⟨_, _, _, rfl⟩))
  · exact .inr (.inr (.inr ⟨_, _, _, _, rfl⟩))

/-- A character is read from its bytes, whatever stands behind them. -/
theorem firstCharacter?_append (letter : Char) (rest : List UInt8) :
    firstCharacter? (String.utf8EncodeChar letter ++ rest) =
      some (letter, (String.utf8EncodeChar letter).length) := by
  obtain ⟨first, encoded⟩ | ⟨first, second, encoded⟩ |
    ⟨first, second, third, encoded⟩ | ⟨first, second, third, fourth, encoded⟩ :=
    utf8EncodeChar_cases letter
  all_goals
    simp only [encoded, List.cons_append, List.nil_append, firstCharacter?]
  · obtain ⟨small, value⟩ := utf8EncodeChar_eq_one_iff.mp encoded
    rw [if_pos (by omega), value, Char.ofNat_toNat]
    rfl
  · obtain ⟨range, value, -⟩ := utf8EncodeChar_eq_two_iff.mp encoded
    have read := (twoBytes?_eq_some_iff (by omega) (by omega)).mpr encoded
    rw [if_neg (by omega), if_neg (by omega), if_pos (by omega), read]
    rfl
  · obtain ⟨range, value, -⟩ := utf8EncodeChar_eq_three_iff.mp encoded
    have read := (threeBytes?_eq_some_iff (by omega) (by omega)).mpr encoded
    rw [if_neg (by omega), if_neg (by omega), if_neg (by omega),
      if_pos (by omega), read]
    rfl
  · obtain ⟨range, value, -⟩ := utf8EncodeChar_eq_four_iff.mp encoded
    have read := (fourBytes?_eq_some_iff (by omega)).mpr encoded
    rw [if_neg (by omega), if_neg (by omega), if_neg (by omega),
      if_neg (by omega), read]
    rfl

/-- The first character that is read is encoded in front. -/
theorem eq_append_of_firstCharacter? {bytes : List UInt8} {count : Nat}
    (read : firstCharacter? bytes = some (letter, count)) :
    bytes = String.utf8EncodeChar letter ++ bytes.drop count := by
  cases bytes with
  | nil => cases read
  | cons first rest =>
    simp only [firstCharacter?] at read
    split at read
    · rename_i small
      obtain ⟨rfl, rfl⟩ : Char.ofNat first.toNat = letter ∧ 1 = count := by
        simpa only [Option.some.injEq, Prod.mk.injEq] using read
      have value := @toNat_ofNat_of_isValidChar first.toNat
        (.inl (by omega))
      rw [utf8EncodeChar_eq_one_iff.mpr ⟨by omega, value.symm⟩]
      rfl
    split at read
    · cases read
    split at read
    · split at read
      · obtain ⟨found, isTwo, pair⟩ := Option.map_eq_some_iff.mp read
        cases pair
        rw [(twoBytes?_eq_some_iff (by omega) (by omega)).mp isTwo]
        rfl
      · cases read
    split at read
    · split at read
      · obtain ⟨found, isThree, pair⟩ := Option.map_eq_some_iff.mp read
        cases pair
        rw [(threeBytes?_eq_some_iff (by omega) (by omega)).mp isThree]
        rfl
      · cases read
    · split at read
      · obtain ⟨found, isFour, pair⟩ := Option.map_eq_some_iff.mp read
        cases pair
        rw [(fourBytes?_eq_some_iff (by omega)).mp isFour]
        rfl
      · cases read

end Character

/-! ## The standard's table -/

def IsTail (byte : UInt8) : Prop := 0x80 ≤ byte.toNat ∧ byte.toNat ≤ 0xBF

/-- A byte that comes second in a sequence of three or four. -/
structure IsSecond (first byte : UInt8) : Prop where
  tail : IsTail byte
  /-- Three bytes are not more than needed. -/
  needsThree : first.toNat = 0xE0 → 0xA0 ≤ byte.toNat
  /-- Four bytes are not more than needed. -/
  needsFour : first.toNat = 0xF0 → 0x90 ≤ byte.toNat
  noSurrogate : first.toNat = 0xED → byte.toNat ≤ 0x9F
  /-- The value is not above the last code point. -/
  inRange : first.toNat = 0xF4 → byte.toNat ≤ 0x8F

/-- The sequences of bytes that stand for a character. -/
inductive IsSequence : List UInt8 → Prop where
  | one {first : UInt8} (low : first.toNat ≤ 0x7F) : IsSequence [first]
  | two {first second : UInt8}
      (lower : 0xC2 ≤ first.toNat) (upper : first.toNat ≤ 0xDF)
      (last : IsTail second) : IsSequence [first, second]
  | three {first second third : UInt8}
      (lower : 0xE0 ≤ first.toNat) (upper : first.toNat ≤ 0xEF)
      (next : IsSecond first second) (last : IsTail third) :
      IsSequence [first, second, third]
  | four {first second third fourth : UInt8}
      (lower : 0xF0 ≤ first.toNat) (upper : first.toNat ≤ 0xF4)
      (next : IsSecond first second) (later : IsTail third)
      (last : IsTail fourth) : IsSequence [first, second, third, fourth]

/-- Every character is encoded by a sequence of the table. -/
theorem isSequence_utf8EncodeChar (letter : Char) :
    IsSequence (String.utf8EncodeChar letter) := by
  have limit := toNat_lt letter
  have valid : letter.toNat.isValidChar := letter.valid
  unfold Nat.isValidChar at valid
  obtain ⟨first, encoded⟩ | ⟨first, second, encoded⟩ |
    ⟨first, second, third, encoded⟩ | ⟨first, second, third, fourth, encoded⟩ :=
    utf8EncodeChar_cases letter
  all_goals rw [encoded]
  · obtain ⟨small, value⟩ := utf8EncodeChar_eq_one_iff.mp encoded
    exact .one (by omega)
  · obtain ⟨range, isFirst, isSecond⟩ := utf8EncodeChar_eq_two_iff.mp encoded
    exact .two (by omega) (by omega) ⟨by omega, by omega⟩
  · obtain ⟨range, isFirst, isSecond, isThird⟩ :=
      utf8EncodeChar_eq_three_iff.mp encoded
    exact .three (by omega) (by omega)
      ⟨⟨by omega, by omega⟩, by omega, by omega, by omega, by omega⟩
      ⟨by omega, by omega⟩
  · obtain ⟨range, isFirst, isSecond, isThird, isFourth⟩ :=
      utf8EncodeChar_eq_four_iff.mp encoded
    exact .four (by omega) (by omega)
      ⟨⟨by omega, by omega⟩, by omega, by omega, by omega, by omega⟩
      ⟨by omega, by omega⟩ ⟨by omega, by omega⟩

theorem exists_toNat_eq (code : Nat) (valid : code.isValidChar) :
    ∃ letter : Char, letter.toNat = code :=
  ⟨Char.ofNat code, toNat_ofNat_of_isValidChar valid⟩

/-- Every sequence of the table encodes a character. -/
theorem IsSequence.exists_char (isSequence : IsSequence bytes) :
    ∃ letter, bytes = String.utf8EncodeChar letter := by
  cases isSequence with
  | @one first low =>
    obtain ⟨letter, value⟩ := exists_toNat_eq
      first.toNat (.inl (by omega))
    exact ⟨letter, (utf8EncodeChar_eq_one_iff.mpr
      ⟨by omega, value.symm⟩).symm⟩
  | @two first second lower upper last =>
    obtain ⟨from2, to2⟩ := last
    obtain ⟨letter, value⟩ := exists_toNat_eq
      ((first.toNat - 0xC0) * 64 + (second.toNat - 0x80))
      (.inl (by omega))
    exact ⟨letter, (utf8EncodeChar_eq_two_iff.mpr
      ⟨by omega, by omega, by omega⟩).symm⟩
  | @three first second third lower upper next last =>
    obtain ⟨⟨from2, to2⟩, three, four, surrogate, range⟩ := next
    obtain ⟨from3, to3⟩ := last
    obtain ⟨letter, value⟩ := exists_toNat_eq
      (((first.toNat - 0xE0) * 64 + (second.toNat - 0x80)) * 64 +
        (third.toNat - 0x80)) (by unfold Nat.isValidChar; omega)
    exact ⟨letter, (utf8EncodeChar_eq_three_iff.mpr
      ⟨by omega, by omega, by omega, by omega⟩).symm⟩
  | @four first second third fourth lower upper next later last =>
    obtain ⟨⟨from2, to2⟩, three, four, surrogate, range⟩ := next
    obtain ⟨from3, to3⟩ := later
    obtain ⟨from4, to4⟩ := last
    obtain ⟨letter, value⟩ := exists_toNat_eq
      ((((first.toNat - 0xF0) * 64 + (second.toNat - 0x80)) * 64 +
        (third.toNat - 0x80)) * 64 + (fourth.toNat - 0x80))
      (by unfold Nat.isValidChar; omega)
    exact ⟨letter, (utf8EncodeChar_eq_four_iff.mpr
      ⟨by omega, by omega, by omega, by omega, by omega⟩).symm⟩

def IsUtf8 (bytes : List UInt8) : Prop :=
  ∃ sequences : List (List UInt8),
    (∀ sequence ∈ sequences, IsSequence sequence) ∧ bytes = sequences.flatten

/-- Bytes are valid exactly if they encode some characters. -/
theorem isUtf8_iff_exists_letters :
    IsUtf8 bytes ↔ ∃ letters, bytes = bytesOf letters := by
  constructor
  · rintro ⟨sequences, all, rfl⟩
    induction sequences with
    | nil => exact ⟨[], rfl⟩
    | cons sequence rest ih =>
      obtain ⟨letter, rfl⟩ := (all sequence (by simp)).exists_char
      obtain ⟨letters, encoded⟩ :=
        ih fun other later => all other (by simp [later])
      exact ⟨letter :: letters, by simp [encoded]⟩
  · rintro ⟨letters, rfl⟩
    refine ⟨letters.map String.utf8EncodeChar, ?_, List.flatMap_def⟩
    intro sequence among
    obtain ⟨letter, -, rfl⟩ := List.mem_map.mp among
    exact isSequence_utf8EncodeChar letter

/-- Bytes are UTF-8 exactly if they are those of a text. -/
theorem isUtf8_iff_exists_text :
    IsUtf8 bytes ↔ ∃ text : String, bytes = text.toUTF8.toList := by
  rw [isUtf8_iff_exists_letters]
  constructor
  · rintro ⟨letters, rfl⟩
    exact ⟨String.ofList letters, by rw [toList_toUTF8, String.toList_ofList]⟩
  · rintro ⟨text, rfl⟩
    exact ⟨text.toList, toList_toUTF8 text⟩

/-! ## Reading bytes -/

/-- Reading takes one character off the front of some bytes. -/
theorem decodeWithin_of_ne_nil
    (byte : UInt8) (budget : List UInt8) (offset : Nat) (present : bytes ≠ []) :
    decodeWithin (byte :: budget) offset bytes =
      match firstCharacter? bytes with
      | none => .error offset
      | some (letter, count) =>
        (decodeWithin budget (offset + count) (bytes.drop count)).map
          (letter :: ·) := by
  cases bytes with
  | nil => exact absurd rfl present
  | cons first rest =>
    rw [decodeWithin]
    · cases firstCharacter? (first :: rest) with
      | none => rfl
      | some found =>
        dsimp only
        cases decodeWithin budget (offset + found.2)
          ((first :: rest).drop found.2) <;> rfl
    · simp

theorem decodeWithin_append
    (byte : UInt8) (budget : List UInt8) (offset : Nat) (letter : Char)
    (rest : List UInt8) :
    decodeWithin (byte :: budget) offset
        (String.utf8EncodeChar letter ++ rest) =
      (decodeWithin budget
        (offset + (String.utf8EncodeChar letter).length) rest).map
        (letter :: ·) := by
  rw [decodeWithin_of_ne_nil _ _ _ (by simp), firstCharacter?_append]
  simp only [List.drop_left]

/-- Reading ends behind the last byte, or in front of one that starts no
character. -/
theorem decodeWithin_cases
    (budget : List UInt8) (offset : Nat) (bytes : List UInt8)
    (enough : bytes.length ≤ budget.length) :
    (∃ letters, decodeWithin budget offset bytes = .ok letters ∧
      bytes = bytesOf letters) ∨
    ∃ letters rest,
      decodeWithin budget offset bytes =
          .error (offset + (bytesOf letters).length) ∧
        bytes = bytesOf letters ++ rest ∧
        rest ≠ [] ∧ firstCharacter? rest = none := by
  induction budget generalizing offset bytes with
  | nil =>
    obtain rfl : bytes = [] := by simpa using enough
    exact .inl ⟨[], rfl, rfl⟩
  | cons byte budget ih =>
    by_cases present : bytes = []
    · subst present
      exact .inl ⟨[], rfl, rfl⟩
    cases read : firstCharacter? bytes with
    | none =>
      refine .inr ⟨[], bytes, ?_, rfl, present, read⟩
      rw [decodeWithin_of_ne_nil _ _ _ present, read]
      rfl
    | some found =>
      obtain ⟨letter, count⟩ := found
      obtain ⟨rest, rfl⟩ :
          ∃ rest, bytes = String.utf8EncodeChar letter ++ rest :=
        ⟨bytes.drop count, eq_append_of_firstCharacter? read⟩
      have positive := letter.utf8Size_pos
      rw [List.length_append, String.length_utf8EncodeChar,
        List.length_cons] at enough
      rw [decodeWithin_append]
      obtain ⟨letters, decoded, rfl⟩ |
        ⟨letters, others, decoded, rfl, more, stuck⟩ :=
        ih
          (offset + (String.utf8EncodeChar letter).length) rest (by omega)
      · exact .inl ⟨letter :: letters, by rw [decoded]; rfl, rfl⟩
      · refine .inr ⟨letter :: letters, others, ?_, ?_, more, stuck⟩
        · rw [decoded, bytesOf_cons, List.length_append, Nat.add_assoc]
          rfl
        · rw [bytesOf_cons, List.append_assoc]

/-- Bytes that start no character end what is valid in front of them. -/
theorem length_le_of_firstCharacter?_eq_none {rest : List UInt8}
    (stuck : firstCharacter? rest = none) (letters others : List Char)
    (more : List UInt8)
    (same : bytesOf letters ++ rest = bytesOf others ++ more) :
    (bytesOf others).length ≤ (bytesOf letters).length := by
  induction letters generalizing others with
  | nil =>
    cases others with
    | nil => exact le_rfl
    | cons other others =>
      rw [bytesOf_nil, List.nil_append, bytesOf_cons, List.append_assoc] at same
      rw [same, firstCharacter?_append] at stuck
      cases stuck
  | cons letter letters ih =>
    cases others with
    | nil => simp
    | cons other others =>
      simp only [bytesOf_cons, List.append_assoc] at same
      have read := congrArg firstCharacter? same
      rw [firstCharacter?_append, firstCharacter?_append] at read
      obtain rfl : letter = other := by
        simpa using congrArg (Option.map Prod.fst) read
      have shorter := ih others (List.append_cancel_left same)
      simp only [bytesOf_cons, List.length_append]
      omega

/-- Different texts are encoded by different bytes. -/
theorem bytesOf_injective {letters others : List Char}
    (same : bytesOf letters = bytesOf others) : letters = others := by
  induction letters generalizing others with
  | nil =>
    cases others with
    | nil => rfl
    | cons other others => simp at same
  | cons letter letters ih =>
    cases others with
    | nil => simp at same
    | cons other others =>
      simp only [bytesOf_cons] at same
      have read := congrArg firstCharacter? same
      rw [firstCharacter?_append, firstCharacter?_append] at read
      obtain rfl : letter = other := by
        simpa using congrArg (Option.map Prod.fst) read
      rw [ih (List.append_cancel_left same)]

theorem decodeUtf8_toUTF8 (text : String) :
    decodeUtf8 text.toUTF8.toList = .ok text := by
  rw [toList_toUTF8, decodeUtf8]
  obtain ⟨letters, decoded, encoded⟩ |
    ⟨letters, rest, -, encoded, more, stuck⟩ :=
    decodeWithin_cases (bytesOf text.toList) 0 (bytesOf text.toList) le_rfl
  · rw [decoded, ← bytesOf_injective encoded]
    simp [Except.map]
  · have whole := length_le_of_firstCharacter?_eq_none stuck letters
      text.toList [] (by rw [List.append_nil, ← encoded])
    have longer := congrArg List.length encoded
    have rests := List.length_pos_iff.mpr more
    rw [List.length_append] at longer
    omega

/-- Of bytes that are no text, reading gives the length of the longest
beginning that is one. -/
theorem decodeUtf8_of_not_isUtf8 (bad : ¬ IsUtf8 bytes) :
    ∃ offset, decodeUtf8 bytes = .error offset ∧
      IsGreatest {length | length ≤ bytes.length ∧ IsUtf8 (bytes.take length)}
        offset := by
  obtain ⟨letters, decoded, encoded⟩ |
    ⟨letters, rest, decoded, encoded, more, stuck⟩ :=
    decodeWithin_cases bytes 0 bytes le_rfl
  · exact absurd (isUtf8_iff_exists_letters.mpr ⟨letters, encoded⟩) bad
  · refine ⟨(bytesOf letters).length, by simp [decodeUtf8, decoded, Except.map],
      ⟨by simp [encoded], isUtf8_iff_exists_letters.mpr ⟨letters, ?_⟩⟩, ?_⟩
    · rw [encoded, List.take_left]
    · rintro length ⟨inside, valid⟩
      obtain ⟨others, taken⟩ := isUtf8_iff_exists_letters.mp valid
      have shorter := length_le_of_firstCharacter?_eq_none stuck letters others
        (bytes.drop length)
        (by rw [← encoded, ← taken, List.take_append_drop])
      rwa [← taken, List.length_take_of_le inside] at shorter

/-! ## The order of texts -/

/-- The bytes of a smaller character come first, whatever follows either. -/
theorem utf8EncodeChar_append_lt {first second : Char} (less : first < second)
    (rest others : List UInt8) :
    String.utf8EncodeChar first ++ rest <
      String.utf8EncodeChar second ++ others := by
  have smaller : first.toNat < second.toNat := less
  have limit := toNat_lt second
  have byte {value : Nat} (small : value < 0x100) :
      (UInt8.ofNat value).toNat = value :=
    (ofNat_eq_iff small).mp rfl
  have thousands (code : Nat) : code / 4096 = code / 64 / 64 := by omega
  have millions (code : Nat) : code / 262144 = code / 64 / 64 / 64 := by omega
  rw [utf8EncodeChar_eq, utf8EncodeChar_eq]
  -- One case for each pair of lengths; the first byte that differs decides.
  repeat' split
  all_goals
    simp (disch := omega) only [List.cons_append, List.nil_append,
      List.cons_lt_cons_iff, UInt8.lt_iff_toNat_lt, ← UInt8.toNat_inj, byte,
      thousands, millions]
    omega

/-- The order of texts is that of their bytes. -/
theorem bytesOf_lt {letters others : List Char} (less : letters < others) :
    bytesOf letters < bytesOf others := by
  induction letters generalizing others with
  | nil =>
    cases others with
    | nil => exact absurd less (List.not_lt_nil _)
    | cons other others =>
      obtain ⟨byte, rest, encoded⟩ := List.exists_cons_of_ne_nil
        (by simp : bytesOf (other :: others) ≠ [])
      rw [encoded]
      exact List.nil_lt_cons byte rest
  | cons letter letters ih =>
    cases others with
    | nil => exact absurd less (List.not_lt_nil _)
    | cons other others =>
      rw [List.cons_lt_cons_iff] at less
      obtain smaller | ⟨rfl, less⟩ := less
      · exact utf8EncodeChar_append_lt smaller _ _
      · exact List.append_left_lt (ih less)

theorem toUTF8_lt {first second : String} (less : first < second) :
    first.toUTF8.toList < second.toUTF8.toList := by
  rw [toList_toUTF8, toList_toUTF8]
  exact bytesOf_lt (String.lt_iff.mp less)

end Text

theorem Parsed.ofBytesAt_toUTF8 (path text : String) :
    Parsed.ofBytesAt path text.toUTF8.toList = .ok (Parsed.ofText text) := by
  rw [Parsed.ofBytesAt, Text.decodeUtf8_toUTF8]

namespace Report

variable {volume : Volume} {path : String}

theorem ofFile_of_text {text : String}
    (stored : volume.read path = .ok text.toUTF8.toList) :
    ofFile volume path = .ok ⟨path, Parsed.ofText text⟩ := by
  rw [ofFile, stored]
  simp only [Parsed.ofBytesAt_toUTF8]
  rfl

end Report

/-- Bytes are parsed as the text that they encode, wherever they come from;
bytes that encode none are refused with the length of their longest beginning
that encodes one.  The bytes that encode a text are the sequences of the
standard's table. -/
theorem ofBytes_and_ofFile
    (bytes : List UInt8) (volume : Volume) (path : String)
    (stored : volume.read path = .ok bytes) :
    (∀ text : String, bytes = text.toUTF8.toList →
      Parsed.ofBytes bytes = .ok (Parsed.ofText text) ∧
        Report.ofFile volume path = .ok ⟨path, Parsed.ofText text⟩) ∧
    ((∀ text : String, bytes ≠ text.toUTF8.toList) →
      ∃ offset,
        Parsed.ofBytes bytes = .error (.invalidEncoding "<input>" offset) ∧
          Report.ofFile volume path = .error (.invalidEncoding path offset) ∧
          IsGreatest
            {length | length ≤ bytes.length ∧ Text.IsUtf8 (bytes.take length)}
            offset) ∧
    ∀ row : List UInt8,
      Text.IsUtf8 row ↔ ∃ text : String, row = text.toUTF8.toList := by
  refine ⟨?_, ?_, fun row => Text.isUtf8_iff_exists_text⟩
  · rintro text rfl
    exact ⟨Parsed.ofBytesAt_toUTF8 "<input>" text, Report.ofFile_of_text stored⟩
  · intro none
    obtain ⟨offset, decoded, greatest⟩ := Text.decodeUtf8_of_not_isUtf8
      fun valid => by
        obtain ⟨text, encoded⟩ := Text.isUtf8_iff_exists_text.mp valid
        exact none text encoded
    refine ⟨offset, ?_, ?_, greatest⟩
    · simp [Parsed.ofBytes, Parsed.ofBytesAt, decoded]
    · simp [Report.ofFile, Parsed.ofBytesAt, stored, decoded, Except.map]

/-- A file that ends inside a character of three bytes. -/
theorem ofFile_truncated :
    let bytes : List UInt8 := [0x53, 0xE2, 0x82]
    let volume : Volume := ⟨.folder [("a.psc", .file bytes)], []⟩
    volume.read "a.psc" = .ok bytes ∧
      Parsed.ofBytes bytes = .error (.invalidEncoding "<input>" 1) ∧
      Report.ofFile volume "a.psc" = .error (.invalidEncoding "a.psc" 1) ∧
      IsGreatest
        {length | length ≤ bytes.length ∧ Text.IsUtf8 (bytes.take length)}
        1 := by
  intro bytes volume
  have stored : volume.read "a.psc" = .ok bytes := by rfl
  have refused : Parsed.ofBytes bytes =
      .error (.invalidEncoding "<input>" 1) := by rfl
  have noText (text : String) : bytes ≠ text.toUTF8.toList := by
    intro same
    have read := Text.decodeUtf8_toUTF8 text
    rw [← same] at read
    cases read
  obtain ⟨offset, here, there, greatest⟩ :=
    (ofBytes_and_ofFile bytes volume "a.psc" stored).2.1 noText
  obtain rfl : offset = 1 := by
    rw [refused] at here
    simpa using here.symm
  exact ⟨stored, refused, there, greatest⟩

end PapyrusScript
