/-!
# Letters, digits and case

Keywords and names of the language are written in ASCII letters, digits and
underscores, and their case carries no meaning.  `sameLetters` is the one
comparison that every look-up by name goes through.
-/

namespace PapyrusScript.Text

/-- An ASCII letter. -/
def isLetter (letter : Char) : Bool :=
  ('a' ≤ letter && letter ≤ 'z') || ('A' ≤ letter && letter ≤ 'Z')

/-- An ASCII decimal digit. -/
def isDigit (letter : Char) : Bool := '0' ≤ letter && letter ≤ '9'

/-- A digit of a hexadecimal number, in either case. -/
def isHexDigit (letter : Char) : Bool :=
  isDigit letter ||
    ('a' ≤ letter && letter ≤ 'f') || ('A' ≤ letter && letter ≤ 'F')

/-- A character that may start a name. -/
def isNameStart (letter : Char) : Bool := isLetter letter || letter = '_'

/-- A character that may continue a name. -/
def isNamePart (letter : Char) : Bool :=
  isLetter letter || isDigit letter || letter = '_'

/-- The lower-case form of an ASCII letter; any other character is its own. -/
def foldCase (letter : Char) : Char :=
  if 'A' ≤ letter && letter ≤ 'Z' then
    Char.ofNat (letter.toNat + 32)
  else
    letter

theorem toNat_foldCase (letter : Char) :
    (foldCase letter).toNat =
      if 65 ≤ letter.toNat ∧ letter.toNat ≤ 90 then letter.toNat + 32
      else letter.toNat := by
  have capital : ('A' ≤ letter && letter ≤ 'Z') = true ↔
      65 ≤ letter.toNat ∧ letter.toNat ≤ 90 := by
    rw [Bool.and_eq_true, decide_eq_true_iff, decide_eq_true_iff]
    rfl
  simp only [foldCase, capital]
  split
  · rw [Char.ofNat, dif_pos (Or.inl (by omega))]
    rfl
  · rfl

/-- An ASCII capital letter, and the same letter in lower case. -/
def AreCases (capital small : Char) : Prop :=
  'A' ≤ capital ∧ capital ≤ 'Z' ∧ small.toNat = capital.toNat + 32

/-- Two characters have one lower-case form if they are the same or the two
cases of a letter. -/
theorem foldCase_eq_foldCase_iff (first second : Char) :
    foldCase first = foldCase second ↔
      first = second ∨ AreCases first second ∨ AreCases second first := by
  have capital (letter : Char) : ('A' ≤ letter ∧ letter ≤ 'Z') ↔
      65 ≤ letter.toNat ∧ letter.toNat ≤ 90 :=
    Iff.rfl
  rw [← Char.toNat_inj, ← Char.toNat_inj (c := first), toNat_foldCase,
    toNat_foldCase]
  unfold AreCases
  rw [← and_assoc, ← and_assoc, capital, capital]
  split <;> split <;> omega

/-- Whether two texts differ at most in the case of ASCII letters. -/
def sameLetters (first second : String) : Bool :=
  first.toList.map foldCase = second.toList.map foldCase

/-- Texts with the same letters are of one length, and where two characters in
the same place differ, they are the two cases of a letter. -/
theorem sameLetters_iff (first second : String) :
    sameLetters first second = true ↔
      first.toList.length = second.toList.length ∧
        ∀ pair ∈ first.toList.zip second.toList,
          pair.1 = pair.2 ∨ AreCases pair.1 pair.2 ∨
            AreCases pair.2 pair.1 := by
  unfold sameLetters
  rw [decide_eq_true_iff]
  generalize first.toList = letters
  generalize second.toList = others
  induction letters generalizing others with
  | nil => cases others <;> simp
  | cons letter letters ih =>
    cases others with
    | nil => simp
    | cons other others =>
      simp only [List.map_cons, List.cons.injEq, ih, foldCase_eq_foldCase_iff,
        List.length_cons, Nat.add_right_cancel_iff, List.zip_cons_cons,
        List.forall_mem_cons]
      exact and_left_comm

end PapyrusScript.Text
