import Mathlib.Data.List.Basic
import Mathlib.Data.Option.Basic
import PapyrusScript.Settings.Reader

/-!
# Settings that are written are read back

A text between quotes is read back character by character, whatever it
consists of, and a number digit by digit.  So the document for settings is
read as these settings, as long as their number of workers is one that can be
set.  What is read from any text has such a number.
-/

namespace PapyrusScript

namespace Document

variable {rest : List Char}

/-! ## Blanks and signs -/

theorem skipSpaces_lineStart (level : Nat) :
    skipSpaces (lineStart level ++ rest) = skipSpaces rest := by
  have blank : ∀ letter ∈ lineStart level, isSpace letter = true := by
    simp [lineStart, isSpace]
  rw [skipSpaces, skipSpaces, List.dropWhile_append_of_pos blank]

theorem skipSpaces_cons {sign : Char} (visible : isSpace sign = false) :
    skipSpaces (sign :: rest) = sign :: rest :=
  List.dropWhile_cons_of_neg (by simp [visible])

theorem skipSign_lineStart (sign : Char) (level : Nat) :
    skipSign sign (lineStart level ++ rest) = skipSign sign rest := by
  rw [skipSign, skipSign, skipSpaces_lineStart]

theorem skipSign_self {sign : Char} (visible : isSpace sign = false) :
    skipSign sign (sign :: rest) = some rest := by
  rw [skipSign, skipSpaces_cons visible]
  exact if_pos rfl

theorem skipSign_other {sign other : Char} (visible : isSpace other = false)
    (differs : other ≠ sign) : skipSign sign (other :: rest) = none := by
  rw [skipSign, skipSpaces_cons visible]
  exact if_neg differs

/-! ## Texts -/

theorem shortMeaning?_shortEscape? {letter short : Char}
    (escaped : shortEscape? letter = some short) :
    shortMeaning? short = some letter := by
  unfold shortEscape? at escaped
  split_ifs at escaped with quote backslash back feed line carriage tab
  all_goals
    subst letter
    cases escaped
    rfl

/-- The number of a control character is read back from its digits. -/
theorem fourDigits?_hexDigits {value : Nat} (low : value < 0x20) :
    fourDigits?
        ('0' :: '0' :: hexDigit (value / 16) :: hexDigit (value % 16) :: rest) =
      some (value, rest) := by
  have digits : ∀ value < 0x20, Number.natural? 16 Text.isHexDigit
      ['0', '0', hexDigit (value / 16), hexDigit (value % 16)] =
        some value := by
    decide
  rw [fourDigits?, digits value low]
  rfl

theorem escaped?_shortEscape? {letter short : Char}
    (escaped : shortEscape? letter = some short) :
    escaped? (short :: rest) = some (letter, rest) := by
  have meaning := shortMeaning?_shortEscape? escaped
  unfold escaped?
  split
  · rename_i isNumber
    cases isNumber
    cases meaning
  · rename_i isShort
    cases isShort
    rw [meaning]
    rfl
  · contradiction

theorem escaped?_hexDigits {letter : Char} (low : letter.toNat < 0x20) :
    escaped? ('u' :: '0' :: '0' :: hexDigit (letter.toNat / 16) ::
      hexDigit (letter.toNat % 16) :: rest) = some (letter, rest) := by
  have noHigh : ¬ (0xD800 ≤ letter.toNat && letter.toNat < 0xDC00) = true := by
    simp; omega
  have noLow : ¬ (0xDC00 ≤ letter.toNat && letter.toNat < 0xE000) = true := by
    simp; omega
  rw [escaped?, numbered?, fourDigits?_hexDigits low]
  simp only [Option.bind_eq_bind, Option.bind_some, if_neg noHigh,
    if_neg noLow, Char.ofNat_toNat]

/-- What is written for a character is read back as this character. -/
theorem textWithin_escape (letter token : Char) (budget : List Char) :
    textWithin (token :: budget) (escape letter ++ rest) =
      (textWithin budget rest).map fun (letters, final) =>
        (letter :: letters, final) := by
  have escapes {written : List Char}
      (read : escaped? (written ++ rest) = some (letter, rest)) :
      textWithin (token :: budget) ('\\' :: written ++ rest) =
        (textWithin budget rest).map fun (letters, final) =>
          (letter :: letters, final) := by
    rw [List.cons_append, textWithin]
    simp only [read, Option.bind_eq_bind, Option.bind_some]
    cases textWithin budget rest <;> rfl
  unfold escape
  split
  · rename_i short escaped
    exact escapes (escaped?_shortEscape? escaped)
  · rename_i noShort
    split
    · rename_i low
      exact escapes (escaped?_hexDigits low)
    · rename_i plain
      have noQuote : letter ≠ '"' := by
        rintro rfl
        cases noShort
      have noBackslash : letter ≠ '\\' := by
        rintro rfl
        cases noShort
      rw [List.singleton_append, textWithin.eq_def]
      simp only [if_neg plain, Option.bind_eq_bind]
      cases textWithin budget rest <;> rfl

/-- What is written with escapes is read back, character by character. -/
theorem textWithin_escapes (letters budget : List Char)
    (enough : letters.length < budget.length) :
    textWithin budget (letters.flatMap escape ++ '"' :: rest) =
      some (letters, rest) := by
  induction letters generalizing budget with
  | nil =>
    cases budget with
    | nil => cases enough
    | cons token budget => rfl
  | cons letter letters ih =>
    cases budget with
    | nil => cases enough
    | cons token budget =>
      rw [List.flatMap_cons, List.append_assoc, textWithin_escape,
        ih budget (Nat.lt_of_succ_lt_succ enough)]
      rfl

theorem length_le_escapes (letters : List Char) :
    letters.length ≤ (letters.flatMap escape).length := by
  have longer (letter : Char) : 1 ≤ (escape letter).length := by
    unfold escape
    split
    · simp
    · split <;> simp
  induction letters with
  | nil => exact Nat.zero_le _
  | cons letter letters ih =>
    rw [List.flatMap_cons, List.length_append, List.length_cons]
    have := longer letter
    omega

theorem text?_quote (letters : List Char) :
    text? (quote letters ++ rest) = some (letters, rest) := by
  have written : quote letters ++ rest =
      '"' :: (letters.flatMap escape ++ '"' :: rest) := by
    simp [quote]
  rw [written, text?, skipSign_self (by decide)]
  apply textWithin_escapes
  rw [List.length_append, List.length_cons]
  have := length_le_escapes letters
  omega

theorem text?_lineStart (level : Nat) (source : List Char) :
    text? (lineStart level ++ source) = text? source := by
  rw [text?, text?, skipSign_lineStart]

/-! ## Numbers -/

theorem isDigit_of_mem_toDigits {value : Nat} {digit : Char}
    (among : digit ∈ Nat.toDigits 10 value) : Text.isDigit digit = true := by
  have isDigit := Nat.isDigit_of_mem_toDigits (by decide) (by decide) among
  simpa [Char.isDigit, Text.isDigit, Char.le_def] using isDigit

theorem natural?_digits (value : Nat) :
    Number.natural? 10 Text.isDigit (Nat.toDigits 10 value) = some value := by
  have present : (Nat.toDigits 10 value).isEmpty = false := by
    simp [Nat.toDigits_ne_nil]
  have all : (Nat.toDigits 10 value).all Text.isDigit = true :=
    List.all_eq_true.mpr fun _ => isDigit_of_mem_toDigits
  have denoted : Number.digitsValue 10 (Nat.toDigits 10 value) =
      Nat.ofDigitChars 10 (Nat.toDigits 10 value) 0 := by
    refine List.foldl_ext _ _ _ fun sofar digit among => ?_
    rw [Number.digitValue, if_pos (isDigit_of_mem_toDigits among), Nat.mul_comm]
  rw [Number.natural?, present, all, denoted,
    Nat.ofDigitChars_toDigits (by decide) (by decide)]
  rfl

theorem exists_toDigits_cons {value : Nat} (positive : 0 < value) :
    ∃ first more, Nat.toDigits 10 value = first :: more ∧ first ≠ '0' := by
  induction value using Nat.strongRecOn with
  | ind value ih =>
    by_cases small : value < 10
    · refine ⟨_, [], Nat.toDigits_of_lt_base small, ?_⟩
      have visible : ∀ digit < 10, 0 < digit → digit.digitChar ≠ '0' := by
        decide
      exact visible value small positive
    · have front : 0 < value / 10 := by omega
      obtain ⟨first, more, written, visible⟩ := ih (value / 10) (by omega) front
      refine ⟨first, more ++ [(value % 10).digitChar], ?_, visible⟩
      rw [Nat.toDigits_of_base_le (by decide) (by omega), written,
        List.cons_append]

/-- A number is read back in front of anything but a digit. -/
theorem natural?_toString (value : Nat)
    (stops : ∀ next ∈ rest.head?, Text.isDigit next = false) :
    natural? (' ' :: ((toString (value : Int)).toList ++ rest)) =
      some (value, rest) := by
  have written : (toString (value : Int)).toList = Nat.toDigits 10 value :=
    Nat.toList_repr
  have digits : ∀ digit ∈ Nat.toDigits 10 value, Text.isDigit digit = true :=
    fun _ => isDigit_of_mem_toDigits
  have behind : rest.takeWhile Text.isDigit = [] ∧
      rest.dropWhile Text.isDigit = rest := by
    cases rest with
    | nil => exact ⟨rfl, rfl⟩
    | cons next more => simp [stops next rfl]
  have taken : (Nat.toDigits 10 value ++ rest).takeWhile Text.isDigit =
      Nat.toDigits 10 value := by
    rw [List.takeWhile_append_of_pos digits, behind.1, List.append_nil]
  have left : (Nat.toDigits 10 value ++ rest).dropWhile Text.isDigit =
      rest := by
    rw [List.dropWhile_append_of_pos digits, behind.2]
  rw [written]
  rcases Nat.eq_zero_or_pos value with rfl | positive
  · rfl
  · obtain ⟨first, more, shape, visible⟩ := exists_toDigits_cons positive
    have noSpace : isSpace first = false := by
      have isDigit := digits first (shape ▸ List.mem_cons_self)
      refine Bool.eq_false_iff.mpr fun isBlank => ?_
      simp only [isSpace, Bool.or_eq_true, decide_eq_true_eq] at isBlank
      obtain ((rfl | rfl) | rfl) | rfl := isBlank <;> cases isDigit
    have space : skipSpaces (' ' :: (Nat.toDigits 10 value ++ rest)) =
        Nat.toDigits 10 value ++ rest := by
      rw [shape]
      exact skipSpaces_cons noSpace
    rw [natural?, space]
    split
    · rename_i zero
      rw [shape] at zero
      exact absurd (List.cons.inj zero).1 visible
    · simp [taken, left, natural?_digits]

end Document

namespace Settings

variable {rest : List Char}
variable {source : List Char} {settings : Settings}

/-! ## What is written -/

theorem textValue?_quote (text : String) :
    textValue? (' ' :: (Document.quote text.toList ++ rest)) =
      some (text, rest) := by
  have read : Document.text? (' ' :: (Document.quote text.toList ++ rest)) =
      some (text.toList, rest) := Document.text?_quote text.toList
  simp only [textValue?, read, Option.map_some, String.ofList_toList]

theorem jobsValue?_toString {jobs : Nat} (within : jobs ≤ jobLimit)
    (stops : ∀ next ∈ rest.head?, Text.isDigit next = false) :
    jobsValue? (' ' :: ((toString (jobs : Int)).toList ++ rest)) =
      some (jobs, rest) := by
  rw [jobsValue?, Document.natural?_toString jobs stops]
  exact if_pos within

section Field

variable {token : Char} {budget value : List Char} {draft next : Draft}
  (level : Nat) (name : String)

theorem textValue?_name :
    textValue? (Document.lineStart level ++
      (Document.quote name.toList ++ ':' :: value)) =
        some (name, ':' :: value) := by
  simp only [textValue?, Document.text?_lineStart, Document.text?_quote,
    Option.map_some, String.ofList_toList]

theorem fields?_comma
    (read : field? draft name value = some (next, ',' :: rest)) :
    fields? (token :: budget) draft (Document.lineStart level ++
        (Document.quote name.toList ++ ':' :: value)) =
      fields? budget next rest := by
  rw [fields?]
  simp only [textValue?_name, read, Option.bind_eq_bind, Option.bind_some,
    Document.skipSign_self (show Document.isSpace ':' = false by decide),
    Document.skipSign_self (show Document.isSpace ',' = false by decide)]

theorem fields?_brace (read : field? draft name value =
      some (next, Document.lineStart 0 ++ ['\x7d'])) :
    fields? (token :: budget) draft (Document.lineStart level ++
        (Document.quote name.toList ++ ':' :: value)) =
      some (next, []) := by
  rw [fields?]
  simp only [textValue?_name, read, Option.bind_eq_bind, Option.bind_some,
    Document.skipSign_self (show Document.isSpace ':' = false by decide)]
  rfl

end Field

def writtenFields (settings : Settings) : List Char :=
  Document.lineStart 1 ++ (Document.quote "scripts_dir".toList ++ ':' :: ' ' ::
    (Document.quote settings.scriptsFolder.toList ++ ',' ::
      (Document.lineStart 1 ++ (Document.quote "source_pattern".toList ++
        ':' :: ' ' :: (Document.quote settings.sourcePattern.toList ++ ',' ::
          (Document.lineStart 1 ++ (Document.quote "jobs".toList ++
            ':' :: ' ' :: ((toString (settings.jobs : Int)).toList ++
              (Document.lineStart 0 ++ ['\x7d'])))))))))

theorem toList_written (settings : Settings) :
    settings.document.written.toList = '\x7b' :: settings.writtenFields := by
  simp [Document.written, document, Document.writeAt, Document.writeFields,
    Document.enclose, Document.natural, writtenFields]

/-- The fields are read back with any budget that is enough for three. -/
theorem fields?_written
    (within : settings.jobs ≤ jobLimit) (first second third : Char)
    (budget : List Char) :
    fields? (first :: second :: third :: budget) ⟨none, none, none⟩
        settings.writtenFields =
      some (⟨settings.scriptsFolder, settings.sourcePattern, settings.jobs⟩,
        []) := by
  have stops : ∀ next ∈ (Document.lineStart 0 ++ ['\x7d']).head?,
      Text.isDigit next = false := by
    intro next found
    cases found
    rfl
  rw [writtenFields,
    fields?_comma 1 "scripts_dir" (by
      simp only [field?, if_true, textValue?_quote]; rfl),
    fields?_comma 1 "source_pattern" (by
      simp only [field?, textValue?_quote]; rfl),
    fields?_brace 1 "jobs" (by
      simp only [field?, jobsValue?_toString within stops]; rfl)]

/-- Settings are read back from the document in which they are written. -/
theorem ofText?_written (within : settings.jobs ≤ jobLimit) :
    ofText? settings.document.written =
      some { settings with profile := "" } := by
  have brace : Document.isSpace '\x7b' = false := by decide
  have noBrace : Document.skipSign '\x7d' settings.writtenFields = none := by
    rw [writtenFields, Document.skipSign_lineStart]
    exact Document.skipSign_other (by decide) (by decide)
  have read : record? settings.document.written.toList =
      some (⟨settings.scriptsFolder, settings.sourcePattern, settings.jobs⟩,
        []) := by
    rw [toList_written, record?, Document.skipSign_self brace]
    simp only [Option.bind_eq_bind, Option.bind_some, noBrace]
    exact fields?_written within ..
  rw [ofText?, read]
  rfl

/-! ## What is read -/

/-- That the number of workers is one that can be set, if it is there. -/
def Draft.Settable (draft : Draft) : Prop :=
  ∀ jobs ∈ draft.jobs, jobs ≤ jobLimit

theorem jobs_le_of_jobsValue?
    {jobs : Nat} (read : jobsValue? source = some (jobs, rest)) :
    jobs ≤ jobLimit := by
  simp only [jobsValue?, Option.bind_eq_bind, Option.bind_eq_some_iff] at read
  obtain ⟨⟨value, after⟩, -, set⟩ := read
  split at set
  · rename_i within
    cases set
    exact within
  · cases set

/-- One field of a document keeps the settings within their bounds. -/
theorem Draft.Settable.field?
    {draft next : Draft} {name : String} (settable : draft.Settable)
    (read : field? draft name source = some (next, rest)) :
    next.Settable := by
  unfold Settings.field? at read
  split_ifs at read
  all_goals simp only [Option.bind_eq_bind, Option.bind_eq_some_iff] at read
  · obtain ⟨-, -, ⟨value, after⟩, -, set⟩ := read
    cases set
    exact settable
  · obtain ⟨-, -, ⟨value, after⟩, -, set⟩ := read
    cases set
    exact settable
  · obtain ⟨-, -, ⟨value, after⟩, number, set⟩ := read
    cases set
    rintro jobs ⟨⟩
    exact jobs_le_of_jobsValue? number
  · obtain ⟨after, -, set⟩ := read
    cases set
    exact settable

/-- The fields of a document keep the settings within their bounds. -/
theorem Draft.Settable.fields? {draft next : Draft}
    {budget source : List Char} (settable : draft.Settable)
    (read : fields? budget draft source = some (next, rest)) :
    next.Settable := by
  induction budget generalizing draft source with
  | nil => cases read
  | cons token budget ih =>
    rw [Settings.fields?] at read
    simp only [Option.bind_eq_bind, Option.bind_eq_some_iff] at read
    obtain ⟨⟨name, named⟩, -, value, -, ⟨middle, after⟩, field, read⟩ := read
    have kept := settable.field? field
    split at read
    · exact ih kept read
    · obtain ⟨final, -, set⟩ := Option.bind_eq_some_iff.mp read
      cases set
      exact kept

theorem settable_record?
    {draft : Draft} (read : record? source = some (draft, rest)) :
    draft.Settable := by
  simp only [record?, Option.bind_eq_bind, Option.bind_eq_some_iff] at read
  obtain ⟨inside, -, read⟩ := read
  split at read
  · cases read
    rintro jobs ⟨⟩
  · exact Draft.Settable.fields? (by rintro jobs ⟨⟩) read

/-- A document that is read gives settings within their bounds. -/
theorem settable_list?
    {draft : Draft} (read : list? source = some (draft, rest)) :
    draft.Settable := by
  simp only [list?, Option.bind_eq_bind, Option.bind_eq_some_iff] at read
  obtain ⟨inside, -, ⟨folder, afterFolder⟩, -, read⟩ := read
  split at read
  · obtain ⟨after, -, set⟩ := Option.bind_eq_some_iff.mp read
    cases set
    rintro jobs ⟨⟩
  · obtain ⟨⟨pattern, afterPattern⟩, -, read⟩ :=
      Option.bind_eq_some_iff.mp read
    split at read
    · obtain ⟨after, -, set⟩ := Option.bind_eq_some_iff.mp read
      cases set
      rintro jobs ⟨⟩
    · simp only [Option.bind_eq_some_iff] at read
      obtain ⟨⟨value, afterJobs⟩, number, after, -, set⟩ := read
      cases set
      rintro jobs ⟨⟩
      exact jobs_le_of_jobsValue? number

/-- No text holds a number of workers that cannot be set. -/
theorem jobs_le_of_ofText?
    {text : String} (read : ofText? text = some settings) :
    settings.jobs ≤ jobLimit := by
  simp only [ofText?, Option.bind_eq_bind, Option.bind_eq_some_iff] at read
  obtain ⟨⟨draft, after⟩, found, -, -, complete⟩ := read
  have settable : draft.Settable := by
    cases asRecord : record? text.toList with
    | some answer =>
      rw [asRecord] at found
      exact settable_record? (asRecord.trans found)
    | none =>
      rw [asRecord] at found
      exact settable_list? found
  obtain ⟨folder, -, rfl⟩ := Option.map_eq_some_iff.mp complete
  cases set : draft.jobs with
  | none => simp
  | some jobs => simpa using settable jobs set

end Settings

end PapyrusScript
