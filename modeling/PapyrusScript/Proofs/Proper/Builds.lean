import PapyrusScript.Proofs.Alongside.Leaving
import PapyrusScript.Proofs.LineBreaks
import PapyrusScript.Proofs.Proper

/-!
# What a reader builds

A fact about the answer of a reader may depend on whether the script is going
to be accepted.  An accepted script has no report, and no report is ever taken
back, so in an accepted script nothing has been reported at any time.

`Builds accepted reader good` says that the answer of a reader is good, if in
an accepted script nothing has been reported at its end.  What is known of the
answer of the first of two readers is a premise behind the second, where more
may have been reported.

The text of a float literal starts with a digit.  So it is neither a word for
infinity or for no value nor a number with a sign, and what is read from it is
finite unless it is infinite.  A minus in front changes the sign and nothing
else.
-/

namespace PapyrusScript

def StartsWithDigit (text : List Char) : Prop :=
  ∃ digit ∈ text.head?, Text.isDigit digit = true

/-! ## Single-precision numbers -/

namespace Single

variable {text : List Char}

theorem magnitudeOfDecimal_le (digits : Nat) (exponent : Int) :
    magnitudeOfDecimal digits exponent ≤ infinityBits := by
  unfold magnitudeOfDecimal
  dsimp only
  split
  · exact Nat.zero_le _
  · split
    · exact Nat.le_refl _
    · exact Nat.min_le_right _ _

theorem infinityBits_lt : infinityBits < signBit := by
  decide

/-- A magnitude up to infinity is kept in the bits below the sign. -/
theorem ofMagnitude_false
    {magnitude : Nat} (bounded : magnitude ≤ infinityBits) :
    (ofMagnitude false magnitude).magnitudeBits = magnitude ∧
      (ofMagnitude false magnitude).isNegative = false := by
  have small : magnitude < signBit := Nat.lt_of_le_of_lt bounded infinityBits_lt
  have word : signBit ≤ UInt32.size := by decide
  have bits : (ofMagnitude false magnitude).bits.toNat = magnitude :=
    UInt32.toNat_ofNat_of_lt (Nat.lt_of_lt_of_le small word)
  constructor
  · rw [magnitudeBits, bits, Nat.mod_eq_of_lt small]
  · simp [isNegative, bits, small]

/-- What starts with a digit is no special word. -/
theorem special?_eq_none (starts : StartsWithDigit text) :
    special? text = none := by
  obtain ⟨digit, first, isDigit⟩ := starts
  have capital : ¬ ('A' ≤ digit ∧ digit ≤ 'Z') := by
    rintro ⟨above, _⟩
    simp only [Text.isDigit, Bool.and_eq_true, decide_eq_true_eq] at isDigit
    exact absurd (Char.le_trans above isDigit.2) (by decide)
  have folded : Text.foldCase digit = digit := by
    simp [Text.foldCase, capital]
  have infinite : digit ≠ 'i' := by
    rintro rfl
    cases isDigit
  have nothing : digit ≠ 'n' := by
    rintro rfl
    cases isDigit
  cases text with
  | nil => cases first
  | cons letter rest =>
    obtain rfl : letter = digit := by simpa using first
    simp [special?, folded, infinite, nothing]

theorem splitSign_eq (starts : StartsWithDigit text) :
    Number.splitSign text = (false, text) := by
  obtain ⟨digit, first, isDigit⟩ := starts
  unfold Number.splitSign
  split
  · obtain rfl : '+' = digit := by simpa using first
    cases isDigit
  · obtain rfl : '-' = digit := by simpa using first
    cases isDigit
  · rfl

/-- What is read from a text that starts with a digit has no sign, and is at
most infinite. -/
theorem unsigned_of_ofText? (starts : StartsWithDigit text) {value : Single}
    (found : ofText? text = some value) :
    value.magnitudeBits ≤ infinityBits ∧ value.isNegative = false := by
  simp only [ofText?, splitSign_eq starts, special?_eq_none starts,
    Option.map_map] at found
  obtain ⟨⟨digits, exponent⟩, _, rfl⟩ := Option.map_eq_some_iff.1 found
  have bounded := magnitudeOfDecimal_le digits exponent
  obtain ⟨bits, unsigned⟩ := ofMagnitude_false bounded
  refine ⟨?_, unsigned⟩
  change (ofMagnitude false (magnitudeOfDecimal digits exponent)).magnitudeBits
    ≤ infinityBits
  rw [bits]
  exact bounded

theorem magnitudeBits_negate (value : Single) :
    value.negate.magnitudeBits = value.magnitudeBits := by
  have mask : UInt32.toNat 0x80000000 % 2 ^ 31 = 0 := by decide
  change (value.bits ^^^ 0x80000000).toNat % 2 ^ 31 = value.bits.toNat % 2 ^ 31
  rw [UInt32.toNat_xor, Nat.xor_mod_two_pow, mask, Nat.xor_zero]

end Single

/-! ## Literals -/

/-- The value of a float literal is finite, and has no sign without a minus in
front. -/
theorem finite_of_floatValue {negative : Bool} {token : Token} {value : Value}
    (starts : StartsWithDigit token.text.toList)
    (found : Reader.floatValue negative token = .ok value) :
    value.IsFinite ∧ (negative = false → value.IsUnsigned) := by
  unfold Reader.floatValue at found
  cases number : Single.ofText? token.text.toList with
  | none => simp [number] at found
  | some single =>
    obtain ⟨bounded, unsigned⟩ := Single.unsigned_of_ofText? starts number
    by_cases infinite : single.isInfinite = true
    · simp [number, infinite] at found
    · have finite : single.magnitudeBits < Single.infinityBits := by
        simp only [Single.isInfinite, decide_eq_true_eq] at infinite
        omega
      simp only [number, infinite, Bool.false_eq_true, if_false] at found
      obtain rfl := Except.ok.inj found
      cases negative with
      | false =>
        refine ⟨?_, fun _ => unsigned⟩
        simpa [Value.IsFinite, Single.isFinite] using finite
      | true =>
        refine ⟨?_, nofun⟩
        simpa [Value.IsFinite, Single.isFinite,
          Single.magnitudeBits_negate] using finite

/-! ## Tokens -/

/-- The text of a float starts with a digit. -/
theorem Lexeme.startsWithDigit_of_float
    {source : List Char} (float : (read source).kind = .floatLiteral) :
    StartsWithDigit (read source).value := by
  rcases read_cases source with
    rfl | ⟨first, rest, rfl, digit, isNumber⟩ | other
  · cases float
  · have parts := number_append (first :: rest)
    rw [isNumber]
    change StartsWithDigit (number (first :: rest)).text
    cases shape : (number (first :: rest)).text with
    | nil => exact absurd shape (text_number_ne_nil digit rest)
    | cons letter others =>
      rw [shape, List.cons_append, List.cons.injEq] at parts
      exact ⟨letter, rfl, parts.1 ▸ digit⟩
  · simp [float] at other

/-- A float among the tokens of a text starts with a digit. -/
theorem startsWithDigit_of_mem_tokens
    {source : String} {token : Token} (member : token ∈ tokens source)
    (float : token.kind = .floatLiteral) :
    StartsWithDigit token.text.toList := by
  rw [tokens_eq_layOut] at member
  obtain ⟨front, tail, split⟩ := List.append_of_mem member
  obtain ⟨init, stretch, rest, cut, _, rfl, _⟩ :=
    exists_stretch_of_layOut split (by simp [float])
  obtain ⟨remaining, _, further⟩ := exists_remaining cut
  obtain rfl := head_stretches further
  rw [Stretch.token, String.toList_ofList]
  exact Lexeme.startsWithDigit_of_float float

/-! ## Readers and what they build -/

variable {α β : Type} {accepted : Prop}

theorem forall_mem_some {good : α → Prop} {value : α} (holds : good value) :
    ∀ other ∈ some value, good other := by
  intro other member
  obtain rfl := Option.mem_some_iff.1 member
  exact holds

/-- A slot that is taken keeps its value, and a free one gets the new. -/
theorem forall_mem_or {good : α → Prop} {slot : Option α} {found : α}
    (kept : ∀ value ∈ slot, good value) (holds : good found) :
    ∀ value ∈ slot.or (some found), good value := by
  cases slot with
  | none => exact forall_mem_some holds
  | some first => exact kept

/-- The value of a step, whether the loop goes on or ends. -/
def Step.value : Step α → α
  | .again value => value
  | .done value => value

namespace Cursor

variable {source middle target : Cursor} {fact known weaker : Prop}

def SeesFloats (cursor : Cursor) : Prop :=
  ∀ token ∈ cursor.budget, token.kind = .floatLiteral →
    StartsWithDigit token.text.toList

variable (accepted) in
/-- Between two cursors no token has come back and no report has been taken
back, and a fact holds if in an accepted script there is none at the second. -/
structure Grants (source target : Cursor) (fact : Prop) : Prop where
  budget : target.budget ⊆ source.budget
  reported : source.reported.length ≤ target.reported.length
  holds : source.SeesFloats → (accepted → target.reported = []) → fact

theorem Grants.refl
    (holds : source.SeesFloats → fact) : source.Grants accepted source fact where
  budget := List.Subset.refl _
  reported := Nat.le_refl _
  holds := fun sees _ => holds sees

theorem Grants.mono
    (grants : source.Grants accepted target fact) (implied : fact → weaker) :
    source.Grants accepted target weaker where
  budget := grants.budget
  reported := grants.reported
  holds := fun sees silent => implied (grants.holds sees silent)

theorem Grants.trans (first : source.Grants accepted middle known)
    (second : middle.Grants accepted target (known → fact)) :
    source.Grants accepted target fact where
  budget := fun _ member => first.budget (second.budget member)
  reported := Nat.le_trans first.reported second.reported
  holds := by
    intro sees silent
    have seesMore : middle.SeesFloats :=
      fun token member => sees token (first.budget member)
    have silentBefore (isAccepted : accepted) : middle.reported = [] := by
      have fewer := second.reported
      rw [silent isAccepted] at fewer
      exact List.eq_nil_of_length_eq_zero (Nat.le_zero.1 fewer)
    exact second.holds seesMore silent (first.holds sees silentBefore)

theorem Grants.of_reaches (reaches : source.Reaches target) :
    source.Grants accepted target True where
  budget := by
    obtain ⟨⟨passed, path⟩, _⟩ := reaches
    rw [path.budget_eq.1]
    exact List.subset_append_right _ _
  reported := reaches.grows.reported
  holds := fun _ _ => trivial

theorem grants_next (cursor : Cursor) :
    cursor.Grants accepted cursor.next True where
  budget := by
    by_cases inside : cursor.kind = .endOfText
    · rw [budget_next_of_endOfText inside]
      exact List.Subset.refl _
    · rw [budget_eq_cons_next inside]
      exact List.subset_cons_self _ _
  reported := Nat.le_of_eq (congrArg List.length (reported_next cursor).symm)
  holds := fun _ _ => trivial

theorem grants_report (cursor : Cursor) (diagnostic : Diagnostic) :
    cursor.Grants accepted (cursor.report diagnostic) (¬ accepted) where
  budget := List.Subset.refl _
  reported := Nat.le_succ _
  holds := by
    intro _ silent isAccepted
    exact absurd (silent isAccepted) (List.cons_ne_nil _ _)

theorem Grants.inBlock {block : Block}
    (grants : (source.enter block).Grants accepted target fact) :
    source.Grants accepted target.leave fact :=
  ⟨grants.budget, grants.reported, grants.holds⟩

end Cursor

variable (accepted) in
def Recovery.Builds (reader : Recovery α) (good : α → Prop) : Prop :=
  ∀ cursor, reader.Ends cursor fun value after =>
    cursor.Grants accepted after (good value)

variable (accepted) in
def Reader.Builds (reader : Reader α) (good : α → Prop) : Prop :=
  ∀ cursor, reader.Ends cursor
    (fun value after => cursor.Grants accepted after (good value))
    fun _ after => cursor.Grants accepted after True

namespace Recovery

open Reader

variable {good known : α → Prop} {whole : β → Prop}
variable {reader : Recovery α} {value : α}

theorem Builds.mono (builds : reader.Builds accepted known)
    (implied : ∀ value, known value → good value) :
    reader.Builds accepted good :=
  fun cursor => Ends.mono (builds cursor) fun value _ grants =>
    grants.mono (implied value)

theorem Builds.pure (holds : good value) :
    Builds accepted (Pure.pure value) good :=
  fun _ => .refl fun _ => holds

theorem Builds.bind
    {following : α → Recovery β} (first : reader.Builds accepted known)
    (rest : ∀ value, (following value).Builds accepted fun result =>
      known value → whole result) :
    Builds accepted (reader >>= following) whole := by
  intro cursor
  apply Ends.bind (first cursor)
  intro value middle grants
  apply Ends.mono (rest value middle)
  exact fun _ _ further => grants.trans further

theorem Builds.get {following : Cursor → Recovery β}
    (rest : ∀ cursor, (following cursor).Builds accepted whole) :
    Builds accepted (MonadState.get >>= following) whole :=
  fun cursor => rest cursor cursor

/-- A reader that only moves the cursor builds nothing. -/
theorem builds_of_travels (travels : ∀ cursor, reader.Travels cursor) :
    reader.Builds accepted fun _ => True :=
  fun cursor => Ends.mono (travels cursor) fun _ _ => .of_reaches

theorem Builds.skip
    {following : α → Recovery β} (travels : ∀ cursor, reader.Travels cursor)
    (rest : ∀ value, (following value).Builds accepted whole) :
    Builds accepted (reader >>= following) whole :=
  (builds_of_travels travels).bind fun value =>
    (rest value).mono fun _ holds _ => holds

theorem Builds.take {following : Token → Recovery β}
    (rest : ∀ token, (following token).Builds accepted whole) :
    Builds accepted (advance >>= following) whole := by
  intro cursor
  rw [ends_bind, ends_advance]
  apply Ends.mono (rest _ _)
  exact fun _ _ further => (cursor.grants_next).trans
    (further.mono fun holds _ => holds)

theorem builds_report (diagnostic : Diagnostic) :
    Builds accepted (report diagnostic) fun _ => ¬ accepted :=
  fun cursor => cursor.grants_report diagnostic

theorem builds_complain (position : Position) (cause : Cause) :
    Builds accepted (complain position cause) fun _ => ¬ accepted :=
  builds_report _

theorem Builds.report {following : Recovery α} (diagnostic : Diagnostic)
    (rest : following.Builds accepted good) :
    Builds accepted (Reader.report diagnostic >>= fun _ => following) good :=
  (builds_report diagnostic).bind fun _ => rest.mono fun _ holds _ => holds

theorem Builds.unexpected
    {expected : String} {following : Diagnostic → Recovery β}
    (rest : ∀ diagnostic, (following diagnostic).Builds accepted whole) :
    Builds accepted (Reader.unexpected expected >>= following) whole :=
  fun cursor => rest _ cursor

/-- What is known of an answer is known behind its recovery. -/
theorem Builds.run_bind
    {reader : Reader α} {following : Except Diagnostic α → Recovery β}
    (first : reader.Builds accepted known)
    (onValue : ∀ value, (following (.ok value)).Builds accepted fun result =>
      known value → whole result)
    (onError : ∀ diagnostic,
      (following (.error diagnostic)).Builds accepted whole) :
    Builds accepted (reader.run >>= following) whole := by
  intro cursor
  rw [ends_bind, ends_run]
  apply Reader.Ends.mono (first cursor)
  · intro value middle grants
    apply Ends.mono (onValue value middle)
    exact fun _ _ further => grants.trans further
  · intro diagnostic middle grants
    apply Ends.mono (onError diagnostic middle)
    exact fun _ _ further => grants.trans (further.mono fun holds _ => holds)

/-- What the steps of a loop keep is kept by the loop. -/
theorem Builds.loop {step : α → Recovery (Step α)}
    (steps : ∀ value, (step value).Builds accepted fun decision =>
      good value → good decision.value)
    (budget : List Token) (value : α) :
    Builds accepted (PapyrusScript.loop step budget value) fun result =>
      good value → good result := by
  induction budget generalizing value with
  | nil => exact .pure id
  | cons _ budget ih =>
    apply (steps value).bind
    intro decision
    cases decision with
    | again following =>
      exact (ih following).mono
        fun _ holds first before => holds (first before)
    | done final => exact .pure id

theorem Builds.loop_of {step : α → Recovery (Step α)}
    (steps : ∀ value, (step value).Builds accepted fun decision =>
      good value → good decision.value)
    (budget : List Token) (holds : good value) :
    Builds accepted (PapyrusScript.loop step budget value) good :=
  (Builds.loop steps budget value).mono fun _ result => result holds

theorem Builds.inBlock
    {block : Block} {body : Recovery α} (builds : body.Builds accepted good) :
    Builds accepted (Reader.inBlock block body) good := by
  intro cursor
  rw [ends_inBlock]
  exact Ends.mono (builds _) fun _ _ grants => grants.inBlock

/-- An error is reported, the rest of a statement discarded, and what has
been found before is left. -/
theorem builds_synchronizeAfter (diagnostic : Diagnostic) (holds : good value) :
    Builds accepted
      (do
        report diagnostic
        synchronize
        return value) good :=
  .report diagnostic (.skip travels_synchronize fun _ => .pure holds)

/-- An error is reported, the rest of the line discarded, and what has been
found before is left. -/
theorem builds_skipLineAfter (diagnostic : Diagnostic) (holds : good value) :
    Builds accepted
      (do
        reportAndSkipLine diagnostic
        return value) good :=
  .report diagnostic (.skip travels_skipLine fun _ => .pure holds)

end Recovery

namespace Reader

variable {good known : α → Prop} {whole : β → Prop}
variable {reader : Reader α}

theorem Builds.mono (builds : reader.Builds accepted known)
    (implied : ∀ value, known value → good value) :
    reader.Builds accepted good :=
  fun cursor => Ends.mono (builds cursor)
    (fun value _ grants => grants.mono (implied value)) fun _ _ grants => grants

theorem Builds.pure {value : α} (holds : good value) :
    Builds accepted (Pure.pure value) good :=
  fun _ => .refl fun _ => holds

theorem builds_throw (diagnostic : Diagnostic) :
    Builds accepted (throw diagnostic : Reader α) good :=
  fun _ => .refl fun _ => trivial

theorem builds_reject (expected : String) :
    Builds accepted (reject expected : Reader α) good :=
  fun _ => .refl fun _ => trivial

theorem Builds.bind
    {following : α → Reader β} (first : reader.Builds accepted known)
    (rest : ∀ value, (following value).Builds accepted fun result =>
      known value → whole result) :
    Builds accepted (reader >>= following) whole := by
  intro cursor
  rw [ends_bind]
  apply Ends.mono (first cursor)
  · intro value middle grants
    apply Ends.mono (rest value middle)
    · exact fun _ _ further => grants.trans further
    · exact fun _ _ further => grants.trans (further.mono fun _ _ => trivial)
  · exact fun _ _ grants => grants

theorem Builds.map {change : α → β}
    (builds : reader.Builds accepted fun value => whole (change value)) :
    Builds accepted (change <$> reader) whole := by
  intro cursor
  rw [ends_map]
  exact builds cursor

theorem Builds.get {following : Cursor → Reader β}
    (rest : ∀ cursor, (following cursor).Builds accepted whole) :
    Builds accepted (MonadState.get >>= following) whole :=
  fun cursor => rest cursor cursor

theorem Builds.lift
    {reader : Recovery α} (builds : reader.Builds accepted good) :
    Reader.Builds accepted (liftM reader) good :=
  builds

/-- A reader that only moves the cursor builds nothing. -/
theorem builds_of_travels (travels : ∀ cursor, reader.Travels cursor) :
    reader.Builds accepted fun _ => True :=
  fun cursor => Ends.mono (travels cursor) (fun _ _ => .of_reaches)
    fun _ _ stopped => .of_reaches stopped.1

theorem Builds.skip
    {following : α → Reader β} (travels : ∀ cursor, reader.Travels cursor)
    (rest : ∀ value, (following value).Builds accepted whole) :
    Builds accepted (reader >>= following) whole :=
  (builds_of_travels travels).bind fun value =>
    (rest value).mono fun _ holds _ => holds

theorem Builds.take {following : Token → Reader β}
    (rest : ∀ token, (following token).Builds accepted whole) :
    Builds accepted (liftM advance >>= following) whole := by
  have taken : Recovery.Builds accepted advance fun _ => True :=
    fun cursor => cursor.grants_next
  exact (Builds.lift taken).bind fun token =>
    (rest token).mono fun _ holds _ => holds

/-- What the steps of a loop keep is kept by the loop. -/
theorem Builds.loop {step : α → Reader (Step α)}
    (steps : ∀ value, (step value).Builds accepted fun decision =>
      good value → good decision.value)
    (budget : List Token) (value : α) :
    Builds accepted (PapyrusScript.loop step budget value) fun result =>
      good value → good result := by
  induction budget generalizing value with
  | nil => exact .pure id
  | cons _ budget ih =>
    apply (steps value).bind
    intro decision
    cases decision with
    | again following =>
      exact (ih following).mono
        fun _ holds first before => holds (first before)
    | done final => exact .pure id

end Reader

end PapyrusScript
