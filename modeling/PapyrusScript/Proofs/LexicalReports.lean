import Mathlib.Data.List.Forall2
import PapyrusScript.Proofs.Passage

/-!
# Every invalid token is reported once

Every token but the end of the text has at least one character, so each token
of a script starts after the one before it.  The end of the text comes last
if it comes at all.

An invalid token is met in one of two ways: a reader fails at it and recovery
then passes it, or recovery passes it while discarding text.  The cursor
remembers the place of the last lexical error, and no two invalid tokens start
at the same place, so the second report of a token that was rejected is the
only one that is suppressed.

`Accounts` is what holds along every path from the first token: the lexical
errors reported so far are those of the invalid tokens passed so far.
-/

namespace PapyrusScript

namespace Position

variable {first second third : Position}

theorem lt_iff :
    first < second ↔
      first.line < second.line ∨
        (first.line = second.line ∧ first.column < second.column) :=
  Iff.rfl

theorem le_iff : first ≤ second ↔ ¬ second < first := Iff.rfl

theorem lt_irrefl (place : Position) : ¬ place < place := by
  rw [lt_iff]
  omega

theorem le_refl (place : Position) : place ≤ place := lt_irrefl place

theorem le_of_lt (before : first < second) : first ≤ second := by
  rw [le_iff, lt_iff]
  rw [lt_iff] at before
  omega

theorem lt_of_lt_of_le
    (before : first < second) (after : second ≤ third) : first < third := by
  rw [lt_iff] at before
  rw [le_iff, lt_iff] at after
  rw [lt_iff]
  omega

theorem le_trans
    (before : first ≤ second) (after : second ≤ third) : first ≤ third :=
  fun back => after (lt_of_lt_of_le back before)

theorem lt_step (place : Position) (letter : Char) :
    place < place.step letter := by
  unfold step
  rw [lt_iff]
  split
  · left
    exact Nat.lt_succ_self _
  · right
    exact ⟨rfl, Nat.lt_succ_self _⟩

theorem le_advance (place : Position) (text : List Char) :
    place ≤ place.advance text := by
  induction text generalizing place with
  | nil => exact le_refl place
  | cons letter text ih =>
    rw [advance_cons]
    exact le_trans (le_of_lt (lt_step place letter))
      (ih _)

theorem lt_advance
    (place : Position) {text : List Char} (nonempty : text ≠ []) :
    place < place.advance text := by
  cases text with
  | nil => exact absurd rfl nonempty
  | cons letter text =>
    rw [advance_cons]
    exact lt_of_lt_of_le (lt_step place letter) (le_advance _ text)

end Position

/-! ## Lexemes have characters -/

namespace Lexeme

variable {first : Char}

theorem text_docComment_ne_nil (inside : List Char) :
    (docComment inside).text ≠ [] := by
  unfold docComment
  dsimp only
  split <;> simp

theorem text_string_ne_nil (inside : List Char) :
    (string inside).text ≠ [] := by
  unfold string
  dsimp only
  split
  · simp
  · split <;> simp

theorem decimal_ne_nil (digit : Text.isDigit first = true) (rest : List Char) :
    (numeral.decimal (first :: rest)).2 ≠ [] := by
  simp [numeral.decimal, digit]

theorem numeral_ne_nil (digit : Text.isDigit first = true) (rest : List Char) :
    (numeral (first :: rest)).2 ≠ [] := by
  unfold numeral
  split
  · split
    · simp
    · rename_i shape _
      exact shape ▸ decimal_ne_nil digit rest
  · exact decimal_ne_nil digit rest

theorem text_number_ne_nil
    (digit : Text.isDigit first = true) (rest : List Char) :
    (number (first :: rest)).text ≠ [] := by
  have digits := numeral_ne_nil digit rest
  simp [number, digits]

theorem text_word_ne_nil
    (letter : Text.isNameStart first = true) (rest : List Char) :
    (word (first :: rest)).text ≠ [] := by
  have part : Text.isNamePart first = true := by
    simp only [Text.isNameStart, Bool.or_eq_true] at letter
    simp only [Text.isNamePart, Bool.or_eq_true]
    rcases letter with letter | underscore
    · exact Or.inl (Or.inl letter)
    · exact Or.inr underscore
  simp [word, part]

theorem spelling_ne_nil (sign : Symbol) : sign.spelling.toList ≠ [] := by
  cases sign <;> decide

theorem text_sign_ne_nil (first : Char) (rest : List Char) :
    (sign (first :: rest)).text ≠ [] := by
  unfold sign
  split
  · rename_i found _
    exact spelling_ne_nil found
  · simp

theorem text_ne_nil_of_read
    {source : List Char} (inside : (read source).kind ≠ .endOfText) :
    (read source).text ≠ [] := by
  revert inside
  fun_cases read source with
  | case1 => exact fun inside => absurd rfl inside
  | case2 rest => exact fun _ => List.cons_ne_nil _ _
  | case3 rest => exact fun _ => text_docComment_ne_nil rest
  | case4 rest => exact fun _ => text_string_ne_nil rest
  | case5 first rest _ _ _ digit => exact fun _ => text_number_ne_nil digit rest
  | case6 first rest _ _ _ _ letter => exact fun _ => text_word_ne_nil letter rest
  | case7 first rest _ _ _ _ _ => exact fun _ => text_sign_ne_nil first rest

end Lexeme

/-! ## The tokens of a script -/

/-- A line feed that ends the line stands behind the pieces in front. -/
theorem beforeLineFeed?_append {pieces before : List Filler}
    (found : beforeLineFeed? pieces = some before) :
    ∃ rest, pieces = before ++ .lineFeed :: rest := by
  unfold beforeLineFeed? at found
  split at found
  · rename_i feeds
    cases found
    obtain ⟨initial, rest, rfl, first⟩ :=
      List.eq_append_cons_of_mem (List.contains_iff_mem.1 feeds)
    refine ⟨rest, ?_⟩
    rw [List.takeWhile_append_of_pos]
    · simp
    · intro piece member
      have other : piece ≠ .lineFeed := fun same => first (same ▸ member)
      simpa using other
  · cases found

/-- A line break stands in the filler, in front of the next lexeme. -/
theorem place_of_lineBreak?
    {layout : Layout} {start : Position} {pieces : List Filler} {next : Kind}
    {found : Token}
    (isFound : lineBreak? layout start pieces next = some found) :
    found.kind = .newline ∧ start ≤ found.span.start ∧
      found.span.start < start.advance (Filler.allText pieces) := by
  unfold lineBreak? at isFound
  split at isFound
  · obtain ⟨before, split, rfl⟩ := Option.map_eq_some_iff.1 isFound
    refine ⟨rfl, Position.le_advance _ _, ?_⟩
    obtain ⟨rest, rfl⟩ := beforeLineFeed?_append split
    have whole : Filler.allText (before ++ .lineFeed :: rest) =
        Filler.allText before ++ '\n' :: Filler.allText rest := by
      simp [Filler.allText, Filler.text]
    rw [whole, Position.advance_append]
    exact Position.lt_advance _ (List.cons_ne_nil _ _)
  · cases isFound

/-- Tokens that begin at a place or after it, in ascending order, and an end
of the text only as the last of them. -/
structure Ascends (start : Position) (found : List Token) : Prop where
  after : ∀ token ∈ found, start ≤ token.span.start
  sorted : found.Pairwise fun first second =>
    first.span.start < second.span.start
  ends : found.Pairwise fun first _ => first.kind ≠ .endOfText

theorem Ascends.nil (start : Position) : Ascends start [] :=
  ⟨by simp, .nil, .nil⟩

/-- Tokens go on in order after one that is not the end of the text. -/
theorem Ascends.cons
    {start stop : Position} {token : Token} {following : List Token}
    (first : start ≤ token.span.start)
    (goesOn : following ≠ [] →
      token.kind ≠ .endOfText ∧ token.span.start < stop)
    (rest : Ascends stop following) : Ascends start (token :: following) where
  after := by
    intro later member
    rcases List.mem_cons.1 member with rfl | member
    · exact first
    · have further := (goesOn (List.ne_nil_of_mem member)).2
      exact Position.le_trans first <| Position.le_trans
        (Position.le_of_lt further) (rest.after later member)
  sorted := by
    refine List.pairwise_cons.2 ⟨fun later member => ?_, rest.sorted⟩
    have further := (goesOn (List.ne_nil_of_mem member)).2
    exact Position.lt_of_lt_of_le further (rest.after later member)
  ends := by
    refine List.pairwise_cons.2 ⟨fun later member => ?_, rest.ends⟩
    exact (goesOn (List.ne_nil_of_mem member)).1

theorem Ascends.mono {start earlier : Position} {found : List Token}
    (ascends : Ascends start found) (before : earlier ≤ start) :
    Ascends earlier found where
  after token member := Position.le_trans before (ascends.after token member)
  sorted := ascends.sorted
  ends := ascends.ends

/-- Tokens start one behind the other, by induction on their number. -/
theorem ascends_tokensUpTo (count : Nat) (layout : Layout) (start : Position)
    (source : List Char) :
    Ascends start (tokensUpTo count layout start source) := by
  induction count generalizing layout start source with
  | zero => exact .nil start
  | succ count ih =>
    rw [tokensUpTo]
    dsimp only
    generalize visible : (Filler.readAll source).2 = text
    generalize gap : Filler.allText (Filler.readAll source).1 = filler
    have lexemes : ∀ layout : Layout, Ascends (start.advance filler)
        (⟨(Lexeme.read text).kind, String.ofList (Lexeme.read text).value,
            Span.covering (start.advance filler) (Lexeme.read text).text⟩ ::
          if (Lexeme.read text).kind = .endOfText then []
          else
            tokensUpTo count (layout.after (Lexeme.read text).kind)
              ((start.advance filler).advance (Lexeme.read text).text)
              (Lexeme.read text).rest) := by
      intro layout
      split
      · exact .cons (Position.le_refl _) (fun more => absurd rfl more)
          (.nil start)
      · rename_i inside
        have characters := Lexeme.text_ne_nil_of_read inside
        exact .cons (Position.le_refl _)
          (fun _ => ⟨inside, Position.lt_advance _ characters⟩)
          (ih _ _ _)
    cases broken :
        lineBreak? layout start (Filler.readAll source).1
          (Lexeme.read text).kind with
    | some found =>
      obtain ⟨kind, after, before⟩ := place_of_lineBreak? broken
      rw [gap] at before
      refine .cons after (fun _ => ⟨?_, before⟩) (lexemes _)
      rw [kind]
      decide
    | none =>
      exact (lexemes layout).mono (Position.le_advance start filler)

/-- The tokens of a script stand in order, and only the last may be an end of
the text. -/
theorem ascends_tokens (source : String) : Ascends .origin (tokens source) :=
  ascends_tokensUpTo _ _ _ _

/-! ## Every invalid token is reported once -/

open Cursor

/-- The lexical errors among some diagnostics. -/
def lexicalErrors (diagnostics : List Diagnostic) : List Diagnostic :=
  diagnostics.filter fun diagnostic => diagnostic.cause.isLexical

/-- The invalid tokens among some tokens. -/
def invalidTokens (tokens : List Token) : List Token :=
  tokens.filter fun token => token.kind.isInvalid

/-- No two invalid tokens start at the same place. -/
def OwnPlaces (tokens : List Token) : Prop :=
  (invalidTokens tokens).Pairwise fun first second =>
    first.span.start ≠ second.span.start

instance (tokens : List Token) : Decidable (OwnPlaces tokens) :=
  inferInstanceAs (Decidable (List.Pairwise _ _))

theorem lexicalErrors_append (first second : List Diagnostic) :
    lexicalErrors (first ++ second) =
      lexicalErrors first ++ lexicalErrors second :=
  List.filter_append _ _

theorem invalidTokens_append (first second : List Token) :
    invalidTokens (first ++ second) =
      invalidTokens first ++ invalidTokens second :=
  List.filter_append _ _

theorem isInvalid_of_mem_invalidTokens {token : Token} {tokens : List Token}
    (member : token ∈ invalidTokens tokens) :
    token.kind.isInvalid = true :=
  (List.mem_filter.1 member).2

theorem invalidTokens_current
    {cursor : Cursor} (invalid : cursor.kind.isInvalid = true) :
    invalidTokens [cursor.current] = [cursor.current] :=
  List.filter_eq_self.2 (List.forall_mem_singleton.2 invalid)

theorem invalidTokens_current_of_valid
    {cursor : Cursor} (valid : ¬ cursor.kind.isInvalid = true) :
    invalidTokens [cursor.current] = [] :=
  List.filter_eq_nil_iff.2 (List.forall_mem_singleton.2 valid)

/-- The lexical errors reported at a cursor are those of the invalid tokens
passed, and the last of them was at one of these tokens. -/
structure Cursor.Accounts (passed : List Token) (cursor : Cursor) : Prop where
  reports : lexicalErrors cursor.reported.reverse =
    (invalidTokens passed).map Token.lexicalReport
  last : ∀ place, cursor.lastLexical = some place →
    ∃ token ∈ invalidTokens passed, token.span.start = place

namespace Cursor

variable {passed more : List Token} {source target cursor : Cursor}

theorem accounts_start (tokens : List Token) : Accounts [] (start tokens) where
  reports := by simp [lexicalErrors, invalidTokens]
  last := by simp

/-- Passing a token that is not invalid reports nothing. -/
theorem Accounts.pass (accounts : Accounts passed cursor)
    (valid : ¬ cursor.kind.isInvalid = true) :
    Accounts (passed ++ [cursor.current]) cursor.next where
  reports := by
    rw [reported_next, accounts.reports, invalidTokens_append,
      invalidTokens_current_of_valid valid, List.append_nil]
  last := by
    intro place found
    rw [lastLexical_next] at found
    obtain ⟨token, member, same⟩ := accounts.last place found
    rw [invalidTokens_append]
    exact ⟨token, List.mem_append_left _ member, same⟩

/-- An invalid token that is reported is accounted for. -/
theorem Accounts.passInvalid (accounts : Accounts passed cursor)
    (invalid : cursor.kind.isInvalid = true)
    (reported : target.reported =
      cursor.current.lexicalReport :: cursor.reported)
    (last : target.lastLexical = some cursor.position) :
    Accounts (passed ++ [cursor.current]) target where
  reports := by
    have kept : lexicalErrors [cursor.current.lexicalReport] =
        [cursor.current.lexicalReport] :=
      List.filter_eq_self.2 <| List.forall_mem_singleton.2 <|
        Token.isLexical_lexicalReport invalid
    rw [reported, List.reverse_cons, lexicalErrors_append, accounts.reports,
      kept, invalidTokens_append, invalidTokens_current invalid,
      List.map_append]
    rfl
  last := by
    intro place found
    refine ⟨cursor.current, ?_, Option.some.inj (last.symm.trans found)⟩
    rw [invalidTokens_append, invalidTokens_current invalid]
    simp

theorem Accounts.report
    (accounts : Accounts passed cursor) {diagnostic : Diagnostic}
    (syntactic : diagnostic.cause.isLexical = false) :
    Accounts passed (cursor.report diagnostic) where
  reports := by
    rw [← accounts.reports]
    simp [lexicalErrors, syntactic]
  last := by
    intro place found
    simp only [Cursor.report, syntactic] at found
    exact accounts.last place found

/-- One move keeps the account, if the current token does not start where an
invalid token before it does. -/
theorem Accounts.move
    (accounts : Accounts passed source) (move : Move source more target)
    (fresh : source.kind.isInvalid = true →
      ∀ token ∈ invalidTokens passed, token.span.start ≠ source.position) :
    Accounts (passed ++ more) target := by
  cases move with
  | pass ordinary =>
    refine accounts.pass fun invalid => ?_
    simp [Kind.isOrdinary, invalid] at ordinary
  | discard invalid =>
    have unreported : source.lastLexical ≠ some source.position := by
      intro found
      obtain ⟨token, member, same⟩ := accounts.last _ found
      exact fresh invalid token member same
    have discarded : source.discard =
        source.next.report source.current.lexicalReport := by
      simp [Cursor.discard, invalid, unreported]
    have lexical := Token.isLexical_lexicalReport invalid
    rw [discarded]
    refine accounts.passInvalid invalid (by simp) ?_
    rw [lastLexical_report lexical, Token.lexicalReport,
      Diagnostic.position_unexpected]
    rfl
  | reject invalid =>
    refine accounts.passInvalid invalid (by simp) ?_
    rw [lastLexical_next]
    exact lastLexical_report_lexicalReport invalid
  | report diagnostic syntactic =>
    simpa using accounts.report syntactic
  | enter block =>
    rw [List.append_nil]
    exact ⟨accounts.reports, accounts.last⟩
  | leave =>
    rw [List.append_nil]
    exact ⟨accounts.reports, accounts.last⟩

/-- Along a path from the first token, every invalid token that is passed is
reported once. -/
theorem Path.accounts
    {tokens : List Token} (path : (start tokens).Path passed cursor)
    (own : OwnPlaces (start tokens).budget) : Accounts passed cursor := by
  induction path with
  | stay => exact accounts_start tokens
  | @step passed more middle target path move ih =>
    refine ih.move move fun invalid token member => ?_
    have here : middle.current ∈ invalidTokens middle.budget :=
      List.mem_filter.2 ⟨List.mem_cons_self, invalid⟩
    unfold OwnPlaces at own
    rw [path.budget_eq.1, invalidTokens_append, List.pairwise_append] at own
    exact own.2.2 token member middle.current here

end Cursor

theorem invalidTokens_missingEnd (tokens : List Token) :
    invalidTokens (missingEnd tokens) = [] := by
  unfold missingEnd
  split
  · rfl
  · split <;> rfl

theorem OwnPlaces.append_missingEnd
    {tokens : List Token} (own : OwnPlaces tokens) :
    OwnPlaces (tokens ++ missingEnd tokens) := by
  rw [OwnPlaces, invalidTokens_append, invalidTokens_missingEnd,
    List.append_nil]
  exact own

/-- The lexical errors of a list of tokens are those of the invalid tokens in
front of its end, in their order. -/
theorem lexicalErrors_ofTokens {tokens : List Token} (own : OwnPlaces tokens) :
    lexicalErrors (Parsed.ofTokens tokens).diagnostics =
      (invalidTokens
        ((tokens ++ missingEnd tokens).takeWhile
          fun token => token.kind ≠ .endOfText)).map Token.lexicalReport := by
  have everywhere : OwnPlaces (start tokens).budget := by
    rw [budget_start]
    exact own.append_missingEnd
  rw [Parsed.ofTokens_eq]
  exact ((path_script tokens).accounts everywhere).reports

/-- No invalid token stands behind the end of the text. -/
theorem invalidTokens_takeWhile {tokens : List Token}
    (ends : tokens.Pairwise fun first _ => first.kind ≠ .endOfText) :
    invalidTokens (tokens.takeWhile fun token => token.kind ≠ .endOfText) =
      invalidTokens tokens := by
  induction tokens with
  | nil => rfl
  | cons token tokens ih =>
    obtain ⟨inside, rest⟩ := List.pairwise_cons.1 ends
    by_cases atEnd : token.kind = .endOfText
    · have last : tokens = [] :=
        List.eq_nil_iff_forall_not_mem.2 fun later member =>
          inside later member atEnd
      simp [last, atEnd, invalidTokens, Kind.isInvalid]
    · have goesOn := ih rest
      unfold invalidTokens at *
      simp only [List.takeWhile_cons, atEnd, ne_eq, not_false_eq_true,
        decide_true, if_true, List.filter_cons]
      rw [goesOn]

theorem Ascends.ownPlaces {start : Position} {tokens : List Token}
    (ascends : Ascends start tokens) : OwnPlaces tokens := by
  refine (ascends.sorted.filter _).imp fun {first second} before same => ?_
  rw [same] at before
  exact Position.lt_irrefl _ before

theorem lexicalErrors_eq_map (source : String) :
    lexicalErrors (Parsed.ofText source).diagnostics =
      (invalidTokens (tokens source)).map Token.lexicalReport := by
  have ascends := ascends_tokens source
  unfold Parsed.ofText
  rw [lexicalErrors_ofTokens ascends.ownPlaces]
  congr 1
  rw [takeWhile_append_missingEnd]
  exact invalidTokens_takeWhile ascends.ends

theorem lexicalReport_eq {token : Token} {error : LexicalError}
    (found : token.kind = .invalid error) :
    token.lexicalReport = ⟨token.span.start, .lexical error token.text⟩ := by
  unfold Token.lexicalReport Diagnostic.unexpected
  rw [found]

/-- The lexical errors of a script are those of its invalid tokens, one for
each and in their order. -/
theorem lexicalErrors_ofText (source : String) :
    List.Forall₂
      (fun diagnostic token =>
        ∃ error,
          token.kind = .invalid error ∧
            diagnostic.position = token.span.start ∧
            diagnostic.message = error.describe token.text ∧
            diagnostic.cause.found? = some (.invalid error))
      (lexicalErrors (Parsed.ofText source).diagnostics)
      (invalidTokens (tokens source)) := by
  rw [lexicalErrors_eq_map, List.forall₂_map_left_iff, List.forall₂_same]
  intro token member
  have invalid := isInvalid_of_mem_invalidTokens member
  obtain ⟨error, found⟩ := Kind.exists_of_isInvalid invalid
  exact ⟨error, found, Diagnostic.position_unexpected _ _,
    by rw [lexicalReport_eq found]; rfl, by rw [lexicalReport_eq found]; rfl⟩

end PapyrusScript
