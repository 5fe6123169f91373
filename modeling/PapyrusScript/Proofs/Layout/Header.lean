import PapyrusScript.Proofs.Layout.Script
import PapyrusScript.Proofs.Transcript.Line

/-!
# Headers that are read are laid out

What the readers of initial values, parameters and flags have passed without
an error is what a layout of a header has for their answers.  Flags and
parameters are read in a loop, so a layout of those that have been read is
said to go on with a layout of any that follow.
-/

namespace PapyrusScript

open Cursor

variable {cursor : Cursor}

/-! ## Initial values -/

namespace Reader

/-- A literal is spelled by the token that is passed. -/
theorem spelled_literal :
    literal.Covers cursor fun found row => found.Spelled row := by
  unfold literal
  apply Covers.get
  split
  · exact covers_throw _
  · rename_i value found
    have spells := spells_of_literalValue found
    have inside : cursor.kind ≠ .endOfText := by
      intro atEnd
      have literal := spells.isLiteralKind
      rw [show cursor.current.kind = _ from atEnd] at literal
      cases literal
    apply Covers.advance inside
    exact .pure (.plain spells)

/-- A minus and a token spell the negative value. -/
theorem spelled_of_negativeValue
    {minus token : Token} {value : Value} (span : Span)
    (sign : minus.kind = .symbol .minus)
    (found : negativeValue token = .ok value) :
    Literal.Spelled ⟨value, span⟩ [minus, token] := by
  unfold negativeValue at found
  split at found
  · rename_i kind
    unfold integerValue at found
    split at found
    · rename_i number reads
      cases found
      exact .negativeInt sign kind reads
    · cases found
  · rename_i kind
    unfold floatValue at found
    split at found
    · rename_i number reads
      split at found
      · cases found
      · rename_i bounded
        cases found
        exact .negativeFloat sign kind reads (by simpa using bounded)
    · cases found
  · cases found

/-- A constant is spelled by the tokens that are passed. -/
theorem spelled_constant :
    constant.Covers cursor fun found row => found.Spelled row := by
  unfold constant
  apply Covers.get
  split
  · rename_i minus
    apply Covers.advance (by simp [minus])
    apply Covers.get
    split
    · exact covers_throw _
    · rename_i value found
      have inside : cursor.next.kind ≠ .endOfText := by
        intro atEnd
        have kind : cursor.next.current.kind = .endOfText := atEnd
        simp [negativeValue, kind] at found
      apply Covers.advance inside
      exact .pure (spelled_of_negativeValue _ minus found)
  · exact spelled_literal

theorem spelled_initialConstant :
    initialConstant.Covers cursor Literal.InitialSpelled := by
  unfold initialConstant
  apply Covers.get
  split
  · rename_i assigns
    apply Covers.advance (by simp [assigns])
    apply spelled_constant.bind
    intro value after
    apply Covers.pure
    intro row spelled
    rw [List.append_nil]
    exact .present assigns spelled
  · exact .pure .absent

/-! ## Parameters -/

/-- A parameter is laid out by the tokens that are passed. -/
theorem laidOut_parameter :
    parameter.Covers cursor fun found row => found.LaidOut row := by
  unfold parameter
  apply Covers.get
  split
  · apply covers_typeName.bind
    intro type after
    apply (covers_identifier _).bind
    intro name after
    apply spelled_initialConstant.bind
    intro default after
    apply Covers.get
    apply Covers.pure
    rintro behind starts _ ⟨token, rfl, named, rfl⟩ row spelled
    rw [List.append_nil]
    exact .intro spelled named starts
  · exact covers_reject _

end Reader

def Parameter.ListsFirst (list : List Parameter) (row : List Token) : Prop :=
  ∀ more behind, Listed more behind → Listed (list ++ more) (row ++ behind)

theorem Parameter.ListsFirst.nil : ListsFirst [] [] := fun _ _ listed => listed

namespace Recovery

/-- One parameter goes on with the list, or breaks or closes it. -/
theorem listed_nextParameter (found : List Parameter × Option Diagnostic) :
    (Reader.nextParameter found).Covers cursor fun decision row =>
      ∀ before, Parameter.ListsFirst found.1 before →
        Step.Adds (fun found row => Parameter.ListsFirst found.1 row)
          (fun found row => found.2 = none → Parameter.Listed found.1 row)
          decision (before ++ row) := by
  unfold Reader.nextParameter
  apply Covers.run_bind_kept Reader.laidOut_parameter
    (advances_parameter cursor).travels
  · intro next after
    apply Covers.get
    split
    · rename_i comma
      apply Covers.advance (by simp [comma])
      apply Covers.pure
      intro row laid before first more behind listed
      have whole := first _ _ (.next laid comma listed)
      simpa using whole
    · rename_i closing
      apply Covers.advance (by simp [closing])
      apply Covers.pure
      intro row laid before first _
      exact first _ _ (.last laid closing)
    · apply Covers.unexpected
      intro diagnostic
      apply Covers.pure
      intro row _ before _ intact
      cases intact
  · intro diagnostic after
    apply Covers.pure
    intro row before _ intact
    cases intact

/-- Parameters are laid out with their parentheses. -/
theorem parenthesized_parameters :
    Reader.parameters.Covers cursor fun found row =>
      found.2 = none → Parameter.Parenthesized found.1 row := by
  unfold Reader.parameters Reader.openParameters
  apply Covers.run_bind_kept (Reader.covers_expect _ _ (by nofun))
    (Reader.advances_expect _ _ cursor rfl).travels
  · intro token after
    apply Covers.get
    split
    · rename_i closing
      apply Covers.advance (by simp [closing])
      apply Covers.pure
      rintro _ ⟨rfl, opens⟩ _
      exact .none opens closing
    · apply (Covers.loop
        (fun found cursor => (proceedsTo_nextParameter found cursor).proceeds)
        (fun found _ => listed_nextParameter found) _).mono
      rintro found row holds _ ⟨rfl, opens⟩ intact
      exact .some opens (holds [] .nil intact)
  · intro diagnostic after
    apply Covers.pure
    intro before intact
    cases intact

/-! ## Flags of a function or event -/

end Recovery

def Reader.CallableFlags.FlagFirst
    (seen : CallableFlags) (block : Block) (row : List Token) : Prop :=
  ∀ native global behind, CallableFlagged block native global behind →
    CallableFlagged block (seen.native || native) (seen.global || global)
      (row ++ behind)

namespace Recovery

open Reader

/-- A flag of a function or event goes on with those in front. -/
theorem flagged_nextCallableFlag (block : Block) (seen : Reader.CallableFlags) :
    (nextCallableFlag block seen).Covers cursor fun decision row =>
      ∀ before, seen.FlagFirst block before →
        Step.Adds (fun seen row => seen.FlagFirst block row)
          (fun seen row => seen.FlagFirst block row)
          decision (before ++ row) := by
  unfold nextCallableFlag
  apply Covers.get
  split
  · rename_i word
    apply Covers.advance (by simp [word])
    apply Covers.pure
    intro before first native global behind flagged
    have whole := first _ _ _ (.native word flagged)
    simpa using whole
  · rename_i word
    split
    · rename_i isFunction
      apply Covers.advance (by simp [word])
      apply Covers.pure
      intro before first native global behind flagged
      have whole := first _ _ _ (.global isFunction word flagged)
      simpa using whole
    · apply Covers.pure
      intro before first
      rw [List.append_nil]
      exact first
  · apply Covers.pure
    intro before first
    rw [List.append_nil]
    exact first

theorem flagged_callableFlags (block : Block) :
    (callableFlags block).Covers cursor fun flags row =>
      CallableFlagged block flags.native flags.global row := by
  unfold callableFlags
  apply Covers.get
  apply (Covers.loop (proceeds_nextCallableFlag block)
    (fun seen _ => flagged_nextCallableFlag block seen) _).mono
  intro flags row holds
  have whole := holds [] (fun _ _ _ flagged => by simpa using flagged) _ _ _
    .nil
  simpa using whole

/-! ## Flags of a variable -/

/-- The flags of a variable are laid out by what is passed. -/
theorem flagged_variableFlags :
    variableFlags.Covers cursor VariableFlagged := by
  have adds (seen : Bool) (cursor : Cursor) :
      (nextVariableFlag seen).Covers cursor fun decision row =>
        ∀ before, (∀ flag behind, VariableFlagged flag behind →
            VariableFlagged (seen || flag) (before ++ behind)) →
          Step.Adds
            (fun seen row => ∀ flag behind, VariableFlagged flag behind →
              VariableFlagged (seen || flag) (row ++ behind))
            (fun seen row => ∀ flag behind, VariableFlagged flag behind →
              VariableFlagged (seen || flag) (row ++ behind))
            decision (before ++ row) := by
    unfold nextVariableFlag
    apply Covers.get
    split
    · rename_i word
      apply Covers.advance (by simp [word])
      apply Covers.pure
      intro before first flag behind flagged
      have whole := first _ _ (.conditional word flagged)
      simpa using whole
    · apply Covers.pure
      intro before first
      rw [List.append_nil]
      exact first
  unfold variableFlags
  apply Covers.get
  apply (Covers.loop proceeds_nextVariableFlag adds _).mono
  intro flag row holds
  have whole := holds [] (fun _ _ flagged => by simpa using flagged) _ _ .nil
  simpa using whole

end Recovery

/-! ## Flags of a property -/

/-- The row is a layout of the first flags of a property, behind its initial
value. -/
def Reader.PropertyHeader.FlagFirst
    (header : PropertyHeader) (initial : Option Literal) (row : List Token) :
    Prop :=
  header.initial = initial ∧ ∃ word : Option Keyword,
    header.automatic.map Token.kind = word.map Kind.keyword ∧
      ∀ automatic hidden conditional behind,
        (word.isSome = true → automatic = none) →
          PropertyFlagged automatic hidden conditional behind →
            PropertyFlagged (word.or automatic) (header.hidden || hidden)
              (header.conditional || conditional) (row ++ behind)

/-- The initial value and the flags of a property, behind its name. -/
inductive Reader.PropertyHeader.Spelled (header : PropertyHeader) :
    List Token → Prop
  | intro {automatic : Option Keyword} {starts flags : List Token}
      (spelled : Literal.InitialSpelled header.initial starts)
      (same : header.automatic.map Token.kind = automatic.map Kind.keyword)
      (flagged : PropertyFlagged automatic header.hidden header.conditional
        flags) : Spelled header (starts ++ flags)

namespace Recovery

/-- A flag that makes a property automatic is laid out once. -/
theorem flagged_automaticFlag {word : Keyword} (header : Reader.PropertyHeader)
    (initial : Option Literal) (found : cursor.kind = .keyword word)
    (flag : ∀ {hidden conditional row},
      PropertyFlagged none hidden conditional row →
        PropertyFlagged (some word) hidden conditional
          (cursor.current :: row)) :
    (Reader.automaticFlag header).Covers cursor fun decision row =>
      ∀ before, header.FlagFirst initial before →
        Step.Adds (fun found row => found.1.FlagFirst initial row)
          (fun found row => found.2 = none → found.1.FlagFirst initial row)
          decision (before ++ row) := by
  unfold Reader.automaticFlag
  split
  · apply Covers.unexpected
    intro diagnostic
    apply Covers.pure
    intro before _ intact
    cases intact
  · rename_i free
    apply Covers.advance (by simp [found])
    apply Covers.pure
    rintro before ⟨kept, seen, same, first⟩
    have unset : seen = none := by
      have nothing : header.automatic = none := by simpa using free
      rw [nothing] at same
      exact Option.map_eq_none_iff.1 same.symm
    subst unset
    refine ⟨kept, some word, congrArg some found, ?_⟩
    intro automatic hidden conditional behind alone flagged
    obtain rfl := alone rfl
    have whole := first _ _ _ _ nofun (flag flagged)
    simpa using whole

/-- A flag of a property goes on with those in front. -/
theorem flagged_propertyFlag (initial : Option Literal)
    (found : Reader.PropertyHeader × Option Diagnostic) :
    (Reader.propertyFlag found).Covers cursor fun decision row =>
      ∀ before, found.1.FlagFirst initial before →
        Step.Adds (fun found row => found.1.FlagFirst initial row)
          (fun found row => found.2 = none → found.1.FlagFirst initial row)
          decision (before ++ row) := by
  unfold Reader.propertyFlag
  apply Covers.get
  split
  · rename_i word
    exact flagged_automaticFlag _ _ word (.auto word)
  · rename_i word
    exact flagged_automaticFlag _ _ word (.autoReadOnly word)
  · rename_i word
    apply Covers.advance (by simp [word])
    apply Covers.pure
    rintro before ⟨kept, seen, same, first⟩
    refine ⟨kept, seen, same, ?_⟩
    intro automatic hidden conditional behind alone flagged
    have whole := first _ _ _ _ alone (.hidden word flagged)
    simpa using whole
  · rename_i word
    apply Covers.advance (by simp [word])
    apply Covers.pure
    rintro before ⟨kept, seen, same, first⟩
    refine ⟨kept, seen, same, ?_⟩
    intro automatic hidden conditional behind alone flagged
    have whole := first _ _ _ _ alone (.conditional word flagged)
    simpa using whole
  · apply Covers.pure
    intro before first _
    rw [List.append_nil]
    exact first

/-- The initial value and flags of a property are laid out. -/
theorem spelled_propertyHeader :
    Reader.propertyHeader.Covers cursor fun found row =>
      found.2 = none → found.1.Spelled row := by
  unfold Reader.propertyHeader
  apply Covers.run_bind_kept Reader.spelled_initialConstant
    (Reader.travels_initialConstant cursor)
  · intro initial after
    apply Covers.get
    apply (Covers.loop
      (fun found cursor => (proceedsTo_propertyFlag found cursor).proceeds)
      (fun found _ => flagged_propertyFlag initial found) _).mono
    intro found flags holds starts spelled intact
    have first : Reader.PropertyHeader.FlagFirst
        ⟨initial, none, false, false⟩ initial [] :=
      ⟨rfl, none, rfl, fun _ _ _ _ _ flagged => by simpa using flagged⟩
    obtain ⟨rfl, automatic, same, whole⟩ := holds [] first intact
    have flagged := whole none false false [] (fun _ => rfl) .nil
    exact .intro spelled same (by simpa using flagged)
  · intro diagnostic after
    apply Covers.pure
    intro row intact
    cases intact

end Recovery

end PapyrusScript
