import PapyrusScript.Proofs.RoundTrip.Operators

/-!
# Expressions are read as they are rendered

Literals, names, parentheses and new objects are read as they are rendered.

A chain is a first part and the parts after it, which group to the left: a
chain is read along its rendering if what it starts with is.

The arguments of a call are read one by one.  An argument without a name does
not look like one with a name, because no expression goes on with an equals
sign.

A rendering of a well-shaped expression is read back as that expression, up
to the places of its parts, if nothing in it is nested too deep.  Otherwise
the reader fails at the first token that is.

The proof is by induction on the rendering.
-/

namespace PapyrusScript

open Cursor

namespace Reader

variable {deeper : Nat} {run strength : Precedence} {cursor : Cursor}
  {accepted : Expression → Cursor → Prop}
  {refused : Diagnostic → Cursor → Prop}
  {rendering : Rendering} {tree : Expression} {follow : Token}
  {rest : List Token} {level : Nat}

/-- A parenthesis is read as what stands in it and a closing one. -/
theorem ends_primary_paren
    (found : cursor.kind = .symbol .openParen) (inner : Reader Expression) :
    Ends (primary inner) cursor accepted refused ↔
      inner.Ends cursor.next
        (fun value after =>
          Ends
            (expect (.symbol .closeParen)
              "to close the parenthesized expression")
            after (fun _ final => accepted value final) refused)
        refused := by
  unfold primary
  rw [ends_bind, ends_get, found]
  simp only [isLiteralKind, Bool.false_eq_true, if_false]
  rw [ends_bind, ends_lift, Recovery.ends_advance, ends_bind]
  simp only [ends_bind, ends_pure]

theorem ends_primary_new
    (found : cursor.kind = .keyword .newObject) (inner : Reader Expression) :
    Ends (primary inner) cursor accepted refused ↔
      Ends (newObject inner) cursor accepted refused := by
  unfold primary
  rw [ends_bind, ends_get, found]
  rfl

theorem ends_newObject
    {dataType : DataType} (found : cursor.kind = .keyword .newObject)
    (names : dataType? cursor.next.current = some dataType)
    (single : cursor.next.next.kind ≠ .symbol .openBracket)
    (inner : Reader Expression) :
    Ends (newObject inner) cursor accepted refused ↔
      accepted
        (.create ⟨dataType, false, cursor.next.current.span⟩ none
          (cursor.current.span.through cursor.next.current.span))
        cursor.next.next := by
  unfold newObject
  rw [ends_bind, ends_expect found, ends_bind, ends_elementType names,
    ends_bind, ends_get, if_neg single]
  rfl

/-- The reader of an array reports its size only if it is too large. -/
theorem ends_newArray
    {dataType : DataType} (found : cursor.kind = .keyword .newObject)
    (names : dataType? cursor.next.current = some dataType)
    (several : cursor.next.next.kind = .symbol .openBracket)
    (inner : Reader Expression) :
    Ends (newObject inner) cursor accepted refused ↔
      inner.Ends cursor.next.next.next
        (fun size after =>
          Recovery.Ends (checkArraySize size) after fun _ after =>
            Ends (expect (.symbol .closeBracket) "to close the array size")
              after
              (fun closing final =>
                accepted
                  (.create
                    ⟨dataType, true,
                      cursor.next.current.span.through closing.span⟩
                    (some size) (cursor.current.span.through closing.span))
                  final)
              refused)
        refused := by
  unfold newObject
  rw [ends_bind, ends_expect found, ends_bind, ends_elementType names,
    ends_bind, ends_get, if_pos several]
  rw [ends_bind, ends_lift, Recovery.ends_advance, ends_bind]
  simp only [ends_bind, ends_lift, ends_pure]

theorem ends_checkArraySize {size : Expression} {post : Unit → Cursor → Prop}
    (small : ∀ count place, size = .literal ⟨.int count, place⟩ →
      count ≤ arrayLimit) :
    Recovery.Ends (checkArraySize size) cursor post ↔ post () cursor := by
  unfold checkArraySize
  split
  · rename_i count place
    rw [if_neg]
    · rfl
    · exact Int32.not_lt.2 (small count place rfl)
  · rfl

section Primary

variable {token opening closing keyword : Token} {inside : Rendering}
  (room : deeper + level = nestingLimit)

include room

/-- A literal is read as its value. -/
theorem reads_literal
    {value : Value} {span : Span} (spells : token.Spells value)
    (here : cursor.budget = token :: follow :: rest) :
    ReadsAt deeper .primary [(token, level)] (.literal ⟨value, span⟩)
      (follow :: rest) cursor := by
  intro accepted refused leads
  have isLiteral := spells.isLiteralKind
  have inside : token.kind ≠ .endOfText := by
    intro atEnd
    rw [atEnd] at isLiteral
    cases isLiteral
  rw [← current_of_budget here] at spells isLiteral
  have goesOn := (leads.next (by omega)).nil
    (budget_next_of_budget here inside)
  show Ends (chain (expressionAt deeper)) cursor accepted refused
  rw [ends_chain]
  unfold primary
  rw [ends_bind, ends_get, if_pos (show isLiteralKind cursor.kind = true from
    isLiteral), ends_bind, ends_literal spells]
  exact goesOn _ rfl

/-- A name is read as it is written. -/
theorem reads_name {span : Span} (kind : token.kind = .identifier)
    (here : cursor.budget = token :: follow :: rest) :
    ReadsAt deeper .primary [(token, level)] (.name ⟨token.text, span⟩)
      (follow :: rest) cursor := by
  intro accepted refused leads
  have goesOn := (leads.next (by omega)).nil
    (budget_next_of_budget here (by simp [kind]))
  have found : cursor.kind = .identifier := (kind_of_budget here).trans kind
  show Ends (chain (expressionAt deeper)) cursor accepted refused
  rw [ends_chain]
  unfold primary
  rw [ends_bind, ends_get, found]
  refine goesOn (.name ⟨cursor.current.text, cursor.current.span⟩) ?_
  rw [current_of_budget here]
  rfl

/-- Parentheses are read as what they hold. -/
theorem reads_parenthesized (opens : opening.kind = .symbol .openParen)
    (closes : closing.kind = .symbol .closeParen)
    (renders : Renders (level + 1) (.expression .logicalOr tree) inside)
    (read : IsRead (level + 1) (.expression .logicalOr tree) inside)
    (shaped : tree.WellShaped)
    (here : cursor.budget =
      opening :: (inside.tokens ++ closing :: follow :: rest)) :
    ReadsAt deeper .primary
      ((opening, level) :: (inside ++ [(closing, level)])) tree
      (follow :: rest) cursor := by
  intro accepted refused leads
  have found : cursor.kind = .symbol .openParen :=
    (kind_of_budget here).trans opens
  have next := budget_next_of_budget here (by simp [opens])
  show Ends (chain (expressionAt deeper)) cursor accepted refused
  rw [ends_chain, ends_primary_paren found]
  refine read.inner renders shaped room next (by rw [closes]; rfl) ?_
  refine (leads.next (by omega)).append.mono fun middle place _ more => ?_
  intro value same
  rw [ends_expect ((kind_of_budget place).trans closes)]
  have after := budget_next_of_budget place (by simp [closes])
  exact (more.next (by omega)).nil after value same

/-- A new object is read in front of anything but a bracket. -/
theorem reads_createObject {dataType : DataType} {typeSpan span : Span}
    (kind : keyword.kind = .keyword .newObject)
    (names : dataType? token = some dataType)
    (apart : follow.kind ≠ .symbol .openBracket)
    (here : cursor.budget = keyword :: token :: follow :: rest) :
    ReadsAt deeper .primary [(keyword, level), (token, level)]
      (.create ⟨dataType, false, typeSpan⟩ none span) (follow :: rest)
      cursor := by
  intro accepted refused leads
  have found : cursor.kind = .keyword .newObject :=
    (kind_of_budget here).trans kind
  have next := budget_next_of_budget here (by simp [kind])
  have after := budget_next_of_budget next (ne_endOfText_of_dataType? names)
  have goesOn := ((leads.next (by omega)).next (by omega)).nil after
  rw [← current_of_budget next] at names
  rw [← kind_of_budget after] at apart
  show Ends (chain (expressionAt deeper)) cursor accepted refused
  rw [ends_chain, ends_primary_new found, ends_newObject found names apart]
  exact goesOn _ rfl

/-- A new array is read with its size. -/
theorem reads_createArray
    {dataType : DataType} {size : Expression} {typeSpan span : Span}
    (kind : keyword.kind = .keyword .newObject)
    (names : dataType? token = some dataType)
    (opens : opening.kind = .symbol .openBracket)
    (closes : closing.kind = .symbol .closeBracket)
    (renders : Renders (level + 1) (.expression .logicalOr size) inside)
    (read : IsRead (level + 1) (.expression .logicalOr size) inside)
    (shaped : size.WellShaped)
    (small : ∀ count place, size = .literal ⟨.int count, place⟩ →
      count ≤ arrayLimit)
    (here : cursor.budget =
      keyword :: token :: opening ::
        (inside.tokens ++ closing :: follow :: rest)) :
    ReadsAt deeper .primary
      ((keyword, level) :: (token, level) :: (opening, level) ::
        (inside ++ [(closing, level)]))
      (.create ⟨dataType, true, typeSpan⟩ (some size) span) (follow :: rest)
      cursor := by
  intro accepted refused leads
  have found : cursor.kind = .keyword .newObject :=
    (kind_of_budget here).trans kind
  have next := budget_next_of_budget here (by simp [kind])
  have bracket := budget_next_of_budget next (ne_endOfText_of_dataType? names)
  have several : cursor.next.next.kind = .symbol .openBracket :=
    (kind_of_budget bracket).trans opens
  have start := budget_next_of_budget bracket (by simp [opens])
  rw [← current_of_budget next] at names
  show Ends (chain (expressionAt deeper)) cursor accepted refused
  rw [ends_chain, ends_primary_new found, ends_newArray found names several]
  refine read.inner renders shaped room start (by rw [closes]; rfl) ?_
  refine Rendering.Leads.mono
    (((leads.next (by omega)).next (by omega)).next (by omega)).append
    fun middle place _ more => ?_
  intro value same
  have smallToo : ∀ count place, value = .literal ⟨.int count, place⟩ →
      count ≤ arrayLimit := by
    intro count place equal
    subst equal
    obtain ⟨span, shape⟩ := Expression.eq_literal_of_bare_eq same.symm
    exact small count span shape
  rw [ends_checkArraySize smallToo,
    ends_expect ((kind_of_budget place).trans closes)]
  have after := budget_next_of_budget place (by simp [closes])
  refine (more.next (by omega)).nil after _ ?_
  simp only [Expression.bare, Expression.bareSize, same]
  rfl

end Primary

/-! ## Chains -/

open Cursor

variable {deeper : Nat} {run strength : Precedence} {cursor : Cursor}
  {accepted : Expression → Cursor → Prop}
  {refused : Diagnostic → Cursor → Prop}
  {rendering : Rendering} {tree : Expression} {follow : Token}
  {rest : List Token} {level : Nat}

/-- A chain takes a step and then starts afresh behind it. -/
theorem goesOn_primary (value : Expression) :
    GoesOn deeper .primary value cursor accepted refused ↔
      (chainPart (expressionAt deeper) value).Ends cursor
        (fun decision after =>
          match decision with
          | .again following =>
            GoesOn deeper .primary following after accepted refused
          | .done final => accepted final after)
        refused := by
  show Ends (loop (chainPart (expressionAt deeper)) cursor.budget value) _ _ _ ↔
    _
  rw [ends_loop (proceeds_chainPart (advances_expressionAt deeper))]
  constructor <;> intro ends <;>
    refine ends.mono (fun decision _ holds => ?_) (fun _ _ holds => holds) <;>
    cases decision <;> exact holds

variable {value : Expression} {inner : Reader Expression}
  {step : Step Expression → Cursor → Prop}

theorem ends_chainPart_member (dot : cursor.kind = .symbol .dot)
    (named : cursor.next.kind = .identifier) :
    Ends (chainPart inner value) cursor step refused ↔
      step
        (.again
          (.member value ⟨cursor.next.current.text, cursor.next.current.span⟩
            (value.span.through cursor.next.current.span)))
        cursor.next.next := by
  unfold chainPart
  rw [ends_bind, ends_get, dot]
  simp only
  rw [ends_bind, ends_lift, Recovery.ends_advance, ends_bind, ends_get,
    if_neg (by rw [named]; decide), ends_bind, ends_identifier named]
  rfl

theorem ends_chainPart_length (dot : cursor.kind = .symbol .dot)
    (length : cursor.next.kind = .keyword .length) :
    Ends (chainPart inner value) cursor step refused ↔
      step
        (.again
          (.arrayLength value
            (value.span.through cursor.next.current.span)))
        cursor.next.next := by
  unfold chainPart
  rw [ends_bind, ends_get, dot]
  simp only
  rw [ends_bind, ends_lift, Recovery.ends_advance, ends_bind, ends_get,
    if_pos length]
  rfl

/-- A bracket behind a value is read as a subscript of it. -/
theorem ends_chainPart_index (opens : cursor.kind = .symbol .openBracket) :
    Ends (chainPart inner value) cursor step refused ↔
      inner.Ends cursor.next
        (fun subscript after =>
          Ends (expect (.symbol .closeBracket) "to close the array index")
            after
            (fun closing final =>
              step
                (.again
                  (.index value subscript
                    (value.span.through closing.span)))
                final)
            refused)
        refused := by
  unfold chainPart
  rw [ends_bind, ends_get, opens]
  simp only
  rw [ends_bind, ends_lift, Recovery.ends_advance, ends_bind]
  simp only [ends_bind, ends_pure]

/-- A parenthesis behind what can be called is read as a call. -/
theorem ends_chainPart_call (opens : cursor.kind = .symbol .openParen)
    (callable : value.isCallable = true) :
    Ends (chainPart inner value) cursor step refused ↔
      Ends (argumentList inner) cursor.next
        (fun found after =>
          Ends (expect (.symbol .closeParen) "to close the argument list")
            after
            (fun closing final =>
              step
                (.again
                  (.call value found (value.span.through closing.span)))
                final)
            refused)
        refused := by
  unfold chainPart
  rw [ends_bind, ends_get, opens]
  simp only [callable, if_true]
  unfold arguments
  simp only [ends_bind, ends_expect opens, ends_pure]

section Chain

variable {before inside : Rendering} {opening closing token dot : Token}
  {object : Expression} (room : deeper + level = nestingLimit)
  (read : IsRead level (.expression .primary object) before)
  (shaped : object.WellShaped)

include room read shaped

/-- A chain is read up to a token that goes on with it. -/
theorem reads_chain
    (apart : before.isCreation = true → token.kind ≠ .symbol .openBracket)
    (here : cursor.budget = before.tokens ++ token :: rest)
    (leads : before.Leads (token :: rest) cursor
      (fun middle => ∀ value, value.bare = object.bare →
        GoesOn deeper .primary value middle accepted refused)
      refused) :
    (readAt deeper .primary).Ends cursor accepted refused := by
  refine read shaped deeper room .primary (Nat.le_refl _) cursor token rest
    here ⟨fun bond _ => ?_, apart⟩ accepted refused leads
  have strongest : bond.rank ≤ Precedence.primary.rank := by
    cases bond <;> decide
  exact ⟨strongest, Or.inl strongest⟩

/-- A dot and a name behind an object are read as a member of it. -/
theorem reads_member {fieldSpan span : Span} (kind : dot.kind = .symbol .dot)
    (named : token.kind = .identifier)
    (here : cursor.budget = before.tokens ++ dot :: token :: follow :: rest) :
    ReadsAt deeper .primary (before ++ [(dot, level), (token, level)])
      (.member object ⟨token.text, fieldSpan⟩ span) (follow :: rest)
      cursor := by
  intro accepted refused leads
  refine reads_chain room read shaped (fun _ => by simp [kind]) here ?_
  refine leads.append.mono fun middle place _ more value same => ?_
  have next := budget_next_of_budget place (by simp [kind])
  have after := budget_next_of_budget next (by simp [named])
  have goesOn := ((more.next (by omega)).next (by omega)).nil after
  rw [goesOn_primary, ends_chainPart_member
    ((kind_of_budget place).trans kind) ((kind_of_budget next).trans named),
    current_of_budget next]
  exact goesOn _ (by simp only [Expression.bare, same]; rfl)

theorem reads_arrayLength {span : Span} (kind : dot.kind = .symbol .dot)
    (length : token.kind = .keyword .length)
    (here : cursor.budget = before.tokens ++ dot :: token :: follow :: rest) :
    ReadsAt deeper .primary (before ++ [(dot, level), (token, level)])
      (.arrayLength object span) (follow :: rest) cursor := by
  intro accepted refused leads
  refine reads_chain room read shaped (fun _ => by simp [kind]) here ?_
  refine leads.append.mono fun middle place _ more value same => ?_
  have next := budget_next_of_budget place (by simp [kind])
  have after := budget_next_of_budget next (by simp [length])
  have goesOn := ((more.next (by omega)).next (by omega)).nil after
  rw [goesOn_primary, ends_chainPart_length
    ((kind_of_budget place).trans kind) ((kind_of_budget next).trans length)]
  exact goesOn _ (by simp only [Expression.bare, same])

/-- A subscript is read behind what is no new object. -/
theorem reads_index {subscript : Expression} {span : Span}
    (opens : opening.kind = .symbol .openBracket)
    (closes : closing.kind = .symbol .closeBracket)
    (apart : before.isCreation = false)
    (renders : Renders (level + 1) (.expression .logicalOr subscript) inside)
    (readToo : IsRead (level + 1) (.expression .logicalOr subscript) inside)
    (shapedToo : subscript.WellShaped)
    (here : cursor.budget =
      before.tokens ++
        opening :: (inside.tokens ++ closing :: follow :: rest)) :
    ReadsAt deeper .primary
      (before ++ (opening, level) :: (inside ++ [(closing, level)]))
      (.index object subscript span) (follow :: rest) cursor := by
  intro accepted refused leads
  refine reads_chain room read shaped
    (fun creation => by simp [apart] at creation) here ?_
  refine leads.append.mono fun middle place _ more value same => ?_
  have next := budget_next_of_budget place (by simp [opens])
  rw [goesOn_primary, ends_chainPart_index ((kind_of_budget place).trans opens)]
  refine readToo.inner renders shapedToo room next (by rw [closes]; rfl) ?_
  refine Rendering.Leads.mono (more.next (by omega)).append
    fun last place _ more inner sameToo => ?_
  rw [ends_expect ((kind_of_budget place).trans closes)]
  have after := budget_next_of_budget place (by simp [closes])
  refine (more.next (by omega)).nil after _ ?_
  simp only [Expression.bare, same, sameToo]

end Chain

/-! ## Calls -/

theorem ends_argument (inner : Reader Expression)
    {accepted : Argument Expression → Cursor → Prop} :
    Ends (argument inner) cursor accepted refused ↔
      Recovery.Ends argumentName cursor fun name after =>
        inner.Ends after
          (fun value final =>
            accepted ⟨name, value, final.spanFrom cursor.position⟩ final)
          refused := by
  unfold argument
  simp only [ends_bind, ends_get, ends_lift, ends_pure]

theorem ends_argumentName_of_name {post : Option Identifier → Cursor → Prop}
    (named : cursor.kind = .identifier)
    (assigns : cursor.kindAt 1 = .symbol .assign) :
    Recovery.Ends argumentName cursor post ↔
      post (some ⟨cursor.current.text, cursor.current.span⟩)
        cursor.next.next := by
  unfold argumentName
  rw [Recovery.ends_bind, Recovery.ends_get, if_pos (by simp [named, assigns])]
  rfl

theorem ends_argumentName_of_ne {post : Option Identifier → Cursor → Prop}
    (unnamed : cursor.kind = .identifier → cursor.kindAt 1 ≠ .symbol .assign) :
    Recovery.Ends argumentName cursor post ↔ post none cursor := by
  unfold argumentName
  rw [Recovery.ends_bind, Recovery.ends_get, if_neg]
  · rfl
  · simpa using unnamed

/-- Nothing that renders an expression starts like a named argument. -/
theorem unnamed_of_renders
    (renders : Renders level (.expression strength tree) rendering)
    (here : cursor.budget = rendering.tokens ++ follow :: rest)
    (ends : follow.kind ≠ .symbol .assign) (named : cursor.kind = .identifier) :
    cursor.kindAt 1 ≠ .symbol .assign := by
  have continues := renders.continues
  obtain ⟨⟨first, _⟩, more, rfl, _⟩ := renders.starts
  have isName : first.kind = .identifier :=
    (kind_of_budget here).symm.trans named
  rw [kindAt_eq, here]
  cases more with
  | nil => simpa using ends
  | cons entry more =>
    obtain ⟨second, _⟩ := entry
    obtain ⟨bond, found, _⟩ := continues _ _ more rfl (Or.inl isName)
    intro assigns
    have kind : second.kind = .symbol .assign := by simpa using assigns
    rw [kind] at found
    cases found

section Arguments

variable {named : Argument Expression} {before : List Token}
  {inside : Rendering} (room : deeper + level = nestingLimit)

include room

/-- An argument is read with its name, if it has one. -/
theorem reads_argument {accepted : Argument Expression → Cursor → Prop}
    (spelled : Identifier.SpelledAs named.name before)
    (renders : Renders (level + 1) (.expression .logicalOr named.value) inside)
    (read : IsRead (level + 1) (.expression .logicalOr named.value) inside)
    (shaped : named.value.WellShaped)
    (here : cursor.budget = before ++ (inside.tokens ++ follow :: rest))
    (stops : follow.kind.continuation? = none)
    (ends : follow.kind ≠ .symbol .assign)
    (leads : (Rendering.flat level before ++ inside).Leads (follow :: rest)
      cursor
      (fun after => ∀ value,
        Expression.bareArgument value = Expression.bareArgument named →
          accepted value after)
      refused) :
    Ends (argument (expressionAt deeper)) cursor accepted refused := by
  obtain ⟨name, value, span⟩ := named
  rw [ends_argument]
  cases spelled with
  | unnamed =>
    have unnamed := unnamed_of_renders renders here ends
    rw [ends_argumentName_of_ne unnamed]
    refine read.inner renders shaped room here stops ?_
    refine Rendering.Leads.mono leads fun after _ _ holds value same => ?_
    apply holds
    simp only [Expression.bareArgument, same]
  | @named token sign span kind assigns =>
    have found : cursor.kind = .identifier := (kind_of_budget here).trans kind
    have second : cursor.kindAt 1 = .symbol .assign := by
      rw [kindAt_eq, here]
      simpa using assigns
    have next := budget_next_of_budget here (by simp [kind])
    have start := budget_next_of_budget next (by simp [assigns])
    rw [ends_argumentName_of_name found second]
    refine read.inner renders shaped room start stops ?_
    have shallow := (leads.next (by omega)).next (by omega)
    refine Rendering.Leads.mono shallow fun after _ _ holds value same => ?_
    apply holds
    rw [current_of_budget here]
    simp only [Expression.bareArgument, same]
    rfl

end Arguments

variable {named following : Argument Expression}
  {more : List (Argument Expression)} {before : List Token}
  {inside behind : Rendering}

/-- The last argument is read as a list of one. -/
theorem isRead_lastArgument (spelled : Identifier.SpelledAs named.name before)
    (renders : Renders (level + 1) (.expression .logicalOr named.value) inside)
    (read : IsRead (level + 1) (.expression .logicalOr named.value) inside) :
    IsRead level (.arguments [named])
      (Rendering.flat level before ++ inside) := by
  intro _ shaped deeper room cursor follow rest here closes accepted refused
    found leads
  have shape : cursor.budget = before ++ (inside.tokens ++ follow :: rest) := by
    simpa using here
  have own := shaped named (List.mem_singleton_self named)
  rw [ends_loop (proceeds_nextArgument (advances_expressionAt deeper))]
  unfold nextArgument
  rw [ends_bind]
  refine reads_argument room spelled renders read own shape
    (by rw [closes]; rfl) (by simp [closes]) ?_
  refine Rendering.Leads.mono leads fun after place _ holds value same => ?_
  have closing : after.kind = .symbol .closeParen :=
    (kind_of_budget place).trans closes
  rw [ends_bind, ends_get, if_neg (by simp [closing])]
  refine holds [value] ?_
  simp only [Expression.bareArguments, same]

/-- An argument and a comma go in front of further arguments. -/
theorem isRead_nextArgument {comma : Token} (kind : comma.kind = .symbol .comma)
    (spelled : Identifier.SpelledAs named.name before)
    (renders : Renders (level + 1) (.expression .logicalOr named.value) inside)
    (read : IsRead (level + 1) (.expression .logicalOr named.value) inside)
    (readToo : IsRead level (.arguments (following :: more)) behind) :
    IsRead level (.arguments (named :: following :: more))
      (Rendering.flat level before ++
        (inside ++ (comma, level) :: behind)) := by
  intro _ shaped deeper room cursor follow rest here closes accepted refused
    found leads
  have shape : cursor.budget =
      before ++ (inside.tokens ++
        comma :: (behind.tokens ++ follow :: rest)) := by
    simpa using here
  have own := shaped named List.mem_cons_self
  rw [ends_loop (proceeds_nextArgument (advances_expressionAt deeper))]
  unfold nextArgument
  rw [ends_bind]
  refine reads_argument room spelled renders read own shape
    (by rw [kind]; rfl) (by simp [kind]) ?_
  rw [← List.append_assoc] at leads
  refine leads.append.mono fun middle place _ rest value same => ?_
  have separated : middle.kind = .symbol .comma :=
    (kind_of_budget place).trans kind
  have next := budget_next_of_budget place (by simp [kind])
  rw [ends_bind, ends_get, if_pos separated]
  refine readToo (List.cons_ne_nil _ _)
    (fun argument member => shaped argument (List.mem_cons_of_mem _ member))
    deeper room middle.next follow _ next closes accepted refused
    (found ++ [value]) ?_
  refine (rest.next (by omega)).mono fun after _ _ holds values sameToo => ?_
  rw [List.append_assoc]
  refine holds (value :: values) ?_
  simp only [Expression.bareArguments, same, sameToo]

/-- Arguments are read up to the parenthesis that closes them. -/
theorem reads_argumentList {closing : Token} {list : List (Argument Expression)}
    {accepted : List (Argument Expression) → Cursor → Prop}
    (room : deeper + level = nestingLimit)
    (renders : Renders level (.arguments list) inside)
    (read : IsRead level (.arguments list) inside)
    (shaped : ∀ argument ∈ list, argument.value.WellShaped)
    (closes : closing.kind = .symbol .closeParen)
    (here : cursor.budget = inside.tokens ++ closing :: rest)
    (leads : inside.Leads (closing :: rest) cursor
      (fun after => ∀ values,
        Expression.bareArguments values = Expression.bareArguments list →
          accepted values after)
      refused) :
    Ends (argumentList (expressionAt deeper)) cursor accepted refused := by
  unfold argumentList
  rw [ends_bind, ends_get]
  cases list with
  | nil =>
    cases renders
    have found : cursor.kind = .symbol .closeParen :=
      (kind_of_budget here).trans closes
    rw [if_pos found]
    exact leads.nil here [] rfl
  | cons named more =>
    obtain ⟨⟨first, _⟩, others, rfl, other⟩ := renders.arguments_start
    rw [← kind_of_budget here] at other
    rw [if_neg other]
    refine read (List.cons_ne_nil _ _) shaped deeper room cursor closing rest
      here closes accepted refused [] ?_
    simpa using leads

/-- A call is read behind what can be called. -/
theorem reads_call
    {opening closing : Token} {callee : Expression} {first : Rendering}
    {list : List (Argument Expression)} {span : Span}
    (room : deeper + level = nestingLimit)
    (read : IsRead level (.expression .primary callee) first)
    (shaped : callee.WellShaped) (callable : callee.isCallable = true)
    (opens : opening.kind = .symbol .openParen)
    (closes : closing.kind = .symbol .closeParen)
    (renders : Renders level (.arguments list) inside)
    (readToo : IsRead level (.arguments list) inside)
    (shapedToo : ∀ argument ∈ list, argument.value.WellShaped)
    (here : cursor.budget =
      first.tokens ++ opening :: (inside.tokens ++ closing :: follow :: rest)) :
    ReadsAt deeper .primary
      (first ++ (opening, level) :: (inside ++ [(closing, level)]))
      (.call callee list span) (follow :: rest) cursor := by
  intro accepted refused leads
  refine reads_chain room read shaped (fun _ => by simp [opens]) here ?_
  refine leads.append.mono fun middle place _ more value same => ?_
  have next := budget_next_of_budget place (by simp [opens])
  have callableToo : value.isCallable = true := by
    rw [← Expression.isCallable_bare, same, Expression.isCallable_bare]
    exact callable
  rw [goesOn_primary, ends_chainPart_call
    ((kind_of_budget place).trans opens) callableToo]
  refine reads_argumentList room renders readToo shapedToo closes next ?_
  refine Rendering.Leads.mono (more.next (by omega)).append
    fun last place _ more values sameToo => ?_
  rw [ends_expect ((kind_of_budget place).trans closes)]
  have after := budget_next_of_budget place (by simp [closes])
  refine (more.next (by omega)).nil after _ ?_
  simp only [Expression.bare, same, sameToo]

end Reader

/-! ## Expressions are read as they are rendered -/

namespace Reader

variable {deeper : Nat} {run strength : Precedence} {cursor : Cursor}
  {accepted : Expression → Cursor → Prop}
  {refused : Diagnostic → Cursor → Prop}
  {rendering : Rendering} {tree : Expression} {follow : Token}
  {rest : List Token} {level : Nat}

/-- What binds more strongly than a prefix operator does not start with one. -/
theorem plain_of_renders
    (renders : Renders level (.expression strength tree) rendering)
    (strong : Precedence.unary.rank < strength.rank)
    (here : cursor.budget = rendering.tokens ++ rest) :
    cursor.kind.unaryOperator? = none := by
  obtain ⟨⟨first, _⟩, more, rfl, start⟩ := renders.starts
  rw [kind_of_budget here]
  exact start.plain strong

/-- A first part or a chain may be read at every strength. -/
theorem isRead_of_primary
    (renders : Renders level (.expression .primary tree) rendering)
    (reads : tree.WellShaped →
      ∀ deeper, deeper + level = nestingLimit →
      ∀ cursor follow rest,
        cursor.budget = rendering.tokens ++ follow :: rest →
        (rendering.isCreation = true → follow.kind ≠ .symbol .openBracket) →
        ReadsAt deeper .primary rendering tree (follow :: rest) cursor) :
    IsRead level (.expression .primary tree) rendering := by
  intro shaped deeper room run _ cursor follow rest here fits
  have plain := plain_of_renders renders (by decide) here
  have primary := reads shaped deeper room cursor follow rest here fits.apart
  exact primary.of_primary plain fits

/-- Every rendering is read back, by induction on the rendering. -/
theorem isRead_of_renders
    {part : Part} (renders : Renders level part rendering) :
    IsRead level part rendering := by
  induction renders with
  | literal spells =>
    refine isRead_of_primary (.literal spells) fun _ deeper room cursor follow
      rest here _ => ?_
    exact reads_literal room spells here
  | signed sign kind reads =>
    intro _ deeper room run below cursor follow rest here fits
    refine ReadsAt.of_unary ?_ below
    exact reads_signed room sign kind reads
      (continuesOperand_eq_false fits) here
  | name kind =>
    refine isRead_of_primary (.name kind) fun _ deeper room cursor follow
      rest here _ => ?_
    exact reads_name room kind here
  | parenthesized opens closes renders ih =>
    refine isRead_of_primary (.parenthesized opens closes renders)
      fun shaped deeper room cursor follow rest here _ => ?_
    exact reads_parenthesized room opens closes renders ih
      shaped (by simpa using here)
  | weaken renders allowed ih =>
    intro shaped deeper room run below cursor follow rest here fits
    refine ih shaped deeper room run
      (Nat.le_trans below allowed) cursor follow rest here ?_
    refine ⟨fun bond found => ?_, fits.apart⟩
    have bound := fits.bound bond found
    exact ⟨Nat.le_trans bound.1 allowed, bound.2⟩
  | @unary _ _ _ _ _ behind kind renders unfolded ih =>
    intro shaped deeper room run below cursor follow rest here fits
    cases shaped with
    | unary shaped =>
      have fitsToo : Fits behind .unary .unary follow.kind := by
        refine ⟨fun bond found => ?_, fun _ =>
          fits.ne_openBracket (by decide)⟩
        have bound := (fits.bound bond found).1
        exact ⟨bound, Or.inl bound⟩
      refine ReadsAt.of_unary ?_ below
      exact reads_unary room kind renders ih unfolded
        shaped fitsToo here
  | @binary _ operator _ _ _ _ _ _ kind first second readFirst readSecond =>
    intro shaped deeper room run below cursor follow rest here fits
    cases shaped with
    | binary shapedLeft shapedRight =>
      have weak : operator.precedence.rank < Precedence.primary.rank :=
        Nat.lt_trans operator.rank_precedence_lt (by decide)
      exact reads_binary room kind readFirst readSecond shapedLeft
        shapedRight below (fits.of_weak weak) (by simpa using here)
  | cast kind renders spelled ih =>
    intro shaped deeper room run below cursor follow rest here fits
    cases shaped with
    | cast shaped =>
      have whole := @Renders.cast _ _ _ _ .nowhere _ _ kind renders spelled
      -- no sign stands in front of a cast, so the levels between pass it on
      have plain := plain_of_renders whole (by decide) here
      refine ReadsAt.of_cast ?_ plain fits below
      exact reads_cast room ih shaped kind spelled
        (fits.ne_openBracket (by decide)) (by simpa using here)
  | member kind named renders ih =>
    refine isRead_of_primary (.member kind named renders)
      fun shaped deeper room cursor follow rest here _ => ?_
    cases shaped with
    | member shaped =>
      exact reads_member room ih shaped kind named
        (by simpa using here)
  | arrayLength kind length renders ih =>
    refine isRead_of_primary (.arrayLength kind length renders)
      fun shaped deeper room cursor follow rest here _ => ?_
    cases shaped with
    | arrayLength shaped =>
      exact reads_arrayLength room ih shaped kind length
        (by simpa using here)
  | index opens closes first apart second readFirst readSecond =>
    refine isRead_of_primary (.index opens closes first apart second)
      fun shaped deeper room cursor follow rest here _ => ?_
    cases shaped with
    | index shapedFirst shapedSecond =>
      exact reads_index room readFirst shapedFirst opens closes apart second
        readSecond shapedSecond (by simpa using here)
  | call opens closes first second readFirst readSecond =>
    refine isRead_of_primary (.call opens closes first second)
      fun shaped deeper room cursor follow rest here _ => ?_
    cases shaped with
    | call callable shapedFirst shapedSecond =>
      exact reads_call room readFirst shapedFirst callable opens closes
        second readSecond shapedSecond (by simpa using here)
  | createObject kind names =>
    refine isRead_of_primary (.createObject kind names)
      fun _ deeper room cursor follow rest here apart => ?_
    exact reads_createObject room kind names (apart (decide_eq_true kind))
      here
  | createArray kind names opens closes renders ih =>
    refine isRead_of_primary (.createArray kind names opens closes renders)
      fun shaped deeper room cursor follow rest here _ => ?_
    cases shaped with
    | createArray several shaped small =>
      exact reads_createArray room kind names opens closes renders
        ih shaped small (by simpa using here)
  | noArguments => exact fun empty => absurd rfl empty
  | lastArgument named renders ih =>
    exact isRead_lastArgument named renders ih
  | nextArgument kind named renders _ read readToo =>
    exact isRead_nextArgument kind named renders read readToo

end Reader

/-- A rendering is nowhere too deep exactly if its level is within bounds. -/
theorem Rendering.tooDeep?_eq_none_iff (rendering : Rendering) :
    rendering.tooDeep? = none ↔ rendering.level ≤ nestingLimit := by
  induction rendering with
  | nil => simp [tooDeep?, Rendering.level]
  | cons entry rendering ih =>
    obtain ⟨token, level⟩ := entry
    have whole : Rendering.level ((token, level) :: rendering) =
        max level (Rendering.level rendering) := rfl
    rw [whole]
    by_cases shallow : level ≤ nestingLimit
    · rw [tooDeep?_cons_of_le shallow, ih]
      omega
    · rw [tooDeep?_cons_of_lt (Nat.not_le.1 shallow)]
      simp only [reduceCtorEq, false_iff]
      omega

section RoundTrip

variable {tree : Expression} {rendering : Rendering} {cursor : Cursor}
  {follow : Token} {rest : List Token}

/-- A rendering that is not nested too deep is read back as its tree. -/
theorem Reader.ends_expression_of_level_le (shaped : tree.WellShaped)
    (renders : Renders 1 (.expression .logicalOr tree) rendering)
    (here : cursor.budget = rendering.tokens ++ follow :: rest)
    (stops : follow.kind.continuation? = none)
    (shallow : rendering.level ≤ nestingLimit) :
    Reader.expression.Ends cursor
      (fun value after =>
        value.bare = tree.bare ∧ after.budget = follow :: rest ∧
          cursor.Quiet after)
      (fun _ _ => False) := by
  have read := isRead_of_renders renders
  rw [← Rendering.tooDeep?_eq_none_iff] at shallow
  apply read.inner renders shaped rfl here stops
  unfold Rendering.Leads
  rw [shallow]
  intro after place quiet value same
  exact ⟨same, place, quiet⟩

/-- A rendering that is nested too deep is refused at the first token that
is. -/
theorem Reader.ends_expression_of_lt_level (shaped : tree.WellShaped)
    (renders : Renders 1 (.expression .logicalOr tree) rendering)
    (here : cursor.budget = rendering.tokens ++ follow :: rest)
    (stops : follow.kind.continuation? = none)
    (deep : nestingLimit < rendering.level) :
    Reader.expression.Ends cursor (fun _ _ => False)
      (fun diagnostic after =>
        (∃ token, rendering.tooDeep? = some token ∧
          diagnostic = ⟨token.span.start, .nestedTooDeep nestingLimit⟩) ∧
          cursor.Quiet after) := by
  have read := isRead_of_renders renders
  apply read.inner renders shaped rfl here stops
  unfold Rendering.Leads
  cases found : rendering.tooDeep? with
  | none =>
    rw [Rendering.tooDeep?_eq_none_iff] at found
    exact absurd deep (Nat.not_lt.2 found)
  | some token =>
    intro after quiet
    exact ⟨⟨token, rfl, rfl⟩, quiet⟩

/-- An expression is read back from any of its renderings, whatever token that
cannot go on with it follows.  If the rendering is nested too deep, the reader
fails at the first token below the deepest level instead.  Either way nothing
is reported. -/
theorem expression_reads_rendering (shaped : tree.WellShaped)
    (renders : Renders 1 (.expression .logicalOr tree) rendering)
    (here : cursor.budget = rendering.tokens ++ follow :: rest)
    (stops : follow.kind.continuation? = none) :
    (rendering.level ≤ nestingLimit →
      Reader.expression.Ends cursor
        (fun value after =>
          value.bare = tree.bare ∧ after.budget = follow :: rest ∧
            cursor.Quiet after)
        (fun _ _ => False)) ∧
      (nestingLimit < rendering.level →
        Reader.expression.Ends cursor (fun _ _ => False)
          (fun diagnostic after =>
            (∃ token, rendering.tooDeep? = some token ∧
              diagnostic = ⟨token.span.start, .nestedTooDeep nestingLimit⟩) ∧
            diagnostic.message =
              "expression is nested more than 64 levels deep" ∧
            cursor.Quiet after)) := by
  constructor
  · intro shallow
    exact Reader.ends_expression_of_level_le shaped renders here stops shallow
  · intro deep
    have fails :=
      Reader.ends_expression_of_lt_level shaped renders here stops deep
    apply fails.mono
    · intro value after never
      exact never
    · intro diagnostic after reached
      obtain ⟨⟨token, found, rfl⟩, quiet⟩ := reached
      exact ⟨⟨token, found, rfl⟩, rfl, quiet⟩

end RoundTrip

def Rendering.negatedFive : Rendering :=
  [(⟨.symbol .minus, "-", .nowhere⟩, 1),
    (⟨.symbol .openParen, "(", .nowhere⟩, 2),
    (⟨.intLiteral, "5", .nowhere⟩, 3),
    (⟨.symbol .closeParen, ")", .nowhere⟩, 2)]

/-- The parentheses keep the minus apart from the number. -/
theorem expression_reads_negatedFive :
    Reader.expression.Ends (.start Rendering.negatedFive.tokens)
      (fun value after =>
        value.bare = .unary .negate (.literal ⟨.int 5, .nowhere⟩) .nowhere ∧
          after.kind = .endOfText ∧ after.reported = [])
      (fun _ _ => False) := by
  have number : Token.Spells ⟨.intLiteral, "5", .nowhere⟩ (.int 5) :=
    .int rfl (by decide)
  have inside : Renders 3
      (.expression .primary (.literal ⟨.int 5, .nowhere⟩))
      [(⟨.intLiteral, "5", .nowhere⟩, 3)] := .literal number
  have operand : Renders 2
      (.expression .unary (.literal ⟨.int 5, .nowhere⟩))
      Rendering.negatedFive.tail :=
    .weaken (.parenthesized rfl rfl (.weaken inside (by decide))) (by decide)
  have whole : Renders 1
      (.expression .logicalOr
        (.unary .negate (.literal ⟨.int 5, .nowhere⟩) .nowhere))
      Rendering.negatedFive :=
    .weaken (.unary rfl operand (by decide)) (by decide)
  have shaped : Expression.WellShaped
      (.unary .negate (.literal ⟨.int 5, .nowhere⟩) .nowhere) :=
    .unary .literal
  have here := budget_start Rendering.negatedFive.tokens
  have read := (expression_reads_rendering shaped whole here rfl).1 (by decide)
  apply read.mono
  · intro value after reached
    obtain ⟨same, place, quiet⟩ := reached
    refine ⟨same, kind_of_budget place, ?_⟩
    rw [quiet.reported, reported_start]
  · intro _ _ never
    exact never

end PapyrusScript
