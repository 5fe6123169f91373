import PapyrusScript.Proofs.Layout.Declarations
import PapyrusScript.Proofs.Passage

/-!
# Scripts are read as they are laid out

A layout of a script is read into the script it lays out, and nothing is
reported.
-/

namespace PapyrusScript

open Cursor

variable {row rest ending : List Token}

/-- A layout of a script is read as the script. -/
theorem Reader.takes_script
    {tree : Script} (laid : tree.LaidOut row) (wellFormed : tree.WellFormed)
    (ends : Heads (· = .endOfText) rest) :
    script.Takes row rest fun found => found.bare = tree.bare := by
  cases laid with
  | @intro parent hidden conditional native doc imports members _ _ word token
      extending flags docs first second kind named extended flagged documented
      imported laid =>
    have line : Heads (· ≠ .newline)
        (word :: token :: (extending ++ (flags ++ docs)) ++
          (first ++ second) ++ rest) := heads_ne kind nofun
    have apart : Heads (· ≠ .docComment) (first ++ second ++ rest) := by
      rw [List.append_assoc]
      have heads := heads_of_imports imported (heads_of_members laid ends)
      exact heads.mono fun _ visible => visible.2
    unfold script
    apply Recovery.Takes.after (takes_skipNewlines line)
    intro _ _
    apply Recovery.Takes.get
    intro cursor here
    apply Recovery.Takes.bind
      (takes_header kind named extended flagged documented apart)
    intro top told
    apply Recovery.Takes.iterate_nil
      (takes_declarations imported laid wellFormed ends ⟨[], []⟩)
    intro found reached
    obtain ⟨foundImports, splitImports, sameImports, foundMembers,
        splitMembers, sameMembers⟩ := reached
    apply Recovery.Takes.get
    intro after place
    apply Recovery.Takes.pure
    rw [List.nil_append] at splitImports splitMembers
    simp only [Script.bare, splitImports, splitMembers, sameImports,
      sameMembers, told.name, told.parent, told.hidden, told.conditional,
      told.native, told.doc]
    rfl

/-- Behind a layout the text ends, with or without a token for it. -/
theorem heads_of_textEnd
    {tree : Script} (laid : tree.LaidOut row) (wellFormed : tree.WellFormed)
    (ended : TextEnd ending) :
    Heads (· = .endOfText) (ending ++ missingEnd (row ++ ending)) := by
  cases ended with
  | token kind => exact kind
  | missing =>
    have ends : Heads (· = .endOfText) [Token.endOfText .origin] := rfl
    have inside := (Reader.takes_script laid wellFormed ends).ne_endOfText
      Recovery.travels_script rfl
    rw [List.append_nil]
    exact heads_missingEnd inside

/-- A script that is laid out in the usual way is read without any report, and
what is read is the script up to the places of its parts. -/
theorem script_reads_layout
    {tree : Script} (laid : tree.LaidOut row) (wellFormed : tree.WellFormed)
    (ended : TextEnd ending) :
    (Parsed.ofTokens (row ++ ending)).diagnostics = [] ∧
      (Parsed.ofTokens (row ++ ending)).script.bare = tree.bare := by
  have ends := heads_of_textEnd laid wellFormed ended
  have here : (start (row ++ ending)).budget =
      row ++ (ending ++ missingEnd (row ++ ending)) := by
    rw [budget_start, List.append_assoc]
  obtain ⟨same, _, quiet⟩ := Reader.takes_script laid wellFormed ends _ here
  have silent := quiet.reported.trans (reported_start _)
  rw [Parsed.ofTokens_eq]
  dsimp only
  rw [silent]
  exact ⟨List.reverse_nil, same⟩

/-! ## A door -/

namespace Token

/-- A keyword. -/
def word (keyword : Keyword) : Token :=
  ⟨.keyword keyword, keyword.spelling, .nowhere⟩

def named (text : String) : Token := ⟨.identifier, text, .nowhere⟩

def sign (symbol : Symbol) : Token :=
  ⟨.symbol symbol, symbol.spelling, .nowhere⟩

def comment (text : String) : Token := ⟨.docComment, text, .nowhere⟩

/-- A line break. -/
def line : Token := ⟨.newline, "\n", .nowhere⟩

theorem kind_word (keyword : Keyword) :
    (word keyword).kind = .keyword keyword :=
  rfl

theorem kind_named (text : String) : (named text).kind = .identifier := rfl

theorem kind_sign (symbol : Symbol) : (sign symbol).kind = .symbol symbol := rfl

theorem kind_comment (text : String) : (comment text).kind = .docComment := rfl

theorem kind_line : line.kind = .newline := rfl

end Token

def Function.getLocked : Function where
  returnType := some ⟨.bool, false, .nowhere⟩
  name := ⟨"GET", .nowhere⟩
  parameters := []
  body :=
    [.conditional
      [⟨.literal ⟨.bool true, .nowhere⟩,
        [.result (some (.literal ⟨.bool false, .nowhere⟩)) .nowhere],
        .nowhere⟩]
      (some [.result none .nowhere]) .nowhere]
  native := false
  global := false
  doc := none
  span := .nowhere

def Script.door : Script where
  name := ⟨"Door", .nowhere⟩
  parent := some ⟨"Form", .nowhere⟩
  hidden := true
  conditional := false
  native := false
  doc := some "A door."
  imports := []
  members :=
    [.property
      { type := ⟨.bool, false, .nowhere⟩
        name := ⟨"Locked", .nowhere⟩
        source := .full (some .getLocked) none
        hidden := false
        conditional := false
        doc := none
        span := .nowhere }]
  span := .nowhere

def Function.getLockedTokens : List Token :=
  [.word .boolType, .word .function, .named "GET", .sign .openParen,
    .sign .closeParen, .line,
    .word .ifThen, .word .trueLiteral, .line,
    .word .returnValue, .word .falseLiteral, .line,
    .word .otherwise, .line,
    .word .returnValue, .line,
    .word .endIf, .line,
    .word .endFunction, .line]

/-- The tokens of `Script.door`, each line after the other. -/
def Script.doorTokens : List Token :=
  [.word .scriptname, .named "Door", .word .extendsParent, .named "Form",
    .word .hidden, .line,
    .comment "A door.", .line] ++
  ([.word .boolType, .word .property, .named "Locked", .line] ++
    (Function.getLockedTokens ++ [.word .endProperty, .line]))

theorem readFrom_boolean (value : Bool) {word : Token}
    (kind : word.kind =
      .keyword (if value then .trueLiteral else .falseLiteral)) :
    (Expression.literal ⟨.bool value, .nowhere⟩).ReadFrom [word] := by
  have renders : Renders 1
      (.expression .primary (.literal ⟨.bool value, .nowhere⟩))
      [(word, 1)] := .literal (.bool value kind)
  have shallow : Rendering.level [(word, 1)] ≤ nestingLimit := by
    rw [Rendering.level_cons]
    decide
  have read : Expression.ReadFrom _ (Rendering.tokens [(word, 1)]) :=
    Expression.readFrom_of_renders .literal (.weaken renders (by decide))
      shallow
  exact read

/-- The getter is laid out on three lines. -/
theorem getLocked_laidOut :
    Function.getLocked.LaidOut Function.getLockedTokens := by
  have ends := Token.kind_line
  have condition := readFrom_boolean true (Token.kind_word .trueLiteral)
  have value := readFrom_boolean false (Token.kind_word .falseLiteral)
  have first : Statement.LaidOut
      (.body [.result (some (.literal ⟨.bool false, .nowhere⟩)) .nowhere])
      ([.word .returnValue, .word .falseLiteral, .line] ++ []) :=
    .cons (.resultOf (Token.kind_word _) value ends) .nil
  have second : Statement.LaidOut (.body [.result none .nowhere])
      ([.word .returnValue, .line] ++ []) :=
    .cons (.result (Token.kind_word _) ends) .nil
  have arms := Statement.LaidOut.otherwise (Token.kind_word _) ends second
    (Token.kind_word _) ends
  have body : Statement.LaidOut (.body Function.getLocked.body) _ :=
    .cons (.conditional (Token.kind_word _) condition ends first arms) .nil
  have listed := Parameter.Parenthesized.none (Token.kind_sign .openParen)
    (Token.kind_sign .closeParen)
  have type : TypeName.Returned (some ⟨.bool, false, .nowhere⟩)
      [.word .boolType] := .value (.plain rfl)
  exact .intro type (Token.kind_word _) (Token.kind_named "GET") listed .nil
    (.absent ends) (.intro body (Token.kind_word _) ends)

/-- The script is laid out line by line. -/
theorem door_laidOut : Script.door.LaidOut Script.doorTokens := by
  have ends := Token.kind_line
  have extended : Identifier.ExtendedBy (some ⟨"Form", .nowhere⟩) _ :=
    .parent (Token.kind_word .extendsParent) (Token.kind_named "Form")
  have flagged := ScriptFlagged.hidden (Token.kind_word .hidden) .nil
  have documented := DocumentedEnd.below ends (Token.kind_comment "A door.")
    ends
  have type : TypeName.Spelled ⟨.bool, false, .nowhere⟩ [.word .boolType] :=
    .plain rfl
  have source : PropertySource.LaidOut (.full (some Function.getLocked) none)
      none none _ :=
    .full (.present getLocked_laidOut) .absent (Token.kind_word _) ends
  have property : Member.LaidOut (Script.door.members.head (nofun)) _ :=
    .property (.intro type (Token.kind_word _) (Token.kind_named "Locked")
      .absent .nil (.absent ends) source)
  have laid : Script.door.LaidOut _ :=
    .intro (Token.kind_word _) (Token.kind_named "Door") extended flagged
      documented .nil (.cons property .nil)
  exact laid

/-- Everything that the script declares is well-formed. -/
theorem door_wellFormed : Script.door.WellFormed := by
  have body : Statement.WellFormedBody Function.getLocked.body :=
    ⟨⟨List.cons_ne_nil _ _, ⟨⟨trivial, trivial⟩, trivial⟩, trivial, trivial⟩,
      trivial⟩
  have isGetter : Function.getLocked.IsGetter :=
    { wellFormed := ⟨nofun, body⟩
      named := by decide
      parameters := rfl }
  intro member isMember
  cases List.mem_singleton.1 isMember
  refine ⟨.inl rfl, ?_, ?_⟩
  · intro tree found
    cases found
    exact isGetter
  · intro tree found
    cases found

/-- The door is read from its tokens. -/
theorem script_reads_door :
    (Parsed.ofTokens Script.doorTokens).diagnostics = [] ∧
      (Parsed.ofTokens Script.doorTokens).script.bare = Script.door.bare := by
  have read := script_reads_layout door_laidOut door_wellFormed .missing
  rwa [List.append_nil] at read

end PapyrusScript
