import PapyrusScript.Proofs.Layout.Member

/-!
# The parts of a script are read as they are laid out

Every import and every member starts with a token that says so, and the end of
the text ends them.  The header line names the script and perhaps its parent,
and has flags and a documentation comment like any other.
-/

namespace PapyrusScript

open Cursor

theorem Import.LaidOut.heads
    {tree : Import} {row rest : List Token} (laid : tree.LaidOut row) :
    Heads (· = .keyword .importScript) (row ++ rest) := by
  cases laid with
  | intro kind _ _ => exact kind

namespace Reader

variable {row rest : List Token}
variable {list : List Member}

/-! ## Single declarations -/

theorem takes_importLine {tree : Import} (laid : tree.LaidOut row) :
    importLine.Takes row rest fun found => found.bare = tree.bare := by
  cases laid with
  | intro kind named ends =>
    unfold importLine
    apply Takes.expect kind (by simp [kind])
    apply Takes.identifier named
    apply Takes.get
    intro cursor here
    apply Takes.bind_nil (takes_endOfLine ends _)
    intro _ _
    exact .pure rfl

/-- An import is added behind those that have been read. -/
theorem takes_nextDeclaration_import
    {tree : Import} (laid : tree.LaidOut row) (found : ScriptBody) :
    (nextDeclaration found).Takes row rest fun decision =>
      ∃ following, decision = .again following ∧
        ∃ next : Import,
          following = { found with imports := found.imports ++ [next] } ∧
            next.bare = tree.bare := by
  have isImport : Heads (· = .keyword .importScript) (row ++ rest) := laid.heads
  have line : Heads (· ≠ .newline) (row ++ rest) := by
    apply isImport.mono
    intro _ equal
    subst equal
    exact nofun
  unfold nextDeclaration
  apply Recovery.Takes.after (takes_skipNewlines line)
  intro _ _
  apply Recovery.Takes.get
  intro cursor here
  rw [isImport.kind here]
  apply Recovery.Takes.bind_nil (takes_importLine laid).run
  intro _ reached
  obtain ⟨next, rfl, same⟩ := reached
  exact .pure ⟨_, rfl, next, rfl, same⟩

/-- What is read of a member that starts as one is added to the script. -/
theorem remarks_nextDeclaration_of_members
    {news : List Diagnostic} {fact : List Member → Prop}
    (remarks : members.Remarks row rest news fact)
    (starts : Heads Kind.startsMember (row ++ rest))
    (declares : ∀ cursor : Cursor, cursor.budget = row ++ rest →
      cursor.atDeclaration = true)
    (found : ScriptBody) :
    (nextDeclaration found).Remarks row rest news fun decision =>
      ∃ following, decision = .again following ∧
        ∃ next : List Member,
          following = { found with members := found.members ++ next } ∧
            fact next := by
  have line : Heads (· ≠ .newline) (row ++ rest) :=
    starts.mono fun _ starts => (Kind.isVisible_of_startsMember starts).1
  unfold nextDeclaration
  apply Recovery.Takes.afterRemarks (takes_skipNewlines line)
  intro _ _
  apply Recovery.Remarks.get
  intro cursor here
  have start := starts.kind here
  split
  · rename_i atEnd
    rw [atEnd] at start
    exact absurd start (by decide)
  · rename_i isComment
    rw [isComment] at start
    exact absurd start (by decide)
  · rename_i isHeader
    rw [isHeader] at start
    exact absurd start (by decide)
  · rename_i isImport
    rw [isImport] at start
    exact absurd start (by decide)
  · rw [if_pos (declares cursor here)]
    apply Recovery.Remarks.bind_nil remarks.run
    rintro _ ⟨next, rfl, holds⟩
    exact .pure ⟨_, rfl, next, rfl, holds⟩

theorem takes_nextDeclaration_member
    {tree : Member} (laid : tree.LaidOut row) (wellFormed : tree.WellFormed)
    (heads : Heads Kind.isVisible rest) (found : ScriptBody) :
    (nextDeclaration found).Takes row rest fun decision =>
      ∃ following, decision = .again following ∧
        ∃ next : List Member,
          following = { found with members := found.members ++ next } ∧
            next.map Member.bare = [tree.bare] :=
  (remarks_nextDeclaration_of_members
    (takes_members laid wellFormed heads).remarks laid.heads
    (fun _ here => laid.atDeclaration here) found).takes

/-- At the end of the text the declarations are taken. -/
theorem takes_nextDeclaration_end
    (ends : Heads (· = .endOfText) rest) (found : ScriptBody) :
    (nextDeclaration found).Takes [] rest fun decision =>
      ∃ final, decision = .done final ∧ final = found := by
  have line : Heads (· ≠ .newline) ([] ++ rest) := by
    apply ends.mono
    intro _ equal
    subst equal
    exact nofun
  unfold nextDeclaration
  apply Recovery.Takes.after (takes_skipNewlines line)
  intro _ _
  apply Recovery.Takes.get
  intro cursor here
  rw [ends.kind here]
  exact .pure ⟨_, rfl, rfl⟩

/-! ## All declarations -/

theorem heads_of_members (laid : LaidOutInTurn Member.LaidOut list row)
    (ends : Heads (· = .endOfText) rest) :
    Heads Kind.isVisible (row ++ rest) := by
  cases laid with
  | nil =>
    apply ends.mono
    intro _ equal
    subst equal
    exact ⟨nofun, nofun⟩
  | cons laid _ =>
    rw [List.append_assoc]
    exact laid.heads.mono fun _ => Kind.isVisible_of_startsMember

theorem heads_of_imports
    {list : List Import} (laid : LaidOutInTurn Import.LaidOut list row)
    (heads : Heads Kind.isVisible rest) :
    Heads Kind.isVisible (row ++ rest) := by
  cases laid with
  | nil => exact heads
  | cons laid _ =>
    rw [List.append_assoc]
    apply laid.heads.mono
    intro _ equal
    subst equal
    exact Kind.isVisible_keyword _

/-- The members of a script up to the end of the text, behind what has been
read of it. -/
theorem takes_memberDeclarations (laid : LaidOutInTurn Member.LaidOut list row)
    (wellFormed : ∀ member ∈ list, member.WellFormed)
    (ends : Heads (· = .endOfText) rest) (found : ScriptBody) :
    (Recovery.iterate nextDeclaration found).Takes row rest fun final =>
      final.imports = found.imports ∧
        ∃ more, final.members = found.members ++ more ∧
          more.map Member.bare = list.map Member.bare := by
  have proceeds := Recovery.proceeds_nextDeclaration
  induction laid generalizing found with
  | nil =>
    apply Recovery.Takes.done proceeds
    apply (takes_nextDeclaration_end ends found).mono
    intro _ reached
    obtain ⟨_, rfl, rfl⟩ := reached
    exact ⟨_, rfl, rfl, [], (List.append_nil _).symm, rfl⟩
  | @cons first more row behind laid tail ih =>
    apply Recovery.Takes.again proceeds
      (takes_nextDeclaration_member laid
        (wellFormed first List.mem_cons_self) (heads_of_members tail ends)
        found)
    intro _ reached
    obtain ⟨next, rfl, same⟩ := reached
    apply (ih
      (fun member isMore => wellFormed member (List.mem_cons_of_mem _ isMore))
      _).mono
    intro final reached
    obtain ⟨unchanged, others, split, sameOthers⟩ := reached
    refine ⟨unchanged, next ++ others, ?_, ?_⟩
    · rw [split, List.append_assoc]
    · rw [List.map_append, same, sameOthers]
      rfl

/-- Imports and members are added in the order of their layouts. -/
theorem takes_declarations {imports : List Import} {behind : List Token}
    (imported : LaidOutInTurn Import.LaidOut imports row)
    (laid : LaidOutInTurn Member.LaidOut list behind)
    (wellFormed : ∀ member ∈ list, member.WellFormed)
    (ends : Heads (· = .endOfText) rest) (found : ScriptBody) :
    (Recovery.iterate nextDeclaration found).Takes (row ++ behind) rest
      fun final =>
        ∃ first, final.imports = found.imports ++ first ∧
          first.map Import.bare = imports.map Import.bare ∧
            ∃ more, final.members = found.members ++ more ∧
              more.map Member.bare = list.map Member.bare := by
  have proceeds := Recovery.proceeds_nextDeclaration
  induction imported generalizing found with
  | nil =>
    apply (takes_memberDeclarations laid wellFormed ends found).mono
    intro final reached
    obtain ⟨unchanged, more, split, same⟩ := reached
    exact ⟨[], by rw [unchanged, List.append_nil], rfl, more, split, same⟩
  | cons head _ ih =>
    rw [List.append_assoc]
    apply Recovery.Takes.again proceeds
      (takes_nextDeclaration_import head found)
    intro _ reached
    obtain ⟨next, rfl, same⟩ := reached
    apply (ih _).mono
    intro final reached
    obtain ⟨others, split, sameOthers, more, splitMore, sameMore⟩ := reached
    refine ⟨next :: others, ?_, ?_, more, splitMore, sameMore⟩
    · rw [split, List.append_assoc]
      rfl
    · rw [List.map_cons, List.map_cons, same, sameOthers]

end Reader

namespace Reader

variable {row rest : List Token}

/-! ## Flags of a script -/

/-- A header, and the same header with one more flag. -/
inductive Header.Flag (header : Header) : Keyword → Header → Prop
  | hidden : Flag header .hidden { header with hidden := true }
  | conditional : Flag header .conditional { header with conditional := true }
  | native : Flag header .native { header with native := true }

section Flags

variable {header flagged : Header}

theorem takes_headerFlags
    {flag : Keyword} {word : Token} (adds : header.Flag flag flagged)
    (kind : word.kind = .keyword flag) :
    (headerFlags header).Takes [word] rest (· = .again flagged) := by
  unfold headerFlags
  apply Recovery.Takes.get
  intro cursor here
  rw [(kind_of_budget here).trans kind]
  cases adds with
  | hidden | conditional | native =>
    apply Recovery.Takes.advance (by simp [kind])
    exact .pure rfl

theorem takes_headerFlags_end (stops : Heads Kind.endsHeader rest) :
    (headerFlags header).Takes [] rest (· = .done header) := by
  unfold headerFlags
  apply Recovery.Takes.get
  intro cursor here
  rcases stops.kind here with stop | stop
  · rw [stop]
    exact .pure rfl
  · rw [stop]
    exact .pure rfl

/-- The flags of a script are taken in any order. -/
theorem takes_scriptFlags {hidden conditional native : Bool}
    (flags : ScriptFlagged hidden conditional native row)
    (stops : Heads Kind.endsHeader rest) (header : Header) :
    (Recovery.iterate headerFlags header).Takes row rest fun found =>
      found =
        { header with
          hidden := header.hidden || hidden
          conditional := header.conditional || conditional
          native := header.native || native } := by
  have proceeds := Recovery.proceeds_headerFlags
  induction flags generalizing header with
  | nil =>
    apply Recovery.Takes.done_of_eq proceeds (takes_headerFlags_end stops)
    simp only [Bool.or_false]
  | hidden kind _ ih =>
    apply Recovery.Takes.again_of_eq proceeds (takes_headerFlags .hidden kind)
    apply (ih _).mono
    intro found same
    rw [same, Bool.or_true, Bool.true_or]
  | conditional kind _ ih =>
    apply Recovery.Takes.again_of_eq proceeds
      (takes_headerFlags .conditional kind)
    apply (ih _).mono
    intro found same
    rw [same, Bool.or_true, Bool.true_or]
  | native kind _ ih =>
    apply Recovery.Takes.again_of_eq proceeds (takes_headerFlags .native kind)
    apply (ih _).mono
    intro found same
    rw [same, Bool.or_true, Bool.true_or]

end Flags

/-! ## Header lines -/

/-- The name of the parent script is taken if there is one. -/
theorem takes_parentName
    {parent : Option Identifier} (extended : Identifier.ExtendedBy parent row)
    (apart : Heads (· ≠ .keyword .extendsParent) rest) :
    parentName.Takes row rest fun found =>
      found.map Identifier.bare = parent.map Identifier.bare := by
  unfold parentName
  apply Takes.get
  intro cursor here
  cases extended with
  | nothing =>
    rw [if_neg (apart.kind here)]
    exact .pure rfl
  | parent kind named =>
    rw [if_pos ((kind_of_budget here).trans kind)]
    apply Takes.advance (by simp [kind])
    apply Takes.identifier named
    exact .pure rfl

/-- What the header of a script says. -/
structure Header.Says
    (header : Header) (name : String) (parent : Option Identifier)
    (hidden conditional native : Bool) (doc : Option String) : Prop where
  name : header.name.bare = ⟨name, .nowhere⟩
  parent : header.parent.map Identifier.bare = parent.map Identifier.bare
  hidden : header.hidden = hidden
  conditional : header.conditional = conditional
  native : header.native = native
  doc : header.doc = doc

theorem heads_scriptFlagged {hidden conditional native : Bool}
    (flagged : ScriptFlagged hidden conditional native row)
    (stops : Heads Kind.endsHeader rest) :
    Heads (· ≠ .keyword .extendsParent) (row ++ rest) := by
  cases flagged with
  | nil =>
    apply stops.mono
    intro _ either
    rcases either with rfl | rfl
    · exact nofun
    · exact nofun
  | hidden kind _ | conditional kind _ | native kind _ =>
    exact heads_ne kind nofun

/-- The header line of a script is taken with all that it says. -/
theorem takes_header
    {parent : Option Identifier} {hidden conditional native : Bool}
    {doc : Option String} {word token : Token}
    {extending flags docs : List Token}
    (kind : word.kind = .keyword .scriptname) (named : token.kind = .identifier)
    (extended : Identifier.ExtendedBy parent extending)
    (flagged : ScriptFlagged hidden conditional native flags)
    (documented : DocumentedEnd doc docs)
    (apart : Heads (· ≠ .docComment) rest) :
    header.Takes (word :: token :: (extending ++ (flags ++ docs))) rest
      fun found =>
        found.Says token.text parent hidden conditional native doc := by
  have stops : Heads Kind.endsHeader (docs ++ rest) := heads_documentedEnd documented
  have noParent : Heads (· ≠ .keyword .extendsParent)
      (flags ++ docs ++ rest) := by
    rw [List.append_assoc]
    exact heads_scriptFlagged flagged stops
  have name : scriptName.Takes [word, token]
      (extending ++ (flags ++ docs) ++ rest) fun found =>
        found.bare = ⟨token.text, .nowhere⟩ := by
    unfold scriptName
    apply Takes.expect kind (by simp [kind])
    intro cursor here
    have next := budget_next_of_budget here (by simp [named])
    have isName := (kind_of_budget here).trans named
    rw [ends_identifier isName, current_of_budget here]
    exact ⟨rfl, next, quiet_next cursor⟩
  unfold header
  apply Recovery.Takes.get
  intro cursor here
  rw [if_pos ((kind_of_budget here).trans kind)]
  unfold headerLine
  apply Recovery.Takes.bind name.run
  intro _ reached
  obtain ⟨nameFound, rfl, sameName⟩ := reached
  apply Recovery.Takes.bind (takes_parentName extended noParent).run
  intro _ reached
  obtain ⟨parentFound, rfl, sameParent⟩ := reached
  apply Recovery.Takes.iterate (takes_scriptFlags flagged stops _)
  intro _ equal
  subst equal
  apply Recovery.Takes.bind_nil
    (takes_endOfDeclaration documented (fun _ => apart) _).run
  intro _ reached
  obtain ⟨_, rfl, rfl⟩ := reached
  apply Recovery.Takes.pure
  exact
    { name := sameName
      parent := sameParent
      hidden := Bool.false_or _
      conditional := Bool.false_or _
      native := Bool.false_or _
      doc := rfl }

end Reader

end PapyrusScript
