import Mathlib.Data.List.Lex
import PapyrusScript.Proofs.Utf8

/-!
# The parts of a path

A path is split at its slashes, so the parts of a joined path are those of
both sides.  Paths are compared component by component: the root comes before
the folder itself, that before the one around it, and names are in the order
of their bytes.  A path below another has the components of the other in
front, so only what is below decides between two of them.
-/

namespace PapyrusScript.Path

/-! ## Pieces between slashes -/

theorem splitSlashes_ne_nil (text : List Char) : splitSlashes text ≠ [] := by
  cases text with
  | nil => simp [splitSlashes]
  | cons letter rest =>
    unfold splitSlashes
    split
    · simp
    · split <;> simp

theorem splitSlashes_append (front back : List Char) :
    splitSlashes (front ++ '/' :: back) =
      splitSlashes front ++ splitSlashes back := by
  induction front with
  | nil => simp [splitSlashes]
  | cons letter front ih =>
    rw [List.cons_append, splitSlashes, splitSlashes, ih]
    split
    · rfl
    · obtain ⟨first, others, pieces⟩ :=
        List.exists_cons_of_ne_nil (splitSlashes_ne_nil front)
      simp [pieces]

theorem splitSlashes_of_notMem {text : List Char} (plain : '/' ∉ text) :
    splitSlashes text = [text] := by
  induction text with
  | nil => rfl
  | cons letter rest ih =>
    rw [List.mem_cons, not_or] at plain
    rw [splitSlashes, if_neg (Ne.symm plain.1), ih plain.2]

/-- A name that an entry of a folder can have. -/
structure IsName (name : String) : Prop where
  visible : isIdle name = false
  notAbove : name ≠ ".."
  plain : '/' ∉ name.toList

instance (name : String) : Decidable (IsName name) :=
  decidable_of_iff
    (isIdle name = false ∧ name ≠ ".." ∧ '/' ∉ name.toList)
    ⟨fun ⟨visible, notAbove, plain⟩ => ⟨visible, notAbove, plain⟩,
      fun ⟨visible, notAbove, plain⟩ => ⟨visible, notAbove, plain⟩⟩

variable {base child : String}

theorem IsName.ne_empty (isName : IsName child) : child ≠ "" := by
  rintro rfl
  exact absurd isName.visible (by decide)

theorem IsName.isAbsolute_eq (isName : IsName child) :
    isAbsolute child = false := by
  rw [isAbsolute, decide_eq_false_iff_not]
  intro first
  exact isName.plain (List.mem_of_head? first)

/-- The parts of a path below another: those of the other, apart from an empty
one behind its last slash, and those of what is below. -/
theorem parts_join (present : base ≠ "") (isName : IsName child) :
    ∃ front, (parts base = front ∨ parts base = front ++ [""]) ∧ front ≠ [] ∧
      parts (join base child) = front ++ [child] := by
  have nonempty : base.isEmpty = false := by simpa using present
  unfold join
  rw [isName.isAbsolute_eq, nonempty]
  simp only [Bool.or_false, Bool.false_eq_true, if_false]
  split
  · rename_i endsInSlash
    obtain ⟨front, whole⟩ := List.getLast?_eq_some_iff.mp endsInSlash
    refine ⟨(splitSlashes front).map String.ofList, .inr ?_, ?_, ?_⟩
    · simp [parts, whole, splitSlashes_append, splitSlashes]
    · simp [splitSlashes_ne_nil]
    · simp [parts, whole, splitSlashes_append,
        splitSlashes_of_notMem isName.plain]
  · refine ⟨parts base, .inl rfl, by simp [parts, splitSlashes_ne_nil], ?_⟩
    simp [parts, splitSlashes_append, splitSlashes_of_notMem isName.plain]

theorem isAbsolute_join (present : base ≠ "") (isName : IsName child) :
    isAbsolute (join base child) = isAbsolute base := by
  have nonempty : base.isEmpty = false := by simpa using present
  obtain ⟨first, rest, whole⟩ := List.exists_cons_of_ne_nil
    (by simpa using present : base.toList ≠ [])
  unfold join
  rw [isName.isAbsolute_eq, nonempty]
  simp only [Bool.or_false, Bool.false_eq_true, if_false]
  split <;> simp [isAbsolute, whole]

theorem join_ne_empty (present : base ≠ "") (isName : IsName child) :
    join base child ≠ "" := by
  intro empty
  obtain ⟨front, -, -, whole⟩ := parts_join present isName
  have last := congrArg List.getLast? whole
  rw [empty, List.getLast?_concat] at last
  exact isName.ne_empty (by simpa [parts, splitSlashes] using last.symm)

/-! ## Components -/

/-- What a part of a path stands for. -/
inductive Component where
  | root
  | current
  | above
  | name (text : String)
  deriving DecidableEq, Repr, Inhabited

/-- The order of components: the root is the first, then the folder itself,
then the one around it, and names are in the order of their bytes. -/
def Component.Before : Component → Component → Prop
  | .name first, .name second => first.toUTF8.toList < second.toUTF8.toList
  | .root, .root | .current, .current | .above, .above => False
  | .root, _ => True
  | .current, .above | .current, .name _ => True
  | .above, .name _ => True
  | _, _ => False

def component (part : String) : Component :=
  if part = ".." then .above else .name part

/-- The components of a path.  A part that stands for the folder itself counts
only at the start of a path. -/
def components (path : String) : List Component :=
  (if isAbsolute path then [.root]
    else if (parts path).head? = some "." then [.current] else []) ++
    (names path).map component

def Before (first second : String) : Prop :=
  List.Lex Component.Before (components first) (components second)

/-- The components of a joined path are those of both parts. -/
theorem components_join (present : base ≠ "") (isName : IsName child) :
    components (join base child) = components base ++ [.name child] := by
  obtain ⟨front, ofBase, some, whole⟩ := parts_join present isName
  have first : (parts (join base child)).head? = (parts base).head? := by
    rw [whole, List.head?_append_of_ne_nil _ some]
    obtain same | same := ofBase
    · rw [same]
    · rw [same, List.head?_append_of_ne_nil _ some]
  have lead : names (join base child) = names base ++ [child] := by
    rw [names, names, whole, List.filter_append]
    have last : [child].filter (fun part => !isIdle part) = [child] := by
      simp [isName.visible]
    rw [last]
    obtain same | same := ofBase
    · rw [same]
    · rw [same, List.filter_append]
      simp [isIdle]
  rw [components, components, isAbsolute_join present isName, first, lead,
    List.map_append, List.append_assoc]
  simp [component, isName.notAbove]

theorem components_joinAll (present : base ≠ "") {names : List String}
    (areNames : ∀ name ∈ names, IsName name) :
    components (joinAll base names) =
      components base ++ names.map Component.name := by
  induction names generalizing base with
  | nil => simp [joinAll]
  | cons name names ih =>
    have isName := areNames name (by simp)
    have later : components (joinAll (join base name) names) =
        components (join base name) ++ names.map Component.name :=
      ih (join_ne_empty present isName)
        fun other below => areNames other (by simp [below])
    rw [components_join present isName] at later
    simpa [joinAll] using later

/-! ## Order -/

theorem Component.before_irrefl (component : Component) :
    ¬ component.Before component := by
  cases component with
  | name text => exact List.lt_irrefl _
  | _ => exact not_false

theorem before_irrefl (path : String) : ¬ Before path path :=
  List.lex_irrefl Component.before_irrefl (components path)

theorem lex_map_name {names others : List String} (less : names < others) :
    List.Lex Component.Before (names.map .name) (others.map .name) := by
  induction less with
  | nil => exact .nil
  | cons _ ih => exact .cons ih
  | rel smaller => exact .rel (Text.toUTF8_lt smaller)

/-- Two paths below another are in the order of the names that lead to
them. -/
theorem before_joinAll (present : base ≠ "") {names others : List String}
    (areNames : ∀ name ∈ names, IsName name)
    (alsoNames : ∀ name ∈ others, IsName name) (less : names < others) :
    Before (joinAll base names) (joinAll base others) := by
  rw [Before, components_joinAll present areNames,
    components_joinAll present alsoNames]
  exact List.Lex.append_left _ (lex_map_name less) _

end PapyrusScript.Path
