import Mathlib.Data.List.Sort
import Mathlib.Data.String.Basic
import PapyrusScript.Batch.Discovery
import PapyrusScript.Pattern
import PapyrusScript.Proofs.PathParts

/-!
# What discovery finds

In a tree whose folders name each entry once, the places of the files are
those that lead to a file, each once.  Sorting puts them in the order of their
names, part by part, so the paths below a root are in the order of paths, and
nothing about them depends on the order in which folders list their entries.
-/

namespace PapyrusScript

namespace FileTree

variable {place : List String}

/-! ## Trees with proper names -/

/-- Whether every folder gives each of its entries a name of its own. -/
inductive WellNamed : FileTree → Prop where
  | file (content : List UInt8) : WellNamed (.file content)
  | folder {entries : List (String × FileTree)}
      (areNames : ∀ entry ∈ entries, Path.IsName entry.1)
      (unique : (entries.map Prod.fst).Nodup)
      (below : ∀ entry ∈ entries, entry.2.WellNamed) :
      WellNamed (.folder entries)

variable {entries : List (String × FileTree)} {tree : FileTree}

/-- In a folder without doubles a name finds the one entry that has it. -/
theorem child?_eq_some_iff (unique : (entries.map Prod.fst).Nodup)
    {name : String} {child : FileTree} :
    (FileTree.folder entries).child? name = some child ↔
      (name, child) ∈ entries := by
  induction entries with
  | nil => simp [child?, FileTree.entries]
  | cons entry rest ih =>
    obtain ⟨other, tree⟩ := entry
    rw [List.map_cons, List.nodup_cons] at unique
    obtain ⟨fresh, unique⟩ := unique
    by_cases same : other = name
    · subst same
      have absent : (other, child) ∉ rest := fun among =>
        fresh (List.mem_map.mpr ⟨_, among, rfl⟩)
      simp [child?, FileTree.entries, absent, eq_comm]
    · have rests := ih unique
      simpa [child?, FileTree.entries, same, Ne.symm same] using rests

theorem entryFiles_eq (entries : List (String × FileTree)) :
    entryFiles entries =
      entries.flatMap fun entry => entry.2.files.map (entry.1 :: ·) := by
  induction entries with
  | nil => rfl
  | cons entry rest ih =>
    rw [entryFiles, ih, List.flatMap_cons]

theorem mem_files_folder :
    place ∈ (FileTree.folder entries).files ↔
      ∃ entry ∈ entries, ∃ rest ∈ entry.2.files, entry.1 :: rest = place := by
  simp [files, entryFiles_eq, List.mem_flatMap, List.mem_map]

/-- The files of a tree are the places that lead to a file. -/
theorem WellNamed.mem_files_iff (sound : tree.WellNamed) :
    place ∈ tree.files ↔ ∃ content, tree.at? place = some (.file content) := by
  induction sound generalizing place with
  | file content =>
    cases place with
    | nil => simp [files, at?]
    | cons name rest => simp [files, at?, child?, FileTree.entries]
  | @folder entries areNames unique below ih =>
    rw [mem_files_folder]
    cases place with
    | nil => simp [at?]
    | cons name rest =>
      constructor
      · rintro ⟨⟨name, child⟩, among, rest, inside, same⟩
        cases same
        rw [at?, (child?_eq_some_iff unique).mpr among]
        exact (ih _ among).mp inside
      · rintro ⟨content, found⟩
        rw [at?] at found
        split at found
        · rename_i child isEntry
          have among := (child?_eq_some_iff unique).mp isEntry
          exact ⟨(name, child), among, rest,
            (ih _ among).mpr ⟨content, found⟩, rfl⟩
        · cases found

theorem WellNamed.isName_of_mem_files
    (sound : tree.WellNamed) (inside : place ∈ tree.files) :
    ∀ name ∈ place, Path.IsName name := by
  induction sound generalizing place with
  | file content =>
    obtain rfl : place = [] := by simpa [files] using inside
    simp
  | folder areNames unique below ih =>
    obtain ⟨entry, among, rest, isFile, rfl⟩ := mem_files_folder.mp inside
    intro name member
    obtain rfl | later := List.mem_cons.mp member
    · exact areNames entry among
    · exact ih entry among isFile name later

theorem WellNamed.nodup_files (sound : tree.WellNamed) : tree.files.Nodup := by
  induction sound with
  | file content => simp [files]
  | @folder entries areNames unique below ih =>
    rw [files, entryFiles_eq, List.nodup_flatMap]
    refine ⟨fun entry among => ?_, ?_⟩
    · exact (ih entry among).map
        (List.cons_injective)
    · refine (List.pairwise_map.mp unique).imp fun different => ?_
      intro place first second
      obtain ⟨rest, -, rfl⟩ := List.mem_map.mp first
      obtain ⟨other, -, same⟩ := List.mem_map.mp second
      exact different (List.cons.inj same).1.symm

/-- What is below a tree with proper names has proper names. -/
theorem WellNamed.at? (sound : tree.WellNamed) {found : FileTree}
    (leads : tree.at? place = some found) :
    found.WellNamed := by
  induction sound generalizing place with
  | file content =>
    cases place with
    | nil =>
      cases leads
      exact .file content
    | cons name rest => simp [FileTree.at?, child?, FileTree.entries] at leads
  | folder areNames unique below ih =>
    cases place with
    | nil =>
      cases leads
      exact .folder areNames unique below
    | cons name rest =>
      rw [FileTree.at?] at leads
      split at leads
      · rename_i child isEntry
        exact ih _
          ((child?_eq_some_iff unique).mp isEntry) leads
      · cases leads

/-! ## Trees that list their entries in another order -/

/-- Whether two trees differ at most in the order in which folders list their
entries. -/
inductive Reordered : FileTree → FileTree → Prop where
  | refl (tree : FileTree) : Reordered tree tree
  | trans {first second third : FileTree} :
      Reordered first second → Reordered second third → Reordered first third
  | listed {entries others : List (String × FileTree)} :
      entries.Perm others → Reordered (.folder entries) (.folder others)
  | inside (name : String) {child other : FileTree}
      (front back : List (String × FileTree)) :
      Reordered child other →
        Reordered (.folder (front ++ (name, child) :: back))
          (.folder (front ++ (name, other) :: back))

variable {other : FileTree}

/-- Another order makes no file a folder, and changes no file. -/
theorem Reordered.eq_or_isFolder (same : tree.Reordered other) :
    tree = other ∨ tree.isFolder = true ∧ other.isFolder = true := by
  induction same with
  | refl tree => exact .inl rfl
  | trans _ _ first second =>
    obtain rfl | ⟨isFolder, alsoFolder⟩ := first
    · exact second
    · obtain rfl | ⟨_, lastFolder⟩ := second
      · exact .inr ⟨isFolder, alsoFolder⟩
      · exact .inr ⟨isFolder, lastFolder⟩
  | listed _ => exact .inr ⟨rfl, rfl⟩
  | inside _ _ _ _ _ => exact .inr ⟨rfl, rfl⟩

theorem Reordered.names_perm (same : tree.Reordered other) :
    (tree.entries.map Prod.fst).Perm (other.entries.map Prod.fst) := by
  induction same with
  | refl tree => exact .refl _
  | trans _ _ first second => exact first.trans second
  | listed perm => exact perm.map Prod.fst
  | inside name front back _ _ => simp [entries]

theorem Reordered.files_perm (same : tree.Reordered other) :
    tree.files.Perm other.files := by
  induction same with
  | refl tree => exact .refl _
  | trans _ _ first second => exact first.trans second
  | listed perm =>
    rw [files, files, entryFiles_eq, entryFiles_eq]
    exact perm.flatMap_right _
  | inside name front back _ ih =>
    rw [files, files, entryFiles_eq, entryFiles_eq, List.flatMap_append,
      List.flatMap_append, List.flatMap_cons, List.flatMap_cons]
    exact .append_left _ (.append_right _ (ih.map _))

/-- Another order of entries keeps the names of a folder apart. -/
theorem Reordered.wellNamed (same : tree.Reordered other)
    (sound : tree.WellNamed) : other.WellNamed := by
  induction same with
  | refl tree => exact sound
  | trans _ _ first second => exact second (first sound)
  | listed perm =>
    cases sound with
    | folder areNames unique below =>
      exact .folder (fun entry among => areNames entry (perm.mem_iff.mpr among))
        ((perm.map Prod.fst).nodup_iff.mp unique)
        (fun entry among => below entry (perm.mem_iff.mpr among))
  | @inside name child other front back _ ih =>
    cases sound with
    | folder areNames unique below =>
      have changed := ih
        (below (name, child) (by simp))
      have named := areNames (name, child) (by simp)
      refine .folder (fun entry among => ?_) (by simpa using unique)
        fun entry among => ?_
      all_goals
        simp only [List.mem_append, List.mem_cons] at among
      · obtain inFront | rfl | behind := among
        · exact areNames entry (by simp [inFront])
        · exact named
        · exact areNames entry (by simp [behind])
      · obtain inFront | rfl | behind := among
        · exact below entry (by simp [inFront])
        · exact changed
        · exact below entry (by simp [behind])

theorem child?_eq_of_perm {others : List (String × FileTree)}
    (perm : entries.Perm others) (unique : (entries.map Prod.fst).Nodup)
    (name : String) :
    (FileTree.folder entries).child? name =
      (FileTree.folder others).child? name := by
  ext child
  rw [child?_eq_some_iff unique,
    child?_eq_some_iff ((perm.map Prod.fst).nodup_iff.mp unique), perm.mem_iff]

/-- A folder with one entry more finds that one under its name. -/
theorem child?_append_cons {front back : List (String × FileTree)}
    {name : String} {child : FileTree}
    (unique : ((front ++ (name, child) :: back).map Prod.fst).Nodup)
    (wanted : String) :
    (FileTree.folder (front ++ (name, child) :: back)).child? wanted =
      if wanted = name then some child
      else (FileTree.folder (front ++ back)).child? wanted := by
  have others : ((front ++ back).map Prod.fst).Nodup := by
    refine unique.sublist (.map Prod.fst (.append_left ?_ front))
    exact List.sublist_cons_self _ _
  by_cases same : wanted = name
  · subst same
    rw [if_pos rfl, child?_eq_some_iff unique]
    simp
  · rw [if_neg same]
    ext found
    rw [child?_eq_some_iff unique, child?_eq_some_iff others]
    simp [same]

theorem Reordered.optionRel_refl (found : Option FileTree) :
    Option.Rel Reordered found found := by
  cases found with
  | none => exact .none
  | some tree => exact .some (.refl tree)

theorem Reordered.optionRel_trans {first second third : Option FileTree}
    (before : Option.Rel Reordered first second)
    (behind : Option.Rel Reordered second third) :
    Option.Rel Reordered first third := by
  cases before with
  | none => exact behind
  | some same =>
    cases behind with
    | some next => exact .some (same.trans next)

/-- A place leads to the same file in both trees, or to folders that differ
at most in their order, or in both nowhere. -/
theorem Reordered.at? (same : tree.Reordered other) (sound : tree.WellNamed)
    (place : List String) :
    Option.Rel Reordered (tree.at? place) (other.at? place) := by
  induction same generalizing place with
  | refl tree => exact optionRel_refl _
  | trans first _ inFirst inSecond =>
    exact optionRel_trans (inFirst sound place)
      (inSecond (first.wellNamed sound) place)
  | listed perm =>
    cases sound with
    | folder areNames unique below =>
      cases place with
      | nil => exact .some (.listed perm)
      | cons name rest =>
        rw [FileTree.at?, FileTree.at?, child?_eq_of_perm perm unique]
        exact optionRel_refl _
  | @inside name child other front back same ih =>
    cases sound with
    | folder areNames unique below =>
      cases place with
      | nil => exact .some (.inside name front back same)
      | cons wanted rest =>
        have alsoUnique :
            ((front ++ (name, other) :: back).map Prod.fst).Nodup := by
          simpa using unique
        rw [FileTree.at?, FileTree.at?, child?_append_cons unique,
          child?_append_cons alsoUnique]
        by_cases here : wanted = name
        · simp only [if_pos here]
          exact ih (below (name, child) (by simp)) rest
        · simp only [if_neg here]
          exact optionRel_refl _

end FileTree

namespace Volume

variable {volume : Volume} {listed : FileTree}

theorem any_eq_of_names_perm {entries others : List (String × FileTree)}
    (perm : (entries.map Prod.fst).Perm (others.map Prod.fst))
    (name : String) :
    (entries.any fun entry => entry.1 == name) =
      others.any fun entry => entry.1 == name := by
  have asMap (row : List (String × FileTree)) :
      (row.any fun entry => entry.1 == name) =
        (row.map Prod.fst).any (· == name) := by
    rw [List.any_map]
    rfl
  rw [asMap, asMap, perm.any_eq]

section Reordered

variable (same : volume.root.Reordered listed)
  (sound : volume.root.WellNamed)
include same sound

/-- Following a path does not depend on the order of entries. -/
theorem follow_of_reordered (place : List String) (part : String) :
    { volume with root := listed }.follow place part =
      volume.follow place part := by
  have found := same.at? sound place
  unfold follow
  generalize volume.root.at? place = here at found
  dsimp only
  generalize listed.at? place = there at found
  cases found with
  | none => rfl
  | @some tree other alike =>
    obtain rfl | ⟨isFolder, alsoFolder⟩ := alike.eq_or_isFolder
    · rfl
    · cases tree with
      | file content => cases isFolder
      | folder entries =>
        cases other with
        | file content => cases alsoFolder
        | folder others =>
          have names : (entries.map Prod.fst).Perm
              (others.map Prod.fst) := alike.names_perm
          simp only [any_eq_of_names_perm names]

theorem followAll_of_reordered (parts place : List String) :
    { volume with root := listed }.followAll place parts =
      volume.followAll place parts := by
  induction parts generalizing place with
  | nil => rfl
  | cons part rest ih =>
    rw [followAll, followAll, follow_of_reordered same sound]
    cases volume.follow place part with
    | error fault => rfl
    | ok next => exact ih next

theorem tree?_of_reordered (path : String) :
    Option.Rel FileTree.Reordered (volume.tree? path)
      ({ volume with root := listed }.tree? path) := by
  have located : { volume with root := listed }.locate path =
      volume.locate path := by
    unfold locate
    cases partsOf path with
    | error fault => rfl
    | ok parts => exact followAll_of_reordered same sound parts _
  unfold tree?
  rw [located]
  cases volume.locate path with
  | error fault => exact .none
  | ok place => exact same.at? sound place

end Reordered

end Volume

namespace Discovery

/-! ## The order of places -/

theorem inOrder_iff {names others : List String} :
    inOrder names others = true ↔ names < others ∨ names = others := by
  induction names generalizing others with
  | nil => cases others <;> simp [inOrder]
  | cons name names ih =>
    cases others with
    | nil => simp [inOrder]
    | cons other others =>
      rw [List.cons_lt_cons_iff, List.cons.injEq]
      simp only [inOrder, Bool.or_eq_true, Bool.and_eq_true,
        decide_eq_true_eq, ih]
      tauto

theorem inOrder_total (names others : List String) :
    (inOrder names others || inOrder others names) = true := by
  rw [Bool.or_eq_true, inOrder_iff, inOrder_iff]
  obtain less | same | greater := lt_trichotomy names others
  · exact .inl (.inl less)
  · exact .inl (.inr same)
  · exact .inr (.inl greater)

theorem inOrder_trans (first second third : List String)
    (before : inOrder first second = true)
    (behind : inOrder second third = true) :
    inOrder first third = true := by
  rw [inOrder_iff] at *
  obtain less | rfl := before
  · obtain next | rfl := behind
    · exact .inl (lt_trans less next)
    · exact .inl less
  · exact behind

theorem inOrder_antisymm {names others : List String}
    (before : inOrder names others = true)
    (behind : inOrder others names = true) : names = others := by
  obtain less | same := inOrder_iff.mp before
  · obtain greater | same := inOrder_iff.mp behind
    · exact absurd greater (lt_asymm less)
    · exact same.symm
  · exact same

theorem pairwise_mergeSort (places : List (List String)) :
    (places.mergeSort inOrder).Pairwise fun first second =>
      inOrder first second = true :=
  List.pairwise_mergeSort inOrder_trans inOrder_total places

/-- Places that occur once are in strict order when they are sorted. -/
theorem pairwise_lt_mergeSort {places : List (List String)}
    (once : places.Nodup) :
    (places.mergeSort inOrder).Pairwise (· < ·) := by
  have apart : (places.mergeSort inOrder).Nodup :=
    (List.mergeSort_perm places inOrder).nodup_iff.mpr once
  refine ((pairwise_mergeSort places).and apart).imp ?_
  rintro first second ⟨ordered, different⟩
  exact (inOrder_iff.mp ordered).resolve_right different

theorem mergeSort_eq_of_perm {places others : List (List String)}
    (perm : places.Perm others) :
    places.mergeSort inOrder = others.mergeSort inOrder := by
  have sorted : (places.mergeSort inOrder).Perm (others.mergeSort inOrder) :=
    ((List.mergeSort_perm places inOrder).trans perm).trans
      (List.mergeSort_perm others inOrder).symm
  exact sorted.eq_of_pairwise
    (fun _ _ _ _ before behind => inOrder_antisymm before behind)
    (pairwise_mergeSort places) (pairwise_mergeSort others)

/-! ## Discovery -/

theorem below_of_reordered {tree listed : FileTree}
    (same : tree.Reordered listed) (root : String)
    (accepts : String → Bool) :
    below root listed accepts = below root tree accepts := by
  unfold below
  rw [mergeSort_eq_of_perm same.files_perm]

/-- What is found below a folder: the places of the files whose paths pass the
test, in the order of the paths. -/
theorem exists_places {root : String} (present : root ≠ "") {tree : FileTree}
    (sound : tree.WellNamed) (accepts : String → Bool) :
    ∃ places : List (List String),
      below root tree accepts = places.map (Path.joinAll root) ∧
        (∀ place, place ∈ places ↔
          (∃ content, tree.at? place = some (.file content)) ∧
            accepts (Path.joinAll root place) = true) ∧
        (places.map (Path.joinAll root)).Pairwise Path.Before := by
  refine ⟨(tree.files.mergeSort inOrder).filter
    (accepts ∘ Path.joinAll root), ?_, fun place => ?_, ?_⟩
  · rw [below, List.filter_map]
  · rw [List.mem_filter, List.mem_mergeSort, sound.mem_files_iff]
    rfl
  · have sorted := (pairwise_lt_mergeSort sound.nodup_files).filter
      (accepts ∘ Path.joinAll root)
    rw [List.pairwise_map]
    refine sorted.imp_of_mem fun {first second} inFirst inSecond less => ?_
    have isFile {place : List String}
        (among : place ∈ (tree.files.mergeSort inOrder).filter
          (accepts ∘ Path.joinAll root)) :
        ∀ name ∈ place, Path.IsName name :=
      sound.isName_of_mem_files
        (List.mem_mergeSort.mp (List.mem_of_mem_filter among))
    exact Path.before_joinAll present (isFile inFirst) (isFile inSecond) less

/-- Discovery finds every file below a folder whose path passes the test, at
any depth, each once and in the order of paths, whatever order the folders
list their entries in.  It takes a file as it is, and a path that leads
nowhere is an error. -/
theorem discover_complete
    (volume : Volume) (accepts : String → Bool) (root : String)
    (sound : volume.root.WellNamed) :
    (∀ entries, volume.tree? root = some (.folder entries) →
      ∃ places : List (List String),
        discover volume accepts root = .ok (places.map (Path.joinAll root)) ∧
          (∀ place, place ∈ places ↔
            (∃ content, (FileTree.folder entries).at? place =
              some (.file content)) ∧
              accepts (Path.joinAll root place) = true) ∧
          (places.map (Path.joinAll root)).Pairwise Path.Before ∧
          (places.map (Path.joinAll root)).Nodup) ∧
    (∀ content, volume.tree? root = some (.file content) →
      discover volume accepts root = .ok [root]) ∧
    (volume.contains root = false →
      discover volume accepts root = .error (.fileNotFound root)) ∧
    ∀ listed, volume.root.Reordered listed →
      discover { volume with root := listed } accepts root =
        discover volume accepts root := by
  refine ⟨fun entries leads => ?_, fun content leads => ?_, fun missing => ?_,
    fun listed same => ?_⟩
  · have present : root ≠ "" := by
      rintro rfl
      cases leads
    obtain ⟨place, located⟩ : ∃ place,
        volume.root.at? place = some (.folder entries) := by
      unfold Volume.tree? at leads
      split at leads
      · exact ⟨_, leads⟩
      · cases leads
    obtain ⟨places, found, complete, sorted⟩ :=
      exists_places present (sound.at? located) accepts
    refine ⟨places, ?_, complete, sorted, sorted.imp ?_⟩
    · rw [discover, leads, ← found]
    · rintro first second before rfl
      exact Path.before_irrefl _ before
  · rw [discover, leads]
  · rw [Volume.contains, Option.isSome_eq_false_iff,
      Option.isNone_iff_eq_none] at missing
    rw [discover, missing]
  -- a reordered tree has the same file or a reordered folder at the root
  · have alike := Volume.tree?_of_reordered same sound root
    unfold discover
    generalize volume.tree? root = here at alike
    generalize Volume.tree? { volume with root := listed } root = there at alike
    cases alike with
    | none => rfl
    | @some tree other alike =>
      obtain rfl | ⟨isFolder, alsoFolder⟩ := alike.eq_or_isFolder
      · rfl
      · cases tree with
        | file content => cases isFolder
        | folder entries =>
          cases other with
          | file content => cases alsoFolder
          | folder others =>
            exact congrArg Except.ok (below_of_reordered alike _ _)

def nestedScripts : FileTree :=
  .folder [
    ("nested-1", .folder [("z.psc", .file [])]),
    ("notes.txt", .file []),
    ("nested", .folder [("a.psc", .file [])])]

/-- The pattern `c$` finds both scripts and not the notes.  The longer name
comes second, although its text is the smaller one: a minus comes before a
slash. -/
theorem discover_nestedScripts :
    let volume : Volume := ⟨.folder [("d", nestedScripts)], []⟩
    let pattern : Pattern := ⟨false, [[⟨.letter 'c', false⟩, ⟨.stop, false⟩]]⟩
    volume.root.WellNamed ∧
      volume.tree? "d" = some nestedScripts ∧
      ∃ places : List (List String),
        discover volume pattern "d" = .ok (places.map (Path.joinAll "d")) ∧
          ["nested", "a.psc"] ∈ places ∧ ["nested-1", "z.psc"] ∈ places ∧
          ["notes.txt"] ∉ places ∧
          (places.map (Path.joinAll "d")).Pairwise Path.Before ∧
          Path.Before "d/nested/a.psc" "d/nested-1/z.psc" ∧
          "d/nested-1/z.psc" < "d/nested/a.psc" := by
  intro volume pattern
  have single {name : String} {child : FileTree} (named : Path.IsName name)
      (below : child.WellNamed) : (FileTree.folder [(name, child)]).WellNamed :=
    .folder (by simpa using named) (by simp) (by simpa using below)
  have scripts : nestedScripts.WellNamed := by
    refine .folder (by decide) (by decide) ?_
    simp only [List.mem_cons, List.not_mem_nil, or_false]
    rintro entry (rfl | rfl | rfl)
    · exact single (by decide) (.file [])
    · exact .file []
    · exact single (by decide) (.file [])
  have sound : volume.root.WellNamed := single (by decide) scripts
  have leads : volume.tree? "d" = some nestedScripts := by rfl
  obtain ⟨places, found, complete, sorted, -⟩ :=
    (discover_complete volume pattern "d" sound).1 _ leads
  refine ⟨sound, leads, places, found, (complete _).mpr ⟨⟨[], rfl⟩, ?_⟩,
    (complete _).mpr ⟨⟨[], rfl⟩, ?_⟩, fun among => ?_, sorted, ?_, ?_⟩
  · decide
  · decide
  · have accepted := ((complete _).mp among).2
    revert accepted
    decide
  · have ordered : List.Lex Path.Component.Before
        [.name "d", .name "nested", .name "a.psc"]
        [.name "d", .name "nested-1", .name "z.psc"] :=
      .cons (.rel (Text.toUTF8_lt (by decide)))
    exact ordered
  · decide

end Discovery

end PapyrusScript
