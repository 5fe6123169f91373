import PapyrusScript.Command.Run
import PapyrusScript.Proofs.PathParts
import PapyrusScript.Proofs.SettingsText

/-!
# Settings survive being stored

What is written to a path is read from it, and it can be written again: the
folders on the way stay where they are, and so does the way.  Together with
the document for settings, which is read as what it was written for, settings
that have been stored are the ones that are loaded, whatever the path and the
volume are.
-/

namespace PapyrusScript

/-! ## Trees in which something is put -/

namespace FileTree

variable {tree new child : FileTree} {entries : List (String × FileTree)}

/-- An entry that is set is found under its name, and others as before. -/
theorem child?_setEntry (name wanted : String) :
    (FileTree.folder (setEntry name child entries)).child? wanted =
      if wanted = name then some child
      else (FileTree.folder entries).child? wanted := by
  induction entries with
  | nil =>
    by_cases same : wanted = name
    · simp [setEntry, child?, FileTree.entries, same]
    · simp [setEntry, child?, FileTree.entries, same, Ne.symm same]
  | cons entry rest ih =>
    simp only [child?, FileTree.entries] at ih ⊢
    by_cases here : entry.1 = name
    · by_cases same : wanted = name
      · simp [setEntry, here, same]
      · simp [setEntry, here, same, Ne.symm same]
    · by_cases first : entry.1 = wanted
      · have other : wanted ≠ name := first ▸ here
        simp [setEntry, first, other]
      · simp [setEntry, here, first, ih]

theorem child?_put (name wanted : String) (rest : List String) :
    (tree.put new (name :: rest)).child? wanted =
      if wanted = name then
        some (((tree.child? name).getD emptyFolder).put new rest)
      else tree.child? wanted :=
  child?_setEntry name wanted

theorem at?_append (front back : List String) :
    tree.at? (front ++ back) = (tree.at? front).bind (·.at? back) := by
  induction front generalizing tree with
  | nil => rfl
  | cons name front ih =>
    rw [List.cons_append, at?, at?]
    split
    · exact ih
    · rfl

theorem at?_put_self (place : List String) :
    (tree.put new place).at? place = some new := by
  induction place generalizing tree with
  | nil => rfl
  | cons name rest ih =>
    rw [at?, child?_put, if_pos rfl]
    exact ih

/-- A folder stays a folder with the same names, unless something is put in
place of it or of one around it. -/
theorem exists_folder_put (new : FileTree) {place other : List String}
    (noFolder : ∀ old, tree.at? place ≠ some (.folder old))
    (leads : tree.at? other = some (.folder entries)) :
    ∃ later, (tree.put new place).at? other = some (.folder later) ∧
      ∀ name, ((FileTree.folder entries).child? name).isSome →
        ((FileTree.folder later).child? name).isSome := by
  induction place generalizing tree other with
  | nil =>
    cases tree with
    | folder old => exact absurd rfl (noFolder old)
    | file content => cases other <;> cases leads
  | cons name rest ih =>
    cases other with
    | nil =>
      obtain rfl := Option.some.inj leads
      refine ⟨_, rfl, fun wanted present => ?_⟩
      rw [child?_setEntry]
      split
      · rfl
      · exact present
    | cons wanted more =>
      rw [at?, child?_put]
      by_cases same : wanted = name
      · subst same
        rw [at?] at leads noFolder
        cases below : tree.child? wanted with
        | none =>
          rw [below] at leads
          cases leads
        | some child =>
          simp only [below] at leads noFolder
          rw [if_pos rfl]
          exact ih noFolder leads
      · rw [at?] at leads
        rw [if_neg same]
        exact ⟨entries, leads, fun _ present => present⟩

end FileTree

/-! ## Paths from parts -/

namespace Path

/-- A piece of a text between slashes holds none. -/
theorem slash_notMem_of_mem_splitSlashes {text piece : List Char}
    (among : piece ∈ splitSlashes text) : '/' ∉ piece := by
  induction text generalizing piece with
  | nil =>
    rw [List.mem_singleton.mp among]
    exact List.not_mem_nil
  | cons letter rest ih =>
    rw [splitSlashes] at among
    split_ifs at among with slash
    · rcases List.mem_cons.mp among with rfl | later
      · exact List.not_mem_nil
      · exact ih later
    · obtain ⟨first, others, pieces⟩ :=
        List.exists_cons_of_ne_nil (splitSlashes_ne_nil rest)
      rw [pieces] at among ih
      rcases List.mem_cons.mp among with rfl | later
      · rw [List.mem_cons, not_or]
        exact ⟨Ne.symm slash, ih List.mem_cons_self⟩
      · exact ih (List.mem_cons_of_mem _ later)

theorem slash_notMem_of_mem_parts {path part : String}
    (among : part ∈ parts path) : '/' ∉ part.toList := by
  obtain ⟨piece, pieces, rfl⟩ := List.mem_map.mp among
  rw [String.toList_ofList]
  exact slash_notMem_of_mem_splitSlashes pieces

theorem parts_append (front back : String) :
    parts (front ++ "/" ++ back) = parts front ++ parts back := by
  have text : (front ++ "/" ++ back).toList =
      front.toList ++ '/' :: back.toList := by simp
  rw [parts, text, splitSlashes_append, List.map_append]
  rfl

/-- Parts that are joined by slashes are split at these slashes. -/
theorem parts_ofParts {pieces : List String} (present : pieces ≠ [])
    (plain : ∀ piece ∈ pieces, '/' ∉ piece.toList) :
    parts (ofParts pieces) = pieces := by
  have single (piece : String) (plain : '/' ∉ piece.toList) :
      parts piece = [piece] := by
    rw [parts, splitSlashes_of_notMem plain]
    simp
  induction pieces with
  | nil => exact absurd rfl present
  | cons piece rest ih =>
    have first := single piece (plain piece List.mem_cons_self)
    cases rest with
    | nil => rw [ofParts, String.intercalate_singleton, first]
    | cons next rest =>
      have others := ih (List.cons_ne_nil _ _)
        fun other later => plain other (List.mem_cons_of_mem _ later)
      rw [ofParts] at others
      rw [ofParts, String.intercalate_cons_cons, parts_append, first, others]
      rfl

theorem ofParts_append {front back : List String} (present : front ≠ [])
    (more : back ≠ []) :
    ofParts (front ++ back) = ofParts front ++ "/" ++ ofParts back :=
  String.intercalate_append_of_ne_nil present more

/-- The pieces of a text are joined to the text again. -/
theorem ofParts_splitSlashes (text : List Char) :
    ofParts ((splitSlashes text).map String.ofList) = String.ofList text := by
  induction text with
  | nil => rfl
  | cons letter rest ih =>
    rw [splitSlashes]
    split_ifs with slash
    · rw [List.map_cons, ofParts, String.intercalate_cons_of_ne_nil
        (by simp [splitSlashes_ne_nil])]
      rw [ofParts] at ih
      rw [ih, slash, String.ofList_cons]
      rfl
    · obtain ⟨first, others, pieces⟩ :=
        List.exists_cons_of_ne_nil (splitSlashes_ne_nil rest)
      rw [pieces, ofParts] at ih
      rw [pieces, ofParts, String.ofList_cons, ← ih]
      cases others with
      | nil => simp [String.ofList_cons, String.intercalate_singleton]
      | cons second others =>
        simp [String.ofList_cons, String.intercalate_cons_cons,
          String.append_assoc]

theorem ofParts_parts (path : String) : ofParts (parts path) = path := by
  rw [parts, ofParts_splitSlashes, String.ofList_toList]

/-- The innermost folder on a way is named by the parts up to the last one
that leads somewhere else. -/
theorem pathsAlong_cases (reversed : List String) :
    pathsAlong reversed = [] ∨ ∃ idle last before outer,
      reversed = idle ++ last :: before ∧
        (∀ part ∈ idle, isIdle part = true) ∧ isIdle last = false ∧
        pathsAlong reversed = ofParts (last :: before).reverse :: outer := by
  induction reversed with
  | nil => exact .inl rfl
  | cons part rest ih =>
    rw [pathsAlong]
    by_cases idle : isIdle part = true
    · rw [if_pos idle]
      refine ih.imp_right ?_
      rintro ⟨idles, last, before, outer, rfl, all, visible, along⟩
      exact ⟨part :: idles, last, before, outer, rfl,
        List.forall_mem_cons.mpr ⟨idle, all⟩, visible, along⟩
    · rw [if_neg idle]
      exact .inr ⟨[], part, rest, _, rfl, List.forall_mem_nil _,
        Bool.eq_false_iff.mpr idle, rfl⟩

end Path

/-! ## Ways -/

namespace Volume

variable {volume : Volume} {place next target : List String} {part : String}

theorem bind_eq_ok_iff {α β : Type} {first : Except Fault α}
    {rest : α → Except Fault β} {answer : β} :
    first >>= rest = .ok answer ↔
      ∃ middle, first = .ok middle ∧ rest middle = .ok answer := by
  cases first <;> simp [bind, Except.bind]

theorem any_eq_isSome_child? (entries : List (String × FileTree))
    (name : String) :
    (entries.any fun entry => entry.1 == name) =
      ((FileTree.folder entries).child? name).isSome := by
  rw [FileTree.child?, Option.isSome_map, Bool.eq_iff_iff, List.find?_isSome,
    List.any_eq_true]
  rfl

theorem exists_folder_of_follow (leads : volume.follow place part = .ok next) :
    ∃ entries, volume.root.at? place = some (.folder entries) := by
  unfold follow at leads
  split at leads
  · cases leads
  · cases leads
  · rename_i entries here
    exact ⟨entries, here⟩

/-- A file that is put somewhere leaves the folders on a way as they are. -/
theorem follow_put {tree : FileTree}
    (noFolder : ∀ old, volume.root.at? target ≠ some (.folder old))
    (leads : volume.follow place part = .ok next) :
    (volume.put target tree).follow place part = .ok next := by
  obtain ⟨entries, here⟩ := exists_folder_of_follow leads
  obtain ⟨later, there, kept⟩ := FileTree.exists_folder_put tree noFolder here
  unfold follow at leads ⊢
  rw [here] at leads
  rw [show (volume.put target tree).root.at? place = _ from there]
  dsimp only at leads ⊢
  rw [any_eq_isSome_child?] at leads ⊢
  by_cases known : ((FileTree.folder entries).child? part).isSome = true
  · rw [kept part known]
    rwa [known] at leads
  · rw [if_neg known] at leads
    split_ifs at leads ⊢
    all_goals exact leads

theorem followAll_append (front back : List String) :
    volume.followAll place (front ++ back) =
      volume.followAll place front >>= fun middle =>
        volume.followAll middle back := by
  induction front generalizing place with
  | nil => rfl
  | cons part front ih =>
    rw [List.cons_append, followAll, followAll, bind_assoc]
    exact bind_congr fun _ => ih

theorem followAll_put {tree : FileTree} {route : List String}
    (noFolder : ∀ old, volume.root.at? target ≠ some (.folder old))
    (leads : volume.followAll place route = .ok next) :
    (volume.put target tree).followAll place route = .ok next := by
  induction route generalizing place with
  | nil => exact leads
  | cons part route ih =>
    rw [followAll] at leads ⊢
    obtain ⟨middle, first, rest⟩ := bind_eq_ok_iff.mp leads
    rw [follow_put noFolder first]
    exact ih rest

/-! ## Writing -/

variable {path name : String} {front : List String} {content : List UInt8}
  {changed : Volume}

theorem ne_nil_of_partsOf {parts : List String}
    (found : partsOf path = .ok parts) : parts ≠ [] := by
  unfold partsOf at found
  split_ifs at found
  cases found
  simp [Path.parts, Path.splitSlashes_ne_nil]

/-- A file may be put into a folder that is there, under a short name. -/
theorem locateNew_eq_ok_iff :
    volume.locateNew path = .ok (place, name) ↔
      ∃ front, partsOf path = .ok (front ++ [name]) ∧
        volume.followAll (volume.origin path) front = .ok place ∧
        (∃ entries, volume.root.at? place = some (.folder entries)) ∧
        ¬ nameLimit < name.utf8ByteSize := by
  rw [locateNew, bind_eq_ok_iff]
  constructor
  · rintro ⟨parts, found, leads⟩
    have split := List.dropLast_append_getLast (ne_nil_of_partsOf found)
    generalize parts.getLast _ = last, parts.dropLast = front at split
    subst split
    simp only [List.dropLast_concat, List.getLast?_concat, Option.getD_some,
      bind_eq_ok_iff] at leads
    obtain ⟨middle, leads, fits⟩ := leads
    split at fits
    · rename_i entries here
      split at fits
      · cases fits
      · rename_i short
        cases fits
        exact ⟨front, found, leads, ⟨entries, here⟩, short⟩
    · cases fits
  · rintro ⟨front, found, leads, ⟨entries, here⟩, short⟩
    refine ⟨_, found, ?_⟩
    simp only [List.dropLast_concat, List.getLast?_concat, Option.getD_some,
      bind_eq_ok_iff]
    exact ⟨place, leads, by rw [here]; exact if_neg short⟩

/-- A path leads into a folder at a place, where a file with a name that is no
folder can be written. -/
structure Receives (volume : Volume) (path : String) (place : List String)
    (name : String) : Prop where
  leads : volume.locateNew path = .ok (place, name)
  visible : Path.isIdle name = false
  notAbove : name ≠ ".."
  noFolder : ∀ entries,
    volume.root.at? (place ++ [name]) ≠ some (.folder entries)

/-- Writing puts the content where the path leads. -/
theorem write_eq_ok_iff :
    volume.write path content = .ok changed ↔
      ∃ place name, volume.Receives path place name ∧
        changed = volume.put (place ++ [name]) (.file content) := by
  rw [write, bind_eq_ok_iff]
  constructor
  · rintro ⟨⟨place, name⟩, leads, written⟩
    dsimp only at written
    split at written
    · cases written
    · rename_i named
      simp only [Bool.or_eq_true, decide_eq_true_eq, not_or,
        Bool.not_eq_true] at named
      split at written
      · cases written
      · rename_i noFolder
        cases written
        exact ⟨place, name, ⟨leads, named.1, named.2, noFolder⟩, rfl⟩
  · rintro ⟨place, name, receives, rfl⟩
    refine ⟨_, receives.leads, ?_⟩
    simp only [receives.visible, receives.notAbove, Bool.false_or, decide_false]
    split
    · contradiction
    · split
      · rename_i entries isFolder
        exact absurd isFolder (receives.noFolder entries)
      · rfl

namespace Receives

variable (receives : volume.Receives path place name)
include receives

/-- What has been written can be written again. -/
theorem again (content : List UInt8) :
    (volume.put (place ++ [name]) (.file content)).Receives path place
      name where
  leads := by
    obtain ⟨front, parts, leads, ⟨entries, here⟩, short⟩ :=
      locateNew_eq_ok_iff.mp receives.leads
    obtain ⟨later, there, -⟩ :=
      FileTree.exists_folder_put _ receives.noFolder here
    exact locateNew_eq_ok_iff.mpr ⟨front, parts,
      followAll_put receives.noFolder leads, ⟨later, there⟩, short⟩
  visible := receives.visible
  notAbove := receives.notAbove
  noFolder entries leads := by
    rw [Volume.put, FileTree.at?_put_self] at leads
    cases leads

/-- Where there is something with the name, the path leads to it. -/
theorem locate {tree : FileTree}
    (present : volume.root.at? (place ++ [name]) = some tree) :
    volume.locate path = .ok (place ++ [name]) := by
  obtain ⟨front, parts, leads, ⟨entries, here⟩, short⟩ :=
    locateNew_eq_ok_iff.mp receives.leads
  have known : (entries.any fun entry => entry.1 == name) = true := by
    rw [FileTree.at?_append, here, Option.bind_some, FileTree.at?] at present
    rw [any_eq_isSome_child?]
    cases found : (FileTree.folder entries).child? name with
    | none =>
      rw [found] at present
      cases present
    | some child => rfl
  have step : volume.follow place name = .ok (place ++ [name]) := by
    have visible := receives.visible
    simp only [Path.isIdle, Bool.or_eq_false_iff, decide_eq_false_iff_not]
      at visible
    simp [follow, here, visible.1, visible.2, receives.notAbove, short, known]
  refine bind_eq_ok_iff.mpr ⟨_, parts, ?_⟩
  rw [followAll_append]
  exact bind_eq_ok_iff.mpr ⟨place, leads, bind_eq_ok_iff.mpr ⟨_, step, rfl⟩⟩

end Receives

theorem read_of_write (written : volume.write path content = .ok changed) :
    changed.read path = .ok content ∧ changed.contains path = true := by
  obtain ⟨place, name, receives, rfl⟩ := write_eq_ok_iff.mp written
  have here : (volume.put (place ++ [name]) (.file content)).root.at?
      (place ++ [name]) = some (.file content) := FileTree.at?_put_self _
  have located := (receives.again content).locate here
  constructor
  · rw [read, located]
    exact bind_eq_ok_iff.mpr ⟨_, rfl, by rw [here]⟩
  · simp only [contains, tree?, located, here, Option.isSome_some]

/-! ## Folders that exist -/

theorem isFolderAt_iff :
    volume.isFolderAt path = true ↔ ∃ place entries,
      volume.locate path = .ok place ∧
        volume.root.at? place = some (.folder entries) := by
  unfold isFolderAt tree?
  cases volume.locate path with
  | error fault => simp
  | ok place =>
    cases here : volume.root.at? place with
    | none => simp [here]
    | some tree => cases tree <;> simp [here, FileTree.isFolder]

/-- A part that leads anywhere leads on from a folder, and to the entry with
its name unless it stands for a folder by itself. -/
theorem follow_cases (leads : volume.follow place part = .ok next) :
    ¬ nameLimit < part.utf8ByteSize ∧
      ((Path.isIdle part || part = "..") = true ∨ next = place ++ [part]) := by
  obtain ⟨entries, here⟩ := exists_folder_of_follow leads
  unfold follow at leads
  rw [here] at leads
  dsimp only at leads
  split_ifs at leads with idle up long present
  · simp only [Bool.or_eq_true, decide_eq_true_eq] at idle
    rcases idle with rfl | rfl <;> exact ⟨by decide, .inl (by decide)⟩
  · subst up
    exact ⟨by decide, .inl (by decide)⟩
  · exact ⟨long, .inr (Except.ok.inj leads).symm⟩

/-- A folder that is there is not created again. -/
theorem createFolder_of_isFolderAt (present : volume.isFolderAt path = true) :
    volume.createFolder path = .error .alreadyExists := by
  obtain ⟨place, entries, located, isFolder⟩ := isFolderAt_iff.mp present
  obtain ⟨parts, found, leads⟩ := bind_eq_ok_iff.mp located
  have split := List.dropLast_append_getLast (ne_nil_of_partsOf found)
  generalize parts.getLast _ = last, parts.dropLast = front at split
  subst split
  rw [followAll_append] at leads
  obtain ⟨middle, leads, step⟩ := bind_eq_ok_iff.mp leads
  obtain ⟨_, step, ⟨⟩⟩ := bind_eq_ok_iff.mp step
  obtain ⟨short, named⟩ := follow_cases step
  have new : volume.locateNew path = .ok (middle, last) :=
    locateNew_eq_ok_iff.mpr
      ⟨front, found, leads, exists_folder_of_follow step, short⟩
  rw [createFolder, new]
  rcases named with named | rfl
  · exact if_pos named
  · simp only [bind, Except.bind, isFolder]
    split <;> rfl

theorem createInnermost_of_isFolderAt (outer : List String)
    (present : volume.isFolderAt path = true) :
    volume.createInnermost (path :: outer) = (.ok (), volume) := by
  have refused := createFolder_of_isFolderAt present
  simp only [createInnermost, ensureFolder, refused, present, if_true]

theorem followAll_idle {idle : List String}
    (idles : ∀ part ∈ idle, Path.isIdle part = true)
    (leads : volume.followAll place idle = .ok next) : next = place := by
  induction idle generalizing place with
  | nil => exact (Except.ok.inj leads).symm
  | cons part rest ih =>
    obtain ⟨middle, step, leads⟩ := bind_eq_ok_iff.mp leads
    rw [List.forall_mem_cons] at idles
    rw [ih idles.2 leads]
    obtain ⟨entries, here⟩ := exists_folder_of_follow step
    have idle := idles.1
    simp only [Path.isIdle, Bool.or_eq_true, decide_eq_true_eq] at idle
    simpa [follow, here, idle] using step.symm

/-- A path that goes on below a folder names that folder by its first parts. -/
theorem isFolderAt_ofParts {whole rest : List String}
    {entries : List (String × FileTree)}
    (parts : partsOf path = .ok (whole ++ rest)) (more : rest ≠ [])
    (visible : ∃ part ∈ whole, Path.isIdle part = false)
    (leads : volume.followAll (volume.origin path) whole = .ok place)
    (here : volume.root.at? place = some (.folder entries)) :
    volume.isFolderAt (Path.ofParts whole) = true := by
  obtain ⟨part, among, visible⟩ := visible
  have present : whole ≠ [] := List.ne_nil_of_mem among
  unfold partsOf at parts
  split_ifs at parts with empty long
  have pieces := Except.ok.inj parts
  have shape : path = Path.ofParts whole ++ "/" ++ Path.ofParts rest := by
    rw [← Path.ofParts_append present more, ← pieces, Path.ofParts_parts]
  have named : Path.parts (Path.ofParts whole) = whole :=
    Path.parts_ofParts present fun piece among =>
      Path.slash_notMem_of_mem_parts
        (pieces ▸ List.mem_append_left rest among)
  have nonempty : Path.ofParts whole ≠ "" := by
    intro empty
    rw [← named, empty] at among
    rw [List.mem_singleton.mp among] at visible
    cases visible
  have short : ¬ pathLimit < (Path.ofParts whole).utf8ByteSize := by
    rw [shape, String.utf8ByteSize_append, String.utf8ByteSize_append] at long
    omega
  have origin : volume.origin (Path.ofParts whole) = volume.origin path := by
    obtain ⟨first, letters, text⟩ := List.exists_cons_of_ne_nil
      (mt String.toList_eq_nil_iff.mp nonempty)
    have same : Path.isAbsolute path = Path.isAbsolute (Path.ofParts whole) := by
      rw [shape, Path.isAbsolute, Path.isAbsolute, String.toList_append,
        String.toList_append, text]
      rfl
    rw [Volume.origin, Volume.origin, same]
  refine isFolderAt_iff.mpr ⟨place, entries, ?_, here⟩
  refine bind_eq_ok_iff.mpr ⟨whole, ?_, origin ▸ leads⟩
  rw [partsOf, if_neg (by simpa using nonempty), if_neg short, named]

/-- Where a file may be put no folder is missing. -/
theorem Receives.createFoldersTo (receives : volume.Receives path place name) :
    volume.createFoldersTo path = (.ok (), volume) := by
  obtain ⟨front, parts, leads, ⟨entries, here⟩, -⟩ :=
    locateNew_eq_ok_iff.mp receives.leads
  have pieces : Path.parts path = front ++ [name] := by
    unfold partsOf at parts
    split_ifs at parts
    exact Except.ok.inj parts
  have folders : Path.foldersTo path = Path.pathsAlong front.reverse := by
    rw [Path.foldersTo, pieces, List.reverse_concat, Path.pathsAlong,
      if_neg (by simp [receives.visible])]
    rfl
  rw [Volume.createFoldersTo, folders]
  rcases Path.pathsAlong_cases front.reverse with
    none | ⟨idle, last, before, outer, shape, idles, visible, along⟩
  · rw [none]
    rfl
  · have split : front = (last :: before).reverse ++ idle.reverse := by
      rw [← List.reverse_append, ← shape, List.reverse_reverse]
    rw [split, followAll_append] at leads
    obtain ⟨middle, leads, still⟩ := bind_eq_ok_iff.mp leads
    obtain rfl := followAll_idle (by simpa using idles) still
    rw [split, List.append_assoc] at parts
    rw [along]
    apply createInnermost_of_isFolderAt
    exact isFolderAt_ofParts parts (by simp) ⟨last, by simp, visible⟩ leads
      here

theorem Receives.exists_writeInFolder {prepared : Volume}
    (receives : prepared.Receives path place name)
    (created : volume.createFoldersTo path = (.ok (), prepared))
    (content : List UInt8) :
    ∃ changed, volume.writeInFolder path content = (.ok (), changed) := by
  obtain ⟨changed, written⟩ : ∃ changed,
      prepared.write path content = .ok changed :=
    ⟨_, write_eq_ok_iff.mpr ⟨place, name, receives, rfl⟩⟩
  exact ⟨changed, by simp only [writeInFolder, created, written]⟩

theorem exists_writeInFolder_again
    (written : volume.write path content = .ok changed) (other : List UInt8) :
    ∃ again, changed.writeInFolder path other = (.ok (), again) := by
  obtain ⟨place, name, receives, rfl⟩ := write_eq_ok_iff.mp written
  have ready := receives.again content
  exact ready.exists_writeInFolder ready.createFoldersTo other

/-- What is written in a folder is written once the folder is there. -/
theorem exists_write
    (written : volume.writeInFolder path content = (.ok (), changed)) :
    ∃ prepared : Volume, prepared.write path content = .ok changed := by
  unfold writeInFolder at written
  generalize volume.createFoldersTo path = created at written
  obtain ⟨fault | _, prepared⟩ := created
  · cases written
  · dsimp only at written
    cases final : prepared.write path content with
    | error fault =>
      rw [final] at written
      cases written
    | ok final' =>
      rw [final] at written
      cases written
      exact ⟨prepared, final⟩

end Volume

/-! ## Settings -/

namespace Settings

variable {volume changed : Volume} {environment : Environment}
  {settings : Settings}

theorem save_eq_ok_iff :
    save volume environment settings = (.ok (), changed) ↔
      volume.writeInFolder environment.settingsPath
        settings.document.written.toUTF8.toList = (.ok (), changed) := by
  unfold save
  dsimp only
  generalize settings.document.written.toUTF8.toList = content
  obtain ⟨fault | _, final⟩ :=
    volume.writeInFolder environment.settingsPath content <;> simp

theorem exists_write_of_save
    (saved : save volume environment settings = (.ok (), changed)) :
    ∃ prepared : Volume, prepared.write environment.settingsPath
      settings.document.written.toUTF8.toList = .ok changed :=
  Volume.exists_write (save_eq_ok_iff.mp saved)

/-- What has been stored is read, but for the profile, which is not stored. -/
theorem read_of_save (within : settings.jobs ≤ jobLimit)
    (saved : save volume environment settings = (.ok (), changed)) :
    read changed environment.settingsPath =
      .ok { settings with profile := "" } := by
  obtain ⟨prepared, written⟩ := exists_write_of_save saved
  obtain ⟨bytes, present⟩ := Volume.read_of_write written
  rw [read, if_pos present, bytes]
  simp only [Text.decodeUtf8_toUTF8, ofText?_written within]

theorem load_eq_of_read
    (stored : read changed environment.settingsPath = .ok settings) :
    load changed environment =
      { settings with
        scriptsFolder := environment.scriptsFolder.getD settings.scriptsFolder
        profile := environment.profileName } := by
  rw [load, stored]

theorem jobs_le_of_read {path : String}
    (stored : read volume path = .ok settings) : settings.jobs ≤ jobLimit := by
  unfold read at stored
  split_ifs at stored
  split at stored
  · cases stored
  · split at stored
    · cases stored
    · split at stored
      · rename_i found
        cases stored
        exact jobs_le_of_ofText? found
      · cases stored

/-- Whatever is loaded has a number of workers that can be set. -/
theorem jobs_load_le (volume : Volume) (environment : Environment) :
    (load volume environment).jobs ≤ jobLimit := by
  cases stored : read volume environment.settingsPath with
  | ok settings =>
    have within := jobs_le_of_read stored
    rwa [load_eq_of_read stored]
  | error failure =>
    rw [load, stored]
    exact Nat.zero_le jobLimit

/-- Settings that have been loaded and are stored again are loaded again. -/
theorem load_of_save_load
    (saved : save volume environment (load volume environment) =
      (.ok (), changed)) :
    load changed environment = load volume environment := by
  have stored := read_of_save (jobs_load_le volume environment) saved
  rw [load_eq_of_read stored]
  unfold load
  cases environment.scriptsFolder <;> rfl

theorem exists_save_again (other : Settings)
    (saved : save volume environment settings = (.ok (), changed)) :
    ∃ again, save changed environment other = (.ok (), again) := by
  obtain ⟨prepared, written⟩ := exists_write_of_save saved
  obtain ⟨again, rewritten⟩ := Volume.exists_writeInFolder_again written
    other.document.written.toUTF8.toList
  exact ⟨again, save_eq_ok_iff.mpr rewritten⟩

/-- Settings that have been stored are read, and they are loaded in the same
environment, with the folder of the scripts that the environment gives, if it
gives one.  Storing what has been loaded succeeds then, and wherever it does
the same is loaded again. -/
theorem load_of_save (volume changed : Volume) (environment : Environment)
    (settings : Settings) (within : settings.jobs ≤ jobLimit)
    (saved : save volume environment settings = (.ok (), changed)) :
    read changed environment.settingsPath =
        .ok { settings with profile := "" } ∧
      load changed environment =
        { scriptsFolder :=
            environment.scriptsFolder.getD settings.scriptsFolder
          sourcePattern := settings.sourcePattern
          jobs := settings.jobs
          profile := environment.profile.getD "default" } ∧
      (∃ again, save changed environment (load changed environment) =
        (.ok (), again)) ∧
      ∀ start again : Volume,
        save start environment (load start environment) = (.ok (), again) →
          load again environment = load start environment := by
  have stored := read_of_save within saved
  have loaded := load_eq_of_read stored
  exact ⟨stored, loaded, exists_save_again _ saved,
    fun start again resaved => load_of_save_load resaved⟩

/-- A user without any settings so far. -/
def newUser : Volume := ⟨.folder [("home", .folder [])], ["home"]⟩

def prepared : Volume :=
  ⟨.folder [("home", .folder
    [(".papyrus", .folder [("work", .folder [])])])], ["home"]⟩

theorem newUser_createFoldersTo :
    newUser.createFoldersTo "./.papyrus/work/config.json" =
      (.ok (), prepared) := by
  rfl

theorem prepared_receives :
    prepared.Receives "./.papyrus/work/config.json"
      ["home", ".papyrus", "work"] "config.json" where
  leads := by rfl
  visible := by decide
  notAbove := by decide
  noFolder := nofun

/-- Settings with quotes, a backslash, a line break and the largest number of
workers. -/
theorem load_of_save_escaped :
    let environment : Environment := ⟨none, some "work", none, 4⟩
    let settings : Settings := ⟨"\"scripts\"\n", "\\.psc$", jobLimit, ""⟩
    settings.jobs ≤ jobLimit ∧
      ∃ changed, save newUser environment settings = (.ok (), changed) ∧
        read changed "./.papyrus/work/config.json" = .ok settings ∧
        load changed environment = { settings with profile := "work" } := by
  have path : Environment.settingsPath ⟨none, some "work", none, 4⟩ =
      "./.papyrus/work/config.json" := by rfl
  intro environment settings
  obtain ⟨changed, written⟩ := prepared_receives.exists_writeInFolder
    newUser_createFoldersTo settings.document.written.toUTF8.toList
  rw [← path] at written
  have saved := save_eq_ok_iff.mpr written
  obtain ⟨stored, loaded, -⟩ :=
    load_of_save _ _ environment settings (Nat.le_refl _) saved
  rw [path] at stored
  exact ⟨Nat.le_refl _, changed, saved, stored, loaded⟩

end Settings

end PapyrusScript
