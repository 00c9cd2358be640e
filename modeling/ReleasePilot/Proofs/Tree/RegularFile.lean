import ReleasePilot.Tree.Edit
import ReleasePilot.Tree.Replace
import ReleasePilot.Proofs.Text.Encoding
import ReleasePilot.Proofs.Text.Runs

/-!
# Regular files

Writing into one file changes neither where a path leads nor what any other
file holds: following a path only asks for the kinds of entries on its way
(`walk_of_sameShape`). So replacing a file is one change at one location
(`replace_of_holdsFile`), and what was written is what is read
(`readText_put_self`).
-/

namespace ReleasePilot

/-- What a sequence gives, its second step gives from what the first gave. -/
theorem ok_of_bind {Fault First Result : Type} {step : Except Fault First}
    {next : First → Except Fault Result} {result : Result}
    (done : (step >>= next) = .ok result) :
    ∃ value, step = .ok value ∧ next value = .ok result := by
  cases step with
  | error fault => cases done
  | ok value => exact ⟨value, rfl, done⟩

namespace Tree

/-- There is a file at a location. -/
def IsFile (tree : Tree) (place : Location) : Prop :=
  ∃ contents executable, tree.lookup place = some (.file contents executable)

/-- Two trees that differ in nothing but what their files hold. -/
structure SameShape (first second : Tree) : Prop where
  workingDirectory : second.workingDirectory = first.workingDirectory
  entries : ∀ location, second.lookup location = first.lookup location ∨
    first.IsFile location ∧ second.IsFile location

/-- Two trees of the same shape that differ at most in the files that some paths name. -/
structure DiffersOnlyIn (paths : List String) (first second : Tree) : Prop
    extends SameShape first second where
  others : ∀ location, (∀ path ∈ paths, first.locateEntry path ≠ .ok location) →
    second.lookup location = first.lookup location

/-- A path that names a file at a location, without a link in the last place. -/
structure HoldsFile (tree : Tree) (path : String) (place : Location) : Prop where
  followed : tree.locate path = .ok place
  named : tree.locateEntry path = .ok place
  isFile : tree.IsFile place

/-- Two paths that name regular files at different locations. -/
def DistinctFiles (tree : Tree) (path other : String) : Prop :=
  ∃ place elsewhere, tree.HoldsFile path place ∧ tree.HoldsFile other elsewhere ∧
    place ≠ elsewhere

theorem DistinctFiles.symm {tree : Tree} {path other : String}
    (distinct : tree.DistinctFiles path other) : tree.DistinctFiles other path := by
  obtain ⟨place, elsewhere, holds, otherHolds, different⟩ := distinct
  exact ⟨elsewhere, place, otherHolds, holds, different.symm⟩

theorem DistinctFiles.holdsFile {tree : Tree} {path other file : String}
    (distinct : tree.DistinctFiles path other) (member : file ∈ [path, other]) :
    ∃ place, tree.HoldsFile file place := by
  obtain ⟨place, elsewhere, holds, otherHolds, -⟩ := distinct
  rcases List.mem_cons.1 member with rfl | rest
  · exact ⟨place, holds⟩
  · exact ⟨elsewhere, List.mem_singleton.1 rest ▸ otherHolds⟩

theorem DistinctFiles.ne {tree : Tree} {path other : String}
    (distinct : tree.DistinctFiles path other) : path ≠ other := by
  rintro rfl
  obtain ⟨place, elsewhere, holds, otherHolds, different⟩ := distinct
  exact different (Except.ok.inj (holds.followed.symm.trans otherHolds.followed))

theorem IsFile.ne_nil {tree : Tree} {place : Location} (isFile : tree.IsFile place) :
    place ≠ [] := by
  rintro rfl
  obtain ⟨contents, executable, found⟩ := isFile
  simp [lookup] at found

/-! ## The last name of a path -/

/-- A name that a file can have. -/
def IsPlainName (name : String) : Prop :=
  name ≠ "" ∧ name ≠ "." ∧ name ≠ ".."

/-- A plain name in the last place is an entry of the directory above it. -/
theorem locateEntry_of_plain (tree : Tree) {path name : String} {above : List String}
    (names : (pathNames path).reverse = name :: above) (plain : IsPlainName name) :
    tree.locateEntry path =
      if pathLimit ≤ path.utf8ByteSize ∨ nameLimit < name.utf8ByteSize then .error .nameTooLong
      else do
        let directory ← tree.walk linkLimit (tree.startOf path) above.reverse
        let directory ← tree.requireDirectory directory
        return directory ++ [name] := by
  obtain ⟨notEmpty, notHere, notAbove⟩ := plain
  unfold locateEntry
  rw [names]
  split
  case h_6 same =>
    obtain ⟨rfl, rfl⟩ := List.cons.inj same
    rfl
  all_goals simp_all

/-- Any other name in the last place is followed like the rest. -/
theorem locateEntry_of_special (tree : Tree) {path name : String} {above : List String}
    (names : (pathNames path).reverse = name :: above) (special : ¬IsPlainName name) :
    tree.locateEntry path = tree.locate path := by
  unfold locateEntry
  rw [names]
  split
  case h_6 notEmpty notHere notAbove same =>
    obtain ⟨rfl, rfl⟩ := List.cons.inj same
    exact absurd ⟨notEmpty, notHere, notAbove⟩ special
  all_goals rfl

theorem requireDirectory_of_directory {tree : Tree} {location : Location}
    (found : tree.lookup location = some .directory) :
    tree.requireDirectory location = .ok location := by
  rw [requireDirectory, found]

theorem of_requireDirectory {tree : Tree} {location directory : Location}
    (required : tree.requireDirectory location = .ok directory) :
    tree.lookup location = some .directory ∧ location = directory := by
  unfold requireDirectory at required
  split at required
  case h_1 found => exact ⟨found, Except.ok.inj required⟩
  all_goals cases required

/-! ## Trees of the same shape -/

section SameShape

variable {first second third : Tree}

theorem SameShape.refl (tree : Tree) : SameShape tree tree where
  workingDirectory := rfl
  entries _ := .inl rfl

theorem SameShape.trans (same : SameShape first second) (still : SameShape second third) :
    SameShape first third where
  workingDirectory := still.workingDirectory.trans same.workingDirectory
  entries location := by
    rcases same.entries location with equal | ⟨before, between⟩
    · rcases still.entries location with unchanged | ⟨between, after⟩
      · exact .inl (unchanged.trans equal)
      · rw [IsFile, equal] at between
        exact .inr ⟨between, after⟩
    · rcases still.entries location with unchanged | ⟨-, after⟩
      · rw [IsFile, ← unchanged] at between
        exact .inr ⟨before, between⟩
      · exact .inr ⟨before, after⟩

theorem SameShape.isFile (same : SameShape first second) {place : Location}
    (isFile : first.IsFile place) : second.IsFile place := by
  rcases same.entries place with equal | ⟨-, after⟩
  · rwa [IsFile, equal]
  · exact after

theorem walkNames_of_sameShape (same : SameShape first second)
    (follow : Location → List String → Except Fault Location) (place : Location)
    (names : List String) :
    second.walkNames follow place names = first.walkNames follow place names := by
  induction names generalizing place with
  | nil => rfl
  | cons name rest inductionHypothesis =>
    simp only [walkNames, inductionHypothesis]
    rcases same.entries (place ++ [name]) with equal | ⟨⟨_, _, before⟩, ⟨_, _, after⟩⟩
    · rw [equal]
    · rw [before, after]

/-- Names lead to the same location. -/
theorem walk_of_sameShape (same : SameShape first second) (links : Nat) :
    second.walk links = first.walk links := by
  induction links with
  | zero =>
    funext place names
    exact walkNames_of_sameShape same _ place names
  | succ remaining inductionHypothesis =>
    funext place names
    rw [walk, walk, inductionHypothesis]
    exact walkNames_of_sameShape same _ place names

theorem locate_of_sameShape (same : SameShape first second) (path : String) :
    second.locate path = first.locate path := by
  simp only [locate, startOf, walk_of_sameShape same, same.workingDirectory]

theorem requireDirectory_of_sameShape (same : SameShape first second) (location : Location) :
    second.requireDirectory location = first.requireDirectory location := by
  unfold requireDirectory
  rcases same.entries location with equal | ⟨⟨_, _, before⟩, ⟨_, _, after⟩⟩
  · rw [equal]
  · rw [before, after]

theorem locateEntry_of_sameShape (same : SameShape first second) (path : String) :
    second.locateEntry path = first.locateEntry path := by
  cases names : (pathNames path).reverse with
  | nil => simp only [locateEntry, names, locate_of_sameShape same]
  | cons name above =>
    by_cases plain : IsPlainName name
    · rw [locateEntry_of_plain second names plain, locateEntry_of_plain first names plain,
        walk_of_sameShape same, startOf, startOf, same.workingDirectory]
      simp only [requireDirectory_of_sameShape same]
    · rw [locateEntry_of_special second names plain, locateEntry_of_special first names plain,
        locate_of_sameShape same]

theorem HoldsFile.of_sameShape (same : SameShape first second) {path : String} {place : Location}
    (holds : first.HoldsFile path place) : second.HoldsFile path place where
  followed := by rw [locate_of_sameShape same, holds.followed]
  named := by rw [locateEntry_of_sameShape same, holds.named]
  isFile := same.isFile holds.isFile

theorem DistinctFiles.of_sameShape (same : SameShape first second) {path other : String}
    (distinct : first.DistinctFiles path other) : second.DistinctFiles path other := by
  obtain ⟨place, elsewhere, holds, otherHolds, different⟩ := distinct
  exact ⟨place, elsewhere, holds.of_sameShape same, otherHolds.of_sameShape same, different⟩

theorem DiffersOnlyIn.mono {paths more : List String} (differs : DiffersOnlyIn paths first second)
    (within : paths ⊆ more) : DiffersOnlyIn more first second :=
  ⟨differs.toSameShape, fun location elsewhere =>
    differs.others location fun path member => elsewhere path (within member)⟩

end SameShape

/-- Writing into a file keeps the shape of the tree. -/
theorem sameShape_put {tree : Tree} {place : Location} (isFile : tree.IsFile place)
    (contents : ByteArray) (executable : Bool) :
    SameShape tree (tree.put place (.file contents executable)) where
  workingDirectory := rfl
  entries location := by
    by_cases here : location = place
    · subst here
      exact .inr ⟨isFile, contents, executable, lookup_put_self tree _ isFile.ne_nil⟩
    · exact .inl (lookup_put_of_ne tree _ here)

/-! ## Reading -/

/-- Reading a path depends on the entry at its location only. -/
theorem readText_of_locate {tree : Tree} {path : String} {place : Location} {contents : ByteArray}
    {executable : Bool} (followed : tree.locate path = .ok place)
    (found : tree.lookup place = some (.file contents executable)) :
    tree.readText path =
      match String.fromUTF8? contents with
      | some text => .ok text
      | none => .error .notUtf8 := by
  have read : tree.read path = .ok contents := by
    simp [Tree.read, followed, found, bind, Except.bind]
  unfold readText
  rw [read]
  rfl

/-- What is written to a file is read from it. -/
theorem readText_put_self {tree : Tree} {path : String} {place : Location}
    (holds : tree.HoldsFile path place) (text : String) (executable : Bool) :
    (tree.put place (.file text.toUTF8 executable)).readText path = .ok text := by
  have same := sameShape_put holds.isFile text.toUTF8 executable
  rw [readText_of_locate (holds.of_sameShape same).followed
    (lookup_put_self tree _ holds.isFile.ne_nil), Text.fromUTF8?_toUTF8]

/-- Every other file reads as before. -/
theorem readText_put_of_ne {tree : Tree} {path other : String} {place elsewhere : Location}
    (holds : tree.HoldsFile path place) (otherHolds : tree.HoldsFile other elsewhere)
    (different : elsewhere ≠ place) (contents : ByteArray) (executable : Bool) :
    (tree.put place (.file contents executable)).readText other = tree.readText other := by
  have same := sameShape_put holds.isFile contents executable
  obtain ⟨held, mode, found⟩ := otherHolds.isFile
  have kept := lookup_put_of_ne tree (.file contents executable) different
  rw [readText_of_locate (otherHolds.of_sameShape same).followed (kept.trans found),
    readText_of_locate otherHolds.followed found]

/-! ## Replacing -/

/-- What a path has to be, whatever the tree, for a file to be renamed to it: a name in a
directory that other names lead to. -/
structure NamesFile (path : String) (above : List String) (name : String) : Prop where
  noNul : path.toList.contains '\x00' = false
  notEmpty : path ≠ ""
  short : path.utf8ByteSize < pathLimit
  names : (pathNames path).reverse = name :: above
  noSlash : path.toList.getLast? ≠ some '/'
  plain : IsPlainName name
  shortName : name.utf8ByteSize ≤ nameLimit

/-- A path without a slash at its end has none to be taken off. -/
theorem ofList_trimEnd_slash {path : String} (noSlash : path.toList.getLast? ≠ some '/') :
    String.ofList (Text.trimEnd (· == '/') path.toList) = path := by
  have kept : Text.trimEnd (· == '/') path.toList = path.toList := by
    apply Text.trimEnd_eq_self
    intro character last
    rw [beq_eq_false_iff_ne]
    rintro rfl
    exact noSlash last
  rw [kept, String.ofList_toList]

/-- A file that is renamed to a path takes a name that no directory has, in a directory. -/
theorem renameTarget_eq_ok_iff {tree : Tree} {path : String} {place : Location} :
    tree.renameTarget path = .ok place ↔ ∃ above name directory, NamesFile path above name ∧
      tree.walk linkLimit (tree.startOf path) above.reverse = .ok directory ∧
      tree.lookup directory = some .directory ∧
      tree.isDirectory (directory ++ [name]) = false ∧ place = directory ++ [name] := by
  constructor
  · intro target
    unfold renameTarget at target
    split at target
    · cases target
    rename_i noNul
    split at target
    · cases target
    rename_i notEmpty
    split at target
    · cases target
    rename_i short
    extract_lets withoutSlashes at target
    cases names : (pathNames withoutSlashes).reverse with
    | nil =>
      rw [names] at target
      cases target
    | cons name above =>
      rw [names] at target
      obtain ⟨walked, walking, target⟩ := ok_of_bind target
      obtain ⟨directory, required, target⟩ := ok_of_bind target
      extract_lets location at target
      split at target
      · cases target
      rename_i plain
      split at target
      · cases target
      rename_i shortName
      split at target
      · cases target
      rename_i noSlash
      split at target
      · cases target
      rename_i noDirectory
      have same : withoutSlashes = path := ofList_trimEnd_slash noSlash
      rw [same] at names
      obtain ⟨found, rfl⟩ := of_requireDirectory required
      refine ⟨above, name, _, ?_, walking, found, by simpa using noDirectory,
        (Except.ok.inj target).symm⟩
      exact ⟨by simpa using noNul, notEmpty, Nat.not_le.1 short, names, noSlash,
        by simpa [IsPlainName, not_or] using plain, Nat.not_lt.1 shortName⟩
  · rintro ⟨above, name, directory, file, walking, found, noDirectory, rfl⟩
    obtain ⟨noNul, notEmpty, short, names, noSlash, ⟨named, notHere, notAbove⟩, shortName⟩ := file
    unfold renameTarget
    rw [if_neg (ne_true_of_eq_false noNul), if_neg notEmpty, if_neg (Nat.not_le.2 short)]
    simp only [ofList_trimEnd_slash noSlash, names, walking, requireDirectory_of_directory found,
      bind, Except.bind]
    rw [if_neg (by simp [named, notHere, notAbove]), if_neg (Nat.not_lt.2 shortName),
      if_neg noSlash, if_neg (by simp [noDirectory])]

/-- A file that is renamed to a path takes the place that the path names. -/
theorem locateEntry_of_renameTarget {tree : Tree} {path : String} {place : Location}
    (target : tree.renameTarget path = .ok place) : tree.locateEntry path = .ok place := by
  obtain ⟨above, name, directory, file, walking, found, -, rfl⟩ := renameTarget_eq_ok_iff.1 target
  rw [locateEntry_of_plain tree file.names file.plain,
    if_neg (by simp [file.short, file.shortName]), walking]
  simp only [bind, Except.bind, requireDirectory_of_directory found]
  rfl

theorem replace_of_renameTarget {tree : Tree} {path : String} {directory place : Location}
    (scratch : tree.scratchDirectory path = .ok directory)
    (target : tree.renameTarget path = .ok place) (contents : String) :
    tree.replace path contents = .ok (tree.put place (.file contents.toUTF8 false)) := by
  unfold replace
  rw [scratch]
  dsimp only
  rw [target]

/-- A replacement makes one change, at the location that a file is renamed to. -/
theorem of_replace {tree after : Tree} {path contents : String}
    (replaced : tree.replace path contents = .ok after) :
    ∃ directory place, tree.scratchDirectory path = .ok directory ∧
      tree.renameTarget path = .ok place ∧
      after = tree.put place (.file contents.toUTF8 false) := by
  unfold replace at replaced
  split at replaced
  · cases replaced
  rename_i directory scratch
  split at replaced
  · cases replaced
  rename_i place target
  exact ⟨directory, place, scratch, target, (Except.ok.inj replaced).symm⟩

/-- Replacing a file changes what it holds, and nothing else. -/
theorem replace_of_holdsFile {tree after : Tree} {path contents : String} {place : Location}
    (holds : tree.HoldsFile path place) (replaced : tree.replace path contents = .ok after) :
    after = tree.put place (.file contents.toUTF8 false) := by
  obtain ⟨_, location, -, target, rfl⟩ := of_replace replaced
  have same := (locateEntry_of_renameTarget target).symm.trans holds.named
  rw [Except.ok.inj same]

/-- Replacing one of two files: it reads as it was written, the other as before. -/
theorem replace_of_distinctFiles {tree after : Tree} {path other contents : String}
    (distinct : tree.DistinctFiles path other) (replaced : tree.replace path contents = .ok after) :
    after.DistinctFiles path other ∧ after.readText path = .ok contents ∧
      after.readText other = tree.readText other := by
  obtain ⟨place, elsewhere, holds, otherHolds, different⟩ := distinct
  obtain rfl := replace_of_holdsFile holds replaced
  have same := sameShape_put holds.isFile contents.toUTF8 false
  have still := holds.of_sameShape same
  have otherStill := otherHolds.of_sameShape same
  refine ⟨⟨place, elsewhere, still, otherStill, different⟩, ?_, ?_⟩
  · exact readText_put_self holds contents false
  · exact readText_put_of_ne holds otherHolds different.symm contents.toUTF8 false

/-- Replacing either of two files leaves the other as it was. -/
theorem replace_of_mem {tree after : Tree} {path other file contents : String}
    (distinct : tree.DistinctFiles path other) (member : file ∈ [path, other])
    (replaced : tree.replace file contents = .ok after) :
    after.DistinctFiles path other ∧ after.readText file = .ok contents ∧
      ∀ another ∈ [path, other], another ≠ file →
        after.readText another = tree.readText another := by
  rcases List.mem_cons.1 member with rfl | rest
  · obtain ⟨still, written, kept⟩ := replace_of_distinctFiles distinct replaced
    exact ⟨still, written, List.forall_mem_cons.2
      ⟨(absurd rfl ·), List.forall_mem_singleton.2 fun _ => kept⟩⟩
  · obtain rfl := List.mem_singleton.1 rest
    obtain ⟨still, written, kept⟩ := replace_of_distinctFiles distinct.symm replaced
    exact ⟨still.symm, written, List.forall_mem_cons.2
      ⟨fun _ => kept, List.forall_mem_singleton.2 (absurd rfl ·)⟩⟩

/-- The trees stay alike in all else when one of these files is replaced. -/
theorem DiffersOnlyIn.replace {paths : List String} {first second after : Tree}
    {path contents : String} {place : Location} (differs : DiffersOnlyIn paths first second)
    (member : path ∈ paths) (holds : first.HoldsFile path place)
    (replaced : second.replace path contents = .ok after) : DiffersOnlyIn paths first after := by
  have still := holds.of_sameShape differs.toSameShape
  obtain rfl := replace_of_holdsFile still replaced
  refine ⟨differs.toSameShape.trans (sameShape_put still.isFile _ _), fun location elsewhere => ?_⟩
  have different : location ≠ place := by
    rintro rfl
    exact elsewhere path member holds.named
  rw [lookup_put_of_ne _ _ different, differs.others location elsewhere]

/-! ## Whether a file can be replaced -/

theorem isDirectory_of_sameShape {first second : Tree} (same : SameShape first second)
    (location : Location) : second.isDirectory location = first.isDirectory location := by
  unfold isDirectory
  rcases same.entries location with equal | ⟨⟨_, _, before⟩, ⟨_, _, after⟩⟩
  · rw [equal]
  · rw [before, after]
    rfl

theorem scratchDirectory_of_sameShape {first second : Tree} (same : SameShape first second)
    (path : String) : second.scratchDirectory path = first.scratchDirectory path := by
  have scratch : second.scratchPath path = first.scratchPath path := by
    unfold scratchPath
    rw [same.workingDirectory]
  unfold scratchDirectory
  simp only [scratch, locate_of_sameShape same, requireDirectory_of_sameShape same]

theorem renameTarget_of_sameShape {first second : Tree} (same : SameShape first second)
    (path : String) : second.renameTarget path = first.renameTarget path := by
  simp only [renameTarget, startOf, walk_of_sameShape same, same.workingDirectory,
    requireDirectory_of_sameShape same, isDirectory_of_sameShape same]

/-- Whether a path can be replaced depends neither on what the files hold nor on
what is written. -/
theorem replace_ok_of_sameShape {first second after : Tree} (same : SameShape first second)
    {path contents : String} (replaced : first.replace path contents = .ok after)
    (other : String) : ∃ after, second.replace path other = .ok after := by
  obtain ⟨_, _, scratch, target, -⟩ := of_replace replaced
  exact ⟨_, replace_of_renameTarget ((scratchDirectory_of_sameShape same path).trans scratch)
    ((renameTarget_of_sameShape same path).trans target) other⟩

end Tree

end ReleasePilot
