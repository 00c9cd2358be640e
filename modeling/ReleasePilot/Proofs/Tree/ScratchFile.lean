import ReleasePilot.Proofs.Tree.Alteration

/-!
# Replacing a file through a scratch file

A file is replaced in steps: a scratch file is made beside it, written, flushed and renamed
over it, and a scratch file that is not renamed is discarded. Any of these steps may fail.
Nothing is known of them but the laws of `ScratchLibrary.Lawful`; with these the steps
together do what `Tree.replace` does at once, or nothing (`Lawful.of_replace`). The system's
own scratch files obey the laws (`lawful_system`), and unless their names are used up they
replace whatever can be replaced at once (`replace_system_of_replace`).
-/

namespace ReleasePilot

/-- What scratch files are handled with. Each operation gives its result, or the fault that
kept it from one, and the tree as it left it. -/
structure ScratchLibrary where
  /-- Makes a scratch file beside a path, and says where. -/
  create : Tree → String → Except Fault Location × Tree
  /-- Writes a text to a file. -/
  write : Tree → Location → String → Except Fault Unit × Tree
  /-- Waits until a file is stored; this is no change to the tree. -/
  flush : Tree → Location → Except Fault Unit
  /-- Renames a file to a path. -/
  persist : Tree → Location → String → Except Fault Unit × Tree
  /-- Removes a file that was not renamed. -/
  discard : Tree → Location → Tree

namespace ScratchLibrary

/-- What the operations on scratch files do to a tree. -/
structure Lawful (library : ScratchLibrary) : Prop where
  /-- A scratch file is made under a fresh name in the directory of the path. -/
  created {tree after : Tree} {path : String} {source : Location} :
    library.create tree path = (.ok source, after) →
      ∃ directory name, tree.scratchDirectory path = .ok directory ∧
        source = directory ++ [name] ∧ tree.lookup source = none ∧
        tree.Alters source (some (.file ByteArray.empty false)) after
  notCreated {tree after : Tree} {path : String} {fault : Fault} :
    library.create tree path = (.error fault, after) → tree.SameEntries after
  written {tree after : Tree} {source : Location} {contents : String} {held : ByteArray}
    {executable : Bool} : tree.lookup source = some (.file held executable) →
      library.write tree source contents = (.ok (), after) →
        tree.Alters source (some (.file (held ++ contents.toUTF8) executable)) after
  /-- What was not written as a whole may have been written in part. -/
  notWritten {tree after : Tree} {source : Location} {contents : String} {fault : Fault} :
    tree.IsFile source → library.write tree source contents = (.error fault, after) →
      ∃ held executable, tree.Alters source (some (.file held executable)) after
  persisted {tree after : Tree} {source : Location} {path : String} :
    tree.IsFile source → library.persist tree source path = (.ok (), after) →
      ∃ place, tree.renameTarget path = .ok place ∧ tree.Moves source place after
  notPersisted {tree after : Tree} {source : Location} {path : String} {fault : Fault} :
    tree.IsFile source → library.persist tree source path = (.error fault, after) →
      tree.SameEntries after
  discarded {tree : Tree} {source : Location} :
    tree.IsFile source → tree.Alters source none (library.discard tree source)

/-- Writes a scratch file and renames it, up to the first fault. -/
def fill (library : ScratchLibrary) (tree : Tree) (source : Location) (path contents : String) :
    Except Fault Unit × Tree :=
  match library.write tree source contents with
  | (.error fault, partly) => (.error fault, partly)
  | (.ok (), written) =>
    match library.flush written source with
    | .error fault => (.error fault, written)
    | .ok () => library.persist written source path

/-- Replaces the file at a path by a scratch file, which is discarded if it cannot be. -/
def replace (library : ScratchLibrary) (tree : Tree) (path contents : String) :
    Except ReleaseError Unit × Tree :=
  match library.create tree path with
  | (.error fault, after) => (.error (.scratchFile (parentPath path) fault), after)
  | (.ok source, created) =>
    match library.fill created source path contents with
    | (.error fault, failed) => (.error (.io fault), library.discard failed source)
    | (.ok (), after) => (.ok (), after)

variable {library : ScratchLibrary} {tree created after : Tree} {source : Location}
  {path contents : String}

/-- A scratch file that was not renamed is still there; one that was had been written. -/
theorem Lawful.of_fill (lawful : library.Lawful)
    (alters : tree.Alters source (some (.file ByteArray.empty false)) created)
    {outcome : Except Fault Unit}
    (filled : library.fill created source path contents = (outcome, after)) :
    (∃ fault held executable, outcome = .error fault ∧
        tree.Alters source (some (.file held executable)) after) ∨
      (outcome = .ok () ∧ ∃ written place,
        tree.Alters source (some (.file contents.toUTF8 false)) written ∧
        written.renameTarget path = .ok place ∧ written.Moves source place after) := by
  have isFile : created.IsFile source := ⟨_, _, alters.altered⟩
  unfold fill at filled
  split at filled
  case h_1 fault partly failed =>
    obtain ⟨rfl, rfl⟩ := Prod.mk.inj filled
    obtain ⟨held, executable, altersAgain⟩ := lawful.notWritten isFile failed
    exact .inl ⟨fault, held, executable, rfl, alters.trans altersAgain⟩
  case h_2 written wrote =>
    have altersAgain := alters.trans (lawful.written alters.altered wrote)
    rw [ByteArray.empty_append] at altersAgain
    have isWritten : written.IsFile source := ⟨_, _, altersAgain.altered⟩
    split at filled
    case h_1 fault failed =>
      obtain ⟨rfl, rfl⟩ := Prod.mk.inj filled
      exact .inl ⟨fault, _, _, rfl, altersAgain⟩
    case h_2 flushed =>
      cases outcome with
      | error fault =>
        have same := lawful.notPersisted isWritten filled
        refine .inl ⟨fault, contents.toUTF8, false, rfl, ?_⟩
        exact altersAgain.trans (altersAgain.altered ▸ same.alters source)
      | ok _ =>
        obtain ⟨place, target, moves⟩ := lawful.persisted isWritten filled
        exact .inr ⟨rfl, written, place, altersAgain, target, moves⟩

/-- Replacing a file through a scratch file fails and leaves everything as it was, or does
what replacing it at once does. -/
theorem Lawful.of_replace (lawful : library.Lawful) {outcome : Except ReleaseError Unit}
    (ran : library.replace tree path contents = (outcome, after)) :
    (∃ cause, outcome = .error cause ∧ tree.SameEntries after) ∨
      (outcome = .ok () ∧ ∃ replaced, tree.replace path contents = .ok replaced ∧
        replaced.SameEntries after) := by
  unfold replace at ran
  split at ran
  case h_1 fault unmade failed =>
    obtain ⟨rfl, rfl⟩ := Prod.mk.inj ran
    exact .inl ⟨_, rfl, lawful.notCreated failed⟩
  case h_2 source created made =>
    obtain ⟨directory, name, scratch, -, fresh, alters⟩ := lawful.created made
    split at ran
    case h_1 fault failed filled =>
      obtain ⟨rfl, rfl⟩ := Prod.mk.inj ran
      obtain ⟨_, held, executable, -, left⟩ | ⟨⟨⟩, -⟩ := lawful.of_fill alters filled
      have discarded := lawful.discarded ⟨held, executable, left.altered⟩
      exact .inl ⟨_, rfl, (left.trans discarded).sameEntries fresh⟩
    case h_2 renamed filled =>
      obtain ⟨rfl, rfl⟩ := Prod.mk.inj ran
      rcases lawful.of_fill alters filled with
        ⟨_, _, _, impossible, -⟩ | ⟨-, written, place, altersAgain, target, moves⟩
      · cases impossible
      have named := (altersAgain.renameTarget_eq_ok_iff fresh).1 target
      refine .inr ⟨rfl, tree.put place (.file contents.toUTF8 false), ?_, ?_⟩
      · exact Tree.replace_of_renameTarget scratch named contents
      · exact (Tree.Alters.put tree _ (Tree.ne_nil_of_renameTarget named)).unique
          (altersAgain.moved fresh moves)

end ScratchLibrary

/-! ## Scratch files of the system -/

namespace Tree

/-- The tree without the entry at a location. -/
def unlink (tree : Tree) (location : Location) : Tree :=
  { tree with entries := tree.entries.filter fun (place, _) => place != location }

/-- The tree with the entry at a location moved to another. -/
def rename (tree : Tree) (source place : Location) : Tree :=
  match tree.lookup source with
  | some entry => (tree.unlink source).put place entry
  | none => tree

theorem lookup_filter_ne (entries : List (Location × Entry)) (location place : Location) :
    (entries.filter fun (other, _) => other != location).lookup place =
      if place = location then none else entries.lookup place := by
  induction entries with
  | nil => simp
  | cons head more inductionHypothesis =>
    obtain ⟨other, entry⟩ := head
    by_cases removed : other = location
    · subst removed
      rw [List.filter_cons_of_neg (by simp), inductionHypothesis]
      by_cases here : place = other
      · simp [here]
      · simp [here, List.lookup_cons, beq_eq_false_iff_ne.2 here]
    · by_cases here : place = other
      · subst here
        simp [removed]
      · simp [removed, inductionHypothesis, List.lookup_cons, beq_eq_false_iff_ne.2 here]

theorem Alters.unlink (tree : Tree) {location : Location} (notRoot : location ≠ []) :
    Alters location none tree (tree.unlink location) where
  workingDirectory := rfl
  altered := by simp [lookup, Tree.unlink, notRoot, lookup_filter_ne]
  others place different := by simp [lookup, Tree.unlink, different, lookup_filter_ne]

theorem moves_rename {tree : Tree} {source place : Location} (isFile : tree.IsFile source)
    (notRoot : place ≠ []) : tree.Moves source place (tree.rename source place) := by
  obtain ⟨contents, executable, found⟩ := isFile
  have unlinked := Alters.unlink tree (IsFile.ne_nil ⟨contents, executable, found⟩)
  have put := Alters.put (tree.unlink source) (.file contents executable) notRoot
  have renamed : tree.rename source place =
      (tree.unlink source).put place (.file contents executable) := by
    rw [rename, found]
  rw [renamed]
  exact
    { workingDirectory := rfl
      moved := put.altered.trans found.symm
      left := fun different => (put.others source different).trans unlinked.altered
      others := fun location notSource notPlace =>
        (put.others location notPlace).trans (unlinked.others location notSource) }

end Tree

namespace ScratchLibrary

/-- The system's own scratch files, with some endings for their names to choose from. Only
making and renaming them can fail. -/
def system (endings : List String) : ScratchLibrary where
  create tree path :=
    match tree.scratchDirectory path with
    | .error fault => (.error fault, tree)
    | .ok directory =>
      match endings.find? fun ending => !tree.contains (directory ++ [".tmp" ++ ending]) with
      | none => (.error .alreadyExists, tree)
      | some ending =>
        let source := directory ++ [".tmp" ++ ending]
        (.ok source, tree.put source (.file ByteArray.empty false))
  write tree source contents := (.ok (), tree.append source contents.toUTF8)
  flush _ _ := .ok ()
  persist tree source path :=
    match tree.renameTarget path with
    | .error fault => (.error fault, tree)
    | .ok place => (.ok (), tree.rename source place)
  discard tree source := tree.unlink source

theorem append_of_file {tree : Tree} {location : Location} {held : ByteArray} {executable : Bool}
    (found : tree.lookup location = some (.file held executable)) (contents : ByteArray) :
    tree.append location contents = tree.put location (.file (held ++ contents) executable) := by
  simp only [Tree.append, Tree.overwrite, Tree.contentsAt, found]

theorem lawful_system (endings : List String) : (system endings).Lawful where
  created {tree after path source} made := by
    simp only [system] at made
    split at made
    case h_1 => cases made
    case h_2 directory scratch =>
      split at made
      case h_1 => cases made
      case h_2 ending free =>
        obtain ⟨⟨⟩, rfl⟩ := Prod.mk.inj made
        have fresh := List.find?_some free
        refine ⟨directory, _, scratch, rfl, by simpa [Tree.contains] using fresh, ?_⟩
        exact .put tree _ (by simp)
  notCreated {tree after path fault} failed := by
    simp only [system] at failed
    split at failed
    case h_1 => exact .of_eq (Prod.mk.inj failed).2.symm
    case h_2 =>
      split at failed
      case h_1 => exact .of_eq (Prod.mk.inj failed).2.symm
      case h_2 => cases failed
  written {tree after source contents held executable} found wrote := by
    obtain ⟨-, rfl⟩ := Prod.mk.inj wrote
    rw [append_of_file found]
    exact .put tree _ (Tree.IsFile.ne_nil ⟨held, executable, found⟩)
  notWritten _ failed := nomatch failed
  persisted {tree after source path} isFile moved := by
    simp only [system] at moved
    split at moved
    case h_1 => cases moved
    case h_2 place target =>
      obtain ⟨-, rfl⟩ := Prod.mk.inj moved
      exact ⟨place, target, Tree.moves_rename isFile (Tree.ne_nil_of_renameTarget target)⟩
  notPersisted {tree after source path fault} _ failed := by
    simp only [system] at failed
    split at failed
    case h_1 => exact .of_eq (Prod.mk.inj failed).2.symm
    case h_2 => cases failed
  discarded {tree source} isFile := .unlink tree isFile.ne_nil

/-- With a free name to choose, the system replaces a file in steps whenever it can be
replaced at once. -/
theorem replace_system_of_replace {endings : List String} {tree replaced : Tree}
    {path contents ending : String} {directory : Location}
    (scratch : tree.scratchDirectory path = .ok directory) (member : ending ∈ endings)
    (free : tree.contains (directory ++ [".tmp" ++ ending]) = false)
    (succeeds : tree.replace path contents = .ok replaced) :
    ∃ after, (system endings).replace tree path contents = (.ok (), after) ∧
      replaced.SameEntries after := by
  obtain ⟨_, place, -, target, -⟩ := Tree.of_replace succeeds
  obtain ⟨chosen, choice⟩ : ∃ chosen, endings.find? (fun ending =>
      !tree.contains (directory ++ [".tmp" ++ ending])) = some chosen :=
    Option.isSome_iff_exists.1 (List.find?_isSome.2 ⟨ending, member, by simp [free]⟩)
  let source : Location := directory ++ [".tmp" ++ chosen]
  have notRoot : source ≠ [] := by simp [source]
  have fresh : tree.lookup source = none := by
    simpa [Tree.contains] using List.find?_some choice
  let created := tree.put source (.file ByteArray.empty false)
  let written := created.append source contents.toUTF8
  have made : (system endings).create tree path = (.ok source, created) := by
    simp only [system, scratch, choice, source, created]
  have alters : tree.Alters source (some (.file contents.toUTF8 false)) written := by
    have found : created.lookup source = some (.file ByteArray.empty false) :=
      Tree.lookup_put_self tree _ notRoot
    have appended := append_of_file found contents.toUTF8
    rw [ByteArray.empty_append] at appended
    simp only [written, appended]
    exact (Tree.Alters.put tree _ notRoot).trans (.put created _ notRoot)
  have filled : (system endings).fill created source path contents =
      (.ok (), written.rename source place) := by
    have named := (alters.renameTarget_eq_ok_iff fresh).2 target
    change (system endings).persist written source path = _
    simp only [system, named]
  have ran : (system endings).replace tree path contents =
      (.ok (), written.rename source place) := by
    rw [replace, made]
    dsimp only
    rw [filled]
  rcases (lawful_system endings).of_replace ran with ⟨_, impossible, -⟩ | ⟨-, same, again, agrees⟩
  · cases impossible
  · obtain rfl := Except.ok.inj (again.symm.trans succeeds)
    exact ⟨_, ran, agrees⟩

end ScratchLibrary

end ReleasePilot
