import ReleasePilot.Proofs.Tree.Following

/-!
# One entry altered

Two trees may have the same entries (`SameEntries`), or all but one (`Alters`). A file that
comes into a tree in a fresh place makes no difference to where another file is renamed to
(`renameTarget_of_sameElsewhere`), and a file that is renamed to a path that could be read is
found there (`entryAt?_of_alters`).
-/

namespace ReleasePilot.Tree

/-- Two trees with the same entries and the same working directory. -/
structure SameEntries (before after : Tree) : Prop where
  workingDirectory : after.workingDirectory = before.workingDirectory
  entries : ∀ location, after.lookup location = before.lookup location

/-- One location comes to hold an entry, or nothing, and every other is as before. -/
structure Alters (place : Location) (entry : Option Entry) (before after : Tree) : Prop where
  workingDirectory : after.workingDirectory = before.workingDirectory
  altered : after.lookup place = entry
  others : ∀ location, location ≠ place → after.lookup location = before.lookup location

/-- What one location holds is moved to another, over what was there. -/
structure Moves (source place : Location) (before after : Tree) : Prop where
  workingDirectory : after.workingDirectory = before.workingDirectory
  moved : after.lookup place = before.lookup source
  left : source ≠ place → after.lookup source = none
  others : ∀ location, location ≠ source → location ≠ place →
    after.lookup location = before.lookup location

variable {before between after : Tree} {place source : Location} {entry : Option Entry}

theorem SameEntries.refl (tree : Tree) : SameEntries tree tree :=
  ⟨rfl, fun _ => rfl⟩

theorem SameEntries.of_eq (same : after = before) : SameEntries before after :=
  same ▸ .refl after

theorem SameEntries.alters (same : SameEntries before after) (place : Location) :
    Alters place (before.lookup place) before after :=
  ⟨same.workingDirectory, same.entries place, fun location _ => same.entries location⟩

namespace Alters

theorem put (tree : Tree) (entry : Entry) (notRoot : place ≠ []) :
    Alters place (some entry) tree (tree.put place entry) where
  workingDirectory := rfl
  altered := lookup_put_self tree entry notRoot
  others _ different := lookup_put_of_ne tree entry different

/-- Of two changes at one place the second remains. -/
theorem trans {first : Option Entry} (alters : Alters place first before between)
    (altersAgain : Alters place entry between after) : Alters place entry before after where
  workingDirectory := altersAgain.workingDirectory.trans alters.workingDirectory
  altered := altersAgain.altered
  others location different :=
    (altersAgain.others location different).trans (alters.others location different)

/-- A change back to what was there is no change. -/
theorem sameEntries (alters : Alters place entry before after)
    (restored : before.lookup place = entry) : SameEntries before after where
  workingDirectory := alters.workingDirectory
  entries location := by
    by_cases here : location = place
    · rw [here, alters.altered, restored]
    · exact alters.others location here

/-- The same change has the same result. -/
theorem unique {other : Tree} (alters : Alters place entry before after)
    (altersToo : Alters place entry before other) : SameEntries after other where
  workingDirectory := altersToo.workingDirectory.trans alters.workingDirectory.symm
  entries location := by
    by_cases here : location = place
    · rw [here, alters.altered, altersToo.altered]
    · rw [alters.others location here, altersToo.others location here]

/-- What is made in a fresh place and moved from there to another alters that one only. -/
theorem moved (alters : Alters source entry before between)
    (fresh : before.lookup source = none) (moves : Moves source place between after) :
    Alters place entry before after where
  workingDirectory := moves.workingDirectory.trans alters.workingDirectory
  altered := moves.moved.trans alters.altered
  others location elsewhere := by
    by_cases here : location = source
    · subst here
      rw [moves.left elsewhere, fresh]
    · exact (moves.others location here elsewhere).trans (alters.others location here)

end Alters

/-! ## Where a file is renamed to -/

/-- Where a file is renamed to depends on directories and links only. -/
theorem renameTarget_of_sameElsewhere {changed : Location} {path : String}
    (workingDirectory : after.workingDirectory = before.workingDirectory)
    (same : ∀ location, location ≠ changed → after.lookup location = before.lookup location)
    (noDirectory : before.lookup changed ≠ some .directory)
    (noLink : ∀ target, before.lookup changed ≠ some (.link target))
    (stillNoDirectory : after.lookup changed ≠ some .directory)
    (target : before.renameTarget path = .ok place) : after.renameTarget path = .ok place := by
  obtain ⟨above, name, directory, file, walked, found, free, rfl⟩ :=
    renameTarget_eq_ok_iff.1 target
  have away : directory ≠ changed := by
    rintro rfl
    exact noDirectory found
  have leads := (walk_eq_ok_iff.1 walked).of_sameElsewhere same noDirectory away
    fun target link => absurd link (noLink target)
  refine renameTarget_eq_ok_iff.2 ⟨above, name, directory, file, ?_, ?_, ?_, rfl⟩
  · rw [startOf, workingDirectory]
    exact walk_eq_ok_iff.2 leads
  · exact (same directory away).trans found
  · rw [isDirectory] at free ⊢
    by_cases here : directory ++ [name] = changed
    · rw [here]
      simpa using stillNoDirectory
    · rwa [same _ here]

theorem ne_nil_of_renameTarget {path : String} (target : before.renameTarget path = .ok place) :
    place ≠ [] := by
  obtain ⟨above, name, directory, -, -, -, -, rfl⟩ := renameTarget_eq_ok_iff.1 target
  simp

/-- A new file does not change where a file is renamed to. -/
theorem Alters.renameTarget_eq_ok_iff {contents : ByteArray} {executable : Bool} {path : String}
    (alters : Alters source (some (.file contents executable)) before after)
    (fresh : before.lookup source = none) :
    after.renameTarget path = .ok place ↔ before.renameTarget path = .ok place := by
  constructor
  · have same (location : Location) (different : location ≠ source) :
        before.lookup location = after.lookup location :=
      (alters.others location different).symm
    refine renameTarget_of_sameElsewhere alters.workingDirectory.symm same ?_ ?_ ?_
    · simp [alters.altered]
    · simp [alters.altered]
    · simp [fresh]
  · refine renameTarget_of_sameElsewhere alters.workingDirectory alters.others ?_ ?_ ?_
    · simp [fresh]
    · simp [fresh]
    · simp [alters.altered]

/-! ## What is found at a path -/

section Found

variable {tree : Tree} {path name text : String} {above : List String} {directory last : Location}

/-- A path that is read leads to something other than a directory. -/
theorem of_readText (read : tree.readText path = .ok text) :
    ∃ last entry, tree.locate path = .ok last ∧ tree.lookup last = some entry ∧
      entry ≠ .directory := by
  obtain ⟨contents, found, -⟩ := ok_of_bind read
  obtain ⟨last, located, found⟩ := ok_of_bind found
  cases held : tree.lookup last with
  | none =>
    rw [held] at found
    cases found
  | some entry =>
    refine ⟨last, entry, located, held, ?_⟩
    rintro rfl
    rw [held] at found
    cases found

theorem leads_of_locate (located : tree.locate path = .ok last) :
    Leads tree linkLimit (tree.startOf path) (pathNames path) last := by
  unfold locate at located
  split at located
  · cases located
  split at located
  · cases located
  split at located
  · cases located
  exact walk_eq_ok_iff.1 located

theorem NamesFile.pathNames_eq (file : NamesFile path above name) :
    pathNames path = above.reverse ++ [name] :=
  List.reverse_eq_cons_iff.1 file.names

/-- The directory of a path that is read is not reached through a link at the path itself. -/
theorem aside_of_readText (file : NamesFile path above name)
    (walked : tree.walk linkLimit (tree.startOf path) above.reverse = .ok directory)
    (isOpen : tree.IsOpen (tree.startOf path))
    (read : tree.readText path = .ok text) (target : String)
    (link : tree.lookup (directory ++ [name]) = some (.link target)) (links : Nat)
    (rest : List String) :
    ¬Leads tree links (linkStart directory target) (pathNames target ++ rest) directory := by
  intro through
  obtain ⟨last, entry, located, held, noDirectory⟩ := of_readText read
  have leads := leads_of_locate located
  rw [file.pathNames_eq] at leads
  obtain ⟨between, fewer, first, opens, second⟩ := leads.of_append isOpen (List.cons_ne_nil _ _)
  obtain rfl := first.unique (walk_eq_ok_iff.1 walked)
  obtain ⟨_, followed⟩ := second.of_link file.plain link
  have isDirectory : tree.lookup last = some .directory := by
    cases rest with
    | nil =>
      rw [List.append_nil] at through
      rw [followed.unique through]
      exact opens.self
    | cons next others =>
      obtain ⟨passed, _, toPassed, opensPassed, -⟩ :=
        through.of_append (opens.linkStart target) (List.cons_ne_nil _ _)
      rw [followed.unique toPassed]
      exact opensPassed.self
  exact noDirectory (Option.some.inj (held.symm.trans isDirectory))

end Found

/-- What comes to stand where a file was renamed to is found at the path. -/
theorem entryAt?_of_alters {path text : String} (target : before.renameTarget path = .ok place)
    (read : before.readText path = .ok text) (isOpen : before.IsOpen (before.startOf path))
    (alters : Alters place entry before after) : after.entryAt? path = entry := by
  obtain ⟨above, name, directory, file, walked, found, free, rfl⟩ :=
    Tree.renameTarget_eq_ok_iff.1 target
  have away : directory ≠ directory ++ [name] := by simp
  have leads : Leads after linkLimit (before.startOf path) above.reverse directory := by
    refine (walk_eq_ok_iff.1 walked).of_sameElsewhere alters.others ?_ away ?_
    · simpa [isDirectory] using free
    · rw [List.dropLast_concat]
      exact aside_of_readText file walked isOpen read
  have named : after.locateEntry path = .ok (directory ++ [name]) := by
    rw [locateEntry_of_plain after file.names file.plain,
      if_neg (by simp [file.short, file.shortName]), startOf, alters.workingDirectory]
    rw [startOf] at leads
    simp only [walk_eq_ok_iff.2 leads, bind, Except.bind,
      requireDirectory_of_directory ((alters.others directory away).trans found)]
    rfl
  rw [entryAt?, named]
  exact alters.altered

end ReleasePilot.Tree
