import ReleasePilot.Proofs.Session.FileUpdate
import ReleasePilot.Proofs.Tree.ScratchFile
import ReleasePilot.Workflow

/-!
# Files brought up to date as a whole

Bringing a file up to date is one change to the tree, or none (`AllOrNothing`), wherever it
fails on the way: in reading the file, in changing its text, or in any step of replacing it
through a scratch file.
-/

namespace ReleasePilot

/-- Replaces a file through a scratch file. -/
def ScratchLibrary.replaceFile (library : ScratchLibrary) (path contents : String) : Action Unit :=
  ExceptT.mk fun session =>
    let (outcome, tree) := library.replace session.tree path contents
    (outcome, { session with tree })

/-- What is left of a tree, and what of the file at a path, when its text was to be changed. -/
structure AllOrNothing (path : String) (dryRun : Bool)
    (change : String → Except ReleaseError String) (before : Tree)
    (result : Except ReleaseError Unit × Session) : Prop where
  /-- A failure and a dry run leave every entry as it was, and no entry more. -/
  nothing : (dryRun = true ∨ ∃ cause, result.1 = .error cause) →
    before.SameEntries result.2.tree
  /-- Otherwise the entry that the path names is a file with the changed text, and every
  other entry is as it was. The path goes on naming it, if it starts from a directory. -/
  all : dryRun = false → result.1 = .ok () → ∃ old new place,
    before.readText path = .ok old ∧ change old = .ok new ∧
      before.locateEntry path = .ok place ∧
      before.Alters place (some (.file new.toUTF8 false)) result.2.tree ∧
      (before.IsOpen (before.startOf path) →
        result.2.tree.entryAt? path = some (.file new.toUTF8 false))

/-- A way of replacing a file fails and changes nothing, or has the result of replacing it
at once. -/
def Replaces (replace : String → String → Action Unit) : Prop :=
  ∀ (path contents : String) (before after : Session) (outcome : Except ReleaseError Unit),
    (replace path contents).run.run before = (outcome, after) →
      (∃ cause, outcome = .error cause ∧ before.tree.SameEntries after.tree) ∨
        (outcome = .ok () ∧ ∃ replaced, before.tree.replace path contents = .ok replaced ∧
          replaced.SameEntries after.tree)

theorem replaces_replaceFile : Replaces Action.replaceFile := by
  intro path contents before after outcome ran
  rcases Action.of_replaceFile ran with ⟨cause, rfl, rfl⟩ | ⟨tree, replaced, rfl, rfl⟩
  · exact .inl ⟨cause, rfl, .refl _⟩
  · exact .inr ⟨rfl, tree, replaced, .refl tree⟩

theorem ScratchLibrary.Lawful.replaces {library : ScratchLibrary} (lawful : library.Lawful) :
    Replaces library.replaceFile := by
  intro path contents before after outcome ran
  obtain ⟨rfl, rfl⟩ := Prod.mk.inj ran
  exact lawful.of_replace rfl

/-- A file that is replaced whole or not at all is brought up to date whole or not at all. -/
theorem Replaces.allOrNothing {replace : String → String → Action Unit}
    (replaces : Replaces replace) (path : String) (dryRun : Bool)
    (change : String → Except ReleaseError String) (before : Session) :
    AllOrNothing path dryRun change before.tree
      ((Action.updateFileBy replace path dryRun change).run.run before) := by
  rcases ran : (Action.updateFileBy replace path dryRun change).run.run before with
    ⟨outcome, after⟩
  rcases Action.of_updateFileBy ran with ⟨cause, rfl, same⟩ |
    ⟨old, new, read, changed, ⟨rfl, rfl, same⟩ | ⟨rfl, between, unchanged, replacing⟩⟩
  · exact ⟨fun _ => .of_eq same, nofun⟩
  · exact ⟨fun _ => .of_eq same, nofun⟩
  rcases replaces path new between after outcome replacing with
    ⟨cause, rfl, same⟩ | ⟨rfl, replaced, written, same⟩
  · exact ⟨fun _ => unchanged ▸ same, nofun⟩
  refine ⟨nofun, fun _ _ => ?_⟩
  rw [unchanged] at written
  obtain ⟨directory, place, -, target, rfl⟩ := Tree.of_replace written
  have alters : before.tree.Alters place (some (.file new.toUTF8 false)) after.tree := by
    have put := Tree.Alters.put before.tree (.file new.toUTF8 false)
      (Tree.ne_nil_of_renameTarget target)
    exact put.trans (put.altered ▸ same.alters place)
  exact ⟨old, new, place, read, changed, Tree.locateEntry_of_renameTarget target, alters,
    fun isOpen => Tree.entryAt?_of_alters target read isOpen alters⟩

/-- Setting the version in a file and inserting a section into a changelog are all or nothing,
whether the file is replaced at once or in steps that may each fail. -/
theorem allOrNothing_setInFile_insertInFile {library : ScratchLibrary} (lawful : library.Lawful)
    (path : String) (dryRun : Bool) (before : Session) :
    (∀ identifier version,
      AllOrNothing path dryRun (Declaration.set path identifier version) before.tree
        ((Declaration.setInFile path identifier version dryRun).run.run before) ∧
      AllOrNothing path dryRun (Declaration.set path identifier version) before.tree
        ((Action.updateFileBy library.replaceFile path dryRun
          (Declaration.set path identifier version)).run.run before)) ∧
    ∀ entry,
      AllOrNothing path dryRun (Changelog.insert path entry) before.tree
        ((Changelog.insertInFile path entry dryRun).run.run before) ∧
      AllOrNothing path dryRun (Changelog.insert path entry) before.tree
        ((Action.updateFileBy library.replaceFile path dryRun
          (Changelog.insert path entry)).run.run before) := by
  have atOnce := replaces_replaceFile.allOrNothing path dryRun
  have inSteps := lawful.replaces.allOrNothing path dryRun
  exact ⟨fun _ _ => ⟨atOnce _ before, inSteps _ before⟩,
    fun _ => ⟨atOnce _ before, inSteps _ before⟩⟩

/-- A version set through a scratch file of the system, which leaves no other file. -/
theorem allOrNothing_system :
    let library := ScratchLibrary.system ["Ab12Cd"]
    let tree : Tree := ⟨[(["version.py"], .file "__version__ = \"1.0\"\n".toUTF8 true)], []⟩
    let change := Declaration.set "version.py" "__version__" { release := [1, 1] }
    let result := (Action.updateFileBy library.replaceFile "version.py" false change).run.run
      { tree, operator := .scripted [] [] }
    library.Lawful ∧ result.1.toOption = some () ∧
      result.2.tree = ⟨[(["version.py"], .file "__version__ = \"1.1\"\n".toUTF8 false)], []⟩ ∧
      AllOrNothing "version.py" false change tree result := by
  intro library tree change result
  have lawful : library.Lawful := ScratchLibrary.lawful_system ["Ab12Cd"]
  refine ⟨lawful, by decide +kernel, by decide +kernel, ?_⟩
  exact ((allOrNothing_setInFile_insertInFile lawful "version.py" false
    { tree, operator := .scripted [] [] }).1 "__version__" { release := [1, 1] }).2

end ReleasePilot
