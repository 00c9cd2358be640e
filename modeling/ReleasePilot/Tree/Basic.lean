/-!
# The working tree

A tree maps locations to files, directories, symbolic links and what the system
serves there. A location is the list of names from the root down and is free of
links; a path is a text that still has to be followed. Looking at one location
after a change at another shows nothing of the change: `Tree.lookup_put_of_ne`.
-/

namespace ReleasePilot

/-- The names that lead from the root to a place. The root itself has none. -/
abbrev Location := List String

/-- What the system serves under a name instead of stored bytes. -/
inductive Service where
  /-- Reads as nothing and swallows what is written. -/
  | void
  /-- Reads as zeros without end and swallows what is written. -/
  | zeros
  /-- Stands for an open file of the program that uses it. -/
  | descriptor (number : Nat)
  /-- A program of the system, which can be run and not read. -/
  | program
deriving DecidableEq, Repr

/-- What a location holds. -/
inductive Entry where
  | file (contents : ByteArray) (executable : Bool)
  | directory
  | link (target : String)
  | service (kind : Service)

instance : DecidableEq Entry
  | .file first firstExecutable, .file second secondExecutable =>
    have := ByteArray.instDecidableEq first second
    decidable_of_iff (first = second ∧ firstExecutable = secondExecutable) (by simp)
  | .directory, .directory => isTrue rfl
  | .link first, .link second => decidable_of_iff (first = second) (by simp)
  | .service first, .service second => decidable_of_iff (first = second) (by simp)
  | .file _ _, .directory | .file _ _, .link _ | .file _ _, .service _
  | .directory, .file _ _ | .directory, .link _ | .directory, .service _
  | .link _, .file _ _ | .link _, .directory | .link _, .service _
  | .service _, .file _ _ | .service _, .directory | .service _, .link _ => isFalse nofun

/-- The entries of a file system, with the directory that relative paths start from. -/
structure Tree where
  entries : List (Location × Entry)
  workingDirectory : Location := []
deriving DecidableEq

namespace Tree

/-- The entry at a location; the root is always a directory. -/
def lookup (tree : Tree) (location : Location) : Option Entry :=
  if location = [] then some .directory else tree.entries.lookup location

/-- A list of entries with the one at a location replaced, or added at the end. -/
def putEntry (location : Location) (entry : Entry) :
    List (Location × Entry) → List (Location × Entry)
  | [] => [(location, entry)]
  | (place, old) :: more =>
    if place = location then (location, entry) :: more
    else (place, old) :: putEntry location entry more

/-- The tree with an entry at a location. -/
def put (tree : Tree) (location : Location) (entry : Entry) : Tree :=
  { tree with entries := putEntry location entry tree.entries }

@[simp] theorem workingDirectory_put (tree : Tree) (location : Location) (entry : Entry) :
    (tree.put location entry).workingDirectory = tree.workingDirectory :=
  rfl

theorem lookup_putEntry (location place : Location) (entry : Entry)
    (entries : List (Location × Entry)) :
    (putEntry location entry entries).lookup place =
      if place = location then some entry else entries.lookup place := by
  induction entries with
  | nil =>
    by_cases same : place = location
    · simp [putEntry, same]
    · simp [putEntry, List.lookup_cons, beq_eq_false_iff_ne.2 same, same]
  | cons head more inductionHypothesis =>
    obtain ⟨other, old⟩ := head
    by_cases hit : other = location
    · by_cases same : place = location
      · simp [putEntry, hit, same]
      · simp [putEntry, hit, same, List.lookup_cons, beq_eq_false_iff_ne.2 same]
    · by_cases here : place = other
      · subst here
        simp [putEntry, hit]
      · simp [putEntry, hit, List.lookup_cons, beq_eq_false_iff_ne.2 here, inductionHypothesis]

/-- What is put at a location is found there. -/
theorem lookup_put_self (tree : Tree) {location : Location} (entry : Entry)
    (notRoot : location ≠ []) : (tree.put location entry).lookup location = some entry := by
  simp [lookup, put, notRoot, lookup_putEntry]

/-- Every other location is as before. -/
theorem lookup_put_of_ne (tree : Tree) {location place : Location} (entry : Entry)
    (different : place ≠ location) :
    (tree.put location entry).lookup place = tree.lookup place := by
  simp [lookup, put, different, lookup_putEntry]

/-- Whether a location is a directory. -/
def isDirectory (tree : Tree) (location : Location) : Bool :=
  tree.lookup location == some .directory

/-- Whether a location holds anything. -/
def contains (tree : Tree) (location : Location) : Bool :=
  (tree.lookup location).isSome

end Tree

end ReleasePilot
