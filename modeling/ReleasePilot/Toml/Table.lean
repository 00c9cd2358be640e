import ReleasePilot.Toml.Value

/-!
# Building tables

The statements of a document build one table. No table is defined twice and no
key is set twice; a dotted key reaches only into tables that dotted keys made,
and a header may still define a table that was so far only passed through.
-/

namespace ReleasePilot.Toml

namespace Entries

/-- The entries with one key replaced, or added at the end. -/
def put (key : String) (item : Item) : Entries → Entries
  | [] => [(key, item)]
  | (name, old) :: more =>
    if name = key then (key, item) :: more else (name, old) :: put key item more

/-- Changes the table that a path leads to, making those on the way that do not
exist. Dotted paths do not pass through tables that have a header. -/
def changeAt (dotted : Bool) (change : TableOrigin → Entries → Option Entries) :
    TableOrigin → Entries → List String → Option Entries
  | origin, entries, [] => change origin entries
  | _, entries, key :: path =>
    match entries.lookup key with
    | none => do
      let origin := if dotted then TableOrigin.dotted else TableOrigin.path
      let inner ← changeAt dotted change origin [] path
      return put key (.table origin inner) entries
    | some (.value _) => none
    | some (.tables elements) => do
      let last ← elements.getLast?
      let inner ← changeAt dotted change .header last path
      return put key (.tables (elements.dropLast ++ [inner])) entries
    | some (.table origin inner) =>
      if dotted ∧ origin = .header then none
      else do
        let inner ← changeAt dotted change origin inner path
        return put key (.table origin inner) entries

/-- Sets a new key of the table that a dotted path leads to. Such a path must
end in a table that dotted keys made, and no other key may be set there. -/
def set (path : List String) (key : String) (value : Value) (entries : Entries) :
    Option Entries :=
  changeAt true (fun origin entries =>
    if (origin == .dotted) == path.isEmpty then none
    else if (entries.lookup key).isSome then none
    else some (entries ++ [(key, .value value)])) .header entries path

/-- Defines the table of a header. -/
def define (path : List String) (entries : Entries) : Option Entries := do
  let key ← path.getLast?
  changeAt false (fun _ entries =>
    match entries.lookup key with
    | none => some (entries ++ [(key, .table .header [])])
    | some (.table .path inner) => some (put key (.table .header inner) entries)
    | some _ => none) .header entries path.dropLast

/-- Adds an element to the array of tables of a header. -/
def defineElement (path : List String) (entries : Entries) : Option Entries := do
  let key ← path.getLast?
  changeAt false (fun _ entries =>
    match entries.lookup key with
    | none => some (entries ++ [(key, .tables [[]])])
    | some (.tables elements) => some (put key (.tables (elements ++ [[]])) entries)
    | some _ => none) .header entries path.dropLast

end Entries

/-- A document in the making: its root table, and the table that settings go to. -/
structure Document where
  root : Entries := []
  current : List String := []

namespace Document

/-- The document after one more statement. -/
def add (document : Document) : Statement → Option Document
  | .header path => do
    return { root := ← document.root.define path, current := path }
  | .arrayHeader path => do
    return { root := ← document.root.defineElement path, current := path }
  | .setting path key value => do
    let root ← Entries.changeAt false (fun _ entries => entries.set path key value)
      .header document.root document.current
    return { document with root }

/-- The root table that some statements build. -/
def ofStatements? (statements : List Statement) : Option Entries := do
  let document ← statements.foldlM add {}
  return document.root

end Document

/-- Whether the settings of an inline table are consistent. -/
def consistent (settings : List (List String × String × Value)) : Bool :=
  (settings.foldlM (fun (entries : Entries) (path, key, value) => entries.set path key value)
    ([] : Entries)).isSome

end ReleasePilot.Toml
