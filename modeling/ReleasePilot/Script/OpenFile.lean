import ReleasePilot.Script.Basic
import ReleasePilot.Tree.Edit

/-!
# Open files

A file that a script has opened keeps a place, where it is read and written
next. It stays the same file when a program moves or removes it.
-/

namespace ReleasePilot.Script

/-- A file that is open. -/
structure OpenFile where
  location : Location
  opening : Opening
  place : Nat := 0
  /-- The contents of a file that is at no location any more. -/
  detached : Option ByteArray := none

/-- Bytes with others written over them from a place on. A gap is filled with zeros. -/
def writtenOver (contents : ByteArray) (place : Nat) (bytes : ByteArray) : ByteArray :=
  if place = contents.size then contents ++ bytes
  else
    let gap : ByteArray := ⟨Array.replicate (place - contents.size) 0⟩
    contents.extract 0 place ++ gap ++ bytes ++
      contents.extract (place + bytes.size) contents.size

namespace OpenFile

/-- The contents of an open file. -/
def contents (tree : Tree) (file : OpenFile) : ByteArray :=
  file.detached.getD (tree.contentsAt file.location)

/-- The bytes that can still be read. -/
def rest (tree : Tree) (file : OpenFile) : ByteArray :=
  match file.opening with
  | .reading | .both => (file.contents tree).extract file.place (file.contents tree).size
  | .writing _ | .appending => ByteArray.empty

/-- The file and the tree after some bytes were written. -/
def write (tree : Tree) (file : OpenFile) (bytes : ByteArray) : Tree × OpenFile :=
  if file.opening = .reading then (tree, file)
  else
    let before := file.contents tree
    let place := if file.opening = .appending then before.size else file.place
    let contents := writtenOver before place bytes
    let file := { file with place := place + bytes.size }
    if file.detached.isSome then (tree, { file with detached := some contents })
    else (tree.overwrite file.location contents, file)

/-- Whether some bytes begin with others. -/
def beginsWith (bytes front : ByteArray) : Bool :=
  (bytes.extract 0 front.size).data == front.data

/-- The file after a program has changed the tree. A file that only grew is the
same; one with the contents of a file that is gone has been moved. -/
def following (before after : Tree) (file : OpenFile) : OpenFile :=
  match file.detached, before.lookup file.location with
  | none, some (.file contents executable) =>
    match after.lookup file.location with
    | some (.file found _) =>
      if beginsWith found contents then file else { file with detached := some contents }
    | _ =>
      let isTarget : Location × Entry → Bool
        | (location, .file found isProgram) =>
          found.data == contents.data && isProgram == executable && !before.contains location
        | _ => false
      match after.entries.find? isTarget with
      | some (location, _) => { file with location }
      | none => { file with detached := some contents }
  | _, _ => file

end OpenFile

end ReleasePilot.Script
