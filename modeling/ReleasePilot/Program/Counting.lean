import ReleasePilot.Program.Reading
import ReleasePilot.Text.Integer

/-!
# Counting

Lines, words, characters and bytes of files are counted, each file on its own
and all of them together.
-/

namespace ReleasePilot.Utility

/-- What is counted in a file: lines, words, characters and bytes. -/
def countsOf (bytes : ByteArray) : List Nat :=
  let characters := (RawText.ofBytes bytes).toList
  let words := (Text.splitWhere Text.isAsciiBlank characters).filter (· ≠ [])
  let begins (byte : UInt8) : Bool := byte < 0x80 || 0xC0 ≤ byte
  [characters.count '\n', words.length, (bytes.toList.filter begins).length, bytes.size]

/-- The least width of counts for files of unknown length. -/
def unknownWidth : Nat := 7

/-- The width of the columns, so that the sizes of all files fit. -/
def countWidth (launch : Launch) (paths : List RawText) : Nat :=
  let sizes := paths.map fun path =>
    match launch.tree.followedAt? (RawText.toText path) with
    | some (.file contents _) => if path = "-" then none else some contents.size
    | found => if path = "-" || found.isSome then none else some 0
  let known := (toString (sizes.foldl (fun total size => total + size.getD 0) 0)).length
  if paths.isEmpty || sizes.any Option.isNone then max unknownWidth known else known

/-- Counts the lines, words and bytes of files. -/
def wc : Utility := fun launch =>
  withUsage launch { flags := "lwmc" } fun usage =>
    let paths := usage.operands
    let isWanted (letter : Char) : Bool :=
      if usage.options.isEmpty then letter != 'm' else usage.has letter
    let chosen (counts : List Nat) : List Nat :=
      (counts.zip ['l', 'w', 'm', 'c']).filterMap fun (count, letter) =>
        if isWanted letter then some count else none
    let isSingle := (chosen [0, 0, 0, 0]).length = 1 ∧ paths.length ≤ 1
    let width := if isSingle then 1 else countWidth launch paths
    let line (counts : List Nat) (name : RawText) : ByteArray :=
      let numbers := (chosen counts).map (aligned width)
      RawText.bytes (" ".intercalate (numbers ++ if name = "" then [] else [name]) ++ "\n")
    let change (total : List Nat) (path : RawText) (bytes : ByteArray) : List Nat × ByteArray :=
      let name := if path.toList.contains '\n' then quotedIfNeeded path else path
      let counts := countsOf bytes
      (total.zipWith (· + ·) counts, line counts (if paths.isEmpty then "" else name))
    let complaint (path : RawText) (fault : Fault) : RawText :=
      if path = "" then "invalid zero-length file name"
      else quotedIfNeeded path ++ ": " ++ wording fault
    let (total, completion) := readFiles launch { change, complaint } [0, 0, 0, 0] paths
    if paths.length ≤ 1 then completion else completion.printing (line total "total")

end ReleasePilot.Utility
