import ReleasePilot.Program.Reading
import ReleasePilot.Text.Integer

/-!
# Showing files

Files are shown as a whole, with marks for what cannot be seen, or only from
their beginning or up to their end.
-/

namespace ReleasePilot.Utility

/-! ## Whole files -/

/-- What is known about the lines that were shown so far. -/
structure LineState where
  /-- The number of the next line. -/
  number : Nat := 1
  /-- Whether a line begins here. -/
  fresh : Bool := true
  /-- Whether the line before was empty. -/
  blank : Bool := false
deriving DecidableEq, Repr

/-- A byte with marks in place of what cannot be seen, line breaks and
tabulators aside. -/
def visible (character : Char) : List Char :=
  let low (code : Nat) : List Char :=
    if code < 32 then ['^', Char.ofNat (code + 64)]
    else if code = 127 then ['^', '?']
    else [Char.ofNat code]
  let code := character.toNat
  if code < 128 then low code else 'M' :: '-' :: low (code - 128)

/-- The characters of a file as options ask for them to be shown. -/
def decorated (usage : Usage) (state : LineState) : List Char → LineState × List Char
  | [] => (state, [])
  | character :: rest =>
    let isEmpty := state.fresh && character == '\n'
    let counts := usage.has 'b' && !isEmpty || usage.has 'n' && !usage.has 'b'
    if isEmpty && state.blank && usage.has 's' then decorated usage state rest
    else
      let number := if state.fresh && counts then (aligned 6 state.number ++ "\t").toList else []
      let shown :=
        if character = '\n' then if usage.hasAny "EeA" then "$\n".toList else ['\n']
        else if character = '\t' then if usage.hasAny "TtA" then "^I".toList else ['\t']
        else if usage.hasAny "vetA" then visible character
        else if usage.has 'E' ∧ character = '\r' ∧ rest.head? = some '\n' then "^M".toList
        else [character]
      let after : LineState :=
        { number := state.number + (if number.isEmpty then 0 else 1)
          fresh := character == '\n', blank := isEmpty }
      let (last, more) := decorated usage after rest
      (last, number ++ shown ++ more)

/-- Prints files one after the other. -/
def cat : Utility := fun launch =>
  withUsage launch { flags := "nbsETAetuv" } fun usage =>
    let isPlain := usage.options.all (·.1 == 'u')
    let change (state : LineState) (_ : RawText) (bytes : ByteArray) : LineState × ByteArray :=
      if isPlain then (state, bytes)
      else
        let (state, shown) := decorated usage state (RawText.ofBytes bytes).toList
        (state, RawText.bytes (String.ofList shown))
    (readFiles launch { change } {} usage.operands).2

/-! ## Parts of files -/

/-- How much of a file is wanted: a number of bytes or of lines, and whether it
is counted from the other end. -/
structure Extent where
  inBytes : Bool := false
  count : Nat := 10
  signed : Bool := false
deriving DecidableEq, Repr

/-- The extent that a word gives. -/
def Extent.read (sign : Char) (inBytes : Bool) (word : RawText) : Except RawText Extent :=
  let first := word.toList.head?
  let digits := if "+-".toList.any (first = some ·) then word.toList.drop 1 else word.toList
  match Text.natural? digits with
  | some count => .ok { inBytes, count, signed := first = some sign }
  | none =>
    let shown := if first = some '-' then String.ofList (word.toList.drop 1) else word
    .error ("invalid number of " ++ (if inBytes then "bytes: " else "lines: ") ++
      typographic shown)

/-- Words without the old way to give a count in the first of them. -/
def withoutOldCount (sign : Char) : List RawText → List RawText
  | [] => []
  | word :: rest =>
    match word.toList with
    | first :: digits =>
      let isCount := (Text.natural? digits).isSome
      if first = '-' ∧ isCount then "-n" :: String.ofList digits :: rest
      else if first = '+' ∧ sign = '+' ∧ isCount ∧ rest.length ≤ 1 then "-n" :: word :: rest
      else word :: rest
    | [] => word :: rest

/-- The extent that options ask for; the last one counts. -/
def Extent.ofUsage (sign : Char) (usage : Usage) : Except RawText Extent :=
  usage.options.foldlM (fun extent (letter, value) =>
    if letter = 'c' ∨ letter = 'n' then Extent.read sign (letter == 'c') value
    else .ok extent) {}

/-- Prints the parts of files that options ask for, with headings over several. -/
def printParts (launch : Launch) (sign : Char) (part : Extent → ByteArray → ByteArray) :
    Completion :=
  let launch := { launch with arguments := withoutOldCount sign launch.arguments }
  withUsage launch { flags := "qv", valued := "cn" } fun usage =>
    match Extent.ofUsage sign usage with
    | .error complaint => launch.failing complaint 1
    | .ok extent =>
      let asked := (usage.options.filter fun (letter, _) => letter = 'q' ∨ letter = 'v').getLast?
      let headed := (asked.map (·.1 == 'v')).getD (1 < usage.operands.length)
      let opening (begun : Bool) (path : RawText) : Bool × ByteArray :=
        let name := if path = "-" then "standard input" else path
        let heading := (if begun then "\n" else "") ++ "==> " ++ name ++ " <==\n"
        if headed then (true, RawText.bytes heading) else (begun, ByteArray.empty)
      let complaint (path : RawText) (fault : Fault) : RawText :=
        (if fault = .isDirectory then "error reading " ++ quoted path
          else "cannot open " ++ quoted path ++ " for reading") ++ ": " ++ wording fault
      let change (begun : Bool) (_ : RawText) (bytes : ByteArray) := (begun, part extent bytes)
      let opensOnly := extent.count == 0 && !extent.signed
      if opensOnly ∧ sign = '+' then launch.printing ""
      else
        (readFiles launch { limit := extent.count, opensOnly, complaint, opening, change } false
          usage.operands).2

/-- The first lines of some bytes. -/
def firstLines : Nat → List UInt8 → List UInt8
  | 0, _ => []
  | _ + 1, [] => []
  | count + 1, byte :: rest =>
    byte :: firstLines (if byte = 10 then count else count + 1) rest

/-- The lines of some bytes, each with its line break. -/
def byteLines (bytes : List UInt8) : List (List UInt8) :=
  let (more, first) := bytes.foldr (fun byte (lines, line) =>
    if byte = 10 then (line :: lines, [byte]) else (lines, byte :: line)) ([], [])
  (first :: more).filter (· ≠ [])

/-- Prints the beginning of files. -/
def head : Utility := fun launch =>
  printParts launch '-' fun extent bytes =>
    if extent.inBytes then
      bytes.extract 0 (if extent.signed then bytes.size - extent.count else extent.count)
    else
      let bytes := bytes.toList
      let count :=
        if extent.signed then (byteLines bytes).length - extent.count else extent.count
      ⟨(firstLines count bytes).toArray⟩

/-- Prints the end of files. Where nothing is wanted of them, they are not read at all. -/
def tail : Utility := fun launch =>
  printParts launch '+' fun extent bytes =>
    if extent.inBytes then
      let start := if extent.signed then extent.count - 1 else bytes.size - extent.count
      bytes.extract start bytes.size
    else
      let lines := byteLines bytes.toList
      let start := if extent.signed then extent.count - 1 else lines.length - extent.count
      ⟨(lines.drop start).flatten.toArray⟩

end ReleasePilot.Utility
