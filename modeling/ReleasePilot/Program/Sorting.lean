import ReleasePilot.Program.Reading
import ReleasePilot.Text.Integer

/-!
# Lines in their order

Lines are sorted by keys, of which each is a part of the line that is compared
in its own way. Runs of lines that are the same may be shown once.
-/

namespace ReleasePilot.Utility

/-- The key that lines are sorted by: the fields from one on, up to another one
if there is any. -/
structure SortKey where
  first : Nat := 1
  last : Option Nat := none
  /-- The letters of the ways to compare. -/
  letters : List Char := []
deriving DecidableEq, Repr

namespace SortKey

/-- The key that a text such as `2,3n` writes. -/
def read (text : RawText) : SortKey :=
  let number (field : List Char) : Nat := Nat.ofDigitChars 10 (field.takeWhile Char.isDigit) 0
  let fields := Text.splitAt ',' text.toList
  { first := number (fields.headD []), last := fields[1]?.map number
    letters := text.toList.filter Char.isAlpha }

/-- The fields of a line between blanks, each with the blanks before it. -/
def blankFields : List Char → List (List Char)
  | [] => []
  | character :: rest =>
    let begins :=
      !Text.isAsciiBlank character && (rest.head?.all Text.isAsciiBlank)
    match blankFields rest with
    | [] => [[character]]
    | field :: more => if begins then [character] :: field :: more else (character :: field) :: more

/-- The part of a line that a key picks. -/
def pick (key : SortKey) (separator : Option Char) (line : List Char) : List Char :=
  let fields :=
    match separator with
    | some separator => Text.splitAt separator line
    | none => blankFields line
  let fields := match key.last with | some last => fields.take last | none => fields
  let text := Text.joinWith separator.toList (fields.drop (key.first - 1))
  if key.letters.contains 'b' then text.dropWhile Text.isAsciiBlank else text

/-- How many places behind its point a number is compared by. -/
def placeCount : Nat := 40

/-- The number at the front of a text, without its point. -/
def number (text : List Char) : Int :=
  let start := text.dropWhile Text.isAsciiBlank
  let digits := if start.head? = some '-' then start.tail else start
  let whole := digits.takeWhile Char.isDigit
  let places :=
    match digits.drop whole.length with
    | '.' :: more => more.takeWhile Char.isDigit
    | _ => []
  let places := places.take placeCount ++ List.replicate (placeCount - places.length) '0'
  let value : Int := Nat.ofDigitChars 10 (whole ++ places) 0
  if start.head? = some '-' then -value else value

/-- How a key orders two lines. -/
def order (key : SortKey) (separator : Option Char) (first second : RawText) : Ordering :=
  let picked (line : RawText) : List Char :=
    let text := key.pick separator line.toList
    if key.letters.contains 'f' then text.map Char.toUpper else text
  let ordering :=
    if key.letters.contains 'n' then compare (number (picked first)) (number (picked second))
    else compare (String.ofList (picked first)) (String.ofList (picked second))
  if key.letters.contains 'r' then ordering.swap else ordering

end SortKey

/-- Prints lines in their order. -/
def sort : Utility := fun launch =>
  withUsage launch { flags := "nrufbs", valued := "kt", failure := 2 } fun usage =>
    let complaint (path : RawText) (fault : Fault) : RawText :=
      (if fault = .isDirectory then "read failed: " else "cannot read: ") ++
        quotedIfNeeded path ++ ": " ++ wording fault
    let (lines, completion) := gather launch usage.operands complaint
    let letters := (usage.options.map Prod.fst).filter "nrfb".toList.contains
    let separator := (usage.value? 't').bind (·.toList.head?)
    let keys := (usage.values 'k').map fun text =>
      let key := SortKey.read text
      if key.letters.isEmpty then { key with letters } else key
    let keys := if keys.isEmpty then [{ letters }] else keys
    let order (first second : RawText) : Ordering :=
      keys.foldl (fun ordering key => ordering.then (key.order separator first second)) .eq
    let lastResort (first second : RawText) : Ordering :=
      if usage.hasAny "us" then .eq
      else if usage.has 'r' then compare second first
      else compare first second
    let sorted := lines.mergeSort fun first second =>
      ((order first second).then (lastResort first second)).isLE
    let shown :=
      if usage.has 'u' then withoutRepeats (fun first second => (order first second).isEq) sorted
      else sorted
    if completion.status = .code 0 then completion.printing (unlines shown)
    else { completion with status := .code 2 }

/-- The runs of lines that are the same, each with its length. -/
def runs (same : RawText → RawText → Bool) (lines : List RawText) : List (Nat × RawText) :=
  lines.foldr (fun line runs =>
    match runs with
    | (count, other) :: more =>
      if same line other then (count + 1, line) :: more else (1, line) :: runs
    | [] => [(1, line)]) []

/-- Prints each run of lines that are the same once. -/
def uniq : Utility := fun launch =>
  withUsage launch { flags := "cdui" } fun usage =>
    let complaint (path : RawText) (fault : Fault) : RawText :=
      (if fault = .isDirectory then "error reading " ++ quoted path else quotedIfNeeded path) ++
        ": " ++ wording fault
    let (lines, completion) := gather launch (usage.operands.take 1) complaint
    let same (first second : RawText) : Bool :=
      if usage.has 'i' then first.toList.map Char.toUpper == second.toList.map Char.toUpper
      else first == second
    let kept := (runs same lines).filter fun (count, _) =>
      (!usage.has 'd' || 1 < count) && (!usage.has 'u' || count == 1)
    let shown := kept.map fun (count, line) =>
      if usage.has 'c' then aligned 7 count ++ " " ++ line else line
    match usage.operands[2]? with
    | some extra => extraOperand launch extra
    | none => completion.printing (unlines shown)

end ReleasePilot.Utility
