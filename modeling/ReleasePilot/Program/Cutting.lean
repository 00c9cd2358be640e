import ReleasePilot.Program.Reading
import ReleasePilot.Text.Integer

/-!
# Columns and fields

Of each line, the columns or fields are kept that a list of ranges names.
-/

namespace ReleasePilot.Utility

/-- A range of numbers, which may go on without end. -/
structure Range where
  low : Nat := 1
  high : Option Nat := none
deriving DecidableEq, Repr

namespace Range

/-- Whether a number is in a range. -/
def contains (range : Range) (number : Nat) : Bool :=
  range.low ≤ number && range.high.all (number ≤ ·)

/-- The range that a text such as `3-5` writes, or what is wrong with it. The
ranges are called fields or positions. -/
def read (isField : Bool) (text : RawText) : Except RawText Range :=
  let what := if isField then "field value" else "byte/character position"
  let invalid : RawText := "invalid " ++ what ++ " " ++ typographic text
  let range? : Option Range :=
    match Text.splitAt '-' text.toList with
    | [single] => (Text.natural? single).map fun number => { low := number, high := some number }
    | [low, []] => (Text.natural? low).map fun low => { low }
    | [[], high] => (Text.natural? high).map fun high => { high := some high }
    | [low, high] => do return { low := ← Text.natural? low, high := some (← Text.natural? high) }
    | _ => none
  match range? with
  | none =>
    .error (if text = "-" then "invalid range with no endpoint: -" else invalid)
  | some range =>
    if range.low = 0 ∨ range.high = some 0 ∧ range.low ≤ 1 then
      .error ((if isField then "fields" else "byte/character positions") ++
        " are numbered from 1")
    else if range.high.any (· < range.low) then .error "invalid decreasing range"
    else .ok range

/-- The ranges that a list between commas or blanks writes. -/
def readList (isField : Bool) (list : RawText) : Except RawText (List Range) :=
  (Text.splitWhere (fun character => character == ',' || character == ' ') list.toList).mapM
    fun text => read isField (String.ofList text)

end Range

/-- The items whose numbers, counted from one, are in one of some ranges. -/
def inRanges {Item : Type} (ranges : List Range) (items : List Item) : List Item :=
  (items.zipIdx.filter fun (_, index) => ranges.any (·.contains (index + 1))).map Prod.fst

/-- The fields of a line that are kept, or the whole line if it has only one,
unless such lines are left out. -/
def keptFields (ranges : List Range) (separator : Char) (omitting : Bool) (line : RawText) :
    Option RawText :=
  if line.toList.contains separator then
    some (String.ofList (Text.joinWith [separator]
      (inRanges ranges (Text.splitAt separator line.toList))))
  else if omitting then none
  else some line

/-- Prints columns or fields of lines. -/
def cut : Utility := fun launch =>
  withUsage launch { flags := "sn", valued := "dfcb" } fun usage =>
    let lists := usage.options.filter fun (letter, _) => "fcb".toList.contains letter
    let separator := usage.value? 'd'
    match lists with
    | [] => misused launch "you must specify a list of bytes, characters, or fields" 1
    | (letter, list) :: more =>
      let isField := letter = 'f'
      match Range.readList isField list with
      | .error complaint => misused launch complaint 1
      | .ok ranges =>
        let delimiter := separator.getD "\t"
        if !more.isEmpty then misused launch "only one list may be specified" 1
        else if 1 < delimiter.length then
          misused launch "the delimiter must be a single character" 1
        else if separator.isSome ∧ ¬isField then
          misused launch
            "an input delimiter may be specified only when operating on fields" 1
        else if usage.has 's' ∧ ¬isField then
          misused launch ("suppressing non-delimited lines makes sense\n" ++
            "\tonly when operating on fields") 1
        else
          let complaint (path : RawText) (fault : Fault) : RawText :=
            quotedIfNeeded path ++ ": " ++ wording fault
          let (lines, completion) := gather launch usage.operands complaint
          let kept (line : RawText) : Option RawText :=
            if isField then
              keptFields ranges (delimiter.toList.headD '\x00') (usage.has 's') line
            else some (String.ofList (inRanges ranges line.toList))
          completion.printing (unlines (lines.filterMap kept))

end ReleasePilot.Utility
