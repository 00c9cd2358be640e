import ReleasePilot.Program.Insertion
import ReleasePilot.Program.Usage
import ReleasePilot.Text.Blank
import ReleasePilot.Tree.Edit

/-!
# Printing utilities

These utilities print something about their arguments and change nothing.
-/

namespace ReleasePilot.Utility

/-- Prints words on a line, with escapes replaced if there are any in their dialect. -/
def printLine (launch : Launch) (escapes : Option Dialect) (newline : Bool)
    (words : List RawText) : Completion :=
  let line := (" ".intercalate words).toList
  let (shown, stopped) := (escapes.map (Format.unescapeArgument · line)).getD (line, false)
  launch.printing (String.ofList (shown ++ if newline && !stopped then ['\n'] else []))

/-- Prints its arguments on a line and replaces escapes. -/
def echoEscaped : Utility := fun launch =>
  match launch.arguments with
  | "-n" :: words => printLine launch (some .plain) false words
  | words => printLine launch (some .plain) true words

/-- Prints its arguments on a line, as its options say. -/
def echo : Utility := fun launch =>
  let isOption (word : RawText) : Bool :=
    match word.toList with
    | '-' :: first :: more => (first :: more).all "neE".toList.contains
    | _ => false
  let letters := (launch.arguments.takeWhile isOption).flatMap fun word => word.toList.drop 1
  let escapes := (letters.filter (· != 'n')).getLast? = some 'e'
  printLine launch (if escapes then some .extended else none) (!letters.contains 'n')
    (launch.arguments.dropWhile isOption)

/-- Prints arguments by a format. -/
def printFormatted (launch : Launch) (dialect : Dialect) (format : RawText)
    (arguments : List RawText) : Completion :=
  let printing := Format.apply dialect format arguments
  let complaints := printing.complaints.map (launch.name ++ ": " ++ · ++ "\n")
  { status := .code printing.status
    output := RawText.bytes (String.ofList printing.printed.reverse)
    errors := RawText.bytes (String.join complaints), tree := launch.tree }

/-- Prints its arguments by a plain format. It has no options. -/
def printfPlain : Utility := fun launch =>
  match launch.arguments with
  | [] | ["--"] => launch.failing "usage: printf format [arg ...]" 2
  | "--" :: format :: arguments => printFormatted launch .plain format arguments
  | format :: arguments =>
    match format.toList with
    | '-' :: letter :: _ => launch.failing ("Illegal option -" ++ String.ofList [letter]) 2
    | _ => printFormatted launch .plain format arguments

/-- Prints its arguments by a format. -/
def printf : Utility := fun launch =>
  match launch.arguments with
  | [] | ["--"] => misused launch "missing operand" 1
  | "--" :: format :: arguments | format :: arguments =>
    printFormatted launch .extended format arguments

/-- Prints the working directory, as it is known by its name on request. -/
def pwd : Utility := fun launch =>
  let here := launch.tree.workingDirectory
  let named := (launch.bindings.lookup "PWD").filter fun path =>
    path.startsWith "/" && (launch.tree.locate (RawText.toText path)).toOption == some here
  withUsage launch { flags := "LP" } fun usage =>
    let path := RawText.ofText (Tree.pathOf here)
    let isNamed := (usage.options.getLast?.map Prod.fst) = some 'L'
    launch.printing ((if isNamed then named.getD path else path) ++ "\n")

/-- A path without its trailing slashes. -/
def withoutSlashes (path : RawText) : RawText :=
  String.ofList (Text.trimEnd (· == '/') path.toList)

/-- The last name of a path, without a given ending. -/
def lastName (ending path : RawText) : RawText :=
  let name :=
    if path ≠ "" ∧ withoutSlashes path = "" then "/"
    else (pathNames (withoutSlashes path)).getLast?.getD ""
  if ending.toList.isSuffixOf name.toList ∧ name ≠ ending then
    String.ofList (name.toList.take (name.length - ending.length))
  else name

/-- Prints the last names of paths. -/
def basename : Utility := fun launch =>
  withUsage launch { flags := "a", valued := "s", ordered := true } fun usage =>
    let print (ending : RawText) (paths : List RawText) : Completion :=
      launch.printing (String.join (paths.map fun path => lastName ending path ++ "\n"))
    match usage.operands with
    | [] => misused launch "missing operand" 1
    | paths =>
      if usage.hasAny "as" then print ((usage.value? 's').getD "") paths
      else
        match paths[2]? with
        | some extra => extraOperand launch extra
        | none => print (paths[1]?.getD "") (paths.take 1)

/-- Prints paths without their last names. -/
def dirname : Utility := fun launch =>
  let above (path : RawText) : RawText :=
    let above := "/".intercalate (pathNames (withoutSlashes path)).dropLast
    if withoutSlashes above ≠ "" then withoutSlashes above
    else if isAbsolutePath path then "/"
    else "."
  withUsage launch { flags := "", ordered := true } fun usage =>
    if usage.operands.isEmpty then misused launch "missing operand" 1
    else launch.printing (String.join (usage.operands.map fun path => above path ++ "\n"))

/-- Prints variables of the environment, or all of them. -/
def printenv : Utility := fun launch =>
  withUsage launch { flags := "0", ordered := true, failure := 2 } fun usage =>
    let ending := if usage.has '0' then "\x00" else "\n"
    match usage.operands with
    | [] =>
      launch.printing (String.join (launch.bindings.map fun (name, value) =>
        name ++ "=" ++ value ++ ending))
    | names =>
      let values := names.filterMap fun name => launch.bindings.lookup name
      { launch.printing (String.join (values.map (· ++ ending))) with
        status := .code (if values.length = names.length then 0 else 1) }

/-! ## Sequences of numbers -/

/-- A number with places behind its point, which are part of its value. -/
structure Decimal where
  value : Int
  places : Nat
deriving DecidableEq, Repr

namespace Decimal

/-- The number that a word writes. -/
def read? (word : RawText) : Option Decimal :=
  let start := word.toList
  let negative := start.head? = some '-'
  let start := if negative ∨ start.head? = some '+' then start.tail else start
  let whole := start.takeWhile Char.isDigit
  let places? : Option (List Char) :=
    match start.drop whole.length with
    | [] => some []
    | '.' :: places => if places.all Char.isDigit then some places else none
    | _ => none
  places?.bind fun places =>
    if whole.isEmpty ∧ places.isEmpty then none
    else
      let value : Int := Nat.ofDigitChars 10 (whole ++ places) 0
      some { value := if negative then -value else value, places := places.length }

/-- The value of a number when it is written with more places. -/
def scaled (number : Decimal) (places : Nat) : Int :=
  number.value * Nat.pow 10 (places - number.places)

/-- A number with all of its places. -/
def written (number : Decimal) : RawText :=
  let digits := Fraction.digits 10 (number.places + 1) number.value.natAbs
  let whole := digits.take (digits.length - number.places)
  let text := Fraction.withPoint false whole (digits.drop whole.length)
  String.ofList (if number.value < 0 then '-' :: text else text)

/-- The numbers from a first one to a last one by a step, which has to lead there. -/
def sequence (first step last : Decimal) : List Decimal :=
  let all := max (max first.places step.places) last.places
  let places := max first.places step.places
  let distance := last.scaled all - first.scaled all
  let count := if step.value = 0 then 0 else (Int.fdiv distance (step.scaled all) + 1).toNat
  (List.range count).map fun index =>
    { value := first.scaled places + step.scaled places * Int.ofNat index, places }

end Decimal

/-- The width of a number as it is written by a word, with a number of places. -/
def writtenWidth (word : RawText) (places : Nat) : Nat :=
  let whole := (word.toList.takeWhile (· != '.')).filter (· != '+')
  let isBare := whole.isEmpty || whole == ['-']
  whole.length + (if isBare then 1 else 0) + (if places = 0 then 0 else places + 1)

/-- A written number filled up with zeros behind its sign. -/
def zeroFilled (width : Nat) (text : RawText) : RawText :=
  let zeros := String.ofList (List.replicate (width - text.length) '0')
  if text.startsWith "-" then "-" ++ zeros ++ String.ofList (text.toList.drop 1) else zeros ++ text

/-- Prints the numbers from a first one to a last one, by a step. -/
def seq : Utility := fun launch =>
  let isNumber (word : RawText) : Bool :=
    match word.toList with
    | '-' :: character :: _ => character.isDigit || character == '.'
    | _ => false
  let options := launch.arguments.takeWhile (!isNumber ·)
  let arguments := if options.length = launch.arguments.length then options
    else options ++ "--" :: launch.arguments.drop options.length
  withUsage { launch with arguments } { flags := "w", valued := "s", ordered := true } fun usage =>
    let words := usage.operands.filter (· ≠ "--")
    let print (first step last : Decimal) : Completion :=
      let numbers := (Decimal.sequence first step last).map Decimal.written
      let places := max first.places step.places
      let bounds := [words.headD "", words.getLastD ""].map (writtenWidth · places)
      let width := ((numbers.map String.length) ++ bounds).foldl max 0
      let numbers := if usage.has 'w' then numbers.map (zeroFilled width) else numbers
      if numbers.isEmpty then launch.printing ""
      else launch.printing (((usage.value? 's').getD "\n").intercalate numbers ++ "\n")
    let one : Decimal := { value := 1, places := 0 }
    match words[3]?, words.find? fun word => (Decimal.read? word).isNone,
        words.filterMap Decimal.read? with
    | some extra, _, _ => extraOperand launch extra
    | none, some wrong, _ =>
      misused launch ("invalid floating point argument: " ++ typographic wrong) 1
    | none, none, [first, step, last] =>
      if step.value = 0 then
        misused launch ("invalid Zero increment value: " ++ typographic (words.getD 1 "")) 1
      else print first step last
    | none, none, [first, last] => print first one last
    | none, none, [last] => print one one last
    | none, none, _ => misused launch "missing operand" 1

/-- Waits for a time, which takes none here. -/
def sleep : Utility := fun launch =>
  let isInterval (word : RawText) : Bool :=
    let digits := word.toList.takeWhile fun character => character.isDigit || character == '.'
    let unit := word.toList.drop digits.length
    digits.any Char.isDigit && (unit.isEmpty || "smhd".toList.any (unit == [·]))
  withUsage launch { flags := "" } fun usage =>
    if usage.operands.isEmpty then misused launch "missing operand" 1
    else
      match usage.operands.filter (!isInterval ·) with
      | [] => launch.printing ""
      | wrong =>
        let complaints := wrong.map fun word => "invalid time interval " ++ typographic word
        misused launch (("\n" ++ launch.name ++ ": ").intercalate complaints) 1

end ReleasePilot.Utility
