import ReleasePilot.Program.Format
import ReleasePilot.Program.Quantity
import ReleasePilot.Text.Integer

/-!
# Printing by a format

Each directive of a format inserts the next argument. The format is used as
often as it takes to insert all of them.
-/

namespace ReleasePilot

namespace Format

/-- What is printed by a format so far, and what is left to insert. -/
structure Printing where
  /-- The printed characters, the last one first. -/
  printed : List Char := []
  arguments : List RawText
  complaints : List RawText := []
  status : Nat := 0
  /-- Whether nothing more is to be printed. -/
  stopped : Bool := false
deriving DecidableEq, Repr

/-- A step of printing. -/
abbrev Step (Result : Type) := StateM Printing Result

/-- Says what is wrong without any consequence. -/
def warn (complaint : RawText) : Step Unit :=
  modify fun printing => { printing with complaints := printing.complaints ++ [complaint] }

/-- Says what is wrong with an argument. -/
def complain (complaint : RawText) : Step Unit := do
  warn complaint
  modify fun printing => { printing with status := 1 }

/-- Gives up printing. -/
def giveUp (complaint : RawText) (status : Nat) : Step Unit := do
  warn complaint
  modify fun printing => { printing with status, stopped := true }

/-- Stops all printing because of an escape. In the extended dialect nothing
that was wrong before counts then. -/
def stop (dialect : Dialect) : Step Unit :=
  modify fun printing =>
    let status := if dialect = .extended then 0 else printing.status
    { printing with status, stopped := true }

/-! ## Arguments -/

/-- The next argument, if there is one. -/
def nextArgument? : Step (Option RawText) :=
  modifyGet fun printing =>
    (printing.arguments.head?, { printing with arguments := printing.arguments.tail })

/-- The next argument as a text; a missing one is empty. -/
def nextText : Step RawText :=
  return (← nextArgument?).getD ""

/-- Complains about an argument that is no number, or not one as a whole, or out
of range. What follows the number is given, if there is one. -/
def judge (dialect : Dialect) (argument : RawText) (rest : Option (List Char))
    (outOfRange : Bool) : Step Unit := do
  match dialect, rest with
  | _, none => unless argument.isEmpty do complain (dialect.notNumber argument)
  | .plain, some (_ :: _) => complain (dialect.notConverted argument)
  | .plain, some [] => if outOfRange then complain (dialect.outOfRange argument)
  | .extended, some rest =>
    if outOfRange then complain (dialect.outOfRange argument)
    else unless rest.isEmpty do complain (dialect.notConverted argument)

/-- The number of the first character of some text, and the text behind it. In
the extended dialect a character may be more than a byte. -/
def firstNumber (dialect : Dialect) (text : RawText) : Nat × RawText :=
  let bytes := (RawText.bytes text).toList
  let single := ((bytes.headD 0).toNat, String.ofList (text.toList.drop 1))
  match dialect, bytes with
  | .extended, first :: rest =>
    match Text.leadingByte? first with
    | some (count, low, high) =>
      let taken := (Text.takeContinuation low high count rest).1
      if taken.length = count then
        (Text.codePoint first taken, String.ofList (text.toList.drop (count + 1)))
      else single
    | none => single
  | _, _ => single

/-- The number of the character behind a quote, which an argument may begin with. -/
def quotedNumber? (dialect : Dialect) (argument : RawText) : Step (Option Nat) := do
  match argument.toList with
  | quote :: text =>
    if (quote = '\'' ∨ quote = '"') ∧ (dialect = .plain ∨ ¬text.isEmpty) then
      let (number, rest) := firstNumber dialect (String.ofList text)
      if dialect = .extended ∧ rest ≠ "" then
        warn ("warning: " ++ rest ++
          ": character(s) following character constant have been ignored")
      return some number
    else return none
  | [] => return none

/-- The next argument as an integer, which may have to be one without a sign. -/
def nextInteger (dialect : Dialect) (signed : Bool) : Step Int := do
  match ← nextArgument? with
  | none => return 0
  | some argument =>
    if let some number ← quotedNumber? dialect argument then return number
    let found := Text.spanSigned? Text.spanNumber argument.toList
    let value := (found.map Prod.fst).getD 0
    let nearest : Int :=
      if signed then Text.saturated value
      else if Text.integerCount ≤ value.natAbs then Text.integerCount - 1
      else value
    judge dialect argument (found.map Prod.snd) (nearest ≠ value)
    return nearest

/-- The next argument as a number with its sign. -/
def nextQuantity (dialect : Dialect) : Step (Bool × Quantity) := do
  match ← nextArgument? with
  | none => return (false, .finite .zero)
  | some argument =>
    if let some number ← quotedNumber? dialect argument then
      return (false, .finite { numerator := number, denominator := 1 })
    match Quantity.span? dialect.accuracy argument.toList with
    | some reading =>
      judge dialect argument (some reading.rest) reading.outOfRange
      return (reading.negative, reading.quantity)
    | none =>
      judge dialect argument none false
      return (false, .finite .zero)

/-- The number of values of a width or a precision. -/
def amountCount : Nat := 4294967296

/-- The value of a width or a precision, which is given up if it has no meaning.
One below all that can be given has a meaning only as a precision, which is left
out then. -/
def amount (dialect : Dialect) (what : RawText) (isPrecision : Bool) : Amount → Step Int
  | .given value => return value
  | .argument => do
    let argument := (← get).arguments.headD ""
    let value ← nextInteger dialect true
    let kept := Int.bmod value amountCount
    if dialect = .plain ∨ kept = value then return kept
    else if isPrecision ∧ value < 0 then return -1
    else
      giveUp ("invalid " ++ what ++ ": " ++ dialect.shown argument) 1
      return 0

/-! ## Insertion -/

/-- A text filled up to a width. Zeros stand behind the sign of a number. -/
def padded (flags : List Char) (width : Nat) (zeros : Bool) (sign text : List Char) :
    List Char :=
  let missing := width - (sign.length + text.length)
  if flags.contains '-' then sign ++ text ++ List.replicate missing ' '
  else if zeros ∧ flags.contains '0' then sign ++ List.replicate missing '0' ++ text
  else List.replicate missing ' ' ++ sign ++ text

/-- The sign of a number, as the flags ask for it. -/
def signOf (flags : List Char) (negative : Bool) : List Char :=
  if negative then ['-']
  else if flags.contains '+' then ['+']
  else if flags.contains ' ' then [' ']
  else []

/-- The sign and the digits of an integer. Zero has no digits unless some are asked for. -/
def integerDigits (flags : List Char) (kind : Char) (precision : Nat) (value : Int) :
    List Char × List Char :=
  let digits (base number : Nat) : List Char :=
    if number = 0 then List.replicate precision '0' else Fraction.digits base precision number
  let bits := (value % Int.ofNat Text.integerCount).toNat
  let marked := flags.contains '#'
  match kind with
  | 'o' =>
    let written := digits 8 bits
    ([], if marked ∧ written.head? ≠ some '0' then '0' :: written else written)
  | 'x' => (if marked ∧ bits ≠ 0 then ['0', 'x'] else [], digits 16 bits)
  | 'X' => (if marked ∧ bits ≠ 0 then ['0', 'X'] else [], (digits 16 bits).map Char.toUpper)
  | 'u' => ([], digits 10 bits)
  | _ => (signOf flags (value < 0), digits 10 value.natAbs)

/-- Prints characters. -/
def put (text : List Char) : Step Unit :=
  modify fun printing => { printing with printed := text.reverse ++ printing.printed }

/-- Inserts a number that need not be whole. Only the digits of one can be
preceded by zeros. -/
def putQuantity (dialect : Dialect) (directive : Directive) (flags : List Char) (width : Nat)
    (precision : Option Nat) : Step Unit := do
  let (negative, quantity) ← nextQuantity dialect
  let (isFinite, written) :=
    match quantity with
    | .finite fraction =>
      (true, fraction.written dialect.accuracy directive.kind.toLower (flags.contains '#')
        precision)
    | .infinite => (false, "inf".toList)
    | .undefined => (false, "nan".toList)
  let written := if directive.kind.isUpper then written.map Char.toUpper else written
  let marker := if directive.kind.toLower = 'a' ∧ isFinite then written.take 2 else []
  put (padded flags width isFinite (signOf flags negative ++ marker)
    (written.drop marker.length))

/-- Inserts an argument. -/
def insert (dialect : Dialect) (directive : Directive) : Step Unit := do
  let width ← directive.width.mapM (amount dialect "field width" false)
  let flags := if width.any (· < 0) then '-' :: directive.flags else directive.flags
  let width := (width.getD 0).natAbs
  let wanted := if (← get).stopped then none else directive.precision
  let precision ← wanted.mapM (amount dialect "precision" true)
  let precision := precision.bind fun value => if value < 0 then none else some value.toNat
  let cut (text : List Char) := text.take (precision.getD text.length)
  unless (← get).stopped do
    if !directive.isKnown dialect then
      let (complaint, status) := dialect.meaningless directive.written
      giveUp complaint status
    else
      match directive.kind with
      | 's' => put (padded flags width false [] (cut (← nextText).toList))
      | 'c' =>
        let character := (← nextText).toList.head?.getD '\x00'
        put (padded flags width false [] [character])
      | 'b' =>
        let (text, stopped) := unescapeArgument dialect (← nextText).toList
        put (padded flags width false [] (cut text))
        if stopped then stop dialect
      | 'q' => put (((← nextArgument?).map Utility.quotedForShell).getD "").toList
      | 'd' | 'i' | 'o' | 'u' | 'x' | 'X' =>
        let value ← nextInteger dialect ("di".toList.contains directive.kind)
        let (sign, digits) := integerDigits flags directive.kind (precision.getD 1) value
        put (padded flags width precision.isNone sign digits)
      | _ => putQuantity dialect directive flags width precision

/-- Prints a part of a format. -/
def useItem (dialect : Dialect) : FormatItem → Step Unit
  | .literal character => put [character]
  | .directive directive => insert dialect directive
  | .incomplete written =>
    let (complaint, status) := dialect.incomplete written
    giveUp complaint status
  | .finish => stop dialect

/-- Prints a format once. -/
def useOnce (dialect : Dialect) : Format → Step Unit
  | [] => pure ()
  | item :: more => do
    unless (← get).stopped do
      useItem dialect item
      useOnce dialect more

/-- Prints a format until no argument is left. -/
def useAll (dialect : Dialect) (format : Format) : Nat → Step Unit
  | 0 => pure ()
  | count + 1 => do
    let before := (← get).arguments
    useOnce dialect format
    let printing ← get
    unless printing.stopped ∨ printing.arguments.isEmpty do
      if printing.arguments ≠ before then useAll dialect format count
      else if dialect = .extended then
        warn ("warning: ignoring excess arguments, starting with " ++
          dialect.shown (before.headD ""))

/-- What a format prints for some arguments. -/
def apply (dialect : Dialect) (text : RawText) (arguments : List RawText) : Printing :=
  ((useAll dialect (read dialect text.toList) (arguments.length + 1)).run { arguments }).2

end Format

end ReleasePilot
