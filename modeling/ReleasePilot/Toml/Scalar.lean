import ReleasePilot.Text.Split
import ReleasePilot.Toml.Value

/-!
# Scalars

Numbers, truth values, dates and times are runs of a few characters, after
which only a blank, a comment, a comma, a closing bracket or the end of the
line can follow. A run is therefore classified as a whole.
-/

namespace ReleasePilot.Toml

/-- The characters that scalars consist of. -/
def isScalarCharacter (character : Char) : Bool :=
  character.isAlphanum || "+-_.:".toList.contains character

/-- Digits with single underscores between them. -/
def isGrouped (isDigit : Char → Bool) (text : List Char) : Bool :=
  (Text.splitAt '_' text).all fun group => !group.isEmpty && group.all isDigit

/-- A decimal number without superfluous zeros in front. -/
def isDecimal (text : List Char) : Bool :=
  isGrouped Char.isDigit text && (text.head? != some '0' || text == ['0'])

/-- The value of a hexadecimal digit. -/
def hexDigit? (character : Char) : Option Nat :=
  if character.isDigit then some (character.toNat - '0'.toNat)
  else if 'a' ≤ character ∧ character ≤ 'f' then some (character.toNat - 'a'.toNat + 10)
  else if 'A' ≤ character ∧ character ≤ 'F' then some (character.toNat - 'A'.toNat + 10)
  else none

/-- Whether a character is a digit of a base up to sixteen. -/
def isDigitOf (base : Nat) (character : Char) : Bool :=
  (hexDigit? character).any (· < base)

/-- The value of digits in a base, all else apart. -/
def digitsValue (base : Nat) (text : List Char) : Nat :=
  (text.filterMap hexDigit?).foldl (fun value digit => value * base + digit) 0

/-- The base that a mark behind a leading zero announces. -/
def baseOfMark? : Char → Option Nat
  | 'x' => some 16
  | 'o' => some 8
  | 'b' => some 2
  | _ => none

/-- A text without the sign in front, and whether that was a minus. -/
def splitSign : List Char → Bool × List Char
  | '+' :: rest => (false, rest)
  | '-' :: rest => (true, rest)
  | text => (false, text)

/-- The first number that an integer cannot be. -/
def integerBound : Nat := 0x8000000000000000

/-- Whether a text is an integer of 64 bits. -/
def isInteger (text : List Char) : Bool :=
  match text with
  | '0' :: mark :: digits =>
    match baseOfMark? mark with
    | some base => isGrouped (isDigitOf base) digits && digitsValue base digits < integerBound
    | none => false
  | _ =>
    let (negative, digits) := splitSign text
    isDecimal digits && digitsValue 10 digits < integerBound + (if negative then 1 else 0)

/-- The least number that does not round to a finite double. -/
def floatBound : Nat :=
  Nat.pow 2 1024 - Nat.pow 2 970

/-- Whether a decimal number, given by its digits and the power of ten behind
them, rounds to a finite double. -/
def isFinite (digits : List Char) (exponent : Int) : Bool :=
  let value := digitsValue 10 digits
  let magnitude := exponent + digits.length
  value == 0 || magnitude < 300 ||
    (magnitude ≤ 400 + digits.length &&
      value * Nat.pow 10 exponent.toNat < floatBound * Nat.pow 10 (-exponent).toNat)

/-- The value of an exponent. -/
def exponentValue (text : List Char) : Int :=
  let (negative, digits) := splitSign text
  if negative then -(digitsValue 10 digits : Int) else digitsValue 10 digits

/-- Whether a text is a float: a decimal number with a fraction, an exponent or
both, or the name of infinity or of no number. A positive number may not round
to infinity. -/
def isFloat (text : List Char) : Bool :=
  let (negative, unsigned) := splitSign text
  if unsigned == "inf".toList || unsigned == "nan".toList then true
  else
    let mantissa := unsigned.takeWhile fun character => character != 'e' && character != 'E'
    let exponent := (unsigned.drop mantissa.length).drop 1
    let whole := mantissa.takeWhile (· != '.')
    let fraction := (mantissa.drop whole.length).drop 1
    let hasExponent := mantissa.length < unsigned.length
    let hasFraction := whole.length < mantissa.length
    let wellFormed :=
      (hasExponent || hasFraction) && isDecimal whole &&
        (!hasFraction || isGrouped Char.isDigit fraction) &&
        (!hasExponent || isGrouped Char.isDigit (splitSign exponent).2)
    let places := (fraction.filter Char.isDigit).length
    let digits := (whole ++ fraction).filter Char.isDigit
    wellFormed && (negative || isFinite digits (exponentValue exponent - places))

/-- The value of exactly `count` leading digits, and the rest. -/
def takeDigits? (count : Nat) (text : List Char) : Option (Nat × List Char) :=
  let digits := text.take count
  if digits.length = count ∧ digits.all Char.isDigit then
    some (digitsValue 10 digits, text.drop count)
  else none

/-- The text after a given first character. -/
def expect? (character : Char) : List Char → Option (List Char)
  | [] => none
  | first :: rest => if first = character then some rest else none

/-- The number of days of a month. -/
def daysOf (year month : Nat) : Nat :=
  if month = 2 then
    if year % 4 = 0 ∧ (year % 100 ≠ 0 ∨ year % 400 = 0) then 29 else 28
  else if [4, 6, 9, 11].contains month then 30
  else 31

/-- The text after a date. -/
def afterDate? (text : List Char) : Option (List Char) := do
  let (year, text) ← takeDigits? 4 text
  let (month, text) ← takeDigits? 2 (← expect? '-' text)
  let (day, text) ← takeDigits? 2 (← expect? '-' text)
  if 1 ≤ month ∧ month ≤ 12 ∧ 1 ≤ day ∧ day ≤ daysOf year month then some text else none

/-- The text after an hour, a colon and a minute. -/
def afterMinutes? (text : List Char) : Option (List Char) := do
  let (hour, text) ← takeDigits? 2 text
  let (minute, text) ← takeDigits? 2 (← expect? ':' text)
  if hour ≤ 23 ∧ minute ≤ 59 then some text else none

/-- The text after a time of day. -/
def afterTime? (text : List Char) : Option (List Char) := do
  let (second, text) ← takeDigits? 2 (← expect? ':' (← afterMinutes? text))
  if 60 < second then none
  else
    match text with
    | '.' :: digit :: rest =>
      if digit.isDigit then some (rest.dropWhile Char.isDigit) else none
    | _ => some text

/-- Whether a text is nothing or the distance from universal time. -/
def isOffset : List Char → Bool
  | [] | ['Z'] | ['z'] => true
  | sign :: rest => (sign == '+' || sign == '-') && afterMinutes? rest == some []

/-- Whether a text is a time of day, perhaps with an offset. -/
def isTimeWithOffset (text : List Char) : Bool :=
  (afterTime? text).any isOffset

/-- Whether a text is a date, a time, or both with a letter between them. -/
def isDateTime (text : List Char) : Bool :=
  match afterDate? text with
  | some [] => true
  | some (delimiter :: time) => (delimiter == 'T' || delimiter == 't') && isTimeWithOffset time
  | none => afterTime? text == some []

/-- The kind of a run of scalar characters. -/
def classify? (text : List Char) : Option Scalar :=
  if text == "true".toList || text == "false".toList then some .boolean
  else if isInteger text then some .integer
  else if isFloat text then some .float
  else if isDateTime text then some .dateTime
  else none

/-- Whether a text begins like a time of day, up to the colon. -/
def startsTime (text : List Char) : Bool :=
  match takeDigits? 2 text with
  | some (hour, ':' :: _) => hour ≤ 23
  | _ => false

/-- Reads a scalar. Between a date and a time there may also be a space. -/
def readScalar? (text : List Char) : Option (Value × List Char) := do
  let run := text.takeWhile isScalarCharacter
  let rest := text.dropWhile isScalarCharacter
  match afterDate? run, rest with
  | some [], ' ' :: more =>
    if startsTime more then
      if isTimeWithOffset (more.takeWhile isScalarCharacter) then
        some (.scalar .dateTime, more.dropWhile isScalarCharacter)
      else none
    else some (.scalar .dateTime, rest)
  | _, _ => (classify? run).map fun kind => (.scalar kind, rest)

end ReleasePilot.Toml
