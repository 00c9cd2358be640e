/-!
# Integers of 64 bits

Programs calculate with integers of 64 bits, which wrap around. They are read in
base ten, or in base eight or sixteen if they begin with a zero or a zero and
an x.
-/

namespace ReleasePilot.Text

/-- The number of integers of 64 bits. -/
def integerCount : Nat := 18446744073709551616

/-- The integer of 64 bits that differs from a value by a multiple of their number. -/
def wrapped (value : Int) : Int :=
  Int.bmod value integerCount

/-- The nearest integer of 64 bits. -/
def saturated (value : Int) : Int :=
  max (-9223372036854775808) (min 9223372036854775807 value)

/-- The value of a digit in a base of at most sixteen, if it is one. -/
def digit? (base : Nat) (character : Char) : Option Nat :=
  let value :=
    if character.isDigit then character.toNat - '0'.toNat
    else if 'a' ≤ character.toLower ∧ character.toLower ≤ 'f' then
      character.toLower.toNat - 'a'.toNat + 10
    else 16
  if value < base then some value else none

/-- The value of the digits at the front of a text, and what follows them. -/
def spanDigits (base : Nat) (text : List Char) : Nat × List Char :=
  let isDigit (character : Char) := (digit? base character).isSome
  ((text.takeWhile isDigit).foldl (fun value character =>
    value * base + (digit? base character).getD 0) 0, text.dropWhile isDigit)

/-- The number at the front of a text, and what follows it. -/
def spanNumber (text : List Char) : Nat × List Char :=
  match text with
  | '0' :: sign :: character :: rest =>
    if sign.toLower = 'x' ∧ (digit? 16 character).isSome then spanDigits 16 (character :: rest)
    else spanDigits 8 text
  | '0' :: _ => spanDigits 8 text
  | _ => spanDigits 10 text

/-- The blanks of ASCII, line breaks included. -/
def isAsciiBlank (character : Char) : Bool :=
  " \t\n\r\x0b\x0c".toList.contains character

/-- The number with its sign at the front of a text, after blanks, and what
follows it. -/
def spanSigned? (span : List Char → Nat × List Char) (text : List Char) :
    Option (Int × List Char) :=
  let start := text.dropWhile isAsciiBlank
  let (sign, digits) : Int × List Char :=
    match start with
    | '-' :: rest => (-1, rest)
    | '+' :: rest => (1, rest)
    | _ => (1, start)
  if digits.head?.any Char.isDigit then
    let (value, rest) := span digits
    some (sign * value, rest)
  else none

/-- The integer that a text writes, blanks around it left aside. -/
def integer? (span : List Char → Nat × List Char) (text : List Char) : Option Int :=
  match spanSigned? span text with
  | some (value, rest) =>
    if rest.all isAsciiBlank ∧ saturated value = value then some value else none
  | none => none

/-- The number that a run of ASCII digits writes. -/
def natural? (text : List Char) : Option Nat :=
  if !text.isEmpty && text.all Char.isDigit then some (Nat.ofDigitChars 10 text 0) else none

end ReleasePilot.Text
