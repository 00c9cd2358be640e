import ReleasePilot.Program.Fraction
import ReleasePilot.Text.Integer

/-!
# Reading numbers

A number is written in base ten or sixteen, with a point and a power, or as one
of the words for what is no number. It is read as the nearest fraction that a
program can keep.
-/

namespace ReleasePilot

/-- What a text stands for where a number is wanted, without its sign. -/
inductive Quantity where
  | finite (fraction : Fraction)
  | infinite
  | undefined
deriving DecidableEq, Repr

namespace Quantity

/-- What is found at the front of a text. -/
structure Reading where
  negative : Bool := false
  quantity : Quantity
  /-- Whether the number is too large or too small to be kept. -/
  outOfRange : Bool := false
  /-- What follows the number. -/
  rest : List Char := []
deriving DecidableEq, Repr

/-- The text behind a word at the front of another one, in any case. -/
def behind? (word text : List Char) : Option (List Char) :=
  if (text.take word.length).map Char.toLower = word then some (text.drop word.length) else none

/-- The text behind the brackets that may follow the word for no number. -/
def behindRemark (text : List Char) : List Char :=
  match text with
  | '(' :: more =>
    match more.dropWhile fun character => character.isAlphanum || character == '_' with
    | ')' :: rest => rest
    | _ => text
  | _ => text

/-- Words for what is no number, and what follows them. -/
def spanWord? (text : List Char) : Option (Quantity × List Char) :=
  match behind? "nan".toList text with
  | some rest => some (.undefined, behindRemark rest)
  | none =>
    ((behind? "infinity".toList text).or (behind? "inf".toList text)).map fun rest =>
      (.infinite, rest)

/-- The digits of a base at the front of a text before and behind a point, and
what follows them. -/
def spanPlaces? (base : Nat) (text : List Char) :
    Option (List Char × List Char × List Char) :=
  let isDigit (character : Char) := (Text.digit? base character).isSome
  let whole := text.takeWhile isDigit
  let (places, rest) :=
    match text.drop whole.length with
    | '.' :: more => (more.takeWhile isDigit, more.dropWhile isDigit)
    | rest => ([], rest)
  if whole.isEmpty ∧ places.isEmpty then none else some (whole, places, rest)

/-- The power behind a letter at the front of a text, and what follows it. -/
def spanPower (letter : Char) (text : List Char) : Int × List Char :=
  match text with
  | first :: more =>
    if first.toLower = letter then
      let (factor, digits) : Int × List Char :=
        match more with
        | '-' :: digits => (-1, digits)
        | '+' :: digits => (1, digits)
        | digits => (1, digits)
      if digits.head?.any Char.isDigit then
        let (value, rest) := Text.spanDigits 10 digits
        (factor * value, rest)
      else (0, text)
    else (0, text)
  | [] => (0, text)

/-- A power that leads beyond all fractions, whatever it is multiplied by. -/
def powerLimit : Nat := 80000

/-- The nearest fraction to digits multiplied by a power, and whether it is out of range. -/
def kept (accuracy : Accuracy) (base powerBase : Nat) (written : List Char) (power : Int) :
    Quantity × Bool :=
  let value := (Text.spanDigits base written).1
  if value = 0 then (.finite .zero, false)
  else if power + (4 * written.length : Nat) < -(powerLimit : Int) then (.finite .zero, true)
  else if (powerLimit : Int) < power then (.infinite, true)
  else
    let exact := Fraction.scaled powerBase { numerator := value, denominator := 1 } power
    let nearest := exact.nearest accuracy
    let differs := exact.isBelow nearest || nearest.isBelow exact
    let smallest := Fraction.powerOfTwo (accuracy.bits - 1 - accuracy.lowest)
    if nearest.isBelow (.powerOfTwo accuracy.highest) then
      (.finite nearest, differs && nearest.isBelow smallest)
    else (.infinite, true)

/-- The digits at the front of a text, with their power, and what follows them. -/
def spanDigits? (accuracy : Accuracy) (text : List Char) : Option Reading :=
  let hexadecimal :=
    (behind? "0x".toList text).bind (spanPlaces? 16)
  match hexadecimal with
  | some (whole, places, rest) =>
    let (power, rest) := spanPower 'p' rest
    let (quantity, outOfRange) :=
      kept accuracy 16 2 (whole ++ places) (power - (4 * places.length : Nat))
    some { quantity, outOfRange, rest }
  | none =>
    (spanPlaces? 10 text).map fun (whole, places, rest) =>
      let (power, rest) := spanPower 'e' rest
      let (quantity, outOfRange) := kept accuracy 10 10 (whole ++ places) (power - places.length)
      { quantity, outOfRange, rest }

/-- The number with its sign at the front of a text, after blanks. -/
def span? (accuracy : Accuracy) (text : List Char) : Option Reading :=
  let start := text.dropWhile Text.isAsciiBlank
  let negative := start.head? = some '-'
  let start := if negative ∨ start.head? = some '+' then start.tail else start
  match spanWord? start with
  | some (quantity, rest) => some { negative, quantity, rest }
  | none => (spanDigits? accuracy start).map fun reading => { reading with negative }

end Quantity

end ReleasePilot
