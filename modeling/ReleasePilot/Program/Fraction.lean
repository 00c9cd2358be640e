/-!
# Fractions

Programs calculate with binary fractions of so many bits. A number is taken as
the nearest of them and written with a given number of digits, rounded from its
exact value; of two equally near numbers the even one is taken.
-/

namespace ReleasePilot

/-- A number that is not negative, as a quotient. -/
structure Fraction where
  numerator : Nat
  denominator : Nat
deriving DecidableEq, Repr

/-- How exactly a program calculates. -/
structure Accuracy where
  /-- How many bits of a fraction are kept. -/
  bits : Nat
  /-- No bit stands for less than one divided by two to this power. -/
  lowest : Nat
  /-- Every fraction is below two to this power. -/
  highest : Nat
deriving DecidableEq, Repr

namespace Accuracy

/-- The accuracy of numbers in eight bytes. -/
def double : Accuracy := { bits := 53, lowest := 1074, highest := 1024 }

/-- The accuracy of numbers in ten bytes. -/
def extended : Accuracy := { bits := 64, lowest := 16445, highest := 16384 }

/-- How many bits stand before the point when a fraction is written in base sixteen. -/
def leadingBits (accuracy : Accuracy) : Nat :=
  (accuracy.bits - 1) % 4 + 1

end Accuracy

namespace Fraction

/-- The fraction that is zero. -/
def zero : Fraction := { numerator := 0, denominator := 1 }

/-- The nearest whole number, the even one of two. -/
def rounded (fraction : Fraction) : Nat :=
  let whole := fraction.numerator / fraction.denominator
  let rest := fraction.numerator % fraction.denominator
  if 2 * rest < fraction.denominator then whole
  else if 2 * rest = fraction.denominator ∧ whole % 2 = 0 then whole
  else whole + 1

/-- A fraction multiplied by a power of a base, which may be negative. -/
def scaled (base : Nat) (fraction : Fraction) : Int → Fraction
  | .ofNat power => { fraction with numerator := fraction.numerator * Nat.pow base power }
  | .negSucc power =>
    { fraction with denominator := fraction.denominator * Nat.pow base (power + 1) }

/-- Whether a fraction is less than another one. -/
def isBelow (first second : Fraction) : Bool :=
  first.numerator * second.denominator < second.numerator * first.denominator

/-- A power of two. -/
def powerOfTwo (power : Int) : Fraction :=
  scaled 2 { numerator := 1, denominator := 1 } power

/-- The power of two that a fraction other than zero reaches. -/
def binaryPower (fraction : Fraction) : Int :=
  let guess : Int := Nat.log2 fraction.numerator - Nat.log2 fraction.denominator
  if fraction.isBelow (powerOfTwo guess) then guess - 1 else guess

/-- The nearest fraction that can be kept, not regarding how large it is. -/
def nearest (accuracy : Accuracy) (fraction : Fraction) : Fraction :=
  if fraction.numerator = 0 then zero
  else
    let unit : Int := max (fraction.binaryPower - (accuracy.bits - 1)) (-accuracy.lowest)
    scaled 2 { numerator := (fraction.scaled 2 (-unit)).rounded, denominator := 1 } unit

/-! ## Writing -/

/-- The digits of a number, filled up with zeros in front. -/
def digits (base count number : Nat) : List Char :=
  let digits := Nat.toDigits base number
  List.replicate (count - digits.length) '0' ++ digits

/-- A number of places that no fraction exceeds. All further places are zero. -/
def placeLimit : Nat := 17000

/-- Digits with a point before some others, which is left out where nothing
follows it unless it is wanted. -/
def withPoint (pointed : Bool) (whole places : List Char) : List Char :=
  if places.isEmpty ∧ ¬pointed then whole else whole ++ '.' :: places

/-- A fraction with a number of places behind its point. -/
def fixed (pointed : Bool) (places : Nat) (fraction : Fraction) : List Char :=
  let counted := min places placeLimit
  let written := digits 10 (counted + 1) (fraction.scaled 10 counted).rounded
  let whole := written.length - counted
  withPoint pointed (written.take whole)
    (written.drop whole ++ List.replicate (places - counted) '0')

/-- The power of ten that a fraction reaches when it is written with a number of
digits behind the first one, and these digits. -/
def leading (places : Nat) (fraction : Fraction) : Int × List Char :=
  if fraction.numerator = 0 then (0, digits 10 (places + 1) 0)
  else
    let whole := (Nat.toDigits 10 (fraction.numerator / fraction.denominator)).length
    let below := (Nat.toDigits 10 (fraction.denominator / fraction.numerator)).length
    let guess : Int :=
      if fraction.denominator ≤ fraction.numerator then whole - 1
      else if fraction.numerator * Nat.pow 10 (below - 1) = fraction.denominator then 1 - below
      else -below
    let counted := min places placeLimit
    let written := Nat.toDigits 10 (fraction.scaled 10 (counted - guess)).rounded
    let zeros := List.replicate (places - counted) '0'
    if written.length = counted + 1 then (guess, written ++ zeros)
    else (guess + 1, written.take (counted + 1) ++ zeros)

/-- A power with the letter before it, its sign and at least a number of digits. -/
def powerPart (letter : Char) (count : Nat) (power : Int) : List Char :=
  letter :: (if power < 0 then '-' else '+') :: digits 10 count power.natAbs

/-- Digits without the zeros at their end. -/
def withoutZeros (written : List Char) : List Char :=
  (written.reverse.dropWhile (· == '0')).reverse

/-- A fraction with a number of digits in all and without needless zeros, in the
shorter way. -/
def general (pointed : Bool) (count : Nat) (fraction : Fraction) : List Char :=
  let places := max count 1 - 1
  let shortened (written : List Char) := if pointed then written else withoutZeros written
  let (power, written) := leading places fraction
  if -4 ≤ power ∧ power ≤ places then
    let written := fixed true (places - power).toNat fraction
    withPoint pointed (written.takeWhile (· != '.'))
      (shortened ((written.dropWhile (· != '.')).drop 1))
  else withPoint pointed (written.take 1) (shortened written.tail) ++ powerPart 'e' 2 power

/-- A fraction in base sixteen with a power of two, with a number of places or
with as many as it takes. -/
def hexadecimal (accuracy : Accuracy) (pointed : Bool) (places : Option Nat)
    (fraction : Fraction) : List Char :=
  let leadingBits := accuracy.leadingBits
  let all := (accuracy.bits - leadingBits) / 4
  let power : Int :=
    if fraction.numerator = 0 then 0
    else
      max fraction.binaryPower (accuracy.bits - 1 - accuracy.lowest) - (leadingBits - 1)
  let count := min (places.getD all) all
  let scaled := ((fraction.scaled 2 (-power)).scaled 16 count).rounded
  let overflows := Nat.pow 16 (count + 1) ≤ scaled
  let power := if overflows then power + 4 else power
  let written := digits 16 (count + 1) (if overflows then scaled / 16 else scaled)
  let whole := written.length - count
  let behind := written.drop whole ++ List.replicate (places.getD 0 - count) '0'
  "0x".toList ++
    withPoint pointed (written.take whole) (if places.isSome then behind else withoutZeros behind)
    ++ powerPart 'p' 1 power

/-- A fraction in the style that a letter stands for. -/
def written (accuracy : Accuracy) (style : Char) (pointed : Bool) (places : Option Nat)
    (fraction : Fraction) : List Char :=
  let count := places.getD 6
  match style with
  | 'a' => hexadecimal accuracy pointed places fraction
  | 'f' => fixed pointed count fraction
  | 'e' =>
    let (power, written) := leading count fraction
    withPoint pointed (written.take 1) written.tail ++ powerPart 'e' 2 power
  | _ => general pointed count fraction

end Fraction

end ReleasePilot
