/-!
# Blank characters

Blank means Unicode's `White_Space` property. The same class decides what is
trimmed from an answer, what may surround a version and what may indent a
declaration, so it is defined once here.
-/

namespace ReleasePilot.Text

/-- The characters with the `White_Space` property. -/
def isBlank (character : Char) : Bool :=
  let code := character.toNat
  (9 ≤ code && code ≤ 13) || code == 0x20 || code == 0x85 || code == 0xA0 ||
    code == 0x1680 || (0x2000 ≤ code && code ≤ 0x200A) || code == 0x2028 ||
    code == 0x2029 || code == 0x202F || code == 0x205F || code == 0x3000

/-- The text after its leading characters of one class. -/
def trimStart (drop : Char → Bool) (text : List Char) : List Char :=
  text.dropWhile drop

/-- The text before its trailing characters of one class. -/
def trimEnd (drop : Char → Bool) (text : List Char) : List Char :=
  (text.reverse.dropWhile drop).reverse

/-- The text without the blank characters at its two ends. -/
def trim (text : List Char) : List Char :=
  trimEnd isBlank (trimStart isBlank text)

end ReleasePilot.Text

namespace ReleasePilot

/-- The string without the blank characters at its two ends. -/
def trimmed (text : String) : String :=
  String.ofList (Text.trim text.toList)

end ReleasePilot
