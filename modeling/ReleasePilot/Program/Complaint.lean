import ReleasePilot.Program.Basic
import ReleasePilot.Text.Split

/-!
# Complaints

What programs say when they are called in a wrong way or cannot go on. Names are
quoted as a shell would read them, so that none can be taken for something else.
-/

namespace ReleasePilot.Utility

/-- A fault without the number that the system gives it. -/
def wording (fault : Fault) : RawText :=
  let message := fault.message.toList
  let before := ((Text.splitOnce? '(' message).map Prod.fst).getD message
  String.ofList (before.reverse.dropWhile (· == ' ')).reverse

/-! ## Names -/

/-- What a name consists of: bytes that are shown as they are, and those that cannot be. -/
inductive Glyph where
  | shown (characters : List Char)
  | hidden (character : Char)
deriving DecidableEq, Repr

/-- The glyphs of some bytes. A control character is hidden, and so are bytes
that make up no character. -/
def glyphs : List UInt8 → List Glyph
  | [] => []
  | first :: rest =>
    let hide := Glyph.hidden (RawText.character first)
    match Text.leadingByte? first with
    | none => hide :: glyphs rest
    | some (count, low, high) =>
      let taken := (Text.takeContinuation low high count rest).1
      let code := Text.codePoint first taken
      let isControl : Bool := code < 0x20 || (0x7F ≤ code && code < 0xA0)
      if taken.length < count then hide :: glyphs rest
      else if isControl then
        hide :: (taken.map fun byte => .hidden (RawText.character byte)) ++
          glyphs (rest.drop taken.length)
      else
        .shown (RawText.character first :: taken.map RawText.character) ::
          glyphs (rest.drop taken.length)
termination_by bytes => bytes.length
decreasing_by
  · exact Nat.lt_succ_self rest.length
  · exact Nat.lt_succ_self rest.length
  · exact Nat.lt_succ_of_le (rest.length_drop ▸ Nat.sub_le _ _)
  · exact Nat.lt_succ_of_le (rest.length_drop ▸ Nat.sub_le _ _)

/-- A character that cannot be shown, as a backslash and a letter or a number. -/
def escaped (character : Char) : List Char :=
  let letters : List (Char × Char) :=
    [('\x07', 'a'), ('\x08', 'b'), ('\t', 't'), ('\n', 'n'), ('\x0b', 'v'), ('\x0c', 'f'),
      ('\r', 'r')]
  match letters.lookup character with
  | some letter => ['\\', letter]
  | none => '\\' :: [64, 8, 1].map fun unit => Nat.digitChar (character.toNat / unit % 8)

/-- Glyphs between single quotes, of which one is open. What cannot stand there
is put into quotes of its own; `inEscapes` tells whether such quotes are open. -/
def singleQuoted (inEscapes : Bool) : List Glyph → List Char
  | [] => ['\'']
  | .hidden character :: rest =>
    (if inEscapes then [] else "'$'".toList) ++ escaped character ++ singleQuoted true rest
  | .shown characters :: rest =>
    if characters = ['\''] then "'\\''".toList ++ singleQuoted false rest
    else (if inEscapes then "''".toList else []) ++ characters ++ singleQuoted false rest

/-- Whether a character means something to a shell wherever it stands. -/
def isShellSign (character : Char) : Bool :=
  " !\"$&'()*;<=>?[\\^\x60|".toList.contains character

/-- Whether a name can stand between double quotes as it is. -/
def fitsDoubleQuotes (name : RawText) : Bool :=
  let isSign (character : Char) : Bool :=
    (isShellSign character && !" '".toList.contains character) ||
      "#~\x7b\x7d".toList.contains character
  !(name.toList.drop 1).any isSign && !(name.toList.take 1).any fun character =>
    isSign character && !"#~".toList.contains character

/-- A name in quotes. Where it holds a single quote, escapes at its end count as
open at its front as well. -/
def quoted (name : RawText) : RawText :=
  let parts := glyphs (RawText.bytes name).toList
  let isHidden : Glyph → Bool
    | .hidden _ => true
    | .shown _ => false
  let hasQuote := name.toList.contains '\''
  if hasQuote && fitsDoubleQuotes name && !parts.any isHidden then "\"" ++ name ++ "\""
  else String.ofList ('\'' :: singleQuoted (hasQuote && parts.getLast?.any isHidden) parts)

/-- A name in quotes where a shell needs them. -/
def quotedForShell (name : RawText) : RawText :=
  let isPlain : Glyph → Bool
    | .hidden _ => false
    | .shown characters => !characters.any isShellSign
  let isBare := name ≠ "" ∧ name ≠ "\x7b" ∧ name ≠ "\x7d" ∧
    ¬(name.startsWith "#" ∨ name.startsWith "~")
  if isBare ∧ (glyphs (RawText.bytes name).toList).all isPlain then name else quoted name

/-- A name in quotes where it needs them, which a colon does. -/
def quotedIfNeeded (name : RawText) : RawText :=
  if name.toList.contains ':' then quoted name else quotedForShell name

/-- A word in the typographic quotes of a complaint. -/
def typographic (word : RawText) : RawText :=
  let closing := RawText.ofText "’"
  let content := (glyphs (RawText.bytes word).toList).flatMap fun
    | .hidden character => escaped character
    | .shown characters =>
      if characters = ['\\'] ∨ characters = closing.toList then '\\' :: characters
      else characters
  RawText.ofText "‘" ++ String.ofList content ++ closing

/-! ## Calls -/

/-- A word between plain quotes. -/
def plainlyQuoted (word : RawText) : RawText :=
  "'" ++ word ++ "'"

/-- A program that has been called in a wrong way. -/
def misused (launch : Launch) (complaint : RawText) (status : Nat) : Completion :=
  launch.failing
    (complaint ++ "\nTry '" ++ launch.name ++ " --help' for more information.") status

end ReleasePilot.Utility
