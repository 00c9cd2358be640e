import ReleasePilot.Program.Complaint
import ReleasePilot.Program.Fraction

/-!
# Formats

A format is a text with escapes for single characters and directives that
insert arguments. There are two dialects, of which one has more escapes, knows
what a directive may consist of and makes other complaints. All texts are raw.
-/

namespace ReleasePilot

/-- A width or a precision, which an argument may give. -/
inductive Amount where
  | given (value : Nat)
  | argument
deriving DecidableEq, Repr

/-- How one argument is inserted. -/
structure Directive where
  flags : List Char
  width : Option Amount
  precision : Option Amount
  kind : Char
  /-- The directive as it is written. -/
  written : RawText
deriving DecidableEq, Repr

/-- A part of a format. -/
inductive FormatItem where
  | literal (character : Char)
  | directive (directive : Directive)
  /-- A directive that the format does not complete. -/
  | incomplete (written : RawText)
  /-- The end of all printing. -/
  | finish
deriving DecidableEq, Repr

/-- A format, part by part. -/
abbrev Format := List FormatItem

/-- A dialect of formats. -/
inductive Dialect where
  | plain
  | extended
deriving DecidableEq, Repr

namespace Dialect

/-- A word as complaints show it. -/
def shown (dialect : Dialect) (word : RawText) : RawText :=
  match dialect with
  | .plain => word
  | .extended => Utility.typographic word

/-- What is wrong with a word that is no number. -/
def notNumber (dialect : Dialect) (word : RawText) : RawText :=
  match dialect with
  | .plain => dialect.shown word ++ ": expected numeric value"
  | .extended => dialect.shown word ++ ": expected a numeric value"

/-- What is wrong with a word that is more than a number. -/
def notConverted (dialect : Dialect) (word : RawText) : RawText :=
  match dialect with
  | .plain => dialect.shown word ++ ": not completely converted"
  | .extended => dialect.shown word ++ ": value not completely converted"

/-- What is wrong with a number that cannot be kept. -/
def outOfRange (dialect : Dialect) (word : RawText) : RawText :=
  dialect.shown word ++ ": Numerical result out of range"

/-- What is wrong with a directive that has no meaning, and the status that it leads to. -/
def meaningless (dialect : Dialect) (directive : RawText) : RawText × Nat :=
  match dialect with
  | .plain => (directive ++ ": invalid directive", 2)
  | .extended => (directive ++ ": invalid conversion specification", 1)

/-- What is wrong with a directive that is not completed, and the status that it leads to. -/
def incomplete (dialect : Dialect) (written : RawText) : RawText × Nat :=
  match dialect with
  | .plain => ("missing format character", 2)
  | .extended => dialect.meaningless written

/-- How exactly numbers are kept. -/
def accuracy : Dialect → Accuracy
  | .plain => .double
  | .extended => .extended

end Dialect

/-- Whether a directive has a meaning. -/
def Directive.isKnown (dialect : Dialect) (directive : Directive) : Bool :=
  let hasFlag (flag : Char) := directive.flags.contains flag
  let isBare := directive.flags.isEmpty && directive.width.isNone && directive.precision.isNone
  let kind := directive.kind
  match dialect with
  | .plain => "sbcdiouxXeEfFgGaA".toList.contains kind
  | .extended =>
    if kind = 'b' ∨ kind = 'q' then isBare && directive.written.length = 2
    else
      "sdiouxXeEfFgGaA".toList.contains kind && !(hasFlag '#' && "sdiu".toList.contains kind) &&
          !(hasFlag '0' && kind == 's') ||
        kind == 'c' && !hasFlag '#' && !hasFlag '0' && directive.precision.isNone

namespace Format

/-- The octal digits. -/
def isOctalDigit (character : Char) : Bool :=
  '0' ≤ character && character ≤ '7'

/-- The hexadecimal digits. -/
def isHexDigit (character : Char) : Bool :=
  character.isDigit || ('a' ≤ character.toLower && character.toLower ≤ 'f')

/-- The number that hexadecimal digits write. -/
def hexNumber (digits : List Char) : Nat :=
  Nat.ofDigitChars 16 digits 0

/-- The escapes that both dialects share, by their letters. -/
def letterEscapes : List (Char × Char) :=
  [('\\', '\\'), ('a', '\x07'), ('b', '\x08'), ('e', '\x1b'), ('t', '\t'), ('n', '\n'),
    ('v', '\x0b'), ('f', '\x0c'), ('r', '\r')]

/-- Reads the hexadecimal number of an escape. -/
def readHex? (count : Nat) (text : List Char) : Option (Nat × List Char) :=
  let digits := (text.take count).takeWhile isHexDigit
  if digits.isEmpty then none else some (hexNumber digits, text.drop digits.length)

/-- The characters that an escape stands for, given the text after its
backslash, and the text after the escape. A backslash that escapes nothing is
kept; in the extended dialect the next character is kept with it. -/
def readEscape (dialect : Dialect) (text : List Char) : List Char × List Char :=
  let byte (number : Nat) : Char := RawText.character (UInt8.ofNat number)
  let kept := (['\\'], text)
  match text with
  | [] => kept
  | letter :: rest =>
    match letterEscapes.lookup letter with
    | some character => ([character], rest)
    | none =>
      let digits := (text.take 3).takeWhile isOctalDigit
      if !digits.isEmpty then
        ([byte (Nat.ofDigitChars 8 digits 0)], text.drop digits.length)
      else
        match dialect, letter with
        | .extended, '"' => (['"'], rest)
        | .extended, 'x' =>
          ((readHex? 2 rest).map fun (number, after) => ([byte number], after)).getD kept
        | .extended, 'u' =>
          ((readHex? 4 rest).map fun (number, after) =>
            ((RawText.ofText (String.ofList [Char.ofNat number])).toList, after)).getD kept
        | .extended, _ => (['\\', letter], rest)
        | .plain, _ => kept

/-- A text whose escapes are replaced. -/
def unescape (text : List Char) : List Char :=
  match text with
  | [] => []
  | '\\' :: rest =>
    let (characters, after) := readEscape .plain rest
    characters ++ (if after.length ≤ rest.length then unescape after else [])
  | character :: rest => character :: unescape rest
termination_by text.length

/-- An argument whose escapes are replaced, and whether one of them says that
nothing more is to be printed. A zero may stand before octal digits. -/
def unescapeArgument (dialect : Dialect) (text : List Char) : List Char × Bool :=
  match text with
  | [] => ([], false)
  | '\\' :: 'c' :: _ => ([], true)
  | '\\' :: '0' :: rest =>
    let (characters, after) :=
      if (rest.take 1).any isOctalDigit then readEscape dialect rest else (['\x00'], rest)
    if after.length ≤ rest.length then
      let (more, stopped) := unescapeArgument dialect after
      (characters ++ more, stopped)
    else (characters, false)
  | '\\' :: rest =>
    let (characters, after) := readEscape dialect rest
    if after.length ≤ rest.length then
      let (more, stopped) := unescapeArgument dialect after
      (characters ++ more, stopped)
    else (characters, false)
  | character :: rest =>
    let (more, stopped) := unescapeArgument dialect rest
    (character :: more, stopped)
termination_by text.length

/-- A width or a precision at the front of a text, and the text after it. -/
def readAmount (text : List Char) : Option Amount × List Char :=
  match text with
  | '*' :: rest => (some .argument, rest)
  | _ =>
    let digits := text.takeWhile Char.isDigit
    if digits.isEmpty then (none, text)
    else (some (.given (Nat.ofDigitChars 10 digits 0)), text.drop digits.length)

/-- A directive, given the text after its percent sign. In the extended dialect
letters for the size of a number are skipped. -/
def readDirective? (dialect : Dialect) (text : List Char) : Option (Directive × List Char) :=
  let flags := text.takeWhile "-0+ #".toList.contains
  let (width, rest) := readAmount (text.drop flags.length)
  let (precision, rest) :=
    match rest with
    | '.' :: rest =>
      let (precision, rest) := readAmount rest
      (some (precision.getD (.given 0)), rest)
    | _ => (none, rest)
  let rest := if dialect = .extended then rest.dropWhile "lLhjtz".toList.contains else rest
  match rest with
  | [] => none
  | kind :: rest =>
    let written := String.ofList ('%' :: text.take (text.length - rest.length))
    some ({ flags, width, precision, kind, written }, rest)

/-- The format that a text writes. In the extended dialect an escape may end it. -/
def read (dialect : Dialect) (text : List Char) : Format :=
  match text with
  | [] => []
  | '%' :: '%' :: rest => .literal '%' :: read dialect rest
  | '%' :: rest =>
    match readDirective? dialect rest with
    | some (directive, after) =>
      .directive directive :: (if after.length ≤ rest.length then read dialect after else [])
    | none => [.incomplete (String.ofList ('%' :: rest))]
  | '\\' :: rest =>
    if dialect = .extended ∧ rest.head? = some 'c' then [.finish]
    else
      let (characters, after) := readEscape dialect rest
      characters.map .literal ++ (if after.length ≤ rest.length then read dialect after else [])
  | character :: rest => .literal character :: read dialect rest
termination_by text.length

end Format

end ReleasePilot
