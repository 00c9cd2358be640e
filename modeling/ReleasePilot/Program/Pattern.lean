/-!
# Patterns

A pattern matches whole texts. A star stands for any text, a question mark for
any one character and a bracketed set for one of its characters.
-/

namespace ReleasePilot

/-- One item of a pattern. -/
inductive PatternItem where
  | exactly (character : Char)
  | anyCharacter
  | anyText
  | oneOf (ranges : List (Char × Char)) (negated : Bool)
deriving DecidableEq, Repr

/-- A pattern, item by item. -/
abbrev Pattern := List PatternItem

namespace Pattern

/-- All ends of a text, the text itself first. -/
def suffixes : List Char → List (List Char)
  | [] => [[]]
  | character :: rest => (character :: rest) :: suffixes rest

/-- Whether an item that stands for one character stands for this one. -/
def accepts (item : PatternItem) (character : Char) : Bool :=
  match item with
  | .exactly expected => character == expected
  | .anyCharacter | .anyText => true
  | .oneOf ranges negated =>
    ranges.any (fun (low, high) => low ≤ character && character ≤ high) != negated

/-- Whether a pattern matches a whole text. -/
def matchesText : Pattern → List Char → Bool
  | [], text => text.isEmpty
  | .anyText :: more, text => (suffixes text).any (matchesText more)
  | item :: more, text =>
    match text with
    | [] => false
    | character :: rest => accepts item character && matchesText more rest

/-- The characters of a class, by its name. -/
def classes : List (String × List (Char × Char)) :=
  [("alpha", [('A', 'Z'), ('a', 'z')]), ("digit", [('0', '9')]),
    ("alnum", [('0', '9'), ('A', 'Z'), ('a', 'z')]), ("upper", [('A', 'Z')]),
    ("lower", [('a', 'z')]), ("space", [('\t', '\r'), (' ', ' ')]),
    ("blank", [('\t', '\t'), (' ', ' ')]),
    ("punct", [('!', '/'), (':', '@'), ('[', '\x60'), ('\x7b', '~')]), ("print", [(' ', '~')]),
    ("graph", [('!', '~')]), ("cntrl", [('\x00', '\x1f'), ('\x7f', '\x7f')]),
    ("xdigit", [('0', '9'), ('A', 'F'), ('a', 'f')])]

/-- A character of a pattern with whether it may have a meaning of its own. -/
abbrev Sign := Char × Bool

/-- The class that a text names, given what follows its opening bracket and
colon, and the text after its colon and closing bracket. -/
def readClass? (text : List Sign) : Option (List (Char × Char) × List Sign) :=
  let name := (text.map Prod.fst).takeWhile Char.isAlpha
  match text.drop name.length with
  | (':', _) :: (']', _) :: rest =>
    (classes.lookup (String.ofList name)).map fun ranges => (ranges, rest)
  | _ => none

/-- The ranges of a bracketed set, and the text after its bracket. -/
def readRanges? : Nat → List Sign → Option (List (Char × Char) × List Sign)
  | 0, _ | _, [] => none
  | _, (']', true) :: rest => some ([], rest)
  | count + 1, (low, special) :: rest =>
    let add (found : List (Char × Char)) (rest : List Sign) :
        Option (List (Char × Char) × List Sign) :=
      (readRanges? count rest).map fun (ranges, rest) => (found ++ ranges, rest)
    let range (low : Char) (rest : List Sign) : Option (List (Char × Char) × List Sign) :=
      match rest with
      | ('-', _) :: (']', true) :: rest => some ([(low, low), ('-', '-')], rest)
      | ('-', true) :: ('\\', true) :: (high, _) :: rest => add [(low, high)] rest
      | ('-', true) :: (high, _) :: rest => add [(low, high)] rest
      | rest => add [(low, low)] rest
    match (low, special), rest with
    | ('\\', true), (character, _) :: rest => range character rest
    | ('[', true), (':', _) :: inner =>
      match readClass? inner with
      | some (ranges, rest) => add ranges rest
      | none => range low rest
    | _, _ => range low rest

/-- A bracketed set, given the text after its opening bracket. A bracket right
at the start of the set belongs to it. -/
def readSet? (text : List Sign) : Option (PatternItem × List Sign) :=
  let (negated, text) :=
    match text with
    | ('!', true) :: rest => (true, rest)
    | _ => (false, text)
  let read (text : List Sign) := readRanges? (text.length + 1) text
  match text with
  | (']', _) :: rest =>
    (read ((']', false) :: rest)).map fun (ranges, rest) => (.oneOf ranges negated, rest)
  | _ => (read text).map fun (ranges, rest) => (.oneOf ranges negated, rest)

/-- The pattern that a text writes. A bracket that does not open a set stands
for itself. -/
def read (text : List Sign) : Pattern :=
  match text with
  | [] => []
  | ('*', true) :: rest => .anyText :: read rest
  | ('?', true) :: rest => .anyCharacter :: read rest
  | ('\\', true) :: (character, _) :: rest => .exactly character :: read rest
  | ('[', true) :: rest =>
    match readSet? rest with
    | some (item, after) =>
      if after.length ≤ rest.length then item :: read after else .exactly '[' :: read rest
    | none => .exactly '[' :: read rest
  | (character, _) :: rest => .exactly character :: read rest
termination_by text.length

/-- Whether a pattern can match more than one text. -/
def isGeneral (pattern : Pattern) : Bool :=
  pattern.any fun
    | .exactly _ => false
    | .anyCharacter | .anyText | .oneOf _ _ => true

/-- The characters of a pattern that stand for themselves. -/
def plainText (pattern : Pattern) : List Char :=
  pattern.filterMap fun
    | .exactly character => some character
    | .anyCharacter | .anyText | .oneOf _ _ => none

/-! ## Trimming

Several texts with zeros between them may be trimmed like one. What is matched
ends at the next zero. -/

/-- Whether a pattern matches what comes before the first zero of a text. -/
def matchesStart (pattern : Pattern) (text : List Char) : Bool :=
  pattern.matchesText (text.takeWhile (· != '\x00'))

/-- The places at which a text can be cut, up to its first zero or up to its end. -/
def cuts (wholly : Bool) (text : List Char) : List Nat :=
  let length := if wholly then text.length else (text.takeWhile (· != '\x00')).length
  let places := List.range (length + 1)
  if wholly then places.reverse else places

/-- The text after the shortest or the longest beginning that a pattern matches. -/
def trimFront (pattern : Pattern) (longest : Bool) (text : List Char) : List Char :=
  match (cuts longest text).find? fun cut => pattern.matchesStart (text.take cut) with
  | some cut => text.drop cut
  | none => text

/-- The text before the shortest or the longest end that a pattern matches. -/
def trimBack (pattern : Pattern) (longest : Bool) (text : List Char) : List Char :=
  match (cuts (!longest) text).find? fun cut => pattern.matchesStart (text.drop cut) with
  | some cut => text.take cut
  | none => text

end Pattern

end ReleasePilot
