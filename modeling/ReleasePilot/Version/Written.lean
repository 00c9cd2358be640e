import ReleasePilot.Text.Blank
import ReleasePilot.Text.Folding
import ReleasePilot.Text.Split
import ReleasePilot.Version.Basic

/-!
# Written versions

A version may be written in many ways: with a `v` in front, with long or short
names for its parts, with one separator around each name, in either case. The
reader takes the text apart into the numerals and names as they are written
(`Written`); what they stand for is a separate step (`Written.version?`).

Each part begins with a character that no earlier part can go on with, so that
every part may be read as far as it reaches, without going back. The one real
choice is a hyphen and a number after the bare name of a pre-release: it is the
number of the pre-release, not a post-release.
-/

namespace ReleasePilot

namespace Version

/-- The parts of a version as they are written; a part without a numeral has
the empty run of digits. -/
structure Written where
  epoch : List Char
  release : List (List Char)
  pre : Option (Phase × List Char)
  post : Option (List Char)
  dev : Option (List Char)
  label : Option (List Char)
deriving DecidableEq, Repr

/-- The characters that may stand on either side of a name. -/
def isSeparator (character : Char) : Bool :=
  character == '-' || character == '_' || character == '.'

/-- The characters of a local label, letters being taken in any case. -/
def isLabelCharacter (character : Char) : Bool :=
  let folded := Text.fold character
  folded.isDigit || (folded.isAlpha && folded.isLower)

/-- The leading digits of a text. -/
def leadingDigits (text : List Char) : List Char :=
  text.takeWhile Char.isDigit

/-- The text after its leading digits. -/
def afterDigits (text : List Char) : List Char :=
  text.dropWhile Char.isDigit

/-- The text after one separator, if it begins with one. -/
def skipSeparator : List Char → List Char
  | [] => []
  | character :: rest => if isSeparator character then rest else character :: rest

/-- The text after one letter `v`, if it begins with one. -/
def skipMark : List Char → List Char
  | [] => []
  | character :: rest => if Text.fold character = 'v' then rest else character :: rest

/-- The names of a post-release, a longer one before any that it begins with. -/
def postNames : List (String × Unit) :=
  [("post", ()), ("rev", ()), ("r", ())]

/-- The name of a development number. -/
def devNames : List (String × Unit) :=
  [("dev", ())]

/-- Reads one of several names. -/
def readName? {Meaning : Type} (names : List (String × Meaning)) (text : List Char) :
    Option (Meaning × List Char) :=
  names.findSome? fun (name, meaning) =>
    (Text.stripWord? name.toList text).map fun rest => (meaning, rest)

/-- Reads a name with an optional separator before it, one after it and an
optional numeral behind that. -/
def readNamed? {Meaning : Type} (names : List (String × Meaning)) (text : List Char) :
    Option ((Meaning × List Char) × List Char) :=
  (readName? names (skipSeparator text)).map fun (meaning, rest) =>
    let rest := skipSeparator rest
    ((meaning, leadingDigits rest), afterDigits rest)

/-- Reads an optional part: one that is not there takes up no text. -/
def readOptional {Part : Type} (read? : List Char → Option (Part × List Char))
    (text : List Char) : Option Part × List Char :=
  match read? text with
  | some (part, rest) => (some part, rest)
  | none => (none, text)

/-- Reads an epoch, which is a numeral before an exclamation mark. -/
def readEpoch (text : List Char) : List Char × List Char :=
  match leadingDigits text, afterDigits text with
  | digit :: digits, '!' :: rest => (digit :: digits, rest)
  | _, _ => ([], text)

/-- What is left after the leading digits is no longer than the whole. -/
theorem length_afterDigits_le (text : List Char) : (afterDigits text).length ≤ text.length :=
  (List.dropWhile_sublist _).length_le

/-- Reads the further segments of a release, each a point and a numeral. -/
def readSegments (text : List Char) : List (List Char) × List Char :=
  match text with
  | '.' :: rest =>
    match leadingDigits rest with
    | [] => ([], '.' :: rest)
    | digit :: digits =>
      let (segments, after) := readSegments (afterDigits rest)
      ((digit :: digits) :: segments, after)
  | _ => ([], text)
termination_by text.length
decreasing_by
  have := length_afterDigits_le rest
  simp only [List.length_cons]
  omega

/-- Reads a release, which has at least one segment. -/
def readRelease? (text : List Char) : Option (List (List Char) × List Char) :=
  match leadingDigits text with
  | [] => none
  | digit :: digits =>
    let (segments, rest) := readSegments (afterDigits text)
    some ((digit :: digits) :: segments, rest)

/-- Reads a pre-release. -/
def readPre? (text : List Char) : Option ((Phase × List Char) × List Char) :=
  readNamed? Phase.spellings text

/-- Reads a post-release: a hyphen and a numeral, or one of its names. -/
def readPost? (text : List Char) : Option (List Char × List Char) :=
  match text with
  | '-' :: digit :: rest =>
    if digit.isDigit then some (leadingDigits (digit :: rest), afterDigits (digit :: rest))
    else namedPost
  | _ => namedPost
where
  /-- A post-release that is introduced by a name. -/
  namedPost : Option (List Char × List Char) :=
    (readNamed? postNames text).map fun (((), digits), rest) => (digits, rest)

/-- Reads a development number. -/
def readDev? (text : List Char) : Option (List Char × List Char) :=
  (readNamed? devNames text).map fun (((), digits), rest) => (digits, rest)

/-- Whether a text is a local label: segments of letters and digits with one
separator between each two. -/
def isLabel (text : List Char) : Bool :=
  (Text.splitWhere isSeparator text).all fun segment =>
    !segment.isEmpty && segment.all isLabelCharacter

/-- Reads a local label and the end of the text. -/
def readLabel? : List Char → Option (Option (List Char))
  | [] => some none
  | '+' :: label => if isLabel label then some (some label) else none
  | _ => none

/-- Reads a version that has no blanks around it. -/
def readWritten? (text : List Char) : Option Written := do
  let (epoch, text) := readEpoch (skipMark text)
  let (release, text) ← readRelease? text
  let (pre, text) := readOptional readPre? text
  let (post, text) := readOptional readPost? text
  let (dev, text) := readOptional readDev? text
  let label ← readLabel? text
  return { epoch, release, pre, post, dev, label }

/-- A local label in its canonical spelling: ASCII letters in lower case and a
point for every separator. -/
def canonicalLabel (label : List Char) : String :=
  String.ofList <| label.map fun character =>
    if isSeparator character then '.' else character.toLower

/-- The version that the written parts stand for, unless a number exceeds the word. -/
def Written.version? (written : Written) : Option Version := do
  let epoch ← Text.readNumeral? written.epoch
  let release ← written.release.mapM Text.readNumeral?
  let pre ← written.pre.mapM fun (phase, digits) =>
    (Text.readNumeral? digits).map fun number => { phase, number : PreRelease }
  let post ← written.post.mapM Text.readNumeral?
  let dev ← written.dev.mapM Text.readNumeral?
  return { epoch, release, pre, post, dev, label := written.label.map canonicalLabel }

/-- The version that a text writes, blanks around it being allowed. -/
def ofText? (text : String) : Option Version := do
  let written ← readWritten? (Text.trim text.toList)
  written.version?

/-- Reads a version, with the whole text as the cause of a failure. -/
def parse (text : String) : Except ReleaseError Version :=
  match ofText? text with
  | some version => .ok version
  | none => .error (.invalidVersion text)

end Version

end ReleasePilot
