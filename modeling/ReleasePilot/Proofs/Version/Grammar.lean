import ReleasePilot.Proofs.Text.Spelling
import ReleasePilot.Version.Basic

/-!
# The grammar of versions

A version is written `[v][N!]N(.N)*[pre][post][dev][+label]`, where `N` is a run of
digits. A `Derivation` holds every choice that the grammar leaves to the writer;
`characters` is the text that it derives and `Means` tells which version that text
stands for. How a text is read does not enter here.

The grammar is ambiguous in two ways. A separator between two names belongs to
either of them, which makes no difference to the meaning. A hyphen and a number
after the bare name of a pre-release may be its number or a post-release; the
derivations that take it for a post-release are not `Preferred`.
-/

namespace ReleasePilot.Version.Grammar

/-! ## Parts -/

/-- A run of digits. -/
structure Numeral where
  digits : List Char
  nonempty : digits ≠ []
  decimal : ∀ digit ∈ digits, digit.isDigit = true

/-- The number that a numeral writes in base ten. -/
def Numeral.value (numeral : Numeral) : Nat :=
  Nat.ofDigitChars 10 numeral.digits 0

/-- The characters that may stand on either side of a name. -/
inductive Separator where
  | hyphen
  | underscore
  | point

def Separator.character : Separator → Char
  | .hyphen => '-'
  | .underscore => '_'
  | .point => '.'

/-- The text of a separator that may be left out. -/
def separation (separator : Option Separator) : List Char :=
  optionalText (fun separator => [separator.character]) separator

/-- The text of a numeral that may be left out. -/
def numeration (number : Option Numeral) : List Char :=
  optionalText Numeral.digits number

/-- The names of the phases. -/
inductive NamesPhase : String → Phase → Prop where
  | a : NamesPhase "a" .alpha
  | alpha : NamesPhase "alpha" .alpha
  | b : NamesPhase "b" .beta
  | beta : NamesPhase "beta" .beta
  | c : NamesPhase "c" .candidate
  | rc : NamesPhase "rc" .candidate
  | pre : NamesPhase "pre" .candidate
  | preview : NamesPhase "preview" .candidate

/-- The names of a post-release. -/
inductive NamesPost : String → Unit → Prop where
  | post : NamesPost "post" ()
  | rev : NamesPost "rev" ()
  | r : NamesPost "r" ()

/-- The name of a development number. -/
inductive NamesDev : String → Unit → Prop where
  | dev : NamesDev "dev" ()

/-- A part that is told by its name, which may be spelled in any case: a separator,
the name, another separator and a number, of which only the name must be there. -/
structure Named {Meaning : Type} (Names : String → Meaning → Prop) where
  before : Option Separator
  name : String
  meaning : Meaning
  named : Names name meaning
  spelled : List Char
  spelling : List.Forall₂ Text.Matches name.toList spelled
  after : Option Separator
  number : Option Numeral

namespace Named

variable {Meaning : Type} {Names : String → Meaning → Prop}

/-- What follows the name. -/
def tail (part : Named Names) : List Char :=
  separation part.after ++ numeration part.number

def characters (part : Named Names) : List Char :=
  separation part.before ++ (part.spelled ++ part.tail)

/-- The number of the part, which is zero if it is left out. -/
def value (part : Named Names) : Nat :=
  part.number.elim 0 Numeral.value

/-- Nothing follows the name. -/
def IsBare (part : Named Names) : Prop :=
  part.after = none ∧ part.number = none

end Named

/-- A post-release is a hyphen and a number, or told by its name. -/
inductive Post where
  | implicit (number : Numeral)
  | named (part : Named NamesPost)

namespace Post

def characters : Post → List Char
  | .implicit number => '-' :: number.digits
  | .named part => part.characters

/-- The numeral of a post-release, if it has one. -/
def number : Post → Option Numeral
  | .implicit number => some number
  | .named part => part.number

/-- The number of a post-release, which is zero if it is left out. -/
def value (post : Post) : Nat :=
  post.number.elim 0 Numeral.value

end Post

/-- A run of letters and digits, the letters in any case. -/
structure Run where
  characters : List Char
  nonempty : characters ≠ []
  alphanumeric : ∀ character ∈ characters,
    ∃ letter, Text.IsPlain letter ∧ Text.Matches letter character

/-- The runs of a local label, the first one and those behind a separator each. -/
structure Label where
  first : Run
  others : List (Separator × Run)

namespace Label

def characters (label : Label) : List Char :=
  label.first.characters ++
    label.others.flatMap fun (separator, run) => separator.character :: run.characters

theorem characters_nil (first : Run) : characters ⟨first, []⟩ = first.characters :=
  List.append_nil _

theorem characters_cons (first next : Run) (separator : Separator)
    (others : List (Separator × Run)) : characters ⟨first, (separator, next) :: others⟩ =
      first.characters ++ separator.character :: characters ⟨next, others⟩ :=
  rfl

/-- The canonical form of a label: ASCII letters are small, and every separator is a point. -/
def canonical (label : Label) : List Char :=
  label.characters.map fun character =>
    if character = '-' ∨ character = '_' then '.' else character.toLower

end Label

/-! ## Derivations -/

/-- One way of writing a version. -/
structure Derivation where
  mark : Option { character // Text.Matches 'v' character }
  epoch : Option Numeral
  segment : Numeral
  segments : List Numeral
  pre : Option (Named NamesPhase)
  post : Option Post
  dev : Option (Named NamesDev)
  label : Option Label

namespace Derivation

/-- The text of the label with the mark in front of it. -/
def labelText (derivation : Derivation) : List Char :=
  optionalText (fun label => '+' :: label.characters) derivation.label

/-- The text from the development number on. -/
def devText (derivation : Derivation) : List Char :=
  optionalText Named.characters derivation.dev ++ derivation.labelText

/-- The text from the post-release on. -/
def postText (derivation : Derivation) : List Char :=
  optionalText Post.characters derivation.post ++ derivation.devText

/-- The text from the pre-release on. -/
def preText (derivation : Derivation) : List Char :=
  optionalText Named.characters derivation.pre ++ derivation.postText

/-- The text of the further segments, each behind a point. -/
def segmentsText (segments : List Numeral) : List Char :=
  segments.flatMap fun segment => '.' :: segment.digits

/-- The text from the release on. -/
def releaseText (derivation : Derivation) : List Char :=
  derivation.segment.digits ++ (segmentsText derivation.segments ++ derivation.preText)

/-- The text from the epoch on. -/
def epochText (derivation : Derivation) : List Char :=
  optionalText (fun epoch => epoch.digits ++ ['!']) derivation.epoch ++ derivation.releaseText

/-- The text that is derived. -/
def characters (derivation : Derivation) : List Char :=
  optionalText (fun mark => [mark.1]) derivation.mark ++ derivation.epochText

/-- A text is the derived one with blanks around it. -/
def Writes (derivation : Derivation) (text : String) : Prop :=
  ∃ before after, (∀ character ∈ before, Text.isBlank character = true) ∧
    (∀ character ∈ after, Text.isBlank character = true) ∧
    text.toList = before ++ derivation.characters ++ after

/-- What could be the number of a bare pre-release is not taken for a post-release. -/
def Preferred (derivation : Derivation) : Prop :=
  ∀ pre number, derivation.pre = some pre → derivation.post = some (.implicit number) →
    ¬pre.IsBare

/-- The numerals that stand for numbers of the version. -/
def numerals (derivation : Derivation) : List Numeral :=
  derivation.epoch.toList ++ (derivation.segment :: derivation.segments) ++
    (derivation.pre.bind Named.number).toList ++ (derivation.post.bind Post.number).toList ++
    (derivation.dev.bind Named.number).toList

/-- Every number fits a word of 64 bits. -/
def Bounded (derivation : Derivation) : Prop :=
  ∀ numeral ∈ derivation.numerals, numeral.value < UInt64.size

/-- The version that a derivation stands for, field by field. -/
structure Means (derivation : Derivation) (version : Version) : Prop where
  epoch : version.epoch.toNat = derivation.epoch.elim 0 Numeral.value
  release : version.release.map UInt64.toNat =
    derivation.segment.value :: derivation.segments.map Numeral.value
  pre : version.pre.map (fun pre => (pre.phase, pre.number.toNat)) =
    derivation.pre.map fun part => (part.meaning, part.value)
  post : version.post.map UInt64.toNat = derivation.post.map Post.value
  dev : version.dev.map UInt64.toNat = derivation.dev.map Named.value
  label : version.label.map String.toList = derivation.label.map Label.canonical

end Derivation

end ReleasePilot.Version.Grammar
