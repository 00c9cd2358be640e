import ReleasePilot.Program.Complaint

/-!
# How programs are used

A program is called with options, each a letter that may have a value, and with
operands. Several letters may share a word; a double hyphen ends the options.
-/

namespace ReleasePilot

/-- The options that a program knows. -/
structure OptionRules where
  /-- The letters without a value. -/
  flags : String
  /-- The letters with a value, which stands in the same word or in the next one. -/
  valued : String := ""
  /-- Whether the first operand ends the options. -/
  ordered : Bool := false
  /-- The status of a program that is called in a wrong way. -/
  failure : Nat := 1
deriving DecidableEq, Repr

/-- The words that a program is called with, told apart. -/
structure Usage where
  /-- The options in their order, with their values. -/
  options : List (Char × RawText) := []
  operands : List RawText := []
deriving DecidableEq, Repr

namespace Usage

/-- Whether an option is given. -/
def has (usage : Usage) (letter : Char) : Bool :=
  usage.options.any (·.1 == letter)

/-- Whether one of some options is given. -/
def hasAny (usage : Usage) (letters : String) : Bool :=
  usage.options.any fun (letter, _) => letters.toList.contains letter

/-- The values of an option, in their order. -/
def values (usage : Usage) (letter : Char) : List RawText :=
  usage.options.filterMap fun (found, value) => if found = letter then some value else none

/-- The last value of an option. -/
def value? (usage : Usage) (letter : Char) : Option RawText :=
  (usage.values letter).getLast?

/-- The usage with another option in front of the others. -/
def withOption (usage : Usage) (letter : Char) (value : RawText) : Usage :=
  { usage with options := (letter, value) :: usage.options }

/-- Whether a word holds options. -/
def isOption (word : RawText) : Bool :=
  word.startsWith "-" && word != "-"

/-- The flags at the front of the letters of a word, and the letters from the
first one that is no flag. -/
def spanFlags (rules : OptionRules) (letters : List Char) : List Char × List Char :=
  letters.span rules.flags.toList.contains

/-- Tells the words of a program apart, or says what is wrong with them. -/
def read (rules : OptionRules) : List RawText → Except RawText Usage
  | [] => .ok {}
  | word :: rest => do
    if word = "--" then return { operands := rest }
    else if !isOption word then
      if rules.ordered then return { operands := word :: rest }
      else
        let usage ← read rules rest
        return { usage with operands := word :: usage.operands }
    else if word.startsWith "--" then
      throw ("unrecognized option " ++ Utility.plainlyQuoted word)
    else
      let (flags, letters) := spanFlags rules (word.toList.drop 1)
      let withFlags (usage : Usage) : Usage :=
        { usage with options := flags.map (fun flag => (flag, "")) ++ usage.options }
      match letters with
      | [] => return withFlags (← read rules rest)
      | letter :: value =>
        if !rules.valued.toList.contains letter then
          throw ("invalid option -- " ++ Utility.plainlyQuoted (String.ofList [letter]))
        else
          match value, rest with
          | [], given :: rest => return withFlags ((← read rules rest).withOption letter given)
          | [], [] =>
            throw ("option requires an argument -- " ++
              Utility.plainlyQuoted (String.ofList [letter]))
          | value, rest =>
            return withFlags ((← read rules rest).withOption letter (String.ofList value))

end Usage

namespace Utility

/-- Runs a program with what it is called with. -/
def withUsage (launch : Launch) (rules : OptionRules) (run : Usage → Completion) : Completion :=
  match Usage.read rules launch.arguments with
  | .ok usage => run usage
  | .error complaint => misused launch complaint rules.failure

/-- Complains about an operand that there is no use for. -/
def extraOperand (launch : Launch) (operand : RawText) : Completion :=
  misused launch ("extra operand " ++ typographic operand) 1

end Utility

end ReleasePilot
