import ReleasePilot.Program.Complaint
import ReleasePilot.Program.Testing
import ReleasePilot.Text.Integer

/-!
# Tests read by their length

The number of the words of a test decides how it is read, so that a word is not
mistaken for an operator. Only longer tests are read as terms that are joined.
-/

namespace ReleasePilot

namespace CountedTest

/-- Why words make no test. -/
inductive Fault where
  /-- The last word needs another one behind it. -/
  | incomplete
  | notUnary (word : RawText)
  | notBinary (word : RawText)
  | notNumber (word : RawText)
  | bracketOpen (found : Option RawText)
  | extra (word : RawText)
deriving DecidableEq, Repr

/-- What is wrong with the words of a test. -/
def Fault.message (words : List RawText) : Fault → RawText
  | .incomplete => "missing argument after " ++ Utility.typographic (words.getLastD "")
  | .notUnary word => Utility.typographic word ++ ": unary operator expected"
  | .notBinary word => Utility.typographic word ++ ": binary operator expected"
  | .notNumber word => "invalid integer " ++ Utility.typographic word
  | .bracketOpen none => Utility.typographic ")" ++ " expected"
  | .bracketOpen (some found) =>
    Utility.typographic ")" ++ " expected, found " ++ Utility.typographic found
  | .extra word => "extra argument " ++ Utility.typographic word

/-- Takes words from the front of those that are left. -/
abbrev Reader (Result : Type) := StateT (List RawText) (Except Fault) Result

/-- Drops a word, behind which there may have to be another one. -/
def advance (needed : Bool) : Reader Unit := do
  let rest := (← get).drop 1
  if needed ∧ rest.isEmpty then throw .incomplete
  set rest

/-- Takes a word. -/
def next : Reader RawText := do
  match ← get with
  | [] => throw .incomplete
  | word :: rest =>
    set rest
    return word

/-- Whether a word is an operator between two others. -/
def isBinary (word : RawText) : Bool :=
  ["=", "==", "!=", "-eq", "-ne", "-lt", "-le", "-gt", "-ge", "-nt", "-ot", "-ef"].contains word

/-- Whether a word is a sign with one character behind it. -/
def isSwitch (word : RawText) : Bool :=
  word.startsWith "-" && word.toList.length == 2

/-- The number that a word has to be. -/
def number (word : RawText) : Reader Int :=
  match Text.spanSigned? (Text.spanDigits 10) word.toList with
  | some (value, rest) =>
    if rest.all fun character => character == ' ' || character == '\t' then return value
    else throw (.notNumber word)
  | none => throw (.notNumber word)

/-- Whether the next word is not empty. -/
def oneWord : Reader Bool :=
  return (← next) ≠ ""

/-- Whether the word behind a switch satisfies its condition. -/
def switchedWord (tree : Tree) : Reader Bool := do
  let operator ← next
  if !Condition.unaryOperators.contains operator then throw (.notUnary operator)
  let word ← next
  if operator = "-t" then let _ ← number word
  return Condition.unary tree operator word

/-- Whether the words around an operator satisfy its condition. Of two files
only one that is there is newer. -/
def dyadic (tree : Tree) : Reader Bool := do
  let left ← next
  let operator ← next
  let right ← next
  let exists? (word : RawText) := (tree.followedAt? (RawText.toText word)).isSome
  match Condition.textOperators.lookup operator, Condition.numericOperators.lookup operator with
  | some holds, _ => return holds left right
  | none, some holds => return holds (← number left) (← number right)
  | none, none =>
    match operator with
    | "-ef" => return Condition.isSamePlace tree left right
    | "-nt" => return exists? left && !exists? right
    | _ => return exists? right && !exists? left

/-- Whether a test of two words holds. -/
def twoWords (tree : Tree) : Reader Bool := do
  match ← get with
  | "!" :: _ =>
    advance true
    return !(← oneWord)
  | first :: _ => if isSwitch first then switchedWord tree else throw .incomplete
  | [] => throw .incomplete

/-- How many words are read as one test between brackets, given those behind the
opening one. -/
def bracketedCount (words : List RawText) : Nat :=
  let inner := ((words.drop 1).takeWhile (· ≠ ")")).length + 1
  if inner ≤ 3 ∨ (inner = 4 ∧ words[4]? = some ")") then inner else words.length

mutual

/-- Whether a test of a number of words holds. -/
def counted (fuel : Nat) (tree : Tree) (count : Nat) : Reader Bool := do
  match fuel with
  | 0 => throw .incomplete
  | fuel + 1 =>
    match count, ← get with
    | 1, _ => oneWord
    | 2, _ => twoWords tree
    | 3, words => threeWords fuel tree words
    | 4, "!" :: words =>
      advance true
      return !(← threeWords fuel tree words)
    | 4, "(" :: _ :: _ :: ")" :: _ =>
      advance false
      let holds ← twoWords tree
      advance false
      return holds
    | _, _ => disjunction fuel tree

/-- Whether a test of three words holds. -/
def threeWords (fuel : Nat) (tree : Tree) (words : List RawText) : Reader Bool := do
  match fuel with
  | 0 => throw .incomplete
  | fuel + 1 =>
    match words with
    | first :: second :: third :: _ =>
      if isBinary second then dyadic tree
      else if first = "!" then
        advance true
        return !(← twoWords tree)
      else if first = "(" ∧ third = ")" then
        advance false
        let holds ← oneWord
        advance false
        return holds
      else if second = "-a" ∨ second = "-o" then disjunction fuel tree
      else throw (.notBinary second)
    | _ => throw .incomplete

/-- Whether one of some joined terms holds. -/
def disjunction (fuel : Nat) (tree : Tree) : Reader Bool := do
  match fuel with
  | 0 => throw .incomplete
  | fuel + 1 =>
    let first ← conjunction fuel tree
    if (← get).head? = some "-o" then
      advance false
      let others ← disjunction fuel tree
      return first || others
    else return first

/-- Whether all of some joined terms hold. -/
def conjunction (fuel : Nat) (tree : Tree) : Reader Bool := do
  match fuel with
  | 0 => throw .incomplete
  | fuel + 1 =>
    let first ← term fuel tree
    if (← get).head? = some "-a" then
      advance false
      let others ← conjunction fuel tree
      return first && others
    else return first

/-- Whether a term holds. -/
def term (fuel : Nat) (tree : Tree) : Reader Bool := do
  match fuel with
  | 0 => throw .incomplete
  | fuel + 1 =>
    match ← get with
    | [] => throw .incomplete
    | "!" :: _ =>
      advance true
      return !(← term fuel tree)
    | "(" :: _ =>
      advance true
      let holds ← counted fuel tree (bracketedCount (← get))
      match ← get with
      | ")" :: _ => advance false
      | [] => throw (.bracketOpen none)
      | found :: _ => throw (.bracketOpen (some found))
      return holds
    | words =>
      if words[1]?.any isBinary ∧ 3 ≤ words.length then dyadic tree
      else if words.head?.any isSwitch then switchedWord tree
      else oneWord

end

/-- Whether the test that some words make holds. -/
def holds (tree : Tree) (words : List RawText) : Except Fault Bool := do
  if words.isEmpty then return false
  let fuel := 8 * (words.length + 1)
  match ← (counted fuel tree words.length).run words with
  | (result, []) => return result
  | (_, extra :: _) => throw (.extra extra)

end CountedTest

namespace Utility

/-- Tests its arguments. -/
def test : Utility := fun launch =>
  let words := launch.arguments
  deciding launch (CountedTest.holds launch.tree words) (CountedTest.Fault.message words)

/-- Tests its arguments, of which the last has to be a bracket. -/
def bracket : Utility := fun launch =>
  let words := launch.arguments.dropLast
  let message : CountedTest.Fault → RawText
    | .bracketOpen none => CountedTest.Fault.message words (.bracketOpen (some "]"))
    | fault => fault.message words
  if launch.arguments.getLast? = some "]" then
    deciding launch (CountedTest.holds launch.tree words) message
  else launch.failing ("missing " ++ typographic "]") 2

end Utility

end ReleasePilot
