import ReleasePilot.Program.Basic
import ReleasePilot.Program.Condition
import ReleasePilot.Text.Integer

/-!
# Tests

A test decides something about words or about files. Its status is zero if it
holds, one if it does not and two if its words make no test. Tests may be
negated, joined and put into brackets.
-/

namespace ReleasePilot

/-- Why words make no test. -/
inductive TestFault where
  | unexpected (word : RawText)
  | argumentMissing (operator : RawText)
  | bracketOpen
  | notNumber (word : RawText)
deriving DecidableEq, Repr

/-- The fault in words. -/
def TestFault.message : TestFault → RawText
  | .unexpected "" => "unexpected operator"
  | .unexpected word => word ++ ": unexpected operator"
  | .argumentMissing operator => operator ++ ": argument expected"
  | .bracketOpen => "closing paren expected"
  | .notNumber word => "Illegal number: " ++ word

namespace Test

/-- The tests on two words. -/
def binaryOperators : List RawText :=
  ["=", "!=", "<", ">", "-eq", "-ne", "-lt", "-le", "-gt", "-ge", "-nt", "-ot", "-ef"]

/-- The number that a word has to be. -/
def number (word : RawText) : Except TestFault Int :=
  match Text.integer? (Text.spanDigits 10) word.toList with
  | some value => .ok value
  | none => .error (.notNumber word)

/-- Whether a word holds with a test on it. -/
def unary (tree : Tree) (operator word : RawText) : Except TestFault Bool :=
  if operator = "-t" then do
    let _ ← number word
    return false
  else .ok (Condition.unary tree operator word)

/-- Whether two words hold with a test between them. None of two files is newer
than the other one. -/
def binary (tree : Tree) (left operator right : RawText) : Except TestFault Bool :=
  match Condition.textOperators.lookup operator, Condition.numericOperators.lookup operator with
  | some holds, _ => .ok (holds left right)
  | none, some holds => do return holds (← number left) (← number right)
  | none, none => .ok (operator = "-ef" && Condition.isSamePlace tree left right)

/-- The role of the first of some words. -/
inductive Role where
  | finish
  | operand
  | unary
  | binary
  | sign (text : RawText)
deriving DecidableEq, Repr

/-- The role of the first of some words. A word that looks like a test on
another one is an operand if there is none to test. -/
def role : List RawText → Role
  | [] => .finish
  | word :: rest =>
    if Condition.unaryOperators.contains word then
      match rest with
      | [] => .operand
      | [_] => .unary
      | next :: _ => if binaryOperators.contains next then .operand else .unary
    else if binaryOperators.contains word then .binary
    else if word = "(" then if rest.isEmpty then .operand else .sign word
    else if ["!", "-a", "-o", ")"].contains word then .sign word
    else .operand

mutual

/-- Whether one of some tests holds, and the words behind them. -/
def disjunction (fuel : Nat) (tree : Tree) (words : List RawText) :
    Except TestFault (Bool × List RawText) :=
  match fuel with
  | 0 => .error .bracketOpen
  | fuel + 1 => do
    let (first, rest) ← conjunction fuel tree words
    if role rest = .sign "-o" then
      let (second, rest) ← disjunction fuel tree rest.tail
      return (first || second, rest)
    else return (first, rest)

/-- Whether all of some tests hold, and the words behind them. -/
def conjunction (fuel : Nat) (tree : Tree) (words : List RawText) :
    Except TestFault (Bool × List RawText) :=
  match fuel with
  | 0 => .error .bracketOpen
  | fuel + 1 => do
    let (first, rest) ← negation fuel tree words
    if role rest = .sign "-a" then
      let (second, rest) ← conjunction fuel tree rest.tail
      return (first && second, rest)
    else return (first, rest)

/-- Whether a test that may be negated holds, and the words behind it. -/
def negation (fuel : Nat) (tree : Tree) (words : List RawText) :
    Except TestFault (Bool × List RawText) :=
  match fuel with
  | 0 => .error .bracketOpen
  | fuel + 1 =>
    if role words = .sign "!" then do
      let (result, rest) ← negation fuel tree words.tail
      return (!result, rest)
    else single fuel tree words

/-- Whether a single test holds, and the words behind it. -/
def single (fuel : Nat) (tree : Tree) (words : List RawText) :
    Except TestFault (Bool × List RawText) :=
  match fuel with
  | 0 => .error .bracketOpen
  | fuel + 1 =>
    match role words, words with
    | .sign "(", _ :: inner =>
      if role inner = .sign ")" then .ok (false, inner.tail)
      else do
        let (result, rest) ← disjunction fuel tree inner
        if role rest = .sign ")" then return (result, rest.tail) else .error .bracketOpen
    | .unary, operator :: word :: rest => do return (← unary tree operator word, rest)
    | _, word :: rest =>
      if role rest = .binary then
        match rest with
        | operator :: right :: rest => do return (← binary tree word operator right, rest)
        | operator :: [] => .error (.argumentMissing operator)
        | [] => .ok (word ≠ "", [])
      else .ok (word ≠ "", rest)
    | _, [] => .ok (false, [])

end

/-- Whether a whole test holds. -/
def whole (tree : Tree) (words : List RawText) : Except TestFault Bool := do
  let (result, rest) ← disjunction (8 * (words.length + 1)) tree words
  match (words.take (words.length - rest.length)).getLast?, rest with
  | some last, _ :: _ => .error (.unexpected last)
  | _, _ => return result

/-- Whether the test that some words make holds. Three and four words are read
so that the most usual tests are not mistaken. -/
def holds (tree : Tree) : List RawText → Except TestFault Bool
  | [] => .ok false
  | [left, operator, right] =>
    if binaryOperators.contains operator then binary tree left operator right
    else if left = "(" ∧ right = ")" then whole tree [operator]
    else if left = "!" then do return !(← whole tree [operator, right])
    else whole tree [left, operator, right]
  | [first, second, third, fourth] =>
    if first = "(" ∧ fourth = ")" then whole tree [second, third]
    else if first = "!" then do return !(← holds tree [second, third, fourth])
    else whole tree [first, second, third, fourth]
  | words => whole tree words

end Test

namespace Utility

/-- A program that ends as a test does, with its faults put into words. -/
def deciding {Fault : Type} (launch : Launch) (result : Except Fault Bool)
    (message : Fault → RawText) : Completion :=
  match result with
  | .ok true => launch.printing ""
  | .ok false => { launch.printing "" with status := .code 1 }
  | .error fault => launch.failing (message fault) 2

/-- Tests its arguments. -/
def testPlain : Utility := fun launch =>
  deciding launch (Test.holds launch.tree launch.arguments) TestFault.message

/-- Tests its arguments, of which the last has to be a bracket. -/
def bracketPlain : Utility := fun launch =>
  if launch.arguments.getLast? = some "]" then
    deciding launch (Test.holds launch.tree launch.arguments.dropLast) TestFault.message
  else launch.failing "missing ]" 2

end Utility

end ReleasePilot
