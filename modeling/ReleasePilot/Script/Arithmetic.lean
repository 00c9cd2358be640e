import ReleasePilot.Script.Word
import ReleasePilot.Text.Integer

/-!
# Arithmetic

Expressions work on integers of 64 bits, which wrap around. An expression may
set variables; `Expression.evaluate` gives its value with the variables that it
has set. Every text writes an expression: what cannot be read is a flaw in it,
which shows when all before it has been evaluated.
-/

namespace ReleasePilot.Script

/-- What is wrong with an expression. -/
inductive ArithmeticFault where
  | expects (what : String)
  | divisionByZero
  | notNumber (text : RawText)
deriving DecidableEq, Repr

/-- The fault of an expression in words. -/
def ArithmeticFault.message (expression : RawText) : ArithmeticFault → String
  | .expects what => "arithmetic expression: expecting " ++ what ++ ": " ++ doubleQuoted expression
  | .divisionByZero => "arithmetic expression: division by zero: " ++ doubleQuoted expression
  | .notNumber text => "Illegal number: " ++ text

/-- The number that a variable holds. An empty text counts as zero. -/
def numberOf? (text : RawText) : Option Int :=
  if text.isEmpty then some 0 else Text.integer? Text.spanNumber text.toList

/-! ## Expressions -/

/-- An operator between two values. -/
inductive BinaryOperator where
  | times | divide | remainder | plus | minus | shiftLeft | shiftRight
  | less | lessEqual | greater | greaterEqual | equal | different
  | bitAnd | bitXor | bitOr
deriving DecidableEq, Repr

namespace BinaryOperator

/-- The operators by their signs. -/
def signs : List (String × BinaryOperator) :=
  [("*", times), ("/", divide), ("%", remainder), ("+", plus), ("-", minus), ("<<", shiftLeft),
    (">>", shiftRight), ("<", less), ("<=", lessEqual), (">", greater), (">=", greaterEqual),
    ("==", equal), ("!=", different), ("&", bitAnd), ("^", bitXor), ("|", bitOr)]

/-- How strongly an operator binds. -/
def strength : BinaryOperator → Nat
  | times | divide | remainder => 8
  | plus | minus => 7
  | shiftLeft | shiftRight => 6
  | less | lessEqual | greater | greaterEqual => 5
  | equal | different => 4
  | bitAnd => 3
  | bitXor => 2
  | bitOr => 1

/-- A truth value as a number. -/
def ofBool (value : Bool) : Int :=
  if value then 1 else 0

/-- The bits of an integer as a natural number. -/
def bits (value : Int) : Nat :=
  (value % Int.ofNat Text.integerCount).toNat

/-- The value of an operator for two values. -/
def apply (operator : BinaryOperator) (left right : Int) : Except ArithmeticFault Int :=
  match operator with
  | times => .ok (Text.wrapped (left * right))
  | divide => if right = 0 then .error .divisionByZero else .ok (Text.wrapped (Int.tdiv left right))
  | remainder => if right = 0 then .error .divisionByZero else .ok (Int.tmod left right)
  | plus => .ok (Text.wrapped (left + right))
  | minus => .ok (Text.wrapped (left - right))
  | shiftLeft => .ok (Text.wrapped (left * Int.ofNat (Nat.pow 2 (bits right % 64))))
  | shiftRight => .ok (Int.fdiv left (Int.ofNat (Nat.pow 2 (bits right % 64))))
  | less => .ok (ofBool (left < right))
  | lessEqual => .ok (ofBool (left ≤ right))
  | greater => .ok (ofBool (left > right))
  | greaterEqual => .ok (ofBool (left ≥ right))
  | equal => .ok (ofBool (left == right))
  | different => .ok (ofBool (left != right))
  | bitAnd => .ok (Text.wrapped (Int.ofNat (Nat.land (bits left) (bits right))))
  | bitXor => .ok (Text.wrapped (Int.ofNat (Nat.xor (bits left) (bits right))))
  | bitOr => .ok (Text.wrapped (Int.ofNat (Nat.lor (bits left) (bits right))))

end BinaryOperator

/-- An expression. -/
inductive Expression where
  | literal (value : Int)
  | named (name : RawText)
  | negative (operand : Expression)
  | complement (operand : Expression)
  | not (operand : Expression)
  | binary (operator : BinaryOperator) (left right : Expression)
  | both (left right : Expression)
  | either (left right : Expression)
  | choice (condition accepted rejected : Expression)
  /-- Sets a variable, to a value or to what an operator makes of both. -/
  | assign (name : RawText) (operator : Option BinaryOperator) (value : Expression)
  /-- What cannot be read. -/
  | flawed (fault : ArithmeticFault)
  /-- An expression behind which something is missing. -/
  | spoiled (before : Expression) (fault : ArithmeticFault)
deriving Repr

/-- The smallest unit of an expression. -/
inductive ArithmeticToken where
  | number (value : Int)
  | named (name : RawText)
  | mark (text : String)
  | unknown
deriving DecidableEq, Repr

namespace ArithmeticToken

/-- The signs of expressions, each before those that it begins with. -/
def signs : List String :=
  ["<<=", ">>=", "<<", ">>", "<=", ">=", "==", "!=", "&&", "||", "*=", "/=", "%=", "+=", "-=",
    "&=", "^=", "|=", "<", ">", "=", "!", "&", "|", "*", "/", "%", "+", "-", "^", "~", "?", ":",
    "(", ")"]

/-- The tokens of an expression. -/
def tokens : Nat → List Char → List ArithmeticToken
  | 0, _ => []
  | count + 1, text =>
    match text.dropWhile Text.isAsciiBlank with
    | [] => []
    | first :: rest =>
      let text := first :: rest
      if first.isDigit then
        let (value, rest) := Text.spanNumber text
        .number (Text.saturated value) :: tokens count rest
      else if beginsName first then
        .named (String.ofList (text.takeWhile isNameCharacter)) ::
          tokens count (text.dropWhile isNameCharacter)
      else
        match signs.find? fun sign => sign.toList.isPrefixOf text with
        | some sign => .mark sign :: tokens count (text.drop sign.length)
        | none => .unknown :: tokens count rest

end ArithmeticToken

namespace Expression

/-- What a sign does in front of a value. -/
def beforeSign? : String → Option (Expression → Expression)
  | "+" => some id
  | "-" => some negative
  | "~" => some complement
  | "!" => some not
  | _ => none

/-- The operator of a sign that changes a variable, or none if it only sets it. -/
def assignment? (sign : String) : Option (Option BinaryOperator) :=
  if sign = "=" then some none
  else
    BinaryOperator.signs.findSome? fun (text, operator) =>
      if text ++ "=" = sign ∧ operator.strength ≠ 5 ∧ operator.strength ≠ 4 then
        some (some operator)
      else none

/-- What is left of an expression after a part of it was read. Nothing is left
behind a flaw. -/
abbrev Rest := List ArithmeticToken

/-- A flaw in place of an expression. -/
def expecting (what : String) : Expression × Rest :=
  (.flawed (.expects what), [])

mutual

/-- Reads an expression that may set a variable. -/
def readAssignment (fuel : Nat) (tokens : Rest) : Expression × Rest :=
  match fuel with
  | 0 => expecting "EOF"
  | fuel + 1 =>
    match tokens with
    | .named name :: .mark sign :: rest =>
      match assignment? sign with
      | some operator =>
        let (value, rest) := readAssignment fuel rest
        (.assign name operator value, rest)
      | none => readChoice fuel tokens
    | _ => readChoice fuel tokens

/-- Reads a choice between two expressions, or one without a choice. -/
def readChoice (fuel : Nat) (tokens : Rest) : Expression × Rest :=
  match fuel with
  | 0 => expecting "EOF"
  | fuel + 1 =>
    match readEither fuel tokens with
    | (condition, .mark "?" :: rest) =>
      match readAssignment fuel rest with
      | (accepted, .mark ":" :: rest) =>
        let (rejected, rest) := readChoice fuel rest
        (.choice condition accepted rejected, rest)
      | (accepted, _) =>
        let fault := .expects "':'"
        (.choice condition (.spoiled accepted fault) (.spoiled (.literal 0) fault), [])
    | result => result

/-- Reads expressions of which one has to hold. -/
def readEither (fuel : Nat) (tokens : Rest) : Expression × Rest :=
  match fuel with
  | 0 => expecting "EOF"
  | fuel + 1 =>
    match readBoth fuel tokens with
    | (left, .mark "||" :: rest) =>
      let (right, rest) := readEither fuel rest
      (.either left right, rest)
    | result => result

/-- Reads expressions of which all have to hold. -/
def readBoth (fuel : Nat) (tokens : Rest) : Expression × Rest :=
  match fuel with
  | 0 => expecting "EOF"
  | fuel + 1 =>
    let (first, rest) := readOperand fuel tokens
    match readOperations fuel 1 first rest with
    | (left, .mark "&&" :: rest) =>
      let (right, rest) := readBoth fuel rest
      (.both left right, rest)
    | result => result

/-- Reads the operations with a value that bind at least as strongly as given. -/
def readOperations (fuel strength : Nat) (left : Expression) (tokens : Rest) :
    Expression × Rest :=
  match fuel with
  | 0 => expecting "EOF"
  | fuel + 1 =>
    match tokens with
    | .mark sign :: rest =>
      match BinaryOperator.signs.lookup sign with
      | some operator =>
        if operator.strength < strength then (left, tokens)
        else
          let (next, rest) := readOperand fuel rest
          let (right, rest) := readOperations fuel (operator.strength + 1) next rest
          readOperations fuel strength (.binary operator left right) rest
      | none => (left, tokens)
    | _ => (left, tokens)

/-- Reads a value with the signs in front of it. -/
def readOperand (fuel : Nat) (tokens : Rest) : Expression × Rest :=
  match fuel with
  | 0 => expecting "EOF"
  | fuel + 1 =>
    match tokens with
    | .number value :: rest => (.literal value, rest)
    | .named name :: rest => (.named name, rest)
    | .mark "(" :: rest =>
      match readAssignment fuel rest with
      | (inner, .mark ")" :: rest) => (inner, rest)
      | (inner, _) => (.spoiled inner (.expects "')'"), [])
    | .mark sign :: rest =>
      match beforeSign? sign with
      | some make =>
        let (operand, rest) := readOperand fuel rest
        (make operand, rest)
      | none => expecting "primary"
    | _ => expecting "primary"

end

/-- The expression that a text writes. -/
def read (text : RawText) : Expression :=
  let characters := text.toList
  let tokens := ArithmeticToken.tokens (characters.length + 1) characters
  match readAssignment (8 * (tokens.length + 1)) tokens with
  | (expression, []) => expression
  | (expression, _) => .spoiled expression (.expects "EOF")

/-- The first flaw of an expression, which also shows where it is not evaluated. -/
def flaw? : Expression → Option ArithmeticFault
  | .literal _ | .named _ => none
  | .negative operand | .complement operand | .not operand | .assign _ _ operand => operand.flaw?
  | .binary _ left right | .both left right | .either left right => left.flaw? <|> right.flaw?
  | .choice condition accepted rejected =>
    condition.flaw? <|> accepted.flaw? <|> rejected.flaw?
  | .flawed fault => some fault
  | .spoiled before fault => before.flaw? <|> some fault

/-- A calculation gives its result with the variables that it sets, the latest first. -/
abbrev Calculation (Result : Type) :=
  StateT (List (RawText × Int)) (Except ArithmeticFault) Result

/-- Leaves out an expression, of which only a flaw counts. -/
def skip (expression : Expression) : Calculation Unit :=
  match expression.flaw? with
  | some fault => throw fault
  | none => return ()

/-- The value of an expression. -/
def evaluate (lookup : RawText → Option RawText) : Expression → Calculation Int
  | .literal value => return value
  | .named name => valueOf name
  | .negative operand => return Text.wrapped (-(← operand.evaluate lookup))
  | .complement operand => return Text.wrapped (-(← operand.evaluate lookup) - 1)
  | .not operand => return BinaryOperator.ofBool ((← operand.evaluate lookup) == 0)
  | .binary operator left right => do
    let left ← left.evaluate lookup
    let right ← right.evaluate lookup
    operator.apply left right
  | .both left right => do
    if (← left.evaluate lookup) = 0 then
      right.skip
      return 0
    else return BinaryOperator.ofBool ((← right.evaluate lookup) != 0)
  | .either left right => do
    if (← left.evaluate lookup) ≠ 0 then
      right.skip
      return 1
    else return BinaryOperator.ofBool ((← right.evaluate lookup) != 0)
  | .choice condition accepted rejected => do
    if (← condition.evaluate lookup) ≠ 0 then
      let value ← accepted.evaluate lookup
      rejected.skip
      return value
    else
      accepted.skip
      rejected.evaluate lookup
  | .assign name operator value => do
    let value ← value.evaluate lookup
    let value ←
      match operator with
      | none => pure value
      | some operator => do operator.apply (← valueOf name) value
    modify ((name, value) :: ·)
    return value
  | .flawed fault => throw fault
  | .spoiled before fault => do
    let _ ← before.evaluate lookup
    throw fault
where
  valueOf (name : RawText) : Calculation Int := do
    match (← get).lookup name, lookup name with
    | some value, _ => return value
    | none, none => return 0
    | none, some text =>
      match numberOf? text with
      | some value => return value
      | none => throw (.notNumber text)

end Expression

end ReleasePilot.Script
