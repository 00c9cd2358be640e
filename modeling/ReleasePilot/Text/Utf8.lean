/-!
# Decoding what programs print

Programs may print bytes that are not UTF-8. Each maximal run of bytes that
could still begin a character, but does not go on as one, is shown as a single
replacement character, and so is every byte that begins none.
-/

namespace ReleasePilot.Text

/-- What the first byte of a character tells: how many bytes follow it, and
within which bounds the first of those lies. -/
def leadingByte? (byte : UInt8) : Option (Nat × UInt8 × UInt8) :=
  if byte < 0x80 then some (0, 0x80, 0xBF)
  else if byte < 0xC2 then none
  else if byte < 0xE0 then some (1, 0x80, 0xBF)
  else if byte = 0xE0 then some (2, 0xA0, 0xBF)
  else if byte = 0xED then some (2, 0x80, 0x9F)
  else if byte < 0xF0 then some (2, 0x80, 0xBF)
  else if byte = 0xF0 then some (3, 0x90, 0xBF)
  else if byte < 0xF4 then some (3, 0x80, 0xBF)
  else if byte = 0xF4 then some (3, 0x80, 0x8F)
  else none

/-- Takes up to `count` continuation bytes, the first within the given bounds.
Gives those that are there and the rest. -/
def takeContinuation (low high : UInt8) : Nat → List UInt8 → List UInt8 × List UInt8
  | 0, bytes => ([], bytes)
  | _ + 1, [] => ([], [])
  | count + 1, byte :: rest =>
    if low ≤ byte ∧ byte ≤ high then
      let (taken, after) := takeContinuation 0x80 0xBF count rest
      (byte :: taken, after)
    else ([], byte :: rest)

/-- Continuation bytes are taken from the front. -/
theorem length_takeContinuation_le (low high : UInt8) (count : Nat) (bytes : List UInt8) :
    (takeContinuation low high count bytes).2.length ≤ bytes.length := by
  induction bytes generalizing low high count with
  | nil => cases count <;> simp [takeContinuation]
  | cons byte rest inductionHypothesis =>
    cases count with
    | zero => simp [takeContinuation]
    | succ count =>
      simp only [takeContinuation]
      split
      · exact Nat.le_succ_of_le (inductionHypothesis 0x80 0xBF count)
      · simp

/-- The code point that a first byte and its continuation make up. -/
def codePoint (first : UInt8) (continuation : List UInt8) : Nat :=
  let lead :=
    match continuation.length with
    | 0 => first.toNat
    | 1 => first.toNat % 0x20
    | 2 => first.toNat % 0x10
    | _ => first.toNat % 0x08
  continuation.foldl (fun code byte => code * 0x40 + byte.toNat % 0x40) lead

/-- Decodes bytes, with replacement characters for what is no text. -/
def decodeBytes : List UInt8 → List Char
  | [] => []
  | first :: rest =>
    match leadingByte? first with
    | none => '\ufffd' :: decodeBytes rest
    | some (count, low, high) =>
      let taken := takeContinuation low high count rest
      let character :=
        if taken.1.length = count then Char.ofNat (codePoint first taken.1) else '\ufffd'
      character :: decodeBytes taken.2
termination_by bytes => bytes.length
decreasing_by
  · simp
  · exact Nat.lt_succ_of_le (length_takeContinuation_le low high count rest)

/-- The text of what a program printed. -/
def decodeLossy (bytes : ByteArray) : String :=
  match String.fromUTF8? bytes with
  | some text => text
  | none => String.ofList (decodeBytes bytes.toList)

end ReleasePilot.Text
