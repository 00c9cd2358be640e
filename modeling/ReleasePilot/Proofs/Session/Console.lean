import ReleasePilot.Proofs.Text.Encoding
import ReleasePilot.Proofs.Text.Lines
import ReleasePilot.Proofs.Text.Runs
import ReleasePilot.Session

/-!
# Answers from a console

A console answers with the lines of its input, one for each question and with what ended
the line (`answer_console`), and with nothing once they are used up (`answer_console_nil`).
What an answer says does not depend on the blanks around it, and so not on how its line
was ended (`orDefault_congr`, `isAffirmative_congr`).
-/

namespace ReleasePilot

/-- Messages that ask something. -/
def Message.isQuestion : Message → Bool
  | .question _ _ => true
  | _ => false

namespace Operator

/-! ## Lines of an input -/

theorem takeLine_append {front : List UInt8} (unbroken : 10 ∉ front) (rest : List UInt8) :
    takeLine (front ++ rest) = (front ++ (takeLine rest).1, (takeLine rest).2) := by
  induction front with
  | nil => rfl
  | cons byte front inductionHypothesis =>
    obtain ⟨first, others⟩ := not_or.1 (mt List.mem_cons.2 unbroken)
    rw [List.cons_append, takeLine, if_neg (Ne.symm first), inductionHypothesis others]
    rfl

/-- The first line of the bytes of a text is that of the text. -/
theorem takeLine_utf8 {text : List Char} {line : Line} {more : List Line}
    (lines : Line.split text = line :: more) :
    takeLine (Text.utf8 text) = (Text.utf8 line.text, Text.utf8 (Line.join more)) := by
  induction text generalizing line more with
  | nil => cases lines
  | cons character rest inductionHypothesis =>
    by_cases newline : character = '\n'
    · subst newline
      rw [Line.split] at lines
      obtain ⟨rfl, rfl⟩ := List.cons.inj lines
      rw [Line.join_split]
      change takeLine (Text.utf8 ('\n' :: rest)) = (Text.utf8 ['\n'], Text.utf8 rest)
      rw [Text.utf8_cons, Text.utf8_cons]
      rfl
    · rw [Line.split_cons newline] at lines
      rw [Text.utf8_cons, takeLine_append (Text.newline_not_mem_utf8EncodeChar newline)]
      cases later : Line.split rest with
      | nil =>
        rw [later] at lines
        obtain ⟨rfl, rfl⟩ := List.cons.inj lines
        obtain rfl := Line.split_eq_nil_iff.1 later
        change (String.utf8EncodeChar character ++ [], []) = (Text.utf8 [character], [])
        rw [Text.utf8_cons, Text.utf8_nil]
      | cons first others =>
        rw [later] at lines
        obtain ⟨rfl, rfl⟩ := List.cons.inj lines
        rw [inductionHypothesis later, Line.text_cons, Text.utf8_cons]

theorem length_takeLine_lt {input : List UInt8} (nonempty : input ≠ []) :
    (takeLine input).2.length < input.length := by
  induction input with
  | nil => exact absurd rfl nonempty
  | cons byte rest inductionHypothesis =>
    rw [takeLine]
    split
    case isTrue => exact Nat.lt_succ_self _
    case isFalse =>
      cases rest with
      | nil => exact Nat.zero_lt_one
      | cons next rest => exact Nat.lt_succ_of_lt (inductionHypothesis (List.cons_ne_nil _ _))

/-! ## Replies -/

variable (prompt hint : String)

/-- Each question takes one line. -/
theorem reply_console {text : List Char} {line : Line} {more : List Line}
    (lines : Line.split text = line :: more) :
    (console (Text.utf8 text)).reply prompt hint =
      (.ok (String.ofList line.text), [.question prompt hint],
        .console (Text.utf8 (Line.join more))) := by
  rw [reply, takeLine_utf8 lines]
  simp only [Text.fromUTF8?_utf8]

/-- A used up input answers with nothing. -/
theorem reply_console_nil :
    (console []).reply prompt hint = (.ok "", [.question prompt hint], .console []) := by
  have empty := Text.fromUTF8?_utf8 []
  rw [Text.utf8_nil] at empty
  simp only [reply, takeLine, empty]

/-- A question uses some of an input up unless nothing is left. -/
theorem pending_console_lt {text : List Char} {line : Line} {more : List Line}
    (lines : Line.split text = line :: more) :
    (console (Text.utf8 (Line.join more))).pending < (console (Text.utf8 text)).pending := by
  have nonempty : text ≠ [] := by
    rintro rfl
    cases lines
  have shorter := length_takeLine_lt (mt Text.utf8_eq_nil_iff.1 nonempty)
  rwa [takeLine_utf8 lines] at shorter

/-! ## What an answer says -/

variable {answer other : String}

theorem isAffirmative_congr (same : trimmed answer = trimmed other) :
    isAffirmative answer = isAffirmative other := by
  rw [isAffirmative, isAffirmative, String.ofList_injective same]

theorem orDefault_congr (same : trimmed answer = trimmed other) (default : String) :
    orDefault default answer = orDefault default other := by
  rw [orDefault, orDefault, same]

/-- A line says what it holds. -/
theorem trimmed_text (line : Line) :
    trimmed (String.ofList line.text) = trimmed (String.ofList line.content) := by
  have ending : ∀ character ∈ line.ending.text, Text.isBlank character = true :=
    fun _ => Line.isBlank_of_mem_ending
  rw [trimmed, trimmed, String.toList_ofList, String.toList_ofList, Line.text,
    Text.trim_append_blanks ending]

end Operator

namespace Session

open Operator

/-! ## Answers in a session -/

variable {session : Session} (prompt hint : String)

theorem answer_of_reply {result : Except Fault String} {shown : Transcript} {operator : Operator}
    (replied : session.operator.reply prompt hint = (result, shown, operator)) :
    session.answer prompt hint = (result.mapError .io,
      { session with operator, transcript := session.transcript ++ shown }) := by
  unfold answer
  rw [replied]

theorem answer_console {text : List Char} {line : Line} {more : List Line}
    (operator : session.operator = .console (Text.utf8 text))
    (lines : Line.split text = line :: more) :
    session.answer prompt hint = (.ok (String.ofList line.text),
      { session with
        operator := .console (Text.utf8 (Line.join more))
        transcript := session.transcript ++ [.question prompt hint] }) := by
  have replied := reply_console prompt hint lines
  rw [← operator] at replied
  exact answer_of_reply prompt hint replied

theorem answer_console_nil (operator : session.operator = .console []) :
    session.answer prompt hint = (.ok "",
      { session with transcript := session.transcript ++ [.question prompt hint] }) := by
  have replied := reply_console_nil prompt hint
  rw [← operator] at replied
  exact answer_of_reply prompt hint replied

theorem answer_scripted {given : String} {answers asked : List String}
    (operator : session.operator = .scripted (given :: answers) asked) :
    session.answer prompt hint = (.ok given,
      { session with operator := .scripted answers (asked ++ [prompt]) }) := by
  unfold answer
  simp only [operator, reply, List.append_nil]
  rfl

theorem answer_scripted_nil {asked : List String}
    (operator : session.operator = .scripted [] asked) :
    session.answer prompt hint = (.error (.io (.answersExhausted prompt)),
      { session with operator := .scripted [] (asked ++ [prompt]) }) := by
  unfold answer
  simp only [operator, reply, List.append_nil]
  rfl

end Session

end ReleasePilot
