import ReleasePilot.Proofs.Session.Pairing

/-!
# A script in place of a console

A script and a console whose input has the same answers, each on a line of its own, say
the same to every question until the script is used up (`lockstep_standsIn`). No step but
a question looks at the operator. So every step and every dialogue comes to the same end
with both of them, as long as it asks for no more than the script has (`Dialogue.imitates`).
-/

namespace ReleasePilot

/-- The questions that a script was asked. -/
def Operator.prompts : Operator → List String
  | .scripted _ asked => asked
  | .console _ => []

/-- A console that has a line for each of some answers. -/
def Operator.consoleOf (answers : List String) : Operator :=
  .console (Message.terminated answers).toUTF8.data.toList

/-- What was said, apart from the questions. -/
def Session.remarks (session : Session) : Transcript :=
  session.transcript.filter fun message => !message.isQuestion

/-- A session with a console and one with a script have come as far: as many questions
were asked, and the answers that are left are the same. -/
structure StandsIn (answers : List String) (console scripted : Session) : Prop where
  tree : console.tree = scripted.tree
  calls : console.calls = scripted.calls
  remarks : console.remarks = scripted.remarks
  operators : ∃ asked, asked.length ≤ answers.length ∧
    scripted.operator = .scripted (answers.drop asked.length) asked ∧
    console.operator = .consoleOf (answers.drop asked.length)

/-- A script ends a run as a console does, unless it was asked for more than it has. -/
def standIn (answers : List String) : Endings where
  together := StandsIn answers
  excused scripted := answers.length < scripted.operator.prompts.length

/-- A step comes to the same end with a script as with a console. -/
def Imitates {Cause Result : Type} (answers : List String)
    (step : ExceptT Cause (StateM Session) Result) : Prop :=
  Pairs (standIn answers) (StandsIn answers) (Same (StandsIn answers)) step step

/-! ## Questions -/

theorem consoleOf_eq (answers : List String) : Operator.consoleOf answers =
    .console (Text.utf8 (answers.flatMap fun answer => answer.toList ++ ['\n'])) := by
  have text : (Message.terminated answers).toList =
      answers.flatMap fun answer => answer.toList ++ ['\n'] := by
    simp [Message.terminated, List.flatMap_def, Function.comp_def]
  rw [Operator.consoleOf, Text.utf8, ← text, String.ofList_toList]

/-- The first answer is the first line. -/
theorem split_terminated {answer : List Char} (inLine : '\n' ∉ answer) (rest : List Char) :
    ∃ line, Line.split (answer ++ ['\n'] ++ rest) = line :: Line.split rest ∧
      line.text = answer ++ ['\n'] := by
  obtain ⟨line, alone, text⟩ := Line.split_singleton inLine
  have ended : Line.EndsLine (answer ++ ['\n']) := .inr List.getLast?_concat
  exact ⟨line, by rw [Line.split_append ended, alone]; rfl, text⟩

theorem trimmed_terminated (answer : String) :
    trimmed (String.ofList (answer.toList ++ ['\n'])) = trimmed answer := by
  have blank : ∀ character ∈ ['\n'], Text.isBlank character = true :=
    List.forall_mem_singleton.2 rfl
  rw [trimmed, trimmed, String.toList_ofList, Text.trim_append_blanks blank]

section Answers

variable {answers : List String}

theorem StandsIn.told {console scripted : Session} (standsIn : StandsIn answers console scripted)
    (message : Message) : StandsIn answers (console.told message) (scripted.told message) where
  tree := standsIn.tree
  calls := standsIn.calls
  remarks := by
    have remarks := standsIn.remarks
    unfold Session.remarks at remarks ⊢
    simp only [Session.told, List.filter_append, remarks]
  operators := standsIn.operators

/-- What is asked of both is answered alike, or the script is used up. -/
theorem StandsIn.asks (unbroken : ∀ answer ∈ answers, '\n' ∉ answer.toList)
    {console scripted : Session} (standsIn : StandsIn answers console scripted)
    (prompt hint : String) :
    (standIn answers).Alike (AnsweredAlike (StandsIn answers) console scripted)
      (console.answer prompt hint) (scripted.answer prompt hint) := by
  obtain ⟨tree, calls, remarks, asked, within, script, input⟩ := standsIn
  cases left : answers.drop asked.length with
  | nil =>
    -- The console would go on with blank answers here, and part from the script.
    rw [left] at script
    rw [Session.answer_scripted_nil prompt hint script]
    refine .excused ?_
    have used := List.drop_eq_nil_iff.1 left
    change answers.length < (asked ++ [prompt]).length
    rw [List.length_append, List.length_singleton]
    omega
  | cons given more =>
    -- Both take the same answer, the console together with its newline.
    have rest : answers.drop (asked ++ [prompt]).length = more := by
      rw [List.length_append, List.length_singleton, ← List.drop_drop, left]
      rfl
    have inLine : '\n' ∉ given.toList :=
      unbroken given (List.mem_of_mem_drop (left ▸ List.mem_cons_self))
    rw [left] at script input
    rw [consoleOf_eq, List.flatMap_cons] at input
    obtain ⟨line, lines, text⟩ := split_terminated inLine
      (more.flatMap fun answer => answer.toList ++ ['\n'])
    rw [Session.answer_scripted prompt hint script, Session.answer_console prompt hint input lines,
      text, Line.join_split]
    refine .succeeded ⟨trimmed_terminated given, ⟨tree, calls, ?_, asked ++ [prompt], ?_, ?_, ?_⟩, ?_⟩
    · unfold Session.remarks at remarks ⊢
      rw [List.filter_append, remarks]
      exact List.append_nil _
    · have bound := List.length_drop (i := asked.length) (l := answers)
      rw [left, List.length_cons] at bound
      rw [List.length_append, List.length_singleton]
      omega
    · rw [rest]
    · rw [rest, consoleOf_eq]
    · have uses := Operator.pending_console_lt lines
      rw [Line.join_split, ← input] at uses
      refine iff_of_true uses ?_
      rw [script]
      exact Nat.lt_succ_self _

theorem lockstep_standsIn (unbroken : ∀ answer ∈ answers, '\n' ∉ answer.toList) :
    Lockstep (standIn answers) (StandsIn answers) where
  fails _ _ standsIn := standsIn
  tells _ _ message _ standsIn := standsIn.told message
  asks _ _ prompt hint standsIn := standsIn.asks unbroken prompt hint

/-! ## Steps -/

namespace Imitates

variable {Cause First Result : Type}

theorem pure (value : Result) :
    Imitates answers (Pure.pure value : ExceptT Cause (StateM Session) Result) :=
  Pairs.pure fun _ _ standsIn => ⟨rfl, standsIn⟩

theorem bind {step : ExceptT Cause (StateM Session) First}
    {next : First → ExceptT Cause (StateM Session) Result} (steps : Imitates answers step)
    (rest : ∀ value, Imitates answers (next value)) : Imitates answers (step >>= next) :=
  Pairs.bind_same steps rest

/-- Both succeed with the same result, or both fail for the same cause. -/
theorem of_same {step : Action Result}
    (same : ∀ console scripted, StandsIn answers console scripted →
      (step.run.run console).1 = (step.run.run scripted).1 ∧
        StandsIn answers (step.run.run console).2 (step.run.run scripted).2) :
    Imitates answers step :=
  Pairs.of_same (fun _ _ standsIn => standsIn) same

theorem say (message : Message) : Imitates answers (Action.say message) :=
  .of_same fun _ _ standsIn => ⟨rfl, standsIn.told message⟩

theorem ofExcept (result : Except ReleaseError Result) :
    Imitates answers (Action.ofExcept result) :=
  .of_same fun _ _ standsIn => ⟨rfl, standsIn⟩

theorem readFile (path : String) : Imitates answers (Action.readFile path) :=
  Pairs.readFile (fun _ _ standsIn => standsIn) fun _ _ standsIn => by rw [standsIn.tree]

theorem replaceFile (path contents : String) :
    Imitates answers (Action.replaceFile path contents) := by
  refine .of_same fun console scripted standsIn => ?_
  cases replaced : scripted.tree.replace path contents with
  | error cause =>
    have replacedToo := replaced
    rw [← standsIn.tree] at replacedToo
    rw [Action.run_replaceFile_of_error replaced, Action.run_replaceFile_of_error replacedToo]
    exact ⟨rfl, standsIn⟩
  | ok tree =>
    have replacedToo := replaced
    rw [← standsIn.tree] at replacedToo
    rw [Action.run_replaceFile_of_ok replaced, Action.run_replaceFile_of_ok replacedToo]
    exact ⟨rfl, { standsIn with tree := rfl }⟩

theorem updateFile (path : String) (dryRun : Bool) (change : String → Except ReleaseError String) :
    Imitates answers (Action.updateFile path dryRun change) := by
  refine .bind (.readFile path) fun contents => .bind (.ofExcept _) fun changed =>
    .bind (.say _) fun _ => ?_
  exact Pairs.ite (say _) (replaceFile path changed)

theorem perform (runner : Runner) (call : Call) :
    Imitates answers (Action.perform runner call) := by
  refine .of_same fun console scripted standsIn => ?_
  obtain ⟨tree, calls, remarks, operators⟩ := standsIn
  unfold Session.remarks at remarks
  rw [Action.run_perform, Action.run_perform]
  unfold Session.perform
  rw [tree, calls]
  refine ⟨rfl, rfl, rfl, ?_, operators⟩
  simp only [Session.remarks, List.filter_append, remarks]

theorem performAll (runner : Runner) (calls : List Call) :
    Imitates answers (Action.performAll runner calls) := by
  induction calls with
  | nil => exact .pure ()
  | cons call more inductionHypothesis =>
    exact .bind (.perform runner call) fun _ => inductionHypothesis

end Imitates

/-! ## Dialogues -/

/-- A sequence of questions, each of which may depend on the answers to those before it. -/
inductive Dialogue (Result : Type) where
  | done (result : Result)
  | confirm (prompt : String) (next : Bool → Dialogue Result)
  | input (prompt default : String) (next : String → Dialogue Result)

/-- Asks the questions of a dialogue in turn. -/
def Dialogue.hold {Result : Type} : Dialogue Result → Action Result
  | .done result => pure result
  | .confirm prompt next => do (next (← Action.confirm prompt)).hold
  | .input prompt default next => do (next (← Action.input prompt default)).hold

theorem Dialogue.imitates (unbroken : ∀ answer ∈ answers, '\n' ∉ answer.toList) {Result : Type}
    (dialogue : Dialogue Result) : Imitates answers dialogue.hold := by
  induction dialogue with
  | done result => exact .pure result
  | confirm prompt next inductionHypothesis =>
    exact .bind (.confirm (lockstep_standsIn unbroken) prompt) inductionHypothesis
  | input prompt default next inductionHypothesis =>
    exact .bind (.input (lockstep_standsIn unbroken) prompt default) inductionHypothesis

/-! ## Runs -/

/-- A step comes to the same end with a script of answers and with a console that has a
line for each of them, if the script suffices: the results are the same, and so are the
commands, the tree, what was said and the answers that are left. -/
def SameCourse {Cause Result : Type} (answers : List String) (tree : Tree)
    (step : ExceptT Cause (StateM Session) Result) : Prop :=
  let scripted := step.run.run { tree, operator := .scripted answers [] }
  let console := step.run.run { tree, operator := .consoleOf answers }
  scripted.2.operator.prompts.length ≤ answers.length →
    console.1 = scripted.1 ∧ console.2.calls = scripted.2.calls ∧
      console.2.tree = scripted.2.tree ∧ console.2.remarks = scripted.2.remarks ∧
      console.2.operator = .consoleOf (answers.drop scripted.2.operator.prompts.length)

theorem standsIn_start (answers : List String) (tree : Tree) :
    StandsIn answers { tree, operator := .consoleOf answers }
      { tree, operator := .scripted answers [] } where
  tree := rfl
  calls := rfl
  remarks := rfl
  operators := ⟨[], Nat.zero_le _, rfl, rfl⟩

/-- Nothing excuses a script that was asked for no more than it has. -/
theorem standsIn_of_alike {Cause Result : Type} {ending other : Except Cause Result × Session}
    (alike : (standIn answers).Alike (Same (StandsIn answers)) ending other)
    (enough : other.2.operator.prompts.length ≤ answers.length) :
    ending.1 = other.1 ∧ StandsIn answers ending.2 other.2 := by
  cases alike with
  | succeeded holds =>
    obtain ⟨rfl, standsIn⟩ := holds
    exact ⟨rfl, standsIn⟩
  | failed holds => exact ⟨rfl, holds⟩
  | excused holds => exact absurd enough (Nat.not_le_of_lt holds)

theorem Imitates.sameCourse {Cause Result : Type} {step : ExceptT Cause (StateM Session) Result}
    (imitates : Imitates answers step) (tree : Tree) : SameCourse answers tree step := by
  intro enough
  obtain ⟨result, standsIn⟩ :=
    standsIn_of_alike (imitates _ _ (standsIn_start answers tree)) enough
  obtain ⟨asked, -, script, input⟩ := standsIn.operators
  refine ⟨result, standsIn.calls, standsIn.tree, standsIn.remarks, ?_⟩
  rw [script]
  exact input

end Answers

end ReleasePilot
