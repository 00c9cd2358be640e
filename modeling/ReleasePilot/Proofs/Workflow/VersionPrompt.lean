import ReleasePilot.Proofs.Session.Console
import ReleasePilot.Proofs.Version.RoundTrip
import ReleasePilot.Proofs.Version.Successor
import ReleasePilot.Proofs.Workflow.Consent

/-!
# The prompt for the new version

The successor of the current version is proposed, and reads back from its spelling. So the
first answer that is blank or a version ends the dialogue, and an input that is used up
gives such an answer (`chooses_first_accepted`). A script that is used up fails instead.
The proposal itself follows the current version, and so raises no further question.
-/

namespace ReleasePilot

namespace Version

/-- Blanks around a text make no difference to the version that is read. -/
theorem ofText?_trimmed (text : String) : ofText? (trimmed text) = ofText? text := by
  rw [ofText?, trimmed, String.toList_ofList, Text.trim_trim]
  rfl

/-- The successor of a version that a text writes reads back from its own spelling. -/
theorem Canonical.increment {version next : Version} (canonical : version.Canonical)
    (follows : version.increment = .ok next) : next.Canonical := by
  obtain ⟨segmented, label⟩ := kept_of_increment canonical.segmented follows
  refine ⟨segmented, fun spelled present => canonical.labelled spelled ?_⟩
  rw [← label, present]

end Version

namespace Workflow

/-! ## What an answer stands for -/

/-- What an answer stands for: a blank one for the proposed version, any other for the
version that it is read as. -/
inductive StandsFor (proposed : Version) (answer : String) : Version → Prop where
  | blank (empty : trimmed answer = "") : StandsFor proposed answer proposed
  | read {version : Version} (filled : trimmed answer ≠ "")
      (parsed : Version.parse answer = .ok version) : StandsFor proposed answer version

/-- The first of the answers that stands for a version, with its position. -/
inductive FirstAccepted (proposed : Version) : List String → Nat → Version → Prop where
  | here {answer : String} {more : List String} {version : Version}
      (stands : StandsFor proposed answer version) :
      FirstAccepted proposed (answer :: more) 0 version
  | later {answer : String} {more : List String} {position : Nat} {version : Version}
      (rejected : ∀ other, ¬StandsFor proposed answer other)
      (first : FirstAccepted proposed more position version) :
      FirstAccepted proposed (answer :: more) (position + 1) version

/-- What is said to an answer that stands for no version. -/
def rejection (answer : String) : Message :=
  .error (invalidAnswer (trimmed answer))

/-- The question for the new version, as a console shows it. -/
def versionQuestion (proposed : Version) : Message :=
  .question versionPrompt (" [" ++ proposed.text ++ "]")

/-- What a console shows until an answer is accepted: a question for each answer, and
what is said to those that are rejected. -/
def dialogue (proposed : Version) (rejected : List String) : Transcript :=
  rejected.flatMap (fun answer => [versionQuestion proposed, rejection answer]) ++
    [versionQuestion proposed]

variable {proposed version : Version} {answer : String} {session : Session}

theorem countP_isQuestion_dialogue (proposed : Version) (rejected : List String) :
    (dialogue proposed rejected).countP Message.isQuestion = rejected.length + 1 := by
  induction rejected with
  | nil => rfl
  | cons answer more inductionHypothesis =>
    change ([versionQuestion proposed, rejection answer] ++
      dialogue proposed more).countP Message.isQuestion = _
    rw [List.countP_append, inductionHypothesis, List.length_cons, Nat.add_comm]
    rfl

/-- An answer stands for what its text is read as, once the default has taken the place
of nothing. -/
theorem standsFor_iff (readable : Version.ofText? proposed.text = some proposed) :
    StandsFor proposed answer version ↔
      Version.ofText? (Operator.orDefault proposed.text answer) = some version := by
  unfold Operator.orDefault
  extract_lets given
  split
  case isTrue empty =>
    rw [readable]
    constructor
    · rintro (- | ⟨filled, -⟩)
      · rfl
      · exact absurd empty filled
    · rintro ⟨⟩
      exact .blank empty
  case isFalse filled =>
    rw [Version.ofText?_trimmed, ← Version.parse_eq_ok_iff]
    constructor
    · rintro (empty | ⟨-, parsed⟩)
      · exact absurd empty filled
      · exact parsed
    · exact .read filled

/-- What is said to a rejected answer does not speak of the default. -/
theorem orDefault_of_rejected (rejected : ∀ other, ¬StandsFor proposed answer other)
    (default : String) : Operator.orDefault default answer = trimmed answer :=
  if_neg fun empty => rejected proposed (.blank empty)

/-! ## One question -/

section Question

variable {after : Session} {given : String}

/-- One question, and what is made of the answer. -/
theorem askVersion_eq {proposal : String} {result : Except ReleaseError String}
    (replied : session.answer versionPrompt (" [" ++ proposal ++ "]") = (result, after)) :
    askVersion proposal session =
      match result.map (Operator.orDefault proposal) with
      | .error cause => (.error cause, after)
      | .ok answer =>
        match Version.ofText? answer with
        | some version => (.ok version, after)
        | none =>
          let told := after.told (.error (invalidAnswer answer))
          if told.operator.pending < session.operator.pending then askVersion proposal told
          else (.error (.invalidVersion answer), told) := by
  have asked : (Action.input "New version" proposal).run.run session =
      (result.map (Operator.orDefault proposal), after) := by
    rw [Action.run_input, ← versionPrompt, replied]
  rw [askVersion, asked]
  cases result with
  | error cause => rfl
  | ok given =>
    cases read : Version.ofText? (Operator.orDefault proposal given) with
    | some version => simp only [Except.map, read]
    | none => simp only [Except.map, read]

theorem askVersion_of_accepted (readable : Version.ofText? proposed.text = some proposed)
    (replied : session.answer versionPrompt (" [" ++ proposed.text ++ "]") = (.ok given, after))
    (stands : StandsFor proposed given version) :
    askVersion proposed.text session = (.ok version, after) := by
  rw [askVersion_eq replied]
  simp only [Except.map, (standsFor_iff readable).1 stands]

theorem askVersion_of_rejected (readable : Version.ofText? proposed.text = some proposed)
    (replied : session.answer versionPrompt (" [" ++ proposed.text ++ "]") = (.ok given, after))
    (rejected : ∀ other, ¬StandsFor proposed given other)
    (uses : after.operator.pending < session.operator.pending) :
    askVersion proposed.text session = askVersion proposed.text (after.told (rejection given)) := by
  have unread : Version.ofText? (trimmed given) = none := by
    rw [← orDefault_of_rejected rejected proposed.text, Option.eq_none_iff_forall_ne_some]
    exact fun other read => rejected other ((standsFor_iff readable).2 read)
  rw [askVersion_eq replied]
  simp only [Except.map, orDefault_of_rejected rejected proposed.text, unread]
  exact if_pos uses

end Question

/-! ## The dialogue -/

/-- How the dialogue with a console ends: with the first line that is accepted, the end of
the input being one, so that there is at most one question more than there are lines. -/
def EndsOnConsole (proposed : Version) (lines : List Line) (before : Session)
    (ending : Except ReleaseError Version × Session) : Prop :=
  let answers := lines.map fun line => String.ofList line.content
  ∃ position version, FirstAccepted proposed (answers ++ [""]) position version ∧
    position ≤ lines.length ∧
    (dialogue proposed (answers.take position)).countP Message.isQuestion = position + 1 ∧
    ending = (.ok version,
      { before with
        operator := .console (Text.utf8 (Line.join (lines.drop (position + 1))))
        transcript := before.transcript ++ dialogue proposed (answers.take position) })

/-- How the dialogue with a script ends: with the first answer that is accepted or, if
there is none, with all answers used up. -/
def EndsOnScript (proposed : Version) (answers asked : List String) (before : Session)
    (ending : Except ReleaseError Version × Session) : Prop :=
  (∃ position version, FirstAccepted proposed answers position version ∧
    ending = (.ok version,
      { before with
        operator := .scripted (answers.drop (position + 1))
          (asked ++ List.replicate (position + 1) versionPrompt)
        transcript := before.transcript ++ (answers.take position).map rejection })) ∨
  (∀ answer ∈ answers, ∀ version, ¬StandsFor proposed answer version) ∧
    ending = (.error (.io (.answersExhausted versionPrompt)),
      { before with
        operator := .scripted [] (asked ++ List.replicate (answers.length + 1) versionPrompt)
        transcript := before.transcript ++ answers.map rejection })

/-- An answer is accepted, or stands for no version. -/
theorem accepted_or_rejected (proposed : Version) (answer : String) :
    (∃ version, StandsFor proposed answer version) ∨
      ∀ version, ¬StandsFor proposed answer version := by
  by_cases accepted : ∃ version, StandsFor proposed answer version
  · exact .inl accepted
  · exact .inr (not_exists.1 accepted)

/-- A rejected line is followed by the dialogue on the lines behind it. -/
theorem EndsOnConsole.cons {line : Line} {more : List Line}
    {ending : Except ReleaseError Version × Session}
    (rejected : ∀ other, ¬StandsFor proposed (String.ofList line.content) other)
    (later : EndsOnConsole proposed more
      (Session.told
        { session with
          operator := .console (Text.utf8 (Line.join more))
          transcript := session.transcript ++ [versionQuestion proposed] }
        (rejection (String.ofList line.content))) ending) :
    EndsOnConsole proposed (line :: more) session ending := by
  obtain ⟨position, version, first, bound, -, rfl⟩ := later
  refine ⟨position + 1, version, .later rejected first, Nat.succ_le_succ bound, ?_, ?_⟩
  · rw [countP_isQuestion_dialogue, List.length_take, List.length_map, List.length_cons,
      Nat.min_eq_left (Nat.succ_le_succ bound)]
  · simp [Session.told, dialogue]

theorem EndsOnScript.cons {answer : String} {answers asked : List String}
    {ending : Except ReleaseError Version × Session}
    (rejected : ∀ other, ¬StandsFor proposed answer other)
    (later : EndsOnScript proposed answers (asked ++ [versionPrompt])
      (Session.told
        { session with operator := .scripted answers (asked ++ [versionPrompt]) }
        (rejection answer)) ending) :
    EndsOnScript proposed (answer :: answers) asked session ending := by
  have asking (count : Nat) : asked ++ [versionPrompt] ++ List.replicate count versionPrompt =
      asked ++ List.replicate (count + 1) versionPrompt := by
    rw [List.append_assoc]
    rfl
  rcases later with ⟨position, version, first, rfl⟩ | ⟨none, rfl⟩
  · refine .inl ⟨position + 1, version, .later rejected first, ?_⟩
    simp [Session.told, asking]
  · refine .inr ⟨List.forall_mem_cons.2 ⟨rejected, none⟩, ?_⟩
    simp [Session.told, asking]

section Dialogue

variable (readable : Version.ofText? proposed.text = some proposed)
include readable

/-- What ends a line does not matter to what the line stands for. -/
theorem standsFor_text (line : Line) :
    StandsFor proposed (String.ofList line.text) version ↔
      StandsFor proposed (String.ofList line.content) version := by
  rw [standsFor_iff readable, standsFor_iff readable,
    Operator.orDefault_congr (Operator.trimmed_text line)]

theorem endsOnConsole_askVersion {lines : List Line}
    (whole : Line.split (Line.join lines) = lines)
    (operator : session.operator = .console (Text.utf8 (Line.join lines))) :
    EndsOnConsole proposed lines session (askVersion proposed.text session) := by
  -- Each question takes a line, so that fewer are left for the next one.
  induction lines generalizing session with
  | nil =>
    have replied := Session.answer_console_nil versionPrompt (" [" ++ proposed.text ++ "]") operator
    have stands : StandsFor proposed "" proposed := .blank rfl
    refine ⟨0, proposed, .here stands, Nat.le_refl 0, rfl, ?_⟩
    rw [askVersion_of_accepted readable replied stands, operator]
    rfl
  | cons line more inductionHypothesis =>
    have replied :=
      Session.answer_console versionPrompt (" [" ++ proposed.text ++ "]") operator whole
    rcases accepted_or_rejected proposed (String.ofList line.content) with
      ⟨version, stands⟩ | rejected
    · refine ⟨0, version, .here stands, Nat.zero_le _, rfl, ?_⟩
      exact askVersion_of_accepted readable replied ((standsFor_text readable line).2 stands)
    · have rejectedText := fun other => mt (standsFor_text readable line).1 (rejected other)
      have uses := Operator.pending_console_lt whole
      rw [← operator] at uses
      rw [askVersion_of_rejected readable replied rejectedText uses, rejection,
        Operator.trimmed_text]
      exact .cons rejected (inductionHypothesis (Line.of_split_eq_cons whole).2.1 rfl)

theorem endsOnScript_askVersion {answers asked : List String}
    (operator : session.operator = .scripted answers asked) :
    EndsOnScript proposed answers asked session (askVersion proposed.text session) := by
  induction answers generalizing session asked with
  | nil =>
    refine .inr ⟨nofun, ?_⟩
    have replied := Session.answer_scripted_nil versionPrompt (" [" ++ proposed.text ++ "]") operator
    rw [askVersion_eq replied]
    simp [Except.map]
  | cons answer answers inductionHypothesis =>
    have replied := Session.answer_scripted versionPrompt (" [" ++ proposed.text ++ "]") operator
    rcases accepted_or_rejected proposed answer with ⟨version, stands⟩ | rejected
    · refine .inl ⟨0, version, .here stands, ?_⟩
      rw [askVersion_of_accepted readable replied stands]
      simp
    · have uses : (Operator.scripted answers (asked ++ [versionPrompt])).pending <
          session.operator.pending := by
        rw [operator]
        exact Nat.lt_succ_self _
      rw [askVersion_of_rejected readable replied rejected uses]
      exact .cons rejected (inductionHypothesis rfl)

end Dialogue

/-! ## Choosing a version -/

section Choice

variable {config : Config} {request : Request} {current next new : Version} {before after : Session}

theorem canonical_of_declares {text : Except Fault String}
    (declared : Declares config text current) : current.Canonical := by
  obtain ⟨contents, -, found⟩ := declared
  unfold Declaration.current at found
  split at found
  · exact Version.canonical_of_ofText? (Version.parse_eq_ok_iff.1 found)
  · cases found

theorem run_chooseVersion (unnamed : request.newVersion = none)
    (follows : current.increment = .ok next) :
    (chooseVersion request current).run.run before = askVersion next.text before := by
  rw [chooseVersion, unnamed, follows]
  rfl

/-- A version that follows the current one is taken without a question. -/
theorem run_resolveVersions_of_lt
    (declared : Declares config (before.tree.readText config.versionFile) current)
    (chosen : (chooseVersion request current).run.run before = (.ok new, after))
    (later : current < new) :
    (resolveVersions config request).run.run before =
      (.ok (current, new), after.told (.versionChange current.text new.text)) := by
  obtain ⟨contents, read, found⟩ := declared
  have reading : (Action.readFile config.versionFile).run.run before = (.ok contents, before) := by
    rw [Action.run_readFile, read]
    rfl
  have declaring : (Declaration.currentInFile config.versionFile config.versionIdentifier).run.run
      before = (.ok current, before) := by
    rw [Declaration.currentInFile, run_bind_of_ok _ reading, Action.run_ofExcept, found]
  have ordered : ¬(compare new current).isLE = true := by
    rw [Std.OrientedCmp.gt_of_lt (Std.compare_eq_lt.2 later)]
    exact Bool.false_ne_true
  rw [resolveVersions, run_bind_of_ok _ declaring, run_bind_of_ok _ chosen, if_neg ordered]
  rfl

/-- Without a version in the request, the version is that of the first answer that is
accepted: a console always gives one, a script unless it is used up. The successor of the
current version is proposed; it reads back as it is, follows the current version and is
taken without a further question. -/
theorem chooses_first_accepted (config : Config) (request : Request)
    (declared : Declares config (before.tree.readText config.versionFile) current)
    (follows : current.increment = .ok next) (unnamed : request.newVersion = none) :
    (∀ text : String, before.operator = .console text.toUTF8.data.toList →
      EndsOnConsole next (Line.split text.toList) before
        ((chooseVersion request current).run.run before)) ∧
    (∀ answers asked, before.operator = .scripted answers asked →
      EndsOnScript next answers asked before ((chooseVersion request current).run.run before)) ∧
    (∀ answer, trimmed answer = "" ∨ trimmed answer = next.text → StandsFor next answer next) ∧
    Version.parse next.text = .ok next ∧ current < next ∧
    ∀ after, (chooseVersion request current).run.run before = (.ok next, after) →
      (resolveVersions config request).run.run before =
        (.ok (current, next), after.told (.versionChange current.text next.text)) := by
  have canonical := canonical_of_declares declared
  have readable := Version.ofText?_text (canonical.increment follows)
  have later := Version.lt_of_increment canonical.segmented follows
  refine ⟨fun text operator => ?_, fun answers asked operator => ?_, ?_,
    Version.parse_eq_ok_iff.2 readable, later, fun after chosen =>
      run_resolveVersions_of_lt declared chosen later⟩
  · rw [run_chooseVersion unnamed follows]
    refine endsOnConsole_askVersion readable ?_ ?_
    · rw [Line.join_split]
    · rw [Line.join_split, Text.utf8, String.ofList_toList, operator]
  · rw [run_chooseVersion unnamed follows]
    exact endsOnScript_askVersion readable operator
  · rintro answer accepted
    rw [standsFor_iff readable, Operator.orDefault]
    rcases accepted with blank | same
    · rw [if_pos blank, readable]
    · rw [same, ite_self, readable]

/-- At the console of the small project, a line without a version is asked about again,
and a blank one then stands for 1.1, whatever follows it. -/
theorem chooses_first_accepted_sample :
    let input := "soon\r\n\t\n2.0\n"
    let before : Session := { tree := sampleTree, operator := .console input.toUTF8.data.toList }
    let current : Version := { release := [1, 0] }
    let next : Version := { release := [1, 1] }
    Declares {} (before.tree.readText "version.py") current ∧ current.increment = .ok next ∧
      EndsOnConsole next (Line.split input.toList) before
        ((chooseVersion {} current).run.run before) ∧
      ((chooseVersion {} current).run.run before).1.toOption.map Version.text = some "1.1" := by
  intro input before current next
  have read : Version.ofText? current.text = some current :=
    Version.ofText?_text ⟨List.cons_ne_nil _ _, nofun⟩
  have declared : Declares {} (before.tree.readText "version.py") current := by
    have found : (Line.split "__version__ = \"1.0\"\n".toList).findSome? (fun line =>
        Declaration.onLine? "__version__".toList line.content) = some ⟨[], current.characters⟩ := by
      decide +kernel
    refine ⟨"__version__ = \"1.0\"\n", ?_, ?_⟩
    · rw [Tree.readText_of_locate rfl rfl, Text.fromUTF8?_toUTF8]
    · rw [Declaration.current, found]
      exact Version.parse_eq_ok_iff.2 read
  have follows : current.increment = .ok next := rfl
  have choice := chooses_first_accepted {} {} declared follows rfl
  exact ⟨declared, follows, choice.1 input rfl, by decide +kernel⟩

end Choice

end Workflow

end ReleasePilot
