import ReleasePilot.Proofs.Session.Step

/-!
# What is noted beside the messages

Diagnostics stand in a transcript where they arise, and a log decides what is shown of them.
What is told to the operator is the transcript without them
(`Transcript.withoutDiagnostics`). The errors are the same with and without diagnostics if the
log leaves these out (`Transcript.errors_eq_shown`). Of a command at most one thing is noted,
that a program which was started for it failed where failures do not count
(`Runner.noted_cases`).
-/

namespace ReleasePilot

/-- The diagnostic that a message is, if it is one. -/
def Message.diagnostic? : Message → Option Diagnostic
  | .diagnostic noted => some noted
  | _ => none

theorem Message.IsNotice.diagnostic? {message : Message} (notice : message.IsNotice) :
    message.diagnostic? = none := by
  cases message <;> first | rfl | cases notice

/-- A log that shows no diagnostic of some severity. -/
def Log.Withholds (log : Log) (severity : Severity) : Prop :=
  ∀ place noted, noted.severity = severity → log place noted = none

namespace Transcript

/-- What was noted. -/
def diagnostics (transcript : Transcript) : List Diagnostic :=
  transcript.filterMap Message.diagnostic?

/-- What was told to the operator. -/
def withoutDiagnostics (transcript : Transcript) : Transcript :=
  transcript.filter (·.diagnostic?.isNone)

variable {transcript said : Transcript}

@[simp] theorem diagnostics_append :
    diagnostics (transcript ++ said) = transcript.diagnostics ++ said.diagnostics :=
  List.filterMap_append

@[simp] theorem withoutDiagnostics_append :
    withoutDiagnostics (transcript ++ said) =
      transcript.withoutDiagnostics ++ said.withoutDiagnostics :=
  List.filter_append transcript said

theorem diagnostics_eq_nil_iff :
    transcript.diagnostics = [] ↔ ∀ message ∈ transcript, message.diagnostic? = none :=
  List.filterMap_eq_nil_iff

/-- Where nothing was noted, all that was said was told to the operator. -/
theorem withoutDiagnostics_eq_self (nothing : transcript.diagnostics = []) :
    transcript.withoutDiagnostics = transcript :=
  List.filter_eq_self.2 fun message member =>
    Option.isNone_iff_eq_none.2 (diagnostics_eq_nil_iff.1 nothing message member)

theorem withoutDiagnostics_noted (noted : List Diagnostic) :
    withoutDiagnostics (noted.map Message.diagnostic) = [] := by
  refine List.filter_eq_nil_iff.2 fun message member => ?_
  obtain ⟨diagnostic, -, rfl⟩ := List.mem_map.1 member
  exact Bool.false_ne_true

theorem diagnostics_noted (noted : List Diagnostic) :
    diagnostics (noted.map Message.diagnostic) = noted := by
  rw [diagnostics, List.filterMap_map]
  exact List.filterMap_some

theorem withoutDiagnostics_append_told (silent : said.diagnostics = []) :
    withoutDiagnostics (transcript ++ said) = transcript.withoutDiagnostics ++ said := by
  rw [withoutDiagnostics_append, withoutDiagnostics_eq_self silent]

theorem diagnostics_withoutDiagnostics : transcript.withoutDiagnostics.diagnostics = [] :=
  diagnostics_eq_nil_iff.2 fun _ member =>
    Option.isNone_iff_eq_none.1 (List.mem_filter.1 member).2

theorem diagnostics_of_notices (notices : ∀ message ∈ said, message.IsNotice) :
    said.diagnostics = [] :=
  diagnostics_eq_nil_iff.2 fun message member => (notices message member).diagnostic?

/-- Diagnostics appear on no channel but the log. -/
theorem shown_withoutDiagnostics (styled : Bool) {channel : Channel} (other : channel ≠ .log) :
    transcript.withoutDiagnostics.shown styled channel = transcript.shown styled channel := by
  have same (message : Message) :
      (message.channel == channel && message.diagnostic?.isNone) =
        (message.channel == channel) := by
    cases message with
    | diagnostic noted => exact (Bool.and_false _).trans (beq_false_of_ne other.symm).symm
    | _ => exact Bool.and_true _
  rw [shown, withoutDiagnostics, List.filter_filter, shown]
  simp only [same]

theorem shown_cons (styled : Bool) (channel : Channel) (message : Message) (more : Transcript) :
    shown styled channel (message :: more) =
      (if message.channel = channel then message.text styled else "") ++
        more.shown styled channel := by
  rw [shown, List.filter_cons]
  by_cases same : message.channel = channel
  · rw [if_pos (beq_iff_eq.2 same), if_pos same, List.map_cons, String.join_cons]
    rfl
  · rw [if_neg (mt beq_iff_eq.1 same), if_neg same, String.empty_append]
    rfl

theorem errors_cons (styled : Bool) (log : Log) (message : Message) (more : Transcript) :
    errors styled log (message :: more) =
      message.errorText styled (log 0) ++ more.errors styled fun place => log (place + 1) := by
  rw [errors, List.mapIdx_cons, String.join_cons]
  rfl

/-- The errors hold nothing but messages if the log leaves out all that was noted. -/
theorem errors_eq_shown (styled : Bool) {log : Log}
    (withheld : ∀ noted ∈ transcript.diagnostics, ∀ place, log place noted = none) :
    transcript.errors styled log = transcript.shown styled .errors := by
  induction transcript generalizing log with
  | nil => rfl
  | cons message more inductionHypothesis =>
    have among : diagnostics more ⊆ diagnostics (message :: more) :=
      ((List.sublist_cons_self message more).filterMap _).subset
    have others : ∀ noted ∈ diagnostics more, ∀ place, log (place + 1) noted = none :=
      fun noted member place => withheld noted (among member) (place + 1)
    rw [errors_cons, shown_cons, inductionHypothesis others]
    cases message with
    | diagnostic noted =>
      rw [Message.errorText, withheld noted List.mem_cons_self 0]
      rfl
    | _ => rfl

theorem errors_of_silent (silent : transcript.diagnostics = []) (styled : Bool) (log : Log) :
    transcript.errors styled log = transcript.shown styled .errors := by
  refine errors_eq_shown styled ?_
  rw [silent]
  exact List.forall_mem_nil _

end Transcript

/-! ## What is noted of a command -/

namespace Runner

/-- What is noted of a call that is made on some tree. -/
def noted (runner : Runner) (tree : Tree) (call : Call) : List Diagnostic :=
  Transcript.diagnostics (runner.run call.command call.options tree).2.1

/-- A call succeeds, and would do so if its failure counted. -/
def Succeeds (runner : Runner) (tree : Tree) (call : Call) : Prop :=
  ∃ printed, (runner.run call.command { call.options with ignoreErrors := false } tree).1 =
    .ok printed

/-- Recorded failures are not noted. -/
theorem noted_recorded (replies : List Reply) (tree : Tree) (call : Call) :
    (recorded replies).noted tree call = [] := by
  rw [noted, run_recorded]
  rfl

/-- Of a program that is started, a failure is noted if it does not count. -/
theorem noted_spawning (spawn : List String → Tree → Except Fault Completion) (tree : Tree)
    {call : Call} (present : call.command ≠ [])
    (executed : call.executed = true) :
    (spawning spawn).noted tree call =
      (ignored? call.command call.options (spawn call.command tree)).toList := by
  have real : call.options.dryRun = false := by simpa [Call.executed] using executed
  have echoed : Transcript.diagnostics (if call.options.logCommand = true then
      [Message.command (Command.quoted call.command) false] else []) = [] := by
    split <;> rfl
  rw [noted, run_spawning spawn tree present real, Transcript.diagnostics_append, echoed,
    Transcript.diagnostics_noted, List.nil_append]

section Ignored

variable {command : List String} {options : RunOptions} {spawned : Except Fault Completion}

theorem ignored?_of_counts (counts : options.ignoreErrors = false) :
    ignored? command options spawned = none := by
  cases spawned <;> simp [ignored?, counts]

/-- What would succeed if failures counted is not noted. -/
theorem ignored?_of_result {printed : String}
    (succeeds : resultOfCompletion command { options with ignoreErrors := false } spawned =
      .ok printed) :
    ignored? command options spawned = none := by
  cases spawned with
  | error fault => cases succeeds
  | ok completion =>
    by_cases status : completion.status = .code 0
    · simp [ignored?, status]
    · simp [resultOfCompletion, status] at succeeds

theorem of_ignored? {noted : Diagnostic} (found : ignored? command options spawned = some noted) :
    options.ignoreErrors = true ∧ noted.severity = .warning := by
  cases counts : options.ignoreErrors with
  | false =>
    rw [ignored?_of_counts counts] at found
    cases found
  | true =>
    refine ⟨rfl, ?_⟩
    cases spawned <;> simp only [ignored?, counts, and_true, if_true] at found
    · exact Option.some.inj found ▸ rfl
    · split at found
      · exact Option.some.inj found ▸ rfl
      · cases found

end Ignored

/-- Nothing is noted of a call, or one failure of a program that was started for it. -/
theorem noted_cases (runner : Runner) (tree : Tree) (call : Call) :
    runner.noted tree call = [] ∨ ∃ spawn noted, runner = .spawning spawn ∧ call.command ≠ [] ∧
      call.executed = true ∧
      ignored? call.command call.options (spawn call.command tree) = some noted ∧
      runner.noted tree call = [noted] := by
  cases runner with
  | recorded replies => exact .inl (noted_recorded replies tree call)
  | spawning spawn =>
    by_cases present : call.command = []
    · exact .inl (by rw [noted, present, run_spawning_nil]; rfl)
    cases executed : call.executed with
    | false =>
      have dryRun : call.options.dryRun = true := by simpa [Call.executed] using executed
      exact .inl (by rw [noted, run_spawning_of_dryRun spawn tree present dryRun]; rfl)
    | true =>
      rw [noted_spawning spawn tree present executed]
      cases found : ignored? call.command call.options (spawn call.command tree) with
      | none => exact .inl rfl
      | some noted => exact .inr ⟨spawn, noted, rfl, present, rfl, found, rfl⟩

/-- A call of which something is noted was run, and its failure does not count. -/
theorem of_mem_noted {runner : Runner} {tree : Tree} {call : Call} {diagnostic : Diagnostic}
    (member : diagnostic ∈ runner.noted tree call) :
    call.executed = true ∧ call.options.ignoreErrors = true ∧ diagnostic.severity = .warning := by
  obtain nothing | ⟨spawn, noted, -, -, executed, found, one⟩ := noted_cases runner tree call
  · rw [nothing] at member
    cases member
  · rw [one] at member
    rw [List.mem_singleton.1 member]
    exact ⟨executed, of_ignored? found⟩

theorem noted_of_succeeds {runner : Runner} {tree : Tree} {call : Call}
    (succeeds : runner.Succeeds tree call) : runner.noted tree call = [] := by
  obtain nothing | ⟨spawn, noted, rfl, present, executed, found, -⟩ := noted_cases runner tree call
  · exact nothing
  · obtain ⟨printed, result⟩ := succeeds
    let counting : RunOptions := { call.options with ignoreErrors := false }
    have real : counting.dryRun = false := by simpa [Call.executed] using executed
    rw [run_spawning spawn tree present real] at result
    rw [ignored?_of_result result] at found
    cases found

end Runner

end ReleasePilot
