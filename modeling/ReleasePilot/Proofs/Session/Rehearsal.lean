import ReleasePilot.Proofs.Session.Diagnostics
import ReleasePilot.Proofs.Session.FileUpdate
import ReleasePilot.Proofs.Session.Pairing

/-!
# A dry run abreast of a real run

A dry run asks the same questions as the real run and makes the same calls, of which
it performs the queries only. It says the same, apart from what the real run notes of
failures that do not count, and for each file that the real run replaces it shows the
contents (`Abreast`). Every primitive step keeps the two runs abreast, unless the real run
alone is hindered: by a command that fails or by a file that cannot be replaced
(`Hindered`).
-/

namespace ReleasePilot

/-! ## Calls and messages -/

/-- What a dry run makes of a call: queries are made all the same. -/
def Call.rehearsed (call : Call) : Call :=
  if call.options = .query then call
  else { call with options := { call.options with dryRun := true } }

/-- What the real run says in place of a message. It does not show what it writes. -/
def Message.performed? : Message → Option Message
  | .success text _ => some (.success text false)
  | .command quoted _ => some (.command quoted false)
  | .fileWrite path _ => some (.fileWrite path false)
  | .preview _ => none
  | message => some message

/-- The file that a message says is written. -/
def Message.written? : Message → Option String
  | .fileWrite path _ => some path
  | _ => none

namespace Transcript

/-- The files that are said to be written, each with the contents shown for it. -/
def previews : Transcript → List (String × String)
  | .fileWrite path _ :: .preview contents :: more => (path, contents) :: previews more
  | _ :: more => previews more
  | [] => []

/-- A message that is about no file. -/
def IsPlain (message : Message) : Prop :=
  message.written? = none ∧ message.performed?.isSome = true

/-- Previews stand right behind the names of their files. -/
theorem previews_append {said : Transcript}
    (whole : ∀ contents more, said ≠ .preview contents :: more) (transcript : Transcript) :
    previews (transcript ++ said) = previews transcript ++ previews said := by
  fun_induction previews transcript with
  | case1 path dryRun contents more inductionHypothesis =>
    rw [List.cons_append, List.cons_append, previews, inductionHypothesis, List.cons_append]
  | case2 message more other inductionHypothesis =>
    rw [List.cons_append, previews, inductionHypothesis]
    rintro path dryRun contents rest rfl same
    -- A write at the end is not followed by the preview of what is appended.
    cases more with
    | nil => exact whole contents rest same
    | cons next others =>
      obtain ⟨rfl, -⟩ := List.cons.inj same
      exact other path dryRun contents others rfl rfl
  | case3 => rfl

theorem previews_of_plain {said : Transcript} (plain : ∀ message ∈ said, IsPlain message) :
    previews said = [] := by
  induction said with
  | nil => rfl
  | cons message more inductionHypothesis =>
    obtain ⟨first, others⟩ := List.forall_mem_cons.1 plain
    rw [previews]
    · exact inductionHypothesis others
    · rintro path dryRun contents rest rfl
      cases first.1

/-- A dry run has said, after some opening messages, what the real run has said, and has
shown the contents of the files that the real run has said to write. -/
structure Rehearses (opening : Transcript) (written : List (String × String))
    (dry real : Transcript) : Prop where
  messages : dry.filterMap Message.performed? = opening ++ real
  previews : dry.previews = written
  announced : real.filterMap Message.written? = written.map Prod.fst

variable {opening dry real said : Transcript} {written : List (String × String)}

theorem written?_of_performed? {message performed : Message}
    (found : message.performed? = some performed) : performed.written? = message.written? := by
  cases message <;> cases found <;> rfl

/-- Messages that are about no file may be said in both runs. -/
theorem Rehearses.append (rehearses : Rehearses opening written dry real)
    (plain : ∀ message ∈ said, IsPlain message) :
    Rehearses opening written (dry ++ said) (real ++ said.filterMap Message.performed?) where
  messages := by
    rw [List.filterMap_append, rehearses.messages, List.append_assoc]
  previews := by
    rw [previews_append ?_, rehearses.previews, previews_of_plain plain, List.append_nil]
    rintro contents more rfl
    cases (plain _ List.mem_cons_self).2
  announced := by
    have silent : (said.filterMap Message.performed?).filterMap Message.written? = [] := by
      rw [List.filterMap_eq_nil_iff]
      intro performed member
      obtain ⟨message, among, found⟩ := List.mem_filterMap.1 member
      rw [written?_of_performed? found, (plain message among).1]
    rw [List.filterMap_append, rehearses.announced, silent, List.append_nil]

/-- Where the real run says that it writes a file, the dry run also shows the contents. -/
theorem Rehearses.append_write (rehearses : Rehearses opening written dry real)
    (path contents : String) :
    Rehearses opening (written ++ [(path, contents)])
      (dry ++ [.fileWrite path true] ++ [.preview contents])
      (real ++ [.fileWrite path false]) where
  messages := by
    rw [List.append_assoc, List.filterMap_append, rehearses.messages, List.append_assoc]
    rfl
  previews := by
    rw [List.append_assoc, previews_append ?_, rehearses.previews]
    · rfl
    · intro contents more same
      cases (List.cons.inj same).1
  announced := by
    rw [List.filterMap_append, rehearses.announced, List.map_append]
    rfl

end Transcript

theorem Message.IsNotice.performed? {message : Message} (notice : message.IsNotice) :
    message.performed? = some message := by
  cases message <;> first | rfl | cases notice

theorem performed_notices {said : Transcript} (notices : ∀ message ∈ said, message.IsNotice) :
    said.filterMap Message.performed? = said := by
  induction said with
  | nil => rfl
  | cons message more inductionHypothesis =>
    obtain ⟨first, others⟩ := List.forall_mem_cons.1 notices
    rw [List.filterMap_cons_some first.performed?, inductionHypothesis others]

theorem Message.IsNotice.isPlain {message : Message} (notice : message.IsNotice) :
    Transcript.IsPlain message := by
  refine ⟨?_, by rw [notice.performed?]; rfl⟩
  cases message <;> first | rfl | cases notice

/-- An operator is shown nothing but questions. -/
theorem Operator.isNotice_of_reply {operator : Operator} {prompt hint : String}
    {message : Message} (shown : message ∈ (operator.reply prompt hint).2.1) :
    message.IsNotice := by
  unfold reply at shown
  split at shown
  · cases shown
  · cases shown
  · rw [List.mem_singleton.1 shown]
    trivial

/-! ## Two runs abreast -/

/-- A dry run has come as far as the real run, which has written some files. -/
structure Abreast (opening : Transcript) (path other : String)
    (written : List (String × String)) (dry real : Session) : Prop where
  operator : dry.operator = real.operator
  calls : dry.calls = real.calls.map Call.rehearsed
  executed : ∀ call ∈ real.calls, call.executed = true
  transcript :
    Transcript.Rehearses opening written dry.transcript real.transcript.withoutDiagnostics
  dryFiles : dry.tree.DistinctFiles path other
  realFiles : real.tree.DistinctFiles path other
  /-- A file that was not written reads alike in both runs. -/
  kept : ∀ file ∈ [path, other], file ∉ written.map Prod.fst →
    real.tree.readText file = dry.tree.readText file
  wrote : ∀ file contents, (file, contents) ∈ written →
    file ∈ [path, other] ∧ real.tree.readText file = .ok contents

/-- What stops a real run while the dry run goes on. -/
inductive Hindered (runner : Runner) (path other : String) (session : Session) : Prop where
  | command {call : Call} {tree : Tree} {cause : ReleaseError} (asked : call ∈ session.calls)
      (mutating : call.options ≠ .query)
      (failed : (runner.run call.command call.options tree).1 = .error cause)
  | replacement {file contents : String} {cause : ReleaseError} (member : file ∈ [path, other])
      (failed : session.tree.replace file contents = .error cause)

/-- A dry run ends as the real run does, unless the real run is hindered. -/
def rehearsal (runner : Runner) (opening : Transcript) (path other : String) : Endings where
  together dry real := ∃ written, Abreast opening path other written dry real
  excused := Hindered runner path other

/-- What a command prints, and whether it succeeds, does not depend on the tree. -/
structure Runner.Steady (runner : Runner) : Prop where
  result : ∀ command options tree other,
    (runner.run command options tree).1 = (runner.run command options other).1
  echo : ∀ command options tree other,
    (runner.run command options tree).2.1 = (runner.run command options other).2.1

/-- Recorded replies are the same for every tree. -/
theorem Runner.steady_recorded (replies : List Reply) : (Runner.recorded replies).Steady where
  result command options tree other := by
    rw [run_recorded, run_recorded]
  echo command options tree other := by
    rw [run_recorded, run_recorded]

/-- A recorded command fails for a recorded failure that counts. -/
theorem Runner.failure_of_recorded {replies : List Reply} {command : List String}
    {options : RunOptions} {tree : Tree} {cause : ReleaseError}
    (failed : ((Runner.recorded replies).run command options tree).1 = .error cause) :
    options.ignoreErrors = false ∧
      ∃ code errors, Reply.responseTo replies command = some (.failure code errors) := by
  rw [run_recorded] at failed
  split at failed
  · cases failed
  simp only at failed
  unfold Runner.resultOfResponse at failed
  split at failed
  · cases failed
  · cases failed
  · split at failed
    · cases failed
    · rename_i response counts
      exact ⟨by simpa using counts, _, _, response⟩

/-- Queries are not echoed, and nothing is noted of them. -/
theorem Runner.echo_query (runner : Runner) (command : List String) (tree : Tree) :
    (runner.run command .query tree).2.1 = [] := by
  cases runner with
  | recorded replies => rfl
  | spawning spawn =>
    by_cases empty : command = []
    · rw [empty]
      rfl
    · rw [run_spawning spawn tree empty rfl, ignored?_of_counts rfl]
      rfl

/-- In a dry run a command changes nothing. It is echoed as in the real run, notes nothing and
does not fail, unless the real run fails for the same cause. -/
theorem Runner.run_dryRun (runner : Runner) (command : List String) {options : RunOptions}
    (logged : options.logCommand = true) (real : options.dryRun = false) (tree other : Tree) :
    (runner.run command { options with dryRun := true } tree).2.2 = tree ∧
      (∀ message ∈ (runner.run command { options with dryRun := true } tree).2.1,
        Transcript.IsPlain message) ∧
      (runner.run command { options with dryRun := true } tree).2.1.filterMap
        Message.performed? = (runner.run command options other).2.1.withoutDiagnostics ∧
      ∀ cause, (runner.run command { options with dryRun := true } tree).1 = .error cause →
        (runner.run command options other).1 = .error cause := by
  cases runner with
  | recorded replies =>
    rw [run_recorded, run_recorded]
    exact ⟨rfl, nofun, rfl, nofun⟩
  | spawning spawn =>
    by_cases empty : command = []
    · rw [empty, run_spawning_nil, run_spawning_nil]
      exact ⟨rfl, nofun, rfl, fun _ same => same⟩
    · rw [run_spawning_of_dryRun spawn tree empty rfl, run_spawning spawn other empty real, logged,
        if_pos rfl]
      refine ⟨rfl, List.forall_mem_singleton.2 ⟨rfl, rfl⟩, ?_, nofun⟩
      rw [Transcript.withoutDiagnostics_append, Transcript.withoutDiagnostics_noted]
      rfl

/-- Two files that a runner spares from both sides stay two, and read as before. -/
theorem Runner.Spares.both {runner : Runner} {path other : String}
    (spares : runner.Spares path other) (sparesOther : runner.Spares other path)
    (command : List String) (options : RunOptions) {tree : Tree}
    (distinct : tree.DistinctFiles path other) :
    (runner.run command options tree).2.2.DistinctFiles path other ∧
      ∀ file ∈ [path, other],
        (runner.run command options tree).2.2.readText file = tree.readText file := by
  obtain ⟨still, same⟩ := spares command options tree distinct
  obtain ⟨-, sameOther⟩ := sparesOther command options tree distinct.symm
  exact ⟨still, List.forall_mem_cons.2 ⟨same, List.forall_mem_singleton.2 sameOther⟩⟩

section Steps

variable {runner : Runner} {opening : Transcript} {path other : String}
  {written : List (String × String)}

/-- The two runs may be told the same and ask the same operator. -/
theorem Abreast.converse {dry real : Session}
    (abreast : Abreast opening path other written dry real) {operator realOperator : Operator}
    (same : operator = realOperator) {said : Transcript}
    (notices : ∀ message ∈ said, message.IsNotice) :
    Abreast opening path other written
      { dry with operator, transcript := dry.transcript ++ said }
      { real with operator := realOperator, transcript := real.transcript ++ said } := by
  have silent := Transcript.diagnostics_of_notices notices
  have still := abreast.transcript.append fun message member => (notices message member).isPlain
  rw [performed_notices notices, ← Transcript.withoutDiagnostics_append_told silent] at still
  exact { abreast with operator := same, transcript := still }

theorem lockstep_abreast :
    Lockstep (rehearsal runner opening path other) (Abreast opening path other written) where
  fails dry real abreast := ⟨written, abreast⟩
  tells dry real message notice abreast :=
    abreast.converse abreast.operator (List.forall_mem_singleton.2 notice)
  asks dry real prompt hint abreast := by
    have shown : ∀ message ∈ (real.operator.reply prompt hint).2.1, message.IsNotice :=
      fun message member => Operator.isNotice_of_reply member
    have still := abreast.converse (Eq.refl (real.operator.reply prompt hint).2.2) shown
    unfold Session.answer
    rw [abreast.operator]
    exact .of_same rfl ⟨written, still⟩ fun _ => ⟨rfl, still, by rw [abreast.operator]⟩

/-- A call and its rehearsal are added to the two runs. -/
theorem Abreast.call {dry real : Session}
    (abreast : Abreast opening path other written dry real) (call : Call)
    (executed : call.executed = true) (said echo : Transcript)
    (plain : ∀ message ∈ said, Transcript.IsPlain message)
    (echoed : said.filterMap Message.performed? = echo.withoutDiagnostics)
    {dryTree realTree : Tree}
    (dryKept : dryTree.DistinctFiles path other ∧
      ∀ file ∈ [path, other], dryTree.readText file = dry.tree.readText file)
    (realKept : realTree.DistinctFiles path other ∧
      ∀ file ∈ [path, other], realTree.readText file = real.tree.readText file) :
    Abreast opening path other written
      { dry with
        tree := dryTree
        transcript := dry.transcript ++ said
        calls := dry.calls ++ [call.rehearsed] }
      { real with
        tree := realTree
        transcript := real.transcript ++ echo
        calls := real.calls ++ [call] } where
  operator := abreast.operator
  calls := by
    rw [List.map_append, ← abreast.calls]
    rfl
  executed earlier member := by
    rcases List.mem_append.1 member with before | now
    · exact abreast.executed earlier before
    · rw [List.mem_singleton.1 now]
      exact executed
  transcript := by
    rw [Transcript.withoutDiagnostics_append, ← echoed]
    exact abreast.transcript.append plain
  dryFiles := dryKept.1
  realFiles := realKept.1
  kept file member pending := by
    rw [realKept.2 file member, dryKept.2 file member]
    exact abreast.kept file member pending
  wrote file contents member := by
    obtain ⟨within, read⟩ := abreast.wrote file contents member
    exact ⟨within, (realKept.2 file within).trans read⟩

/-- What has been done is said in both runs. -/
theorem Pairs.success (text : String) :
    Pairs (rehearsal runner opening path other) (Abreast opening path other written)
      (fun _ _ => Abreast opening path other written)
      (Action.say (.success text true)) (Action.say (.success text false)) := by
  intro dry real abreast
  have plain : ∀ message ∈ [Message.success text true], Transcript.IsPlain message :=
    List.forall_mem_singleton.2 ⟨rfl, rfl⟩
  have still := abreast.transcript.append plain
  rw [← Transcript.withoutDiagnostics_append_told rfl] at still
  exact .succeeded { abreast with transcript := still }

section Calls

variable (spares : runner.Spares path other) (sparesOther : runner.Spares other path)
include spares sparesOther

/-- Both runs make a query, and get the same answer. -/
theorem Pairs.query (steady : runner.Steady) (command : List String) :
    Pairs (rehearsal runner opening path other) (Abreast opening path other written)
      (Same (Abreast opening path other written))
      (Action.perform runner ⟨command, .query⟩) (Action.perform runner ⟨command, .query⟩) := by
  refine .of_same lockstep_abreast.fails fun dry real abreast => ⟨?_, ?_⟩
  · exact steady.result command .query dry.tree real.tree
  · have still := abreast.call ⟨command, .query⟩ rfl [] [] nofun rfl
      (spares.both sparesOther command .query abreast.dryFiles)
      (spares.both sparesOther command .query abreast.realFiles)
    simp only [Action.run_perform, Session.perform, Runner.echo_query]
    exact still

/-- The dry run goes on where the real run performs a command, unless it fails. -/
theorem Pairs.mutating {call : Call} (logged : call.options.logCommand = true)
    (executed : call.executed = true) :
    Pairs (rehearsal runner opening path other) (Abreast opening path other written)
      (fun _ _ => Abreast opening path other written)
      (Action.perform runner call.rehearsed) (Action.perform runner call) := by
  have mutating : call.options ≠ .query := by
    intro query
    rw [query] at logged
    cases logged
  have flagged : call.rehearsed =
      { call with options := { call.options with dryRun := true } } := if_neg mutating
  intro dry real abreast
  obtain ⟨untouched, plain, echoed, fails⟩ := runner.run_dryRun call.command logged
    (by simpa [Call.executed] using executed) dry.tree real.tree
  have dryKept : dry.tree.DistinctFiles path other ∧
      ∀ file ∈ [path, other], dry.tree.readText file = dry.tree.readText file :=
    ⟨abreast.dryFiles, fun _ _ => rfl⟩
  have realKept := spares.both sparesOther call.command call.options abreast.realFiles
  have still := abreast.call call executed _ _ plain echoed dryKept realKept
  rw [flagged] at still
  simp only [Action.run_perform, Session.perform, flagged, untouched]
  revert fails
  generalize (runner.run call.command { call.options with dryRun := true } dry.tree).1 = rehearsed
  intro fails
  -- What fails in the dry run fails in the real run, so that only the real run fails alone.
  cases result : (runner.run call.command call.options real.tree).1 with
  | ok printed =>
    cases rehearsed with
    | ok nothing => exact .succeeded still
    | error cause => cases result.symm.trans (fails cause rfl)
  | error cause =>
    exact .excused (.command (List.mem_append_right _ List.mem_cons_self) mutating result)

/-- The calls of a sequence are rehearsed one after the other. -/
theorem Pairs.performAll {calls : List Call}
    (mutating : ∀ call ∈ calls, call.options.logCommand = true ∧ call.executed = true) :
    Pairs (rehearsal runner opening path other) (Abreast opening path other written)
      (fun _ _ => Abreast opening path other written)
      (Action.performAll runner (calls.map Call.rehearsed)) (Action.performAll runner calls) := by
  induction calls with
  | nil => exact .pure fun _ _ abreast => abreast
  | cons call more inductionHypothesis =>
    obtain ⟨first, others⟩ := List.forall_mem_cons.1 mutating
    exact .bind (.mutating spares sparesOther first.1 first.2) fun _ _ =>
      inductionHypothesis others

end Calls

/-- A file is replaced by the real run and shown by the dry run. -/
theorem Abreast.write {dry real : Session}
    (abreast : Abreast opening path other written dry real) {file contents : String}
    (member : file ∈ [path, other]) (pending : file ∉ written.map Prod.fst) {tree : Tree}
    (replaced : real.tree.replace file contents = .ok tree) :
    Abreast opening path other (written ++ [(file, contents)])
      ((dry.told (.fileWrite file true)).told (.preview contents))
      { real.told (.fileWrite file false) with tree } := by
  obtain ⟨realFiles, read, kept⟩ := Tree.replace_of_mem abreast.realFiles member replaced
  have said := abreast.transcript.append_write file contents
  rw [← Transcript.withoutDiagnostics_append_told rfl] at said
  refine { abreast with
    transcript := said
    realFiles
    kept := ?_
    wrote := ?_ }
  · intro another among elsewhere
    rw [List.map_append, List.mem_append, not_or] at elsewhere
    obtain ⟨before, now⟩ := elsewhere
    have different : another ≠ file := fun same => now (List.mem_singleton.2 same)
    exact (kept another among different).trans (abreast.kept another among before)
  · intro another text entry
    rcases List.mem_append.1 entry with before | now
    · obtain ⟨among, reads⟩ := abreast.wrote another text before
      have different : another ≠ file := by
        rintro rfl
        exact pending (List.mem_map.2 ⟨_, before, rfl⟩)
      exact ⟨among, (kept another among different).trans reads⟩
    · obtain ⟨rfl, rfl⟩ := Prod.mk.inj (List.mem_singleton.1 now)
      exact ⟨member, read⟩

/-- The dry run shows what the real run writes into a file, unless it cannot be replaced. -/
theorem Pairs.updateFile {file : String} (member : file ∈ [path, other])
    (pending : file ∉ written.map Prod.fst) (change : String → Except ReleaseError String) :
    Pairs (rehearsal runner opening path other) (Abreast opening path other written)
      (fun _ _ dry real => ∃ contents,
        Abreast opening path other (written ++ [(file, contents)]) dry real)
      (Action.updateFile file true change) (Action.updateFile file false change) := by
  have lockstep : Lockstep (rehearsal runner opening path other)
      (Abreast opening path other written) := lockstep_abreast
  refine .bind_same (.readFile lockstep.fails ?_) fun old => ?_
  · intro dry real abreast
    exact (abreast.kept file member pending).symm
  refine .bind_same (.ofExcept lockstep _) fun contents => ?_
  intro dry real abreast
  rw [run_bind_of_ok _ (Action.run_say _ dry), run_bind_of_ok _ (Action.run_say _ real),
    if_pos rfl, if_neg Bool.false_ne_true, Action.run_say]
  cases replaced : real.tree.replace file contents with
  | ok tree =>
    have written : ((real.told (.fileWrite file false)).tree.replace file contents) = .ok tree :=
      replaced
    rw [Action.run_replaceFile_of_ok written]
    exact .succeeded ⟨contents, abreast.write member pending replaced⟩
  | error cause =>
    have failed : ((real.told (.fileWrite file false)).tree.replace file contents) =
      .error cause := replaced
    rw [Action.run_replaceFile_of_error failed]
    exact .excused (.replacement member failed)

end Steps

end ReleasePilot
