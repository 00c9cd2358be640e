import ReleasePilot.Proofs.Session.Rehearsal

/-!
# What a dry run prints

A dry run says what it pretends to do with a mark in the line, and shows what it would write
right behind the notice that names the file (`Transcript.IsRehearsal`). Without the marks and
without what it shows (`Transcript.unrehearsed`), it prints what is printed where the same
things are done (`Transcript.IsRehearsal.unrehearsed_eq`).
-/

namespace ReleasePilot

/-- A text without the first place where a piece stands. -/
def Text.deleteFirst (piece : List Char) : List Char → List Char
  | [] => []
  | character :: rest =>
    if piece.isPrefixOf (character :: rest) then (character :: rest).drop piece.length
    else character :: deleteFirst piece rest

theorem Text.deleteFirst_append (piece rest : List Char) :
    deleteFirst piece (piece ++ rest) = rest := by
  have leads : piece.isPrefixOf (piece ++ rest) = true :=
    List.isPrefixOf_iff_prefix.2 (List.prefix_append piece rest)
  cases whole : piece ++ rest with
  | nil => exact (List.append_eq_nil_iff.1 whole).2.symm
  | cons character others =>
    rw [whole] at leads
    rw [deleteFirst, if_pos leads, ← whole, List.drop_left]

namespace Message

/-- What a dry run puts in front of a line about something that it does not do. -/
def dryRunMark : String :=
  "[dry-run] "

/-- The text of a message, without the mark in the lines that a dry run marks. -/
def unmarked (message : Message) : String :=
  match message with
  | .command _ _ | .fileWrite _ _ | .success _ _ =>
    String.ofList (Text.deleteFirst dryRunMark.toList (message.text false).toList)
  | _ => message.text false

/-- The mark begins with a bracket. -/
theorem deleteFirst_mark_cons {character : Char} (other : character ≠ '[') (rest : List Char) :
    Text.deleteFirst dryRunMark.toList (character :: rest) =
      character :: Text.deleteFirst dryRunMark.toList rest := by
  have opens : dryRunMark.toList = '[' :: "dry-run] ".toList := rfl
  rw [Text.deleteFirst, if_neg]
  rw [opens, List.isPrefixOf_cons_cons, beq_false_of_ne other.symm]
  exact Bool.false_ne_true

/-- The mark is found behind anything without a bracket. -/
theorem deleteFirst_mark {front : String} (free : '[' ∉ front.toList) (line : String) :
    String.ofList (Text.deleteFirst dryRunMark.toList (front ++ (dryRunMark ++ line)).toList) =
      front ++ line := by
  have behind (characters : List Char) (free : '[' ∉ characters) :
      Text.deleteFirst dryRunMark.toList (characters ++ (dryRunMark ++ line).toList) =
        characters ++ line.toList := by
    induction characters with
    | nil => exact (congrArg _ String.toList_append).trans (Text.deleteFirst_append _ _)
    | cons character rest inductionHypothesis =>
      obtain ⟨other, others⟩ := not_or.1 (mt List.mem_cons.2 free)
      rw [List.cons_append, deleteFirst_mark_cons (Ne.symm other), inductionHypothesis others,
        List.cons_append]
  rw [String.toList_append, behind _ free, ← String.toList_append, String.ofList_toList]

theorem unmarked_command (quoted : String) :
    (command quoted true).unmarked = (command quoted false).text false := by
  have printed : (command quoted true).text false =
      "" ++ (dryRunMark ++ (command quoted false).text false) :=
    String.append_assoc.trans String.empty_append.symm
  rw [unmarked, printed, deleteFirst_mark (by decide), String.empty_append]

theorem unmarked_fileWrite (path : String) :
    (fileWrite path true).unmarked = (fileWrite path false).text false := by
  have printed : (fileWrite path true).text false =
      "" ++ (dryRunMark ++ (fileWrite path false).text false) :=
    String.append_assoc.trans String.empty_append.symm
  rw [unmarked, printed, deleteFirst_mark (by decide), String.empty_append]

theorem unmarked_success (done : String) :
    (success done true).unmarked = (success done false).text false := by
  have printed : (success done true).text false =
      ("✓" ++ " ") ++ (dryRunMark ++ (done ++ "\n")) :=
    String.append_assoc.trans (congrArg _ String.append_assoc)
  rw [unmarked, printed, deleteFirst_mark (by decide)]
  exact String.append_assoc.symm

theorem IsNotice.unmarked {message : Message} (notice : message.IsNotice) :
    message.unmarked = message.text false := by
  cases message with
  | success | command | fileWrite | preview | diagnostic => cases notice
  | _ => rfl

end Message

namespace Transcript

/-- The messages without what would be written, where it stands behind the name of its file. -/
def withoutPreviews : Transcript → Transcript
  | .fileWrite path dryRun :: .preview _ :: more => .fileWrite path dryRun :: withoutPreviews more
  | message :: more => message :: withoutPreviews more
  | [] => []

/-- What messages print to the output, less the previews and the marks of a dry run. -/
def unrehearsed (transcript : Transcript) : String :=
  String.join ((transcript.withoutPreviews.filter (·.channel == .output)).map Message.unmarked)

/-- What a dry run says: all that it does not do is marked, and what it does not write follows
the name of the file. -/
inductive IsRehearsal : Transcript → Prop where
  | nil : IsRehearsal []
  | notice {message : Message} {more : Transcript} (notice : message.IsNotice)
      (rest : IsRehearsal more) : IsRehearsal (message :: more)
  | command {quoted : String} {more : Transcript} (rest : IsRehearsal more) :
      IsRehearsal (.command quoted true :: more)
  | success {text : String} {more : Transcript} (rest : IsRehearsal more) :
      IsRehearsal (.success text true :: more)
  | write {path contents : String} {more : Transcript} (rest : IsRehearsal more) :
      IsRehearsal (.fileWrite path true :: .preview contents :: more)

theorem withoutPreviews_cons {message : Message} {more : Transcript}
    (noWrite : ∀ path dryRun, message ≠ .fileWrite path dryRun) :
    withoutPreviews (message :: more) = message :: withoutPreviews more := by
  rw [withoutPreviews]
  rintro path dryRun _ _ rfl
  exact absurd rfl (noWrite path dryRun)

namespace IsRehearsal

variable {transcript said : Transcript}

theorem append (isRehearsal : IsRehearsal transcript) (more : IsRehearsal said) :
    IsRehearsal (transcript ++ said) := by
  induction isRehearsal with
  | nil => exact more
  | notice notice rest inductionHypothesis => exact .notice notice inductionHypothesis
  | command rest inductionHypothesis => exact .command inductionHypothesis
  | success rest inductionHypothesis => exact .success inductionHypothesis
  | write rest inductionHypothesis => exact .write inductionHypothesis

theorem of_notices (notices : ∀ message ∈ said, message.IsNotice) : IsRehearsal said := by
  induction said with
  | nil => exact .nil
  | cons message more inductionHypothesis =>
    obtain ⟨first, others⟩ := List.forall_mem_cons.1 notices
    exact .notice first (inductionHypothesis others)

/-- Each message that is left prints, less its mark, what is printed where it is done. -/
theorem printed (isRehearsal : IsRehearsal transcript) :
    transcript.withoutPreviews.map (fun message => (message.channel, message.unmarked)) =
      (transcript.filterMap Message.performed?).map fun message =>
        (message.channel, message.text false) := by
  induction isRehearsal with
  | nil => rfl
  | @notice message more notice rest inductionHypothesis =>
    have noWrite (path : String) (dryRun : Bool) : message ≠ .fileWrite path dryRun := by
      rintro rfl
      cases notice
    rw [withoutPreviews_cons noWrite, List.filterMap_cons_some notice.performed?, List.map_cons,
      List.map_cons, inductionHypothesis, notice.unmarked]
  | @command quoted more rest inductionHypothesis =>
    have performed : (Message.command quoted true).performed? = some (.command quoted false) := rfl
    rw [withoutPreviews_cons (by rintro _ _ ⟨⟩), List.filterMap_cons_some performed, List.map_cons,
      List.map_cons, inductionHypothesis, Message.unmarked_command]
    rfl
  | @success text more rest inductionHypothesis =>
    have performed : (Message.success text true).performed? = some (.success text false) := rfl
    rw [withoutPreviews_cons (by rintro _ _ ⟨⟩), List.filterMap_cons_some performed, List.map_cons,
      List.map_cons, inductionHypothesis, Message.unmarked_success]
    rfl
  | @write path contents more rest inductionHypothesis =>
    have performed : (Message.fileWrite path true).performed? = some (.fileWrite path false) := rfl
    have shown : (Message.preview contents).performed? = none := rfl
    rw [withoutPreviews, List.filterMap_cons_some performed, List.filterMap_cons_none shown,
      List.map_cons, List.map_cons, inductionHypothesis, Message.unmarked_fileWrite]
    rfl

/-- Without previews and marks, a dry run prints to the output what is printed where the same
things are done. -/
theorem unrehearsed_eq (isRehearsal : IsRehearsal transcript) :
    transcript.unrehearsed = shown false .output (transcript.filterMap Message.performed?) := by
  have onChannel (print : Message → String) (messages : Transcript) :
      (messages.filter (·.channel == .output)).map print =
        ((messages.map fun message => (message.channel, print message)).filter
          (·.1 == .output)).map Prod.snd := by
    rw [List.filter_map, List.map_map]
    rfl
  rw [unrehearsed, shown, onChannel, isRehearsal.printed, ← onChannel]

/-- Nothing of what a dry run says otherwise goes to the errors. -/
theorem errors_eq (isRehearsal : IsRehearsal transcript) :
    transcript.filter (·.channel == .errors) =
      (transcript.filterMap Message.performed?).filter (·.channel == .errors) := by
  induction isRehearsal with
  | nil => rfl
  | notice notice rest inductionHypothesis =>
    rw [List.filterMap_cons_some notice.performed?, List.filter_cons, List.filter_cons,
      inductionHypothesis]
  | command rest inductionHypothesis => exact inductionHypothesis
  | success rest inductionHypothesis => exact inductionHypothesis
  | write rest inductionHypothesis => exact inductionHypothesis

/-- A rehearsal notes nothing. -/
theorem diagnostics_eq_nil (isRehearsal : IsRehearsal transcript) :
    transcript.diagnostics = [] := by
  induction isRehearsal with
  | nil => rfl
  | notice notice rest inductionHypothesis =>
    rw [diagnostics, List.filterMap_cons_none notice.diagnostic?]
    exact inductionHypothesis
  | command rest inductionHypothesis => exact inductionHypothesis
  | success rest inductionHypothesis => exact inductionHypothesis
  | write rest inductionHypothesis => exact inductionHypothesis

/-- A rehearsal of nothing but what a real run says, after one notice. -/
theorem of_filterMap_eq_cons {notice : Message} {real : Transcript}
    (isRehearsal : IsRehearsal transcript) (isNotice : notice.IsNotice)
    (performed : transcript.filterMap Message.performed? = notice :: real) :
    ∃ more, transcript = notice :: more ∧ IsRehearsal more ∧
      more.filterMap Message.performed? = real := by
  cases isRehearsal with
  | nil => cases performed
  | @notice message more first rest =>
    rw [List.filterMap_cons_some first.performed?] at performed
    obtain ⟨rfl, same⟩ := List.cons.inj performed
    exact ⟨more, rfl, rest, same⟩
  | command rest =>
    obtain ⟨rfl, -⟩ := List.cons.inj performed
    cases isNotice
  | success rest =>
    obtain ⟨rfl, -⟩ := List.cons.inj performed
    cases isNotice
  | write rest =>
    obtain ⟨rfl, -⟩ := List.cons.inj performed
    cases isNotice

end IsRehearsal

end Transcript

/-! ## Steps of a dry run -/

/-- All that was said so far is a rehearsal. -/
def Session.IsRehearsed (session : Session) : Prop :=
  session.transcript.IsRehearsal

theorem unnoticed_isRehearsed : Unnoticed Session.IsRehearsed :=
  fun _ _ notice holds => Transcript.IsRehearsal.append holds (.notice notice .nil)

theorem unasked_isRehearsed : Unasked Session.IsRehearsed :=
  fun _ _ _ holds => Transcript.IsRehearsal.append holds
    (.of_notices fun _ shown => Operator.isNotice_of_reply shown)

/-- The echo of a command that is not run is marked. -/
theorem Runner.isRehearsal_echo (runner : Runner) (call : Call)
    (unexecuted : call.options = .query ∨ call.executed = false) (tree : Tree) :
    Transcript.IsRehearsal (runner.run call.command call.options tree).2.1 := by
  rcases unexecuted with query | unexecuted
  · rw [query, Runner.echo_query]
    exact .nil
  have dryRun : call.options.dryRun = true := by simpa [Call.executed] using unexecuted
  cases runner with
  | recorded replies =>
    rw [run_recorded]
    exact .nil
  | spawning spawn =>
    by_cases empty : call.command = []
    · rw [empty, run_spawning_nil]
      exact .nil
    · rw [run_spawning_of_dryRun spawn tree empty dryRun]
      exact .command .nil

namespace Preserves

theorem success_isRehearsed (text : String) :
    Preserves Session.IsRehearsed (Action.say (.success text true)) :=
  fun _ holds => Transcript.IsRehearsal.append holds (.success .nil)

theorem perform_isRehearsed (runner : Runner) {call : Call}
    (unexecuted : call.options = .query ∨ call.executed = false) :
    Preserves Session.IsRehearsed (Action.perform runner call) :=
  fun before holds => Transcript.IsRehearsal.append holds
    (runner.isRehearsal_echo call unexecuted before.tree)

/-- What would be written follows the name of its file. -/
theorem updateFile_isRehearsed (path : String) (change : String → Except ReleaseError String) :
    Preserves Session.IsRehearsed (Action.updateFile path true change) := by
  refine .bind (.readFile path) fun contents => .bind (.ofExcept _) fun changed => ?_
  intro before holds
  rw [run_bind_of_ok _ (Action.run_say _ before), if_pos rfl, Action.run_say]
  change Transcript.IsRehearsal (before.transcript ++ [.fileWrite path true] ++ [.preview changed])
  rw [List.append_assoc]
  exact holds.append (.write .nil)

end Preserves

end ReleasePilot
