import ReleasePilot.Proofs.Session.Answers
import ReleasePilot.Proofs.Workflow.Files

/-!
# Consent before any change

A run that changes a file, or asks for a command that is not one of its two
queries, has passed both questions of a release: it is made from the main branch
or the operator agreed to another, and the new version follows the current one
or the operator agreed to go on (`consent_of_change`).
-/

namespace ReleasePilot.Workflow

/-! ## The questions -/

/-- Whether to release from a branch that is not the main one. -/
def branchPrompt : String := "Release from this branch anyway?"

/-- Which version to release. -/
def versionPrompt : String := "New version"

/-- Whether to release a version that does not follow the current one. -/
def orderPrompt : String := "Continue anyway?"

/-- The branch, as the command for it prints it, is the main branch. -/
def OnMainBranch (runner : Runner) (config : Config) (tree : Tree) : Prop :=
  ∃ printed, (runner.run branchCommand .query tree).1 = .ok printed ∧
    trimmed printed = config.mainBranch

/-- The release may be made from this branch. -/
def BranchConsent (runner : Runner) (config : Config) (tree : Tree)
    (answers asked : List String) : Prop :=
  OnMainBranch runner config tree ∨ Agreed answers asked branchPrompt

/-- The first answer that is a version, a blank one standing for the proposal. -/
def FirstVersion (proposal : String) (answers asked : List String) (version : Version) : Prop :=
  ∃ position answer, AnsweredAt answers asked position versionPrompt answer ∧
    Version.ofText? (Operator.orDefault proposal answer) = some version ∧
    ∀ earlier other, earlier < position → AnsweredAt answers asked earlier versionPrompt other →
      Version.ofText? (Operator.orDefault proposal other) = none

/-- The new version is the requested one or, without a request, the operator's choice. -/
inductive Chosen (request : Request) (answers asked : List String) (current new : Version) :
    Prop where
  | requested {text : String} (named : request.newVersion = some text)
      (parsed : Version.parse text = .ok new)
  | answered {proposal : Version} (unnamed : request.newVersion = none)
      (next : current.increment = .ok proposal)
      (first : FirstVersion proposal.text answers asked new)

/-- A new version may be released after the current one. -/
def OrderConsent (answers asked : List String) (current new : Version) : Prop :=
  compare new current = .gt ∨ Agreed answers asked orderPrompt

/-- The versions of a release are the declared one and the chosen one, in order
or with consent. -/
structure VersionConsent (config : Config) (request : Request) (tree : Tree)
    (answers : List String) (current new : Version) (asked : List String) : Prop where
  declared : Declares config (tree.readText config.versionFile) current
  chosen : Chosen request answers asked current new
  order : OrderConsent answers asked current new

/-- Both questions of a release from one version to another are settled. -/
structure Consent (runner : Runner) (config : Config) (request : Request) (tree : Tree)
    (answers : List String) (current new : Version) (asked : List String) : Prop where
  branch : BranchConsent runner config tree answers asked
  version : VersionConsent config request tree answers current new asked

/-- The commands that only ask about the repository. -/
def IsQuery (command : List String) : Prop :=
  command = branchCommand ∨ ∃ previous, command = Changelog.mergeLogCommand previous

variable {runner : Runner} {config : Config} {request : Request} {tree : Tree}
  {answers asked : List String} {current new : Version}

/-! ## What was asked stays asked -/

theorem lasting_branchConsent : Lasting (BranchConsent runner config tree answers) := by
  rintro asked more (main | agreed)
  · exact .inl main
  · exact .inr (lasting_agreed answers branchPrompt asked more agreed)

theorem lasting_firstVersion (proposal : String) (version : Version) :
    Lasting fun asked => FirstVersion proposal answers asked version := by
  rintro asked more ⟨position, answer, answered, valid, first⟩
  refine ⟨position, answer, (answeredAt_append more answered.lt).2 answered, valid, ?_⟩
  intro earlier other before otherAnswered
  exact first earlier other before
    ((answeredAt_append more (Nat.lt_trans before answered.lt)).1 otherAnswered)

theorem lasting_chosen : Lasting fun asked => Chosen request answers asked current new := by
  rintro asked more (⟨named, parsed⟩ | ⟨unnamed, next, first⟩)
  · exact .requested named parsed
  · exact .answered unnamed next (lasting_firstVersion _ _ asked more first)

theorem lasting_versionConsent :
    Lasting (VersionConsent config request tree answers current new) := by
  rintro asked more ⟨declared, chosen, order⟩
  refine ⟨declared, lasting_chosen asked more chosen, ?_⟩
  rcases order with later | agreed
  · exact .inl later
  · exact .inr (lasting_agreed answers orderPrompt asked more agreed)

theorem lasting_consent : Lasting (Consent runner config request tree answers current new) := by
  rintro asked more ⟨branch, version⟩
  exact ⟨lasting_branchConsent asked more branch, lasting_versionConsent asked more version⟩

/-! ## What the stages ask -/

/-- The stage that checks the branch asks at most about the branch. -/
theorem of_checkBranch {before after : Session}
    (scripted : before.operator = .scripted (answers.drop asked.length) asked)
    (checked : (checkBranch runner config).run.run before = (.ok (), after)) :
    ∃ more, (∀ prompt ∈ more, prompt = branchPrompt) ∧
      after.operator = .scripted (answers.drop (asked ++ more).length) (asked ++ more) ∧
      BranchConsent runner config before.tree answers (asked ++ more) := by
  obtain ⟨printed, between, queried, ran⟩ | ⟨_, -, ⟨⟩⟩ := of_bind checked
  have printing : (runner.run branchCommand .query before.tree).1 = .ok printed :=
    congrArg Prod.fst queried
  have kept : between.operator = before.operator :=
    congrArg (fun ran => ran.2.operator) queried.symm
  rw [← kept] at scripted
  extract_lets branch at ran
  split at ran
  case isTrue main =>
    obtain ⟨-, rfl⟩ := Prod.mk.inj ran
    refine ⟨[], nofun, ?_, .inl ⟨printed, printing, main⟩⟩
    rw [List.append_nil]
    exact scripted
  case isFalse =>
    obtain ⟨_, warned, said, ran⟩ | ⟨_, -, ⟨⟩⟩ := of_bind ran
    have kept : warned.operator = between.operator :=
      congrArg (fun ran => ran.2.operator) said.symm
    rw [← kept] at scripted
    obtain ⟨agreed, _, confirmed, ran⟩ | ⟨_, -, ⟨⟩⟩ := of_bind ran
    cases agreed with
    | false => cases ran
    | true =>
      obtain ⟨-, rfl⟩ := Prod.mk.inj ran
      obtain ⟨operator, agreed⟩ := agreed_of_confirm scripted confirmed
      exact ⟨[branchPrompt], by simp, operator, .inr agreed⟩

/-- An answer is asked for until one is a version. -/
theorem firstVersion_of_askVersion {proposal : String} {before after : Session}
    {version : Version} (scripted : before.operator = .scripted (answers.drop asked.length) asked)
    (rejected : ∀ position answer, AnsweredAt answers asked position versionPrompt answer →
      Version.ofText? (Operator.orDefault proposal answer) = none)
    (chosen : askVersion proposal before = (.ok version, after)) :
    ∃ more, after.operator = .scripted (answers.drop (asked ++ more).length) (asked ++ more) ∧
      FirstVersion proposal answers (asked ++ more) version := by
  fun_induction askVersion proposal before generalizing asked with
  | case1 before cause between reply => cases chosen
  | case2 before answer between reply found valid =>
    obtain ⟨⟨⟩, ⟨⟩⟩ := Prod.mk.inj chosen
    obtain ⟨operator, given, answered, rfl⟩ := of_input scripted reply
    refine ⟨[versionPrompt], operator, asked.length, given, answered, valid, ?_⟩
    intro earlier other before otherAnswered
    exact rejected earlier other ((answeredAt_append _ before).1 otherAnswered)
  | case3 before answer between reply invalid told remaining =>
    rename_i inductionHypothesis
    obtain ⟨operator, given, answered, rfl⟩ := of_input scripted reply
    have stillRejected (position : Nat) (answer : String)
        (answeredAt : AnsweredAt answers (asked ++ [versionPrompt]) position versionPrompt answer) :
        Version.ofText? (Operator.orDefault proposal answer) = none := by
      by_cases earlier : position < asked.length
      · exact rejected position answer ((answeredAt_append _ earlier).1 answeredAt)
      · have bound := answeredAt.lt
        rw [List.length_append, List.length_singleton] at bound
        obtain rfl : position = asked.length := by omega
        obtain rfl := Option.some.inj (answeredAt.reply.symm.trans answered.reply)
        exact invalid
    obtain ⟨more, later, first⟩ := inductionHypothesis operator stillRejected chosen
    rw [List.append_assoc] at later first
    exact ⟨[versionPrompt] ++ more, later, first⟩
  | case4 before answer between reply invalid exhausted => cases chosen

/-- The operator chooses the new version unless the request names it. -/
theorem chosen_of_chooseVersion {before after : Session}
    (scripted : before.operator = .scripted (answers.drop asked.length) asked)
    (unasked : versionPrompt ∉ asked)
    (chosen : (chooseVersion request current).run.run before = (.ok new, after)) :
    ∃ more, after.operator = .scripted (answers.drop (asked ++ more).length) (asked ++ more) ∧
      Chosen request answers (asked ++ more) current new := by
  unfold chooseVersion at chosen
  split at chosen
  case h_1 text named =>
    obtain ⟨parsed, rfl⟩ := Prod.mk.inj chosen
    exact ⟨[], by rwa [List.append_nil], .requested named parsed⟩
  case h_2 unnamed =>
    obtain ⟨proposal, _, proposed, chosen⟩ | ⟨_, -, ⟨⟩⟩ := of_bind chosen
    obtain ⟨next, rfl⟩ := Prod.mk.inj proposed
    have rejected (position : Nat) (answer : String)
        (answered : AnsweredAt answers asked position versionPrompt answer) :
        Version.ofText? (Operator.orDefault proposal.text answer) = none :=
      absurd (List.mem_of_getElem? answered.question) unasked
    obtain ⟨more, operator, first⟩ := firstVersion_of_askVersion scripted rejected chosen
    exact ⟨more, operator, .answered unnamed next first⟩

/-- A version that does not follow the current one needs an agreement. -/
theorem versionConsent_of_resolveVersions {before after : Session}
    (scripted : before.operator = .scripted (answers.drop asked.length) asked)
    (unasked : versionPrompt ∉ asked)
    (resolved : (resolveVersions config request).run.run before = (.ok (current, new), after)) :
    ∃ more, after.operator = .scripted (answers.drop (asked ++ more).length) (asked ++ more) ∧
      VersionConsent config request before.tree answers current new (asked ++ more) := by
  unfold resolveVersions at resolved
  obtain ⟨previous, _, found, resolved⟩ | ⟨_, -, ⟨⟩⟩ := of_bind resolved
  obtain ⟨contents, _, reading, parsing⟩ | ⟨_, -, ⟨⟩⟩ := of_bind found
  obtain ⟨read, rfl⟩ := Prod.mk.inj reading
  obtain ⟨declared, rfl⟩ := Prod.mk.inj parsing
  have declares : Declares config (before.tree.readText config.versionFile) previous :=
    ⟨contents, Action.ok_of_mapError read, declared⟩
  obtain ⟨version, between, choosing, resolved⟩ | ⟨_, -, ⟨⟩⟩ := of_bind resolved
  obtain ⟨more, scripted, chosen⟩ := chosen_of_chooseVersion scripted unasked choosing
  split at resolved
  case isTrue =>
    obtain ⟨_, warned, said, resolved⟩ | ⟨_, -, ⟨⟩⟩ := of_bind resolved
    have kept : warned.operator = between.operator :=
      congrArg (fun ran => ran.2.operator) said.symm
    rw [← kept] at scripted
    obtain ⟨agreed, _, confirmed, resolved⟩ | ⟨_, -, ⟨⟩⟩ := of_bind resolved
    cases agreed with
    | false => cases resolved
    | true =>
      obtain ⟨⟨⟩, rfl⟩ := Prod.mk.inj resolved
      obtain ⟨operator, agreed⟩ := agreed_of_confirm scripted confirmed
      have still := lasting_chosen (asked ++ more) [orderPrompt] chosen
      rw [List.append_assoc] at operator agreed still
      exact ⟨more ++ [orderPrompt], operator, declares, still, .inr agreed⟩
  case isFalse later =>
    obtain ⟨⟨⟩, rfl⟩ := Prod.mk.inj resolved
    exact ⟨more, scripted, declares, chosen, .inl (by simpa using later)⟩

/-! ## Consent along a run -/

namespace Milestone

variable (replies : List Reply) (config : Config) (request : Request) (tree : Tree)
  (answers : List String)

/-- What was agreed to by the time a run has come to a milestone. -/
def Consented : Milestone → Session → Prop
  | .opened, session => session.tree = tree ∧ session.HasAsked answers (· = [])
  | .onBranch, session =>
    session.tree = tree ∧ session.HasAsked answers fun asked =>
      BranchConsent (.recorded replies) config tree answers asked ∧ versionPrompt ∉ asked
  | .resolved previous new, session | .declared previous new, session
  | .recorded previous new _, session | .tagged previous new _, session
  | .uploaded previous new _, session | .released previous new _, session =>
    session.HasAsked answers (Consent (.recorded replies) config request tree answers previous new)

end Milestone

section Run

variable {replies : List Reply} {milestone later : Milestone} {start before after final : Session}

/-- Commands and replacements ask nothing. -/
theorem preserves_next_hasAsked {property : List String → Prop} (lasting : Lasting property) :
    Preserves (Session.HasAsked answers property) (next runner config request milestone) :=
  preserves_next unspoken_hasAsked (unasked_hasAsked lasting)
    (fun call _ => .perform_hasAsked runner call)
    fun _ path _ contents => .replaceFile_hasAsked path contents

/-- Recorded replies leave the tree alone, so that only a replacement changes it. -/
theorem preserves_next_tree (untouched : milestone.replaced config = []) :
    Preserves (fun session => session.tree = tree)
      (next (.recorded replies) config request milestone) := by
  refine preserves_next (fun _ _ same => same) (fun _ _ _ same => same)
    (fun call _ => .perform_recorded replies call) ?_
  rw [untouched]
  exact fun _ => nofun

theorem consented_of_next
    (consented : milestone.Consented replies config request tree answers before)
    (ran : (next (.recorded replies) config request milestone).run.run before =
      (.ok later, after)) :
    later.Consented replies config request tree answers after := by
  have kept {previous new : Version} (holds : before.HasAsked answers
      (Consent (.recorded replies) config request tree answers previous new)) :
      after.HasAsked answers
        (Consent (.recorded replies) config request tree answers previous new) :=
    (preserves_next_hasAsked lasting_consent).after ran holds
  cases passes_of_next ran with
  | branch checked =>
    obtain ⟨rfl, _, scripted, rfl⟩ := consented
    obtain ⟨more, prompts, operator, consent⟩ := of_checkBranch scripted checked
    refine ⟨(preserves_next_tree rfl).after ran rfl, _, operator, consent, fun asked => ?_⟩
    exact absurd (prompts _ asked) (by decide)
  | versions resolved =>
    obtain ⟨rfl, asked, scripted, consent, unasked⟩ := consented
    obtain ⟨more, operator, version⟩ :=
      versionConsent_of_resolveVersions scripted unasked resolved
    exact ⟨_, operator, lasting_branchConsent asked more consent, version⟩
  | declaration => exact kept consented
  | changelog => exact kept consented
  | tagging => exact kept consented
  | uploading => exact kept consented
  | announcement => exact kept consented
  | rest => exact kept consented

theorem consented_of_reaches
    (opened : start.tree = tree ∧ start.HasAsked answers (· = []))
    (reached : Reaches (.recorded replies) config request start milestone before) :
    milestone.Consented replies config request tree answers before := by
  induction reached with
  | opened =>
    unfold opening
    split
    · exact opened
    · exact opened
  | next reached ran inductionHypothesis => exact consented_of_next inductionHypothesis ran

/-- A run that stops before the versions are settled has changed nothing and
asked for no command but the one for the branch. -/
theorem unchanged_of_error {cause : ReleaseError}
    (reached : Reaches (.recorded replies) config request start milestone before)
    (fresh : start.calls = []) (untouched : milestone.replaced config = [])
    (early : milestone.issued config request ++ milestone.planned config request =
      [⟨branchCommand, .query⟩])
    (same : before.tree = tree)
    (failed : (next (.recorded replies) config request milestone).run.run before =
      (.error cause, final)) :
    final.tree = tree ∧ ∀ call ∈ final.calls, call.command = branchCommand := by
  refine ⟨(preserves_next_tree untouched).after failed same, fun call asked => ?_⟩
  obtain ⟨taken, within, calls, -⟩ := issues_next milestone _ _ _ failed
  rw [calls, calls_of_reaches reached, fresh, List.nil_append] at asked
  have planned := ((List.prefix_append_right_inj _).2 within).subset asked
  rw [early] at planned
  rw [List.mem_singleton.1 planned]

/-- A run has changed nothing, or both of its questions are settled. -/
theorem consented_of_ends {outcome : Except Failure Released} (fresh : start.calls = [])
    (opened : start.tree = tree ∧ start.HasAsked answers (· = []))
    (ends : Ends (.recorded replies) config request start outcome final) :
    (final.tree = tree ∧ ∀ call ∈ final.calls, call.command = branchCommand) ∨
      ∃ current new, final.HasAsked answers
        (Consent (.recorded replies) config request tree answers current new) ∧
        ∀ released, outcome = .ok released → released.previous = current ∧ released.new = new := by
  cases ends with
  | @released previous new entry final reached =>
    refine .inr ⟨previous, new, consented_of_reaches opened reached, ?_⟩
    rintro _ ⟨⟩
    exact ⟨rfl, rfl⟩
  | @failed milestone before final cause reached failed =>
    have consented := consented_of_reaches opened reached
    cases milestone with
    | opened => exact .inl (unchanged_of_error reached fresh rfl rfl consented.1 failed)
    | onBranch => exact .inl (unchanged_of_error reached fresh rfl rfl consented.1 failed)
    | resolved previous new | declared previous new | recorded previous new entry
    | tagged previous new entry | uploaded previous new entry | released previous new entry =>
      have still := (preserves_next_hasAsked lasting_consent).after failed consented
      refine .inr ⟨previous, new, still, ?_⟩
      rintro _ ⟨⟩

/-- A run that changes a file, or asks for a command other than a query, has
passed both questions. -/
theorem consent_of_change {outcome : Except Failure Released}
    (ran : (run (.recorded replies) config request).run.run
      { tree, operator := .scripted answers [] } = (outcome, final))
    (changed : (∃ call ∈ final.calls, ¬IsQuery call.command) ∨ final.tree ≠ tree) :
    ∃ current new, final.HasAsked answers
      (Consent (.recorded replies) config request tree answers current new) ∧
      ∀ released, outcome = .ok released → released.previous = current ∧ released.new = new := by
  have ends := ends_of_run ran
  rcases consented_of_ends rfl ⟨rfl, [], rfl, rfl⟩ ends with ⟨same, queries⟩ | consented
  · rcases changed with ⟨call, asked, mutating⟩ | different
    · exact absurd (.inl (queries call asked)) mutating
    · exact absurd same different
  · exact consented

/-- From another branch, and with no version, then an earlier one as the answer,
the small project is released once both questions are answered with yes. -/
theorem consent_of_change_sample :
    let answers := ["Y", "soon", "0.9", " yes "]
    let final := ((run (.recorded []) {} {}).run.run
      { tree := sampleTree, operator := .scripted answers [] }).2
    final.tree ≠ sampleTree ∧
      ∃ current new, final.HasAsked answers
        (Consent (.recorded []) {} {} sampleTree answers current new) := by
  intro answers final
  have written : (final.tree.readText "version.py").toOption = some "__version__ = \"0.9\"\n" := by
    decide +kernel
  have different : final.tree ≠ sampleTree := by
    intro same
    rw [same] at written
    exact absurd written (by decide +kernel)
  obtain ⟨current, new, consent, -⟩ := consent_of_change (Prod.eta _).symm (.inr different)
  exact ⟨different, current, new, consent⟩

end Run

end ReleasePilot.Workflow
