import ReleasePilot.Proofs.Changelog.Insertion
import ReleasePilot.Proofs.Workflow.Files

/-!
# No tag is created twice

A run that creates a tag has inserted a section for it into the changelog
before, which fails if a line of the changelog is the tag already. No run and no
failure takes a line away again, so that every tag that was ever created is a
line of the changelog (`History.recorded`), and no later run can
come to create it.
-/

namespace ReleasePilot

/-- The tag that a call creates, unless the call is not really run. -/
def Call.createdTag? (call : Call) : Option String :=
  match call.command with
  | "git" :: "tag" :: "-a" :: name :: _ => if call.executed then some name else none
  | _ => none

/-- The tags that are created by calls, in order. -/
def createdTags (calls : List Call) : List String :=
  calls.filterMap Call.createdTag?

@[simp] theorem createdTags_append (first second : List Call) :
    createdTags (first ++ second) = createdTags first ++ createdTags second :=
  List.filterMap_append

@[simp] theorem createdTags_queries (previous : Version) :
    createdTags [⟨Workflow.branchCommand, .query⟩, ⟨Changelog.mergeLogCommand previous, .query⟩] =
      [] :=
  rfl

/-- Of the commands that tag and push a release, one creates its tag. -/
theorem createdTags_taggingCalls (config : Config) (publication : Publication) :
    createdTags (publication.taggingCalls config) =
      if publication.dryRun then [] else [publication.tagName] := by
  cases publication with
  | mk version dryRun target changelog => cases dryRun <;> rfl

/-- A readable text with a given line. -/
def HoldsLine (text : Except Fault String) (line : String) : Prop :=
  ∃ contents, text = .ok contents ∧ line.toList ∈ Changelog.bareLines contents

/-- Inserting a section takes no line away. -/
theorem HoldsLine.of_updated {path : String} {entry : Changelog.Section} {dryRun : Bool}
    {first current : Except Fault String} {line : String}
    (updated : Updated dryRun (Changelog.insert path entry) first current)
    (holds : HoldsLine first line) : HoldsLine current line := by
  obtain ⟨old, new, rfl, inserted, rfl⟩ := updated
  obtain ⟨contents, same, member⟩ := holds
  obtain rfl := Except.ok.inj same
  refine ⟨_, rfl, ?_⟩
  cases dryRun with
  | true => exact member
  | false =>
    obtain ⟨-, above, below, lines, before, -, after⟩ := Changelog.bareLines_of_insert inserted
    rw [before] at member
    rw [if_neg Bool.false_ne_true, after]
    rcases List.mem_append.1 member with inside | inside
    · exact List.mem_append_left _ (List.mem_append_left _ inside)
    · exact List.mem_append_right _ inside

/-- A version is a line of the changelog once its section was inserted, and was none before. -/
theorem holdsLine_of_updated {path : String} {entry : Changelog.Section} {new : Version}
    {first current : Except Fault String} (isRead : Workflow.IsRead new)
    (header : entry.header = new.text)
    (updated : Updated false (Changelog.insert path entry) first current) :
    ¬HoldsLine first new.text ∧ HoldsLine current new.text := by
  obtain ⟨old, changed, rfl, inserted, rfl⟩ := updated
  obtain ⟨unused, above, below, lines, -, -, after⟩ := Changelog.bareLines_of_insert inserted
  rw [header] at unused
  constructor
  · rintro ⟨contents, same, member⟩
    obtain rfl := Except.ok.inj same
    exact unused member
  · refine ⟨_, rfl, ?_⟩
    rw [if_neg Bool.false_ne_true, after, ← header]
    refine List.mem_append_left _ (List.mem_append_right _ ?_)
    obtain ⟨spelling, read⟩ := isRead
    have solid : ∀ character ∈ entry.header.toList, Text.isBlank character = false := by
      intro character member
      rw [header, Version.text, String.toList_ofList] at member
      have canonical := Version.canonical_of_ofText? read
      exact (Version.isWrittenWith_of_mem_characters canonical member).isBlank_eq_false
    have inLine : '\n' ∉ entry.header.toList := fun member =>
      absurd (solid _ member) (by decide)
    exact Changelog.header_mem_insertedLines lines inLine (Changelog.trimEnd_isBreak_eq_self solid)

namespace Workflow

variable {runner : Runner} {config : Config} {request : Request}
  {first current : Except Fault String} {start final : Session}
  {outcome : Except Failure Released} {milestone : Milestone} {taken : List Call}

/-- The commands of a run before those that build and upload: two queries and
the five that commit, tag and push. -/
def callsBeforeBuild (calls : List Call) : List Call :=
  calls.take 7

/-- The commands of a run that come after those. -/
def callsFromBuild (calls : List Call) : List Call :=
  calls.drop 7

/-- A configured command that builds or uploads a release. -/
def IsConfigured (config : Config) (call : Call) : Prop :=
  ∃ publication : Publication, call ∈ publication.uploadingCalls config

/-- What a run says of its tags: it creates none, or one that was no line of the
changelog before and is one now. -/
def AddsTag (first current : Except Fault String) (tags : List String) : Prop :=
  tags = [] ∨ ∃ tag, tags = [tag] ∧ ¬HoldsLine first tag ∧ HoldsLine current tag

theorem createdTags_of_initial {calls : List Call} (none : createdTags calls = [])
    (within : taken <+: calls) : createdTags taken = [] := by
  have tags := within.filterMap Call.createdTag?
  change createdTags taken <+: createdTags calls at tags
  rw [none] at tags
  exact List.prefix_nil.1 tags

/-- Only a run that is no dry run creates a tag, with the name of its new version. -/
theorem addsTag_of_updated {new : Version} {entry : Changelog.Section} (isRead : IsRead new)
    (header : entry.header = new.text)
    (updated : Updated request.dryRun (Changelog.insert config.changelogFile entry) first current)
    (within : taken <+: (publication request new entry).taggingCalls config) :
    AddsTag first current (createdTags taken) := by
  have tags := within.filterMap Call.createdTag?
  change createdTags taken <+: createdTags _ at tags
  rw [createdTags_taggingCalls] at tags
  cases dry : request.dryRun with
  | true =>
    rw [if_pos (show (publication request new entry).dryRun = true from dry)] at tags
    exact .inl (List.prefix_nil.1 tags)
  | false =>
    rw [if_neg (by simp [publication, dry])] at tags
    rw [dry] at updated
    obtain ⟨fresh, recorded⟩ := holdsLine_of_updated isRead header updated
    rcases List.prefix_cons_iff.1 tags with none | ⟨rest, some, empty⟩
    · exact .inl none
    · rw [List.prefix_nil.1 empty] at some
      exact .inr ⟨new.text, some, fresh, recorded⟩

theorem callsBeforeBuild_recorded {previous new : Version} {entry : Changelog.Section}
    (within : taken <+: (publication request new entry).taggingCalls config) :
    callsBeforeBuild ([⟨branchCommand, .query⟩, ⟨Changelog.mergeLogCommand previous, .query⟩] ++
      taken) =
      [⟨branchCommand, .query⟩, ⟨Changelog.mergeLogCommand previous, .query⟩] ++ taken := by
  apply List.take_of_length_le
  have short : taken.length ≤ 5 := within.length_le
  simp only [List.length_append, List.length_cons, List.length_nil]
  omega

/-- Before the changelog is brought up to date, no command creates a tag. -/
theorem createdTags_of_queries
    (queries :
      createdTags (milestone.issued config request ++ milestone.planned config request) = [])
    (within : taken <+: milestone.planned config request) :
    createdTags (milestone.issued config request ++ taken) = [] ∧
      createdTags (callsBeforeBuild (milestone.issued config request ++ taken)) = [] := by
  have calls := (List.prefix_append_right_inj (milestone.issued config request)).2 within
  have early : callsBeforeBuild (milestone.issued config request ++ taken) <+: _ :=
    List.take_prefix 7 _
  exact ⟨createdTags_of_initial queries calls,
    createdTags_of_initial queries (early.trans calls)⟩

/-- The tags that a run creates up to a milestone and on the way to the next. -/
theorem addsTag_of_changelogText (text : milestone.ChangelogText config request first current)
    (within : taken <+: milestone.planned config request) :
    AddsTag first current
      (createdTags (callsBeforeBuild (milestone.issued config request ++ taken))) := by
  cases milestone with
  | recorded previous new entry =>
    obtain ⟨isRead, header, updated⟩ := text
    rw [Milestone.issued, callsBeforeBuild_recorded within, createdTags_append,
      createdTags_queries, List.nil_append]
    exact addsTag_of_updated isRead header updated within
  | tagged previous new entry | uploaded previous new entry | released previous new entry =>
    obtain ⟨isRead, header, updated⟩ := text
    have own : AddsTag first current
        (createdTags ((publication request new entry).taggingCalls config)) :=
      addsTag_of_updated isRead header updated List.prefix_rfl
    exact own
  | _ => exact .inl (createdTags_of_queries rfl within).2

/-- From the building on, a run asks for configured commands only. -/
theorem isConfigured_of_planned (within : taken <+: milestone.planned config request) :
    ∀ call ∈ callsFromBuild (milestone.issued config request ++ taken),
      IsConfigured config call := by
  have none {calls : List Call} (few : calls.length ≤ 7) :
      ∀ call ∈ callsFromBuild calls, IsConfigured config call := by
    rw [callsFromBuild, List.drop_eq_nil_of_le few]
    exact fun call member => absurd member List.not_mem_nil
  have length := within.length_le
  cases milestone with
  | recorded previous new entry =>
    refine none ?_
    rw [List.length_append]
    exact Nat.add_le_add (Nat.le_refl 2) length
  | tagged previous new entry =>
    exact fun call member => ⟨publication request new entry, within.subset member⟩
  | uploaded previous new entry | released previous new entry =>
    obtain rfl := List.prefix_nil.1 within
    rw [List.append_nil]
    exact fun call member => ⟨publication request new entry, member⟩
  | opened | onBranch | resolved previous new | declared previous new =>
    refine none ?_
    rw [List.length_append]
    exact Nat.le_trans (Nat.add_le_add_left length _)
      (by simp [Milestone.issued, Milestone.planned])

/-- If no configured command creates a tag, all tags of a run are created before
it builds. -/
theorem createdTags_of_quiet {calls : List Call}
    (quiet : ∀ publication : Publication, createdTags (publication.uploadingCalls config) = [])
    (configured : ∀ call ∈ callsFromBuild calls, IsConfigured config call) :
    createdTags calls = createdTags (callsBeforeBuild calls) := by
  have silent : createdTags (callsFromBuild calls) = [] := by
    refine List.filterMap_eq_nil_iff.2 fun call member => ?_
    obtain ⟨publication, planned⟩ := configured call member
    exact List.filterMap_eq_nil_iff.1 (quiet publication) call planned
  calc createdTags calls
      = createdTags (callsBeforeBuild calls ++ callsFromBuild calls) := by
        rw [callsBeforeBuild, callsFromBuild, List.take_append_drop]
    _ = createdTags (callsBeforeBuild calls) := by
        rw [createdTags_append, silent, List.append_nil]

/-- Inserting sections takes no line away. -/
theorem holdsLine_of_changelogText (text : milestone.ChangelogText config request first current)
    {line : String} (holds : HoldsLine first line) : HoldsLine current line := by
  cases milestone with
  | opened => exact text ▸ holds
  | onBranch => exact text ▸ holds
  | resolved => exact text.2 ▸ holds
  | declared => exact text.2 ▸ holds
  | _ => exact holds.of_updated text.2.2

/-- What a run does to the changelog and which tags it creates, however it ends. -/
structure TagAccount (config : Config) (first : Except Fault String) (final : Session) : Prop where
  distinct : final.tree.DistinctFiles config.versionFile config.changelogFile
  kept : ∀ line, HoldsLine first line →
    HoldsLine (final.tree.readText config.changelogFile) line
  added : AddsTag first (final.tree.readText config.changelogFile)
    (createdTags (callsBeforeBuild final.calls))
  configured : ∀ call ∈ callsFromBuild final.calls, IsConfigured config call

/-- The account of a session whose commands go up to a milestone and some way further. -/
theorem tagAccount_of_milestone
    (reads : final.ReadsAs config.changelogFile config.versionFile current)
    (text : milestone.ChangelogText config request first current)
    (within : taken <+: milestone.planned config request)
    (calls : final.calls = milestone.issued config request ++ taken) :
    TagAccount config first final where
  distinct := reads.distinct.symm
  kept line holds := by
    rw [reads.read]
    exact holdsLine_of_changelogText text holds
  added := by
    rw [reads.read, calls]
    exact addsTag_of_changelogText text within
  configured := by
    rw [calls]
    exact isConfigured_of_planned within

theorem tagAccount_of_run {tree : Tree} {operator : Operator}
    (spares : runner.Spares config.changelogFile config.versionFile)
    (distinct : tree.DistinctFiles config.versionFile config.changelogFile)
    (ran : (run runner config request).run.run { tree, operator } = (outcome, final)) :
    TagAccount config (tree.readText config.changelogFile) final := by
  have reads : Session.ReadsAs config.changelogFile config.versionFile
      (tree.readText config.changelogFile) { tree, operator } := ⟨distinct.symm, rfl⟩
  cases ends_of_run ran with
  | released reached =>
    obtain ⟨current, after, text⟩ := changelogText_of_reaches spares reads reached
    refine tagAccount_of_milestone after text List.nil_prefix ?_
    rw [calls_of_reaches reached, List.nil_append, List.append_nil]
  | @failed milestone before final cause reached failed =>
    obtain ⟨current, after, text⟩ := changelogText_of_reaches spares reads reached
    obtain ⟨taken, within, calls, -⟩ := issues_next milestone _ _ _ failed
    refine tagAccount_of_milestone (readsAs_changelog_of_error spares after failed) text within ?_
    rw [calls, calls_of_reaches reached, List.nil_append]

/-! ## Whole histories -/

/-- Runs on one tree, one after the other, with the commands of each. In between
anything may be done to the tree that leaves the changelog's text as it is. -/
inductive History (config : Config) : List (List Call) → Tree → Prop where
  | start {tree : Tree}
      (distinct : tree.DistinctFiles config.versionFile config.changelogFile) :
      History config [] tree
  | run {runs : List (List Call)} {tree : Tree} (earlier : History config runs tree)
      {replies : List Reply} {request : Request} {operator : Operator}
      {outcome : Except Failure Released} {final : Session}
      (ran : (run (.recorded replies) config request).run.run { tree, operator } =
        (outcome, final)) :
      History config (runs ++ [final.calls]) final.tree
  | edit {runs : List (List Call)} {tree edited : Tree} (earlier : History config runs tree)
      (distinct : edited.DistinctFiles config.versionFile config.changelogFile)
      (kept : edited.readText config.changelogFile = tree.readText config.changelogFile) :
      History config runs edited

variable {runs : List (List Call)} {tree : Tree}

/-- The tags that the runs of a history create before they build. -/
def tagsBeforeBuild (runs : List (List Call)) : List String :=
  runs.flatMap fun calls => createdTags (callsBeforeBuild calls)

/-- Every tag that was ever created is a line of the changelog, and none was
created twice. -/
theorem History.recorded (history : History config runs tree) :
    tree.DistinctFiles config.versionFile config.changelogFile ∧
      (∀ tag ∈ tagsBeforeBuild runs, HoldsLine (tree.readText config.changelogFile) tag) ∧
      (tagsBeforeBuild runs).Nodup := by
  induction history with
  | start distinct => exact ⟨distinct, nofun, List.nodup_nil⟩
  | @run runs tree earlier replies request operator outcome final ran inductionHypothesis =>
    obtain ⟨distinct, lines, unique⟩ := inductionHypothesis
    have account := tagAccount_of_run (Runner.spares_recorded replies _ _) distinct ran
    have tags : tagsBeforeBuild (runs ++ [final.calls]) =
        tagsBeforeBuild runs ++ createdTags (callsBeforeBuild final.calls) := by
      simp [tagsBeforeBuild]
    refine ⟨account.distinct, ?_, ?_⟩
    · intro tag member
      rw [tags] at member
      rcases List.mem_append.1 member with early | late
      · exact account.kept tag (lines tag early)
      · rcases account.added with none | ⟨added, one, -, held⟩
        · rw [none] at late
          cases late
        · rw [one] at late
          obtain rfl := List.mem_singleton.1 late
          exact held
    · rw [tags]
      rcases account.added with none | ⟨added, one, fresh, -⟩
      · rwa [none, List.append_nil]
      · rw [one]
        refine List.nodup_append.2 ⟨unique, by simp, ?_⟩
        intro tag early other late
        obtain rfl := List.mem_singleton.1 late
        rintro rfl
        exact fresh (lines tag early)
  | edit earlier distinct kept inductionHypothesis =>
    obtain ⟨-, lines, unique⟩ := inductionHypothesis
    rw [kept]
    exact ⟨distinct, lines, unique⟩

/-- What the runs of a history ask for besides is configured. -/
theorem History.configured (history : History config runs tree) :
    ∀ calls ∈ runs, ∀ call ∈ callsFromBuild calls, IsConfigured config call := by
  induction history with
  | start => exact fun calls member => absurd member List.not_mem_nil
  | run earlier ran inductionHypothesis =>
    intro calls member
    rcases List.mem_append.1 member with early | late
    · exact inductionHypothesis calls early
    · obtain rfl := List.mem_singleton.1 late
      have account := tagAccount_of_run (Runner.spares_recorded _ _ _) earlier.recorded.1 ran
      exact account.configured
  | edit earlier distinct kept inductionHypothesis => exact inductionHypothesis

theorem createdTags_flatten
    (quiet : ∀ publication : Publication, createdTags (publication.uploadingCalls config) = [])
    (configured : ∀ calls ∈ runs, ∀ call ∈ callsFromBuild calls, IsConfigured config call) :
    createdTags runs.flatten = tagsBeforeBuild runs := by
  induction runs with
  | nil => rfl
  | cons calls more inductionHypothesis =>
    obtain ⟨own, others⟩ := List.forall_mem_cons.1 configured
    rw [List.flatten_cons, createdTags_append, createdTags_of_quiet quiet own,
      inductionHypothesis others]
    rfl

/-- No tag is created twice before a build, and from a build on there are only
configured commands. If these create no tags, none is created twice at all. -/
theorem createdTags_nodup (history : History config runs tree) :
    (tagsBeforeBuild runs).Nodup ∧
      (∀ calls ∈ runs, ∀ call ∈ callsFromBuild calls, IsConfigured config call) ∧
      ((∀ publication : Publication, createdTags (publication.uploadingCalls config) = []) →
        (createdTags runs.flatten).Nodup) := by
  refine ⟨history.recorded.2.2, history.configured, fun quiet => ?_⟩
  rw [createdTags_flatten quiet history.configured]
  exact history.recorded.2.2

/-- Two releases of the small project, one after the other. -/
def twoReleases (config : Config) : List (List Call) :=
  let first := (sampleRun config { newVersion := some "1.1" } sampleTree).2
  [first.calls, (sampleRun config { newVersion := some "1.2" } first.tree).2.calls]

theorem history_twoReleases (config : Config) (version : config.versionFile = "version.py")
    (changelog : config.changelogFile = "CHANGELOG.rst") :
    ∃ tree, History config (twoReleases config) tree := by
  have distinct := distinctFiles_sampleTree
  rw [← version, ← changelog] at distinct
  have released (request : Request) (tree : Tree) :
      (run (.recorded sampleReplies) config request).run.run
        { tree, operator := .scripted [] [] } =
      ((sampleRun config request tree).1, (sampleRun config request tree).2) := rfl
  have first := History.run (.start distinct) (released { newVersion := some "1.1" } sampleTree)
  exact ⟨_, .run first (released { newVersion := some "1.2" } _)⟩

theorem createdTags_nodup_twoReleases :
    (∃ tree, History {} (twoReleases {}) tree) ∧
      createdTags (twoReleases {}).flatten = ["1.1", "1.2"] ∧
      (createdTags (twoReleases {}).flatten).Nodup := by
  obtain ⟨tree, history⟩ := history_twoReleases {} rfl rfl
  refine ⟨⟨tree, history⟩, by decide +kernel, (createdTags_nodup history).2.2 ?_⟩
  rintro ⟨version, dryRun, target, changelog⟩
  rfl

/-- A configured build command may create the same tag in every run. -/
theorem not_forall_createdTags_nodup :
    ¬∀ config runs tree, History config runs tree → (createdTags runs.flatten).Nodup := by
  intro all
  let config : Config := { buildCommand := ["git", "tag", "-a", "nightly", "-m", "nightly"] }
  obtain ⟨tree, history⟩ := history_twoReleases config rfl rfl
  exact absurd (all config _ tree history) (by decide +kernel)

end Workflow

end ReleasePilot
