import ReleasePilot.Proofs.Workflow.Diagnostics
import ReleasePilot.Proofs.Workflow.Files
import ReleasePilot.Proofs.Workflow.Lockstep

/-!
# What a dry run predicts

Stage by stage, a dry run and the real run from the same tree go abreast, although the
real run has changed the version file by the time that the changelog is read. So the dry
run ends as the real run does, asks for the same commands and shows what the real run
writes (`predicts_of_dryRun`), if nothing but the real run can fail at: a replacement or a
command that only it performs.
-/

namespace ReleasePilot

/-- The versions of a release. -/
def Released.versions (released : Released) : Version × Version :=
  (released.previous, released.new)

namespace Workflow

variable {runner : Runner} {config : Config} {request : Request}

/-! ## Stages that a dry run rehearses -/

section Stages

variable {opening : Transcript} {written : List (String × String)}

theorem pairs_setInFile (new : Version) :
    Pairs (rehearsal runner opening config.versionFile config.changelogFile)
      (Abreast opening config.versionFile config.changelogFile [])
      (fun _ _ dry real => ∃ text, Abreast opening config.versionFile config.changelogFile
        [(config.versionFile, text)] dry real)
      (Declaration.setInFile config.versionFile config.versionIdentifier new true)
      (Declaration.setInFile config.versionFile config.versionIdentifier new false) :=
  .updateFile List.mem_cons_self List.not_mem_nil _

variable (spares : runner.Spares config.versionFile config.changelogFile)
  (sparesOther : runner.Spares config.changelogFile config.versionFile)

include spares sparesOther in
theorem pairs_updateChangelog (steady : runner.Steady)
    (pending : config.changelogFile ∉ written.map Prod.fst) (previous new : Version) :
    Pairs (rehearsal runner opening config.versionFile config.changelogFile)
      (Abreast opening config.versionFile config.changelogFile written)
      (Same fun dry real => ∃ text, Abreast opening config.versionFile config.changelogFile
        (written ++ [(config.changelogFile, text)]) dry real)
      (updateChangelog runner config { request with dryRun := true } previous new)
      (updateChangelog runner config { request with dryRun := false } previous new) := by
  have answered {Result : Type} (result : Result) :
      Pairs (rehearsal runner opening config.versionFile config.changelogFile)
        (Abreast opening config.versionFile config.changelogFile written)
        (Same (Abreast opening config.versionFile config.changelogFile written))
        (pure result : Action Result) (pure result) :=
    .pure fun _ _ abreast => ⟨rfl, abreast⟩
  refine .bind_same (.bind_same (.bind_same (.query spares sparesOther steady _) fun log =>
    answered _) fun items => answered _) fun entry => ?_
  refine .bind_same (.say lockstep_abreast _ trivial) fun _ => ?_
  refine .bind (.updateFile (List.mem_cons_of_mem _ List.mem_cons_self) pending _) fun _ _ => ?_
  exact .pure fun _ _ recorded => ⟨rfl, recorded⟩

include spares sparesOther in
/-- The commands of a publication are rehearsed, and it is said what they did. -/
theorem pairs_publish {publication : Publication} (calls : List Call)
    (real : publication.dryRun = false)
    (planned : ∀ call ∈ calls, call ∈ publication.plan config) (text : String) :
    Pairs (rehearsal runner opening config.versionFile config.changelogFile)
      (Abreast opening config.versionFile config.changelogFile written)
      (fun _ _ => Abreast opening config.versionFile config.changelogFile written)
      (do Action.performAll runner (calls.map Call.rehearsed); Action.say (.success text true))
      (do Action.performAll runner calls; Action.say (.success text false)) := by
  refine .bind (.performAll spares sparesOther fun call member => ?_) fun _ _ => .success text
  obtain ⟨logged, executed⟩ := executed_of_mem_plan (planned call member)
  rw [real] at executed
  exact ⟨logged, executed⟩

include spares sparesOther in
theorem pairs_tagAndPush (new : Version) (entry : Changelog.Section) :
    Pairs (rehearsal runner opening config.versionFile config.changelogFile)
      (Abreast opening config.versionFile config.changelogFile written)
      (fun _ _ => Abreast opening config.versionFile config.changelogFile written)
      ((publication { request with dryRun := true } new entry).tagAndPush runner config)
      ((publication { request with dryRun := false } new entry).tagAndPush runner config) :=
  pairs_publish spares sparesOther
    ((publication { request with dryRun := false } new entry).taggingCalls config)
    rfl (fun _ member => List.mem_append_left _ member) _

include spares sparesOther in
theorem pairs_buildAndUpload (new : Version) (entry : Changelog.Section) :
    Pairs (rehearsal runner opening config.versionFile config.changelogFile)
      (Abreast opening config.versionFile config.changelogFile written)
      (fun _ _ => Abreast opening config.versionFile config.changelogFile written)
      ((publication { request with dryRun := true } new entry).buildAndUpload runner config)
      ((publication { request with dryRun := false } new entry).buildAndUpload runner config) :=
  pairs_publish spares sparesOther
    ((publication { request with dryRun := false } new entry).uploadingCalls config)
    rfl (fun _ member => List.mem_append_right _ member) _

end Stages

/-! ## Runs -/

/-- A dry run passes the stages abreast of the real run. -/
theorem pairs_stages (opening : Transcript) (request : Request)
    (steady : runner.Steady) (spares : runner.Spares config.versionFile config.changelogFile)
    (sparesOther : runner.Spares config.changelogFile config.versionFile)
    (different : config.changelogFile ≠ config.versionFile) :
    Pairs (rehearsal runner opening config.versionFile config.changelogFile)
      (Abreast opening config.versionFile config.changelogFile [])
      (fun released other dry real => released.versions = other.versions ∧
        ∃ written, Abreast opening config.versionFile config.changelogFile written dry real)
      (stages runner config { request with dryRun := true })
      (stages runner config { request with dryRun := false }) := by
  have lockstep : Lockstep (rehearsal runner opening config.versionFile config.changelogFile)
      (Abreast opening config.versionFile config.changelogFile []) := lockstep_abreast
  have resolves : Pairs (rehearsal runner opening config.versionFile config.changelogFile)
      (Abreast opening config.versionFile config.changelogFile [])
      (Same (Abreast opening config.versionFile config.changelogFile []))
      (resolveVersions config { request with dryRun := true })
      (resolveVersions config { request with dryRun := false }) :=
    pairs_resolveVersions lockstep fun dry real abreast =>
      (abreast.kept _ List.mem_cons_self List.not_mem_nil).symm
  refine .bind_same (pairs_during (pairs_checkBranch lockstep
    (.query spares sparesOther steady _)) _) fun _ => ?_
  refine .bind_same (pairs_during resolves _) fun ⟨previous, new⟩ => ?_
  refine .bind (pairs_during (pairs_setInFile new) _) fun _ _ => .of_exists fun text => ?_
  -- The real run has written the version file, but the changelog still reads alike in both.
  have pending : config.changelogFile ∉ [(config.versionFile, text)].map Prod.fst :=
    fun member => different (List.mem_singleton.1 member)
  refine .bind_same (pairs_during
    (pairs_updateChangelog spares sparesOther steady pending previous new) _) fun entry =>
      .of_exists fun contents => ?_
  refine .bind (pairs_during (pairs_tagAndPush spares sparesOther new entry) _) fun _ _ => ?_
  refine .bind (pairs_during (pairs_buildAndUpload spares sparesOther new entry) _) fun _ _ => ?_
  refine .bind (pairs_during (.success _) _) fun _ _ => ?_
  exact .pure fun _ _ abreast => ⟨rfl, _, abreast⟩

/-- What a dry run says first. -/
def dryRunNotice : Message :=
  .status "Dry run: no files will be written and no mutating commands run"

/-- What a dry run tells of the real run: how it ends and after which questions, which
commands it asks for, what it says and what it writes. -/
structure Predicts (rehearsedOutcome outcome : Except Failure Released)
    (rehearsed final : Session) : Prop where
  outcome : rehearsedOutcome.map Released.versions = outcome.map Released.versions
  operator : rehearsed.operator = final.operator
  calls : rehearsed.calls = final.calls.map Call.rehearsed
  executed : ∀ call ∈ final.calls, call.executed = true
  transcript : Transcript.Rehearses [dryRunNotice] rehearsed.transcript.previews
    rehearsed.transcript final.transcript
  contents : ∀ path text, (path, text) ∈ rehearsed.transcript.previews →
    final.tree.readText path = .ok text

/-- A run that has ended abreast of another, which has noted nothing, predicts it. -/
theorem predicts_of_abreast {written : List (String × String)} {path other : String}
    {rehearsedOutcome outcome : Except Failure Released} {rehearsed final : Session}
    (abreast : Abreast [dryRunNotice] path other written rehearsed final)
    (silent : final.transcript.diagnostics = [])
    (same : rehearsedOutcome.map Released.versions = outcome.map Released.versions) :
    Predicts rehearsedOutcome outcome rehearsed final := by
  obtain rfl := abreast.transcript.previews
  have transcript := abreast.transcript
  rw [Transcript.withoutDiagnostics_eq_self silent] at transcript
  exact ⟨same, abreast.operator, abreast.calls, abreast.executed, transcript,
    fun path text member => (abreast.wrote path text member).2⟩

section Prediction

variable {replies : List Reply} {tree : Tree} {operator : Operator}
  {rehearsedOutcome outcome : Except Failure Released} {rehearsed final : Session}

/-- A run is not hindered if the two files can be replaced and no command that counts has
a failure recorded for it. -/
theorem not_hindered (distinct : tree.DistinctFiles config.versionFile config.changelogFile)
    (replaceable : ∀ path ∈ [config.versionFile, config.changelogFile],
      ∃ contents after, tree.replace path contents = .ok after)
    (ran : (run (.recorded replies) config request).run.run { tree, operator } =
      (outcome, final))
    (unfailing : ∀ call ∈ final.calls, call.options ≠ .query →
      call.options.ignoreErrors = false → ∀ code errors,
        Reply.responseTo replies call.command ≠ some (.failure code errors)) :
    ¬Hindered (.recorded replies) config.versionFile config.changelogFile final := by
  rintro (⟨asked, mutating, failed⟩ | ⟨member, failed⟩)
  · obtain ⟨counts, code, errors, response⟩ := Runner.failure_of_recorded failed
    exact unfailing _ asked mutating counts code errors response
  · have differs : tree.DiffersOnlyIn [config.versionFile, config.changelogFile] final.tree :=
      (undisturbed_differsOnlyIn distinct).preserves_run.after ran
        ⟨.refl tree, fun _ _ => rfl⟩
    obtain ⟨contents, after, replaced⟩ := replaceable _ member
    obtain ⟨_, still⟩ := Tree.replace_ok_of_sameShape differs.toSameShape replaced _
    cases still.symm.trans failed

/-- If both files can be replaced and no command that only the real run performs fails,
the dry run from the same tree predicts the real run. -/
theorem predicts_of_dryRun (config : Config) (request : Request)
    (distinct : tree.DistinctFiles config.versionFile config.changelogFile)
    (replaceable : ∀ path ∈ [config.versionFile, config.changelogFile],
      ∃ contents after, tree.replace path contents = .ok after)
    (rehearses : (run (.recorded replies) config { request with dryRun := true }).run.run
      { tree, operator } = (rehearsedOutcome, rehearsed))
    (ran : (run (.recorded replies) config { request with dryRun := false }).run.run
      { tree, operator } = (outcome, final))
    (unfailing : ∀ call ∈ final.calls, call.options ≠ .query →
      call.options.ignoreErrors = false → ∀ code errors,
        Reply.responseTo replies call.command ≠ some (.failure code errors)) :
    Predicts rehearsedOutcome outcome rehearsed final := by
  have free := not_hindered distinct replaceable ran unfailing
  have silent := diagnostics_of_recorded rfl rfl ran
  have start : Abreast [dryRunNotice] config.versionFile config.changelogFile []
      (Session.told { tree, operator } dryRunNotice) { tree, operator } :=
    { operator := rfl
      calls := rfl
      executed := nofun
      transcript := ⟨rfl, rfl, rfl⟩
      dryFiles := distinct
      realFiles := distinct
      kept := fun _ _ _ => rfl
      wrote := nofun }
  have alike := pairs_stages [dryRunNotice] request (Runner.steady_recorded replies)
    (Runner.spares_recorded replies _ _) (Runner.spares_recorded replies _ _)
    distinct.ne.symm _ _ start
  rw [run_eq_stages, opening, if_pos rfl] at rehearses
  rw [run_eq_stages, opening, if_neg Bool.false_ne_true] at ran
  rw [ran, dryRunNotice, rehearses] at alike
  cases alike with
  | succeeded holds =>
    obtain ⟨versions, written, abreast⟩ := holds
    exact predicts_of_abreast abreast silent (congrArg Except.ok versions)
  | failed holds =>
    obtain ⟨written, abreast⟩ := holds
    exact predicts_of_abreast abreast silent rfl
  | excused holds => exact absurd holds free

/-- The dry run of the small project shows both files as the real run writes them. -/
theorem predicts_of_dryRun_sample :
    let request : Request := { newVersion := some "1.1" }
    let rehearsal := sampleRun {} { request with dryRun := true } sampleTree
    let ran := sampleRun {} { request with dryRun := false } sampleTree
    rehearsal.2.transcript.previews.map Prod.fst = ["version.py", "CHANGELOG.rst"] ∧
      Predicts rehearsal.1 ran.1 rehearsal.2 ran.2 := by
  intro request rehearsal ran
  have replaceable : ∀ path ∈ ["version.py", "CHANGELOG.rst"],
      ∃ contents after, sampleTree.replace path contents = .ok after :=
    List.forall_mem_cons.2 ⟨⟨"", _, rfl⟩, List.forall_mem_singleton.2 ⟨"", _, rfl⟩⟩
  have unfailing (call : Call) (code : Int) (errors : String) :
      Reply.responseTo sampleReplies call.command ≠ some (.failure code errors) := by
    intro response
    obtain ⟨reply, found, failing⟩ := Option.map_eq_some_iff.1 response
    have member := List.mem_of_find?_eq_some found
    rw [List.mem_singleton.1 (List.mem_reverse.1 member)] at failing
    cases failing
  refine ⟨by decide +kernel, ?_⟩
  exact predicts_of_dryRun {} request distinctFiles_sampleTree replaceable
    (Prod.eta rehearsal).symm (Prod.eta ran).symm fun call _ _ _ => unfailing call

end Prediction

end Workflow

end ReleasePilot
