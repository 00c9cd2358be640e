import ReleasePilot.Proofs.Session.StandIn
import ReleasePilot.Proofs.Workflow.Files
import ReleasePilot.Proofs.Workflow.Lockstep

/-!
# Releases answered from a script

Every stage of a release is made of steps that come to the same end with a script as with
a console that has its answers line by line. So a release that a script has enough answers
for ends in the same way at the console, and leaves the same behind
(`sameCourse_of_unbroken`).
-/

namespace ReleasePilot.Workflow

variable {answers : List String}

section Stages

variable (unbroken : ∀ answer ∈ answers, '\n' ∉ answer.toList)
include unbroken

theorem imitates_checkBranch (runner : Runner) (config : Config) :
    Imitates answers (checkBranch runner config) :=
  pairs_checkBranch (lockstep_standsIn unbroken) (Imitates.perform runner _)

theorem imitates_resolveVersions (config : Config) (request : Request) :
    Imitates answers (resolveVersions config request) :=
  pairs_resolveVersions (lockstep_standsIn unbroken) fun _ _ standsIn => by rw [standsIn.tree]

omit unbroken in
theorem imitates_updateChangelog (runner : Runner) (config : Config) (request : Request)
    (previous new : Version) :
    Imitates answers (updateChangelog runner config request previous new) := by
  refine .bind (.bind (.bind (.perform runner _) fun _ => .pure _) fun _ => .pure _) fun entry => ?_
  exact .bind (.say _) fun _ => .bind (.updateFile _ _ _) fun _ => .pure entry

omit unbroken in
theorem imitates_during {Result : Type} {step : Action Result} (imitates : Imitates answers step)
    (stage : Stage) : Imitates answers (during stage step) :=
  pairs_during imitates stage

theorem imitates_stages (runner : Runner) (config : Config) (request : Request) :
    Imitates answers (stages runner config request) := by
  refine .bind (imitates_during (imitates_checkBranch unbroken runner config) _) fun _ => ?_
  refine .bind (imitates_during (imitates_resolveVersions unbroken config request) _)
    fun ⟨previous, new⟩ => ?_
  refine .bind (imitates_during (.updateFile _ _ _) _) fun _ => ?_
  refine .bind (imitates_during (imitates_updateChangelog _ _ _ _ _) _) fun entry => ?_
  refine .bind (imitates_during (.bind (.performAll _ _) fun _ => .say _) _) fun _ => ?_
  refine .bind (imitates_during (.bind (.performAll _ _) fun _ => .say _) _) fun _ => ?_
  exact .bind (imitates_during (.say _) _) fun _ => .pure _

theorem imitates_run (runner : Runner) (config : Config) (request : Request) :
    Imitates answers (run runner config request) := by
  intro console scripted standsIn
  have opened : StandsIn answers (opening request console) (opening request scripted) := by
    unfold opening
    split
    · exact standsIn.told _
    · exact standsIn
  rw [run_eq_stages, run_eq_stages]
  exact imitates_stages unbroken runner config request _ _ opened

end Stages

/-- With answers that fit on a line, a release takes the same course from a script as from
a console, and so does every dialogue on its own. -/
theorem sameCourse_of_unbroken (unbroken : ∀ answer ∈ answers, '\n' ∉ answer.toList) (tree : Tree) :
    (∀ runner config request, SameCourse answers tree (run runner config request)) ∧
      ∀ (Result : Type) (dialogue : Dialogue Result), SameCourse answers tree dialogue.hold :=
  ⟨fun runner config request => (imitates_run unbroken runner config request).sameCourse tree,
    fun _ dialogue => (dialogue.imitates unbroken).sameCourse tree⟩

/-- From another branch the small project is released with three of four answers, one of
them ending in a carriage return, and so it is at the console. -/
theorem sameCourse_of_unbroken_sample :
    let answers := ["Y", "soon\r", " ", "unused"]
    (∀ answer ∈ answers, '\n' ∉ answer.toList) ∧
      ((run (.recorded []) {} {}).run.run
        { tree := sampleTree, operator := .scripted answers [] }).2.operator.prompts.length = 3 ∧
      SameCourse answers sampleTree (run (.recorded []) {} {}) := by
  intro answers
  have unbroken : ∀ answer ∈ answers, '\n' ∉ answer.toList := by decide
  exact ⟨unbroken, by decide +kernel,
    (sameCourse_of_unbroken unbroken sampleTree).1 (.recorded []) {} {}⟩

end ReleasePilot.Workflow
