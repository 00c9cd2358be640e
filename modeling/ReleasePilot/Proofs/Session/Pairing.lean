import ReleasePilot.Proofs.Session.Console
import ReleasePilot.Proofs.Session.Step

/-!
# Runs side by side

Two steps are compared by how they end if they start from related sessions: both
succeed, both fail for the same cause, or the second fails alone, in a session that
excuses it. A sequence goes on with the second steps only where both first steps
succeed (`Pairs.bind`), so that an excuse is final.
-/

namespace ReleasePilot

/-- What is to hold where two runs do not both succeed. -/
structure Endings where
  /-- Both fail, for the same cause. -/
  together : Session → Session → Prop
  /-- The second fails alone. -/
  excused : Session → Prop

/-- How two runs may end. -/
inductive Endings.Alike {Cause First Second : Type} (endings : Endings)
    (related : First → Second → Session → Session → Prop) :
    Except Cause First × Session → Except Cause Second × Session → Prop where
  | succeeded {value : First} {other : Second} {first second : Session}
      (holds : related value other first second) :
      Alike endings related (.ok value, first) (.ok other, second)
  | failed {cause : Cause} {first second : Session} (holds : endings.together first second) :
      Alike endings related (.error cause, first) (.error cause, second)
  | excused {result : Except Cause First} {cause : Cause} {first second : Session}
      (holds : endings.excused second) :
      Alike endings related (result, first) (.error cause, second)

/-- Causes may be named otherwise in both. -/
theorem Endings.Alike.mapError {Cause Named First Second : Type} {endings : Endings}
    {related : First → Second → Session → Session → Prop}
    {ending : Except Cause First × Session} {other : Except Cause Second × Session}
    (alike : endings.Alike related ending other) (name : Cause → Named) :
    endings.Alike related (ending.1.mapError name, ending.2) (other.1.mapError name, other.2) := by
  cases alike with
  | succeeded holds => exact .succeeded holds
  | failed holds => exact .failed holds
  | excused holds => exact .excused holds

/-- Values of both may be made others. -/
theorem Endings.Alike.map {Cause First Second Value Other : Type} {endings : Endings}
    {related : First → Second → Session → Session → Prop}
    {made : Value → Other → Session → Session → Prop}
    {ending : Except Cause First × Session} {other : Except Cause Second × Session}
    (alike : endings.Alike related ending other) {make : First → Value} {makeOther : Second → Other}
    (makes : ∀ value result first second, related value result first second →
      made (make value) (makeOther result) first second) :
    endings.Alike made (ending.1.map make, ending.2) (other.1.map makeOther, other.2) := by
  cases alike with
  | succeeded holds => exact .succeeded (makes _ _ _ _ holds)
  | failed holds => exact .failed holds
  | excused holds => exact .excused holds

/-- Both succeed with the same result, or both fail for the same cause. -/
theorem Endings.Alike.of_same {Cause Result : Type} {endings : Endings}
    {related : Result → Result → Session → Session → Prop}
    {ending other : Except Cause Result × Session} (same : ending.1 = other.1)
    (fails : endings.together ending.2 other.2)
    (succeeds : ∀ value, related value value ending.2 other.2) :
    endings.Alike related ending other := by
  obtain ⟨result, session⟩ := ending
  obtain ⟨_, otherSession⟩ := other
  obtain rfl := same
  cases result with
  | ok value => exact .succeeded (succeeds value)
  | error cause => exact .failed fails

/-- If the first succeeds, so does the second, unless it is excused. -/
theorem Endings.Alike.of_ok {Cause First Second : Type} {endings : Endings}
    {related : First → Second → Session → Session → Prop} {value : First} {first : Session}
    {other : Except Cause Second × Session}
    (alike : endings.Alike related (.ok value, first) other) :
    (∃ result second, other = (.ok result, second) ∧ related value result first second) ∨
      ∃ cause second, other = (.error cause, second) ∧ endings.excused second := by
  cases alike with
  | succeeded holds => exact .inl ⟨_, _, rfl, holds⟩
  | excused holds => exact .inr ⟨_, _, rfl, holds⟩

/-- If the first fails, so does the second, for the same cause unless it is excused. -/
theorem Endings.Alike.of_error {Cause First Second : Type} {endings : Endings}
    {related : First → Second → Session → Session → Prop} {cause : Cause} {first : Session}
    {other : Except Cause Second × Session}
    (alike : endings.Alike related (.error cause, first) other) :
    (∃ second, other = (.error cause, second) ∧ endings.together first second) ∨
      ∃ cause second, other = (.error cause, second) ∧ endings.excused second := by
  cases alike with
  | failed holds => exact .inl ⟨_, rfl, holds⟩
  | excused holds => exact .inr ⟨_, _, rfl, holds⟩

/-- Both results are the same, and the sessions are related. -/
def Same {Result : Type} (relation : Session → Session → Prop) (value other : Result)
    (first second : Session) : Prop :=
  value = other ∧ relation first second

section Pairs

variable {Cause First Second Value Other : Type} {endings : Endings}
  {before : Session → Session → Prop}

/-- From related sessions, two steps end alike. -/
def Pairs (endings : Endings) (before : Session → Session → Prop)
    (after : First → Second → Session → Session → Prop)
    (step : ExceptT Cause (StateM Session) First)
    (other : ExceptT Cause (StateM Session) Second) : Prop :=
  ∀ first second, before first second →
    endings.Alike after (step.run.run first) (other.run.run second)

namespace Pairs

theorem pure {after : First → Second → Session → Session → Prop} {value : First} {other : Second}
    (holds : ∀ first second, before first second → after value other first second) :
    Pairs endings before after (Pure.pure value : ExceptT Cause (StateM Session) First)
      (Pure.pure other : ExceptT Cause (StateM Session) Second) :=
  fun first second related => .succeeded (holds first second related)

theorem throw {after : First → Second → Session → Session → Prop}
    (holds : ∀ first second, before first second → endings.together first second)
    (cause : Cause) :
    Pairs endings before after (MonadExcept.throw cause : ExceptT Cause (StateM Session) First)
      (MonadExcept.throw cause : ExceptT Cause (StateM Session) Second) :=
  fun first second related => .failed (holds first second related)

theorem bind {between : Value → Other → Session → Session → Prop}
    {after : First → Second → Session → Session → Prop}
    {step : ExceptT Cause (StateM Session) Value} {other : ExceptT Cause (StateM Session) Other}
    {next : Value → ExceptT Cause (StateM Session) First}
    {otherNext : Other → ExceptT Cause (StateM Session) Second}
    (steps : Pairs endings before between step other)
    (rest : ∀ value result, Pairs endings (between value result) after (next value)
      (otherNext result)) :
    Pairs endings before after (step >>= next) (other >>= otherNext) := by
  intro first second related
  have stepped := steps first second related
  rw [run_bind, run_bind]
  revert stepped
  generalize step.run.run first = ending
  generalize other.run.run second = otherEnding
  intro stepped
  cases stepped with
  | succeeded holds => exact rest _ _ _ _ holds
  | failed holds => exact .failed holds
  | excused holds => exact .excused holds

/-- What is known to exist before the steps may be given a name. -/
theorem of_exists {Witness : Type} {before : Witness → Session → Session → Prop}
    {after : First → Second → Session → Session → Prop}
    {step : ExceptT Cause (StateM Session) First} {other : ExceptT Cause (StateM Session) Second}
    (pairs : ∀ witness, Pairs endings (before witness) after step other) :
    Pairs endings (fun first second => ∃ witness, before witness first second) after step other :=
  fun first second ⟨witness, related⟩ => pairs witness first second related

/-- Both take the same branch. -/
theorem ite {after : First → Second → Session → Session → Prop} {condition : Prop}
    [Decidable condition] {step otherwise : ExceptT Cause (StateM Session) First}
    {other otherwiseOther : ExceptT Cause (StateM Session) Second}
    (yes : Pairs endings before after step other)
    (no : Pairs endings before after otherwise otherwiseOther) :
    Pairs endings before after (if condition then step else otherwise)
      (if condition then other else otherwiseOther) := by
  split
  · exact yes
  · exact no

/-- A step after which both results are the same. -/
theorem bind_same {relation : Session → Session → Prop}
    {after : First → Second → Session → Session → Prop}
    {step : ExceptT Cause (StateM Session) Value} {other : ExceptT Cause (StateM Session) Value}
    {next : Value → ExceptT Cause (StateM Session) First}
    {otherNext : Value → ExceptT Cause (StateM Session) Second}
    (steps : Pairs endings before (Same relation) step other)
    (rest : ∀ value, Pairs endings relation after (next value) (otherNext value)) :
    Pairs endings before after (step >>= next) (other >>= otherNext) := by
  refine .bind steps fun value result first second => ?_
  rintro ⟨rfl, related⟩
  exact rest value first second related

end Pairs

end Pairs

/-! ## Steps that go on alike -/

/-- The answers to a question say the same, in sessions that stay related. Either both
operators have less left to answer from than before, or neither of them has. -/
structure AnsweredAlike (relation : Session → Session → Prop) (first second : Session)
    (answer other : String) (firstAfter secondAfter : Session) : Prop where
  same : trimmed answer = trimmed other
  still : relation firstAfter secondAfter
  uses : firstAfter.operator.pending < first.operator.pending ↔
    secondAfter.operator.pending < second.operator.pending

/-- Sessions that stay related whatever is said or asked in both of them. -/
structure Lockstep (endings : Endings) (relation : Session → Session → Prop) : Prop where
  fails : ∀ first second, relation first second → endings.together first second
  tells : ∀ first second message, message.IsNotice → relation first second →
    relation (first.told message) (second.told message)
  asks : ∀ first second prompt hint, relation first second →
    endings.Alike (AnsweredAlike relation first second) (first.answer prompt hint)
      (second.answer prompt hint)

namespace Pairs

variable {endings : Endings} {relation : Session → Session → Prop}

/-- Both succeed with the same result, or both fail for the same cause. -/
theorem of_same {Cause Result : Type} {before : Session → Session → Prop}
    {step other : ExceptT Cause (StateM Session) Result}
    (fails : ∀ first second, relation first second → endings.together first second)
    (same : ∀ first second, before first second →
      (step.run.run first).1 = (other.run.run second).1 ∧
        relation (step.run.run first).2 (other.run.run second).2) :
    Pairs endings before (Same relation) step other := by
  intro first second related
  obtain ⟨results, still⟩ := same first second related
  exact .of_same results (fails _ _ still) fun _ => ⟨rfl, still⟩

variable (lockstep : Lockstep endings relation)
include lockstep

theorem say (message : Message) (notice : message.IsNotice) :
    Pairs endings relation (Same relation) (Action.say message) (Action.say message) :=
  .of_same lockstep.fails fun first second related =>
    ⟨rfl, lockstep.tells first second message notice related⟩

theorem ofExcept {Result : Type} (result : Except ReleaseError Result) :
    Pairs endings relation (Same relation) (Action.ofExcept result) (Action.ofExcept result) :=
  .of_same lockstep.fails fun _ _ related => ⟨rfl, related⟩

theorem confirm (prompt : String) :
    Pairs endings relation (Same relation) (Action.confirm prompt) (Action.confirm prompt) := by
  intro first second related
  rw [Action.run_confirm, Action.run_confirm]
  exact (lockstep.asks first second prompt " (y/N)" related).map fun _ _ _ _ answered =>
    ⟨Operator.isAffirmative_congr answered.same, answered.still⟩

theorem input (prompt default : String) :
    Pairs endings relation (Same relation) (Action.input prompt default)
      (Action.input prompt default) := by
  intro first second related
  rw [Action.run_input, Action.run_input]
  exact (lockstep.asks first second prompt (" [" ++ default ++ "]") related).map
    fun _ _ _ _ answered => ⟨Operator.orDefault_congr answered.same default, answered.still⟩

omit lockstep in
/-- Both read a file that holds the same in both sessions. -/
theorem readFile {path : String}
    (fails : ∀ first second, relation first second → endings.together first second)
    (reads : ∀ first second, relation first second →
      first.tree.readText path = second.tree.readText path) :
    Pairs endings relation (Same relation) (Action.readFile path) (Action.readFile path) :=
  .of_same fails fun first second related =>
    ⟨congrArg (Except.mapError ReleaseError.io) (reads first second related), related⟩

end Pairs

end ReleasePilot
