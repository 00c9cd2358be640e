import ReleasePilot.Proofs.Session.Step
import ReleasePilot.Proofs.Text.Letters
import ReleasePilot.Proofs.Text.Runs

/-!
# Scripted answers

An answer agrees if it is `y` or `yes`, in capitals or not (`Operator.isAffirmative_iff`). A
script answers the questions in order, so that the answer to a question stands in the same
place among the answers as the question among those that were asked (`HasAsked`). Asking more
leaves what was said of earlier questions true.
-/

namespace ReleasePilot

/-- The operator was asked some questions, and has used up as many of the answers. -/
def Session.HasAsked (answers : List String) (property : List String → Prop)
    (session : Session) : Prop :=
  ∃ asked, session.operator = .scripted (answers.drop asked.length) asked ∧ property asked

/-- A question was asked at a position, and answered. -/
structure AnsweredAt (answers asked : List String) (position : Nat) (prompt answer : String) :
    Prop where
  question : asked[position]? = some prompt
  reply : answers[position]? = some answer

namespace Operator

/-- The words for yes: `y` and `yes`, each letter as a capital or small. -/
inductive IsYes : List Char → Prop where
  | short {y : Char} (first : y = 'Y' ∨ y = 'y') : IsYes [y]
  | long {y e s : Char} (first : y = 'Y' ∨ y = 'y') (second : e = 'E' ∨ e = 'e')
      (third : s = 'S' ∨ s = 's') : IsYes [y, e, s]

theorem isYes_iff {word : List Char} :
    IsYes word ↔
      word.map Char.toLower = "y".toList ∨ word.map Char.toLower = "yes".toList := by
  have y {letter : Char} : letter.toLower = 'y' ↔ letter = 'Y' ∨ letter = 'y' :=
    Text.toLower_eq_iff (by decide) (by decide)
  have e {letter : Char} : letter.toLower = 'e' ↔ letter = 'E' ∨ letter = 'e' :=
    Text.toLower_eq_iff (by decide) (by decide)
  have s {letter : Char} : letter.toLower = 's' ↔ letter = 'S' ∨ letter = 's' :=
    Text.toLower_eq_iff (by decide) (by decide)
  have short : "y".toList = ['y'] := rfl
  have long : "yes".toList = ['y', 'e', 's'] := rfl
  rw [short, long]
  constructor
  · rintro (first | ⟨first, second, third⟩)
    · exact .inl (by rw [List.map_singleton, y.2 first])
    · exact .inr (by
        rw [List.map_cons, List.map_cons, List.map_singleton, y.2 first, e.2 second, s.2 third])
  · rintro (same | same)
    · obtain ⟨first, rfl, lower⟩ := List.map_eq_singleton_iff.1 same
      exact .short (y.1 lower)
    · obtain ⟨first, more, rfl, lower, same⟩ := List.map_eq_cons_iff.1 same
      obtain ⟨second, more, rfl, lowerSecond, same⟩ := List.map_eq_cons_iff.1 same
      obtain ⟨third, rfl, lowerThird⟩ := List.map_eq_singleton_iff.1 same
      exact .long (y.1 lower) (e.1 lowerSecond) (s.1 lowerThird)

theorem IsYes.solid {word : List Char} (isYes : IsYes word) :
    ∀ character ∈ word, Text.isBlank character = false := by
  have y {letter : Char} (isY : letter = 'Y' ∨ letter = 'y') : Text.isBlank letter = false := by
    rcases isY with rfl | rfl <;> rfl
  have e {letter : Char} (isE : letter = 'E' ∨ letter = 'e') : Text.isBlank letter = false := by
    rcases isE with rfl | rfl <;> rfl
  have s {letter : Char} (isS : letter = 'S' ∨ letter = 's') : Text.isBlank letter = false := by
    rcases isS with rfl | rfl <;> rfl
  cases isYes with
  | short first => exact List.forall_mem_singleton.2 (y first)
  | long first second third =>
    exact List.forall_mem_cons.2 ⟨y first,
      List.forall_mem_cons.2 ⟨e second, List.forall_mem_singleton.2 (s third)⟩⟩

/-- An answer says yes if it is a word for yes, with nothing but blanks around it. -/
theorem isAffirmative_iff {answer : String} :
    isAffirmative answer = true ↔ ∃ before word after, IsYes word ∧
      (∀ character ∈ before, Text.isBlank character = true) ∧
      (∀ character ∈ after, Text.isBlank character = true) ∧
      answer.toList = before ++ word ++ after := by
  have trimmed : isAffirmative answer = true ↔ IsYes (Text.trim answer.toList) := by
    rw [isYes_iff, isAffirmative, Bool.or_eq_true, beq_iff_eq, beq_iff_eq]
  rw [trimmed]
  constructor
  · intro isYes
    obtain ⟨before, after, blankBefore, blankAfter, whole⟩ := Text.exists_blanks answer.toList
    exact ⟨before, _, after, isYes, blankBefore, blankAfter, whole⟩
  · rintro ⟨before, word, after, isYes, blankBefore, blankAfter, whole⟩
    rwa [whole, Text.trim_blanks blankBefore blankAfter isYes.solid]

end Operator

/-- A question was asked, and answered with yes. -/
def Agreed (answers asked : List String) (prompt : String) : Prop :=
  ∃ position answer, AnsweredAt answers asked position prompt answer ∧
    Operator.isAffirmative answer = true

/-- A property of questions that asking more keeps true. -/
def Lasting (property : List String → Prop) : Prop :=
  ∀ asked more, property asked → property (asked ++ more)

variable {answers asked : List String} {prompt answer : String} {position : Nat}

theorem AnsweredAt.lt (answered : AnsweredAt answers asked position prompt answer) :
    position < asked.length :=
  (List.getElem?_eq_some_iff.1 answered.question).1

/-- More questions make no difference to those asked before. -/
theorem answeredAt_append (more : List String) (before : position < asked.length) :
    AnsweredAt answers (asked ++ more) position prompt answer ↔
      AnsweredAt answers asked position prompt answer := by
  have same : (asked ++ more)[position]? = asked[position]? := List.getElem?_append_left before
  constructor
  · rintro ⟨question, reply⟩
    exact ⟨same ▸ question, reply⟩
  · rintro ⟨question, reply⟩
    exact ⟨same.symm ▸ question, reply⟩

theorem lasting_agreed (answers : List String) (prompt : String) :
    Lasting fun asked => Agreed answers asked prompt := by
  rintro asked more ⟨position, answer, answered, yes⟩
  exact ⟨position, answer, (answeredAt_append more answered.lt).2 answered, yes⟩

/-- The answer to a question is the one in its place. -/
theorem of_answer {session after : Session} {hint : String}
    {result : Except ReleaseError String}
    (scripted : session.operator = .scripted (answers.drop asked.length) asked)
    (ran : session.answer prompt hint = (result, after)) :
    after.operator = .scripted (answers.drop (asked ++ [prompt]).length) (asked ++ [prompt]) ∧
      ∀ answer, result = .ok answer →
        AnsweredAt answers (asked ++ [prompt]) asked.length prompt answer := by
  unfold Session.answer at ran
  rw [scripted] at ran
  cases left : answers.drop asked.length with
  | nil =>
    rw [left] at ran
    obtain ⟨rfl, rfl⟩ := Prod.mk.inj ran
    refine ⟨?_, nofun⟩
    have none : answers.drop (asked ++ [prompt]).length = [] := by
      rw [List.drop_eq_nil_iff] at left ⊢
      simp only [List.length_append, List.length_cons, List.length_nil]
      omega
    rw [none]
  | cons first rest =>
    rw [left] at ran
    obtain ⟨rfl, rfl⟩ := Prod.mk.inj ran
    constructor
    · rw [List.length_append, List.length_singleton, ← List.drop_drop, left]
      rfl
    · rintro _ ⟨⟩
      refine ⟨by simp, ?_⟩
      have head := congrArg List.head? left
      rwa [List.head?_drop] at head

/-- A yes to a question is agreement. -/
theorem agreed_of_confirm {before after : Session}
    (scripted : before.operator = .scripted (answers.drop asked.length) asked)
    (confirmed : (Action.confirm prompt).run.run before = (.ok true, after)) :
    after.operator = .scripted (answers.drop (asked ++ [prompt]).length) (asked ++ [prompt]) ∧
      Agreed answers (asked ++ [prompt]) prompt := by
  rw [Action.run_confirm] at confirmed
  obtain ⟨result, rfl⟩ := Prod.mk.inj confirmed
  obtain ⟨operator, answered⟩ := of_answer scripted (Prod.eta (before.answer prompt " (y/N)")).symm
  refine ⟨operator, ?_⟩
  cases reply : (before.answer prompt " (y/N)").1 with
  | error cause =>
    rw [reply] at result
    cases result
  | ok answer =>
    rw [reply] at result
    exact ⟨_, answer, answered answer reply, Except.ok.inj result⟩

/-- An input is the answer in its place, or the default for a blank one. -/
theorem of_input {default : String} {before after : Session}
    (scripted : before.operator = .scripted (answers.drop asked.length) asked)
    (replied : (Action.input prompt default).run.run before = (.ok answer, after)) :
    after.operator = .scripted (answers.drop (asked ++ [prompt]).length) (asked ++ [prompt]) ∧
      ∃ given, AnsweredAt answers (asked ++ [prompt]) asked.length prompt given ∧
        Operator.orDefault default given = answer := by
  rw [Action.run_input] at replied
  obtain ⟨result, rfl⟩ := Prod.mk.inj replied
  obtain ⟨operator, answered⟩ := of_answer scripted (Prod.eta (before.answer prompt _)).symm
  refine ⟨operator, ?_⟩
  cases reply : (before.answer prompt (" [" ++ default ++ "]")).1 with
  | error cause =>
    rw [reply] at result
    cases result
  | ok given =>
    rw [reply] at result
    exact ⟨given, answered given reply, Except.ok.inj result⟩

/-- Questions keep a lasting property. -/
theorem unasked_hasAsked {property : List String → Prop} (lasting : Lasting property) :
    Unasked (Session.HasAsked answers property) := by
  rintro session prompt hint ⟨asked, scripted, holds⟩
  obtain ⟨operator, -⟩ := of_answer scripted (Prod.eta _).symm
  exact ⟨asked ++ [prompt], operator, lasting asked [prompt] holds⟩

theorem unspoken_hasAsked {property : List String → Prop} :
    Unspoken (Session.HasAsked answers property) :=
  fun _ _ holds => holds

theorem Preserves.perform_hasAsked {property : List String → Prop} (runner : Runner)
    (call : Call) :
    Preserves (Session.HasAsked answers property) (Action.perform runner call) :=
  fun _ holds => holds

theorem Preserves.replaceFile_hasAsked {property : List String → Prop} (path contents : String) :
    Preserves (Session.HasAsked answers property) (Action.replaceFile path contents) := by
  refine .of_forall_run fun before outcome after ran holds => ?_
  rcases Action.of_replaceFile ran with ⟨-, -, rfl⟩ | ⟨tree, -, -, rfl⟩
  · exact holds
  · exact holds

end ReleasePilot
