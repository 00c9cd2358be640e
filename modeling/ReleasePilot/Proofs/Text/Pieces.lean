import ReleasePilot.Text.Split

/-!
# Pieces of a split text

Splitting a text undoes joining its pieces, if no piece has a separator in it
(`splitWhere_joinWith`). What stands before the first separator is found with
what stands behind it, and nothing else is (`splitOnce?_eq_some_iff`).
-/

namespace ReleasePilot.Text

/-- A text without separators is one piece. -/
theorem splitWhere_eq_singleton {isSeparator : Char → Bool} {piece : List Char}
    (undivided : ∀ character ∈ piece, isSeparator character = false) :
    splitWhere isSeparator piece = [piece] := by
  induction piece with
  | nil => rfl
  | cons character piece inductionHypothesis =>
    obtain ⟨first, others⟩ := List.forall_mem_cons.1 undivided
    simp [splitWhere, inductionHypothesis others, first]

/-- The first separator ends the first piece. -/
theorem splitWhere_append_cons {isSeparator : Char → Bool} {piece : List Char} {separator : Char}
    (undivided : ∀ character ∈ piece, isSeparator character = false)
    (separates : isSeparator separator = true) (rest : List Char) :
    splitWhere isSeparator (piece ++ separator :: rest) =
      piece :: splitWhere isSeparator rest := by
  induction piece with
  | nil =>
    obtain ⟨first, more, pieces⟩ := List.exists_cons_of_ne_nil (splitWhere_ne_nil isSeparator rest)
    simp [splitWhere, pieces, separates]
  | cons character piece inductionHypothesis =>
    obtain ⟨first, others⟩ := List.forall_mem_cons.1 undivided
    simp [splitWhere, inductionHypothesis others, first]

/-- Every text is one piece, or one piece up to its first separator. -/
theorem exists_piece (isSeparator : Char → Bool) (text : List Char) :
    ∃ piece, (∀ character ∈ piece, isSeparator character = false) ∧
      (text = piece ∨ ∃ separator rest, isSeparator separator = true ∧
        text = piece ++ separator :: rest) := by
  induction text with
  | nil => exact ⟨[], nofun, .inl rfl⟩
  | cons character text inductionHypothesis =>
    cases separates : isSeparator character with
    | true => exact ⟨[], nofun, .inr ⟨character, text, separates, rfl⟩⟩
    | false =>
      obtain ⟨piece, undivided, shape⟩ := inductionHypothesis
      refine ⟨character :: piece, List.forall_mem_cons.2 ⟨separates, undivided⟩, ?_⟩
      rcases shape with rfl | ⟨separator, rest, found, rfl⟩
      · exact .inl rfl
      · exact .inr ⟨separator, rest, found, rfl⟩

/-- Pieces without separators are what joining them and splitting again gives. -/
theorem splitWhere_joinWith {isSeparator : Char → Bool} {separator : Char}
    (separates : isSeparator separator = true) {pieces : List (List Char)} (some : pieces ≠ [])
    (undivided : ∀ piece ∈ pieces, ∀ character ∈ piece, isSeparator character = false) :
    splitWhere isSeparator (joinWith [separator] pieces) = pieces := by
  induction pieces with
  | nil => exact absurd rfl some
  | cons piece pieces inductionHypothesis =>
    obtain ⟨first, others⟩ := List.forall_mem_cons.1 undivided
    cases pieces with
    | nil => exact splitWhere_eq_singleton first
    | cons next more =>
      rw [joinWith, List.append_assoc, List.singleton_append,
        splitWhere_append_cons first separates, inductionHypothesis (List.cons_ne_nil _ _) others]

/-- Pieces that are not empty do not join to the empty text. -/
theorem joinWith_eq_nil_iff {between : List Char} {pieces : List (List Char)}
    (nonempty : ∀ piece ∈ pieces, piece ≠ []) : joinWith between pieces = [] ↔ pieces = [] := by
  match pieces, nonempty with
  | [], _ => simp [joinWith]
  | [piece], nonempty => simpa [joinWith] using nonempty
  | piece :: next :: more, nonempty =>
    simp [joinWith, nonempty piece List.mem_cons_self]

/-- What stands in joined pieces stands in one of them, or separates them. -/
theorem mem_joinWith {separator character : Char} {pieces : List (List Char)}
    (member : character ∈ joinWith [separator] pieces) :
    character = separator ∨ ∃ piece ∈ pieces, character ∈ piece := by
  induction pieces with
  | nil => cases member
  | cons piece pieces inductionHypothesis =>
    cases pieces with
    | nil => exact .inr ⟨piece, List.mem_cons_self, member⟩
    | cons next more =>
      rw [joinWith, List.mem_append, List.mem_append, List.mem_singleton] at member
      rcases member with (here | rfl) | later
      · exact .inr ⟨piece, List.mem_cons_self, here⟩
      · exact .inl rfl
      · rcases inductionHypothesis later with same | ⟨found, among, inside⟩
        · exact .inl same
        · exact .inr ⟨found, List.mem_cons_of_mem _ among, inside⟩

/-- What stands in a piece of a text stands in the text. -/
theorem mem_of_mem_splitWhere (isSeparator : Char → Bool) {text piece : List Char}
    {character : Char} (among : piece ∈ splitWhere isSeparator text)
    (inside : character ∈ piece) : character ∈ text := by
  induction text generalizing piece with
  | nil =>
    rw [List.mem_singleton.1 among] at inside
    cases inside
  | cons first rest inductionHypothesis =>
    obtain ⟨head, more, pieces⟩ :=
      List.exists_cons_of_ne_nil (splitWhere_ne_nil isSeparator rest)
    rw [splitWhere, pieces] at among
    rw [pieces] at inductionHypothesis
    cases separates : isSeparator first with
    | true =>
      rw [separates] at among
      rcases List.mem_cons.1 among with rfl | among
      · cases inside
      · exact List.mem_cons_of_mem _ (inductionHypothesis among inside)
    | false =>
      rw [separates] at among
      rcases List.mem_cons.1 among with rfl | among
      · rcases List.mem_cons.1 inside with rfl | inside
        · exact List.mem_cons_self
        · exact List.mem_cons_of_mem _ (inductionHypothesis List.mem_cons_self inside)
      · exact List.mem_cons_of_mem _
          (inductionHypothesis (List.mem_cons_of_mem _ among) inside)

/-- Splitting depends on which characters of the text are separators. -/
theorem splitWhere_congr {isSeparator other : Char → Bool} {text : List Char}
    (same : ∀ character ∈ text, isSeparator character = other character) :
    splitWhere isSeparator text = splitWhere other text := by
  induction text with
  | nil => rfl
  | cons character rest inductionHypothesis =>
    obtain ⟨first, others⟩ := List.forall_mem_cons.1 same
    rw [splitWhere, splitWhere, inductionHypothesis others, first]

/-- What is split once is cut at its first separator. -/
theorem splitOnce?_eq_some_iff {separator : Char} {text before after : List Char} :
    splitOnce? separator text = some (before, after) ↔
      separator ∉ before ∧ text = before ++ separator :: after := by
  induction text generalizing before with
  | nil => simp [splitOnce?]
  | cons character rest inductionHypothesis =>
    rw [splitOnce?]
    by_cases same : character = separator
    · subst same
      rw [if_pos rfl]
      cases before with
      | nil => simp
      | cons first before => simp_all
    · rw [if_neg same, Option.map_eq_some_iff]
      constructor
      · rintro ⟨⟨front, behind⟩, deeper, parts⟩
        obtain ⟨rfl, rfl⟩ := Prod.mk.inj parts
        obtain ⟨absent, rfl⟩ := inductionHypothesis.1 deeper
        exact ⟨by simp [absent, Ne.symm same], rfl⟩
      · rintro ⟨absent, whole⟩
        cases before with
        | nil => exact absurd (List.cons.inj whole).1 same
        | cons first front =>
          obtain ⟨rfl, rfl⟩ := List.cons.inj whole
          have absentIn := fun inside => absent (List.mem_cons_of_mem _ inside)
          exact ⟨_, inductionHypothesis.2 ⟨absentIn, rfl⟩, rfl⟩

end ReleasePilot.Text
