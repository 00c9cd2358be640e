import ReleasePilot.Text.Blank

/-!
# Runs of characters of one class

A reader takes a run of characters of its class up to the first that is not in
it; a trimmer drops such runs at the ends of a text.
-/

namespace ReleasePilot.Text

/-- The text does not go on with a character of the class. -/
def StopsRun (isMember : Char → Bool) (rest : List Char) : Prop :=
  ∀ character, rest.head? = some character → isMember character = false

@[simp] theorem stopsRun_nil (isMember : Char → Bool) : StopsRun isMember [] :=
  fun _ impossible => nomatch impossible

theorem stopsRun_cons {isMember : Char → Bool} {character : Char} {rest : List Char}
    (outside : isMember character = false) : StopsRun isMember (character :: rest) := by
  intro head same
  cases same
  exact outside

/-- What is left of a text when a run is dropped does not begin with one. -/
theorem stopsRun_dropWhile (isMember : Char → Bool) (text : List Char) :
    StopsRun isMember (text.dropWhile isMember) := by
  intro character head
  have outside := List.head?_dropWhile_not isMember text
  rw [head] at outside
  exact outside

/-- A run is stopped by a text and what follows it, if what follows would stop it as well. -/
theorem StopsRun.append {isMember : Char → Bool} {text : List Char} (stop : StopsRun isMember text)
    {character : Char} (outside : isMember character = false) (rest : List Char) :
    StopsRun isMember (text ++ character :: rest) := by
  cases text with
  | nil => exact stopsRun_cons outside
  | cons first more => exact stopsRun_cons (stop first rfl)

theorem StopsRun.of_append {isMember : Char → Bool} {text rest : List Char}
    (stop : StopsRun isMember (text ++ rest)) : StopsRun isMember text := by
  cases text with
  | nil => exact stopsRun_nil isMember
  | cons first more => exact stopsRun_cons (stop first rfl)

/-- No run is taken from a text that does not begin with one. -/
theorem takeWhile_eq_nil_of_stopsRun {isMember : Char → Bool} {rest : List Char}
    (stop : StopsRun isMember rest) : rest.takeWhile isMember = [] := by
  cases rest with
  | nil => rfl
  | cons character rest =>
    have outside := stop character rfl
    exact List.takeWhile_cons_of_neg (by simp [outside])

theorem dropWhile_eq_self_of_stopsRun {isMember : Char → Bool} {rest : List Char}
    (stop : StopsRun isMember rest) : rest.dropWhile isMember = rest := by
  cases rest with
  | nil => rfl
  | cons character rest =>
    have outside := stop character rfl
    exact List.dropWhile_cons_of_neg (by simp [outside])

/-- A run is taken up to where it stops. -/
theorem takeWhile_run {isMember : Char → Bool} {run rest : List Char}
    (inside : ∀ character ∈ run, isMember character = true) (stop : StopsRun isMember rest) :
    (run ++ rest).takeWhile isMember = run := by
  rw [List.takeWhile_append_of_pos inside, takeWhile_eq_nil_of_stopsRun stop, List.append_nil]

/-- What follows a run is left over. -/
theorem dropWhile_run {isMember : Char → Bool} {run rest : List Char}
    (inside : ∀ character ∈ run, isMember character = true) (stop : StopsRun isMember rest) :
    (run ++ rest).dropWhile isMember = rest := by
  rw [List.dropWhile_append_of_pos inside, dropWhile_eq_self_of_stopsRun stop]

/-- Nothing is dropped behind a character that stays. -/
theorem trimStart_append_cons {drop : Char → Bool} {character : Char}
    (stays : drop character = false) (front rest : List Char) :
    trimStart drop (front ++ character :: rest) = trimStart drop front ++ character :: rest := by
  unfold trimStart
  rw [List.dropWhile_append]
  split
  case isTrue none =>
    rw [List.isEmpty_iff.1 none, List.nil_append]
    exact dropWhile_eq_self_of_stopsRun (stopsRun_cons stays)
  case isFalse => rfl

/-- Nothing is dropped at the end of a text whose last character stays. -/
theorem trimEnd_eq_self {drop : Char → Bool} {text : List Char}
    (stays : ∀ character ∈ text.getLast?, drop character = false) : trimEnd drop text = text := by
  unfold trimEnd
  have stop : StopsRun drop text.reverse := by
    intro character head
    rw [List.head?_reverse] at head
    exact stays character head
  rw [dropWhile_eq_self_of_stopsRun stop, List.reverse_reverse]

/-- Characters to be dropped make no difference at the end. -/
theorem trimEnd_append_of_forall {drop : Char → Bool} {tail : List Char}
    (dropped : ∀ character ∈ tail, drop character = true) (text : List Char) :
    trimEnd drop (text ++ tail) = trimEnd drop text := by
  unfold trimEnd
  rw [List.reverse_append, List.dropWhile_append_of_pos]
  intro character member
  exact dropped character (List.mem_reverse.1 member)

/-- What stands in front of a character that stays is not trimmed. -/
theorem trimEnd_append {drop : Char → Bool} {front : List Char}
    (stays : ∀ character ∈ front.getLast?, drop character = false) (text : List Char) :
    trimEnd drop (front ++ text) = front ++ trimEnd drop text := by
  have kept := trimEnd_eq_self stays
  unfold trimEnd at kept ⊢
  rw [List.reverse_append, List.dropWhile_append]
  split
  case isTrue empty => rw [kept, List.isEmpty_iff.1 empty, List.reverse_nil, List.append_nil]
  case isFalse => rw [List.reverse_append, List.reverse_reverse]

/-- What is trimmed from the end of a text is of the class. -/
theorem exists_trimmed (drop : Char → Bool) (text : List Char) :
    ∃ tail, (∀ character ∈ tail, drop character = true) ∧ text = trimEnd drop text ++ tail := by
  refine ⟨(text.reverse.takeWhile drop).reverse, fun character member => ?_, ?_⟩
  · exact List.all_eq_true.1 List.all_takeWhile character (List.mem_reverse.1 member)
  · rw [trimEnd, ← List.reverse_append, List.takeWhile_append_dropWhile, List.reverse_reverse]

/-- What is left of a text when its end is trimmed does not end with the class. -/
theorem getLast?_trimEnd (drop : Char → Bool) (text : List Char) :
    ∀ character ∈ (trimEnd drop text).getLast?, drop character = false := by
  intro character last
  rw [trimEnd, List.getLast?_reverse] at last
  exact stopsRun_dropWhile drop text.reverse character last

/-- Trimming an end keeps the text in front of it. -/
theorem trimEnd_prefix (drop : Char → Bool) (text : List Char) : trimEnd drop text <+: text := by
  obtain ⟨tail, -, whole⟩ := exists_trimmed drop text
  exact ⟨tail, whole.symm⟩

/-- Blanks around a text without blanks are trimmed. -/
theorem trim_blanks {before text after : List Char}
    (blankBefore : ∀ character ∈ before, isBlank character = true)
    (blankAfter : ∀ character ∈ after, isBlank character = true)
    (solid : ∀ character ∈ text, isBlank character = false) :
    trim (before ++ text ++ after) = text := by
  unfold trim
  cases text with
  | nil =>
    have allBlank := dropWhile_run blankAfter (stopsRun_nil isBlank)
    rw [List.append_nil] at allBlank
    rw [List.append_nil, trimStart, List.dropWhile_append_of_pos blankBefore, allBlank]
    rfl
  | cons character text =>
    have stops : StopsRun isBlank (character :: text ++ after) :=
      stopsRun_cons (solid character List.mem_cons_self)
    rw [trimStart, List.append_assoc, dropWhile_run blankBefore stops,
      trimEnd_append_of_forall blankAfter]
    exact trimEnd_eq_self fun last member => solid last (List.mem_of_mem_getLast? member)

/-- What stands behind a text that begins and ends with no blank is trimmed at its end alone. -/
theorem trim_append {front : List Char} (starts : ∃ first ∈ front.head?, isBlank first = false)
    (stays : ∀ character ∈ front.getLast?, isBlank character = false) (text : List Char) :
    trim (front ++ text) = front ++ trimEnd isBlank text := by
  obtain ⟨first, head, solid⟩ := starts
  obtain ⟨rest, rfl⟩ := List.head?_eq_some_iff.1 head
  have stop : StopsRun isBlank (first :: rest ++ text) := stopsRun_cons solid
  rw [trim, trimStart, dropWhile_eq_self_of_stopsRun stop, trimEnd_append stays]

/-- What is trimmed from the ends of a text is blank. -/
theorem exists_blanks (text : List Char) :
    ∃ before after, (∀ character ∈ before, isBlank character = true) ∧
      (∀ character ∈ after, isBlank character = true) ∧ text = before ++ trim text ++ after := by
  have atStart := List.takeWhile_append_dropWhile (p := isBlank) (l := text)
  obtain ⟨after, blankAfter, atEnd⟩ := exists_trimmed isBlank (trimStart isBlank text)
  refine ⟨text.takeWhile isBlank, after, fun character member => ?_, blankAfter, ?_⟩
  · exact List.all_eq_true.1 List.all_takeWhile character member
  · rw [List.append_assoc, trim, ← atEnd]
    exact atStart.symm

/-- Blanks that are dropped at the start of a text would be trimmed. -/
theorem trim_trimStart {drop : Char → Bool}
    (blank : ∀ character, drop character = true → isBlank character = true) (text : List Char) :
    trim (trimStart drop text) = trim text := by
  have dropped : ∀ character ∈ text.takeWhile drop, isBlank character = true :=
    fun character member => blank character (List.all_eq_true.1 List.all_takeWhile character member)
  have same : trimStart isBlank text = trimStart isBlank (trimStart drop text) := by
    have cut : trimStart isBlank (text.takeWhile drop ++ text.dropWhile drop) =
        trimStart isBlank (trimStart drop text) := List.dropWhile_append_of_pos dropped
    rwa [List.takeWhile_append_dropWhile] at cut
  rw [trim, trim, same]

theorem mem_of_mem_trim {text : List Char} {character : Char} (member : character ∈ trim text) :
    character ∈ text := by
  obtain ⟨before, after, -, -, whole⟩ := exists_blanks text
  rw [whole]
  exact List.mem_append_left _ (List.mem_append_right _ member)

/-- Nothing is left of a text that is blank, and only of such a text. -/
theorem trim_eq_nil_iff {text : List Char} :
    trim text = [] ↔ ∀ character ∈ text, isBlank character = true := by
  constructor
  · intro nothing
    obtain ⟨before, after, blankBefore, blankAfter, whole⟩ := exists_blanks text
    rw [whole, nothing, List.append_nil]
    exact List.forall_mem_append.2 ⟨blankBefore, blankAfter⟩
  · intro blank
    have between : trim (text ++ [] ++ []) = [] := trim_blanks blank nofun nofun
    simpa using between

/-- Blanks around a text make no difference to what is left of it. -/
theorem trim_between {before after : List Char}
    (blankBefore : ∀ character ∈ before, isBlank character = true)
    (blankAfter : ∀ character ∈ after, isBlank character = true) (text : List Char) :
    trim (before ++ text ++ after) = trim text := by
  by_cases blank : ∀ character ∈ text, isBlank character = true
  · have whole : ∀ character ∈ before ++ text ++ after, isBlank character = true :=
      List.forall_mem_append.2 ⟨List.forall_mem_append.2 ⟨blankBefore, blank⟩, blankAfter⟩
    rw [trim_eq_nil_iff.2 blank, trim_eq_nil_iff.2 whole]
  · have starts : text.dropWhile isBlank ≠ [] := by
      intro nothing
      refine blank (trim_eq_nil_iff.1 ?_)
      rw [trim, trimStart, nothing]
      rfl
    rw [trim, trimStart, List.append_assoc, List.dropWhile_append_of_pos blankBefore,
      List.dropWhile_append, if_neg (mt List.isEmpty_iff.1 starts),
      trimEnd_append_of_forall blankAfter]
    rfl

theorem trim_append_blanks {after : List Char}
    (blank : ∀ character ∈ after, isBlank character = true) (text : List Char) :
    trim (text ++ after) = trim text :=
  trim_between (List.forall_mem_nil _) blank text

/-- What is left of a text is not trimmed again. -/
theorem trim_trim (text : List Char) : trim (trim text) = trim text := by
  obtain ⟨before, after, blankBefore, blankAfter, whole⟩ := exists_blanks text
  have same := trim_between blankBefore blankAfter (trim text)
  rw [← whole] at same
  exact same.symm

end ReleasePilot.Text
