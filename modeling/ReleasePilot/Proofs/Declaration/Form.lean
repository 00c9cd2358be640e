import ReleasePilot.Proofs.Declaration.Rewriting

/-!
# The form of a declaration

A line declares a version if it has a certain form (`Declares`), which is described here
without a reader; `isSome_onLine?_iff` says that the reader finds a declaration on
exactly the lines of this form. The terminator of a line makes no difference, as it
holds no quote (`declares_text_iff`).
-/

namespace ReleasePilot.Declaration

/-- What stands behind the name: an equals sign and a quoted value, with any blanks
before each and anything behind them. The two quotes may be of different kinds. -/
inductive Assigns (value : List Char) : List Char → Prop where
  | quoted {before after rest : List Char} {opening closing : Char}
      (blankBefore : ∀ character ∈ before, Text.isBlank character = true)
      (blankAfter : ∀ character ∈ after, Text.isBlank character = true)
      (opens : isQuote opening = true) (closes : isQuote closing = true)
      (unquoted : ∀ character ∈ value, isQuote character = false) :
      Assigns value (before ++ '=' :: (after ++ opening :: (value ++ closing :: rest)))

/-- A line with a declaration: the indent, the name as it is, and an assignment. -/
inductive Form (identifier : List Char) : Declaration → List Char → Prop where
  | line {indent value rest : List Char}
      (blank : ∀ character ∈ indent, Text.isBlank character = true)
      (assigns : Assigns value rest) :
      Form identifier { indent, value } (indent ++ identifier ++ rest)

/-- A line that declares some version, or what stands in the place of one. -/
def Declares (identifier text : List Char) : Prop :=
  ∃ declaration, Form identifier declaration text

/-! ## What the reader finds -/

theorem isBlank_of_isQuote {character : Char} (quote : isQuote character = true) :
    Text.isBlank character = false := by
  simp only [isQuote, Bool.or_eq_true, beq_iff_eq] at quote
  rcases quote with rfl | rfl <;> decide

/-- A run of characters of one class, and the text behind it. -/
theorem exists_run (isMember : Char → Bool) (text : List Char) :
    ∃ run, (∀ character ∈ run, isMember character = true) ∧
      text = run ++ text.dropWhile isMember :=
  ⟨text.takeWhile isMember,
    fun character member => List.all_eq_true.1 List.all_takeWhile character member,
    List.takeWhile_append_dropWhile.symm⟩

/-- A text with a quote goes up to its first quote without one. -/
theorem exists_first_quote {text : List Char} (closed : text.any isQuote = true) :
    ∃ closing rest, isQuote closing = true ∧
      text = text.takeWhile (!isQuote ·) ++ closing :: rest := by
  induction text with
  | nil => cases closed
  | cons character more inductionHypothesis =>
    by_cases quote : isQuote character = true
    · exact ⟨character, more, quote, by simp [quote]⟩
    · rw [List.any_cons, Bool.or_eq_true] at closed
      obtain ⟨closing, rest, closes, parts⟩ := inductionHypothesis (closed.resolve_left quote)
      refine ⟨closing, rest, closes, ?_⟩
      rw [List.takeWhile_cons_of_pos (by simp [quote]), List.cons_append, ← parts]

theorem readValue?_of_assigns {value text : List Char} (assigns : Assigns value text) :
    readValue? text = some value := by
  cases assigns with
  | @quoted before after rest opening closing blankBefore blankAfter opens closes unquoted =>
    have atSign : Text.trimStart Text.isBlank
        (before ++ '=' :: (after ++ opening :: (value ++ closing :: rest))) =
          '=' :: (after ++ opening :: (value ++ closing :: rest)) :=
      Text.dropWhile_run blankBefore (Text.stopsRun_cons (by decide))
    have atQuote : Text.trimStart Text.isBlank (after ++ opening :: (value ++ closing :: rest)) =
        opening :: (value ++ closing :: rest) :=
      Text.dropWhile_run blankAfter (Text.stopsRun_cons (isBlank_of_isQuote opens))
    have inside : (value ++ closing :: rest).takeWhile (!isQuote ·) = value :=
      Text.takeWhile_run (fun character member => by simp [unquoted character member])
        (Text.stopsRun_cons (by simp [closes]))
    rw [readValue?, atSign]
    simp only [atQuote]
    rw [if_pos (by simp [opens, closes]), inside]

theorem assigns_of_readValue? {value text : List Char} (read : readValue? text = some value) :
    Assigns value text := by
  unfold readValue? Text.trimStart at read
  obtain ⟨before, blankBefore, whole⟩ := exists_run Text.isBlank text
  split at read
  case h_2 => cases read
  case h_1 behind sign =>
    obtain ⟨after, blankAfter, later⟩ := exists_run Text.isBlank behind
    split at read
    case h_2 => cases read
    case h_1 opening quoted start =>
      split at read
      case isFalse => cases read
      case isTrue quotes =>
        obtain rfl := Option.some.inj read
        obtain ⟨opens, closed⟩ := Bool.and_eq_true_iff.1 quotes
        obtain ⟨closing, rest, closes, parts⟩ := exists_first_quote closed
        have assigns : Assigns (quoted.takeWhile (!isQuote ·)) (before ++ '=' ::
            (after ++ opening :: (quoted.takeWhile (!isQuote ·) ++ closing :: rest))) := by
          refine .quoted blankBefore blankAfter opens closes fun character member => ?_
          simpa using List.all_eq_true.1 List.all_takeWhile character member
        rwa [← parts, ← start, ← later, ← sign, ← whole] at assigns

theorem form_of_onLine? {identifier text : List Char} {declaration : Declaration}
    (found : onLine? identifier text = some declaration) : Form identifier declaration text := by
  obtain ⟨blank, rest, rfl, read⟩ := of_onLine? found
  exact .line blank (assigns_of_readValue? read)

/-- A declaration is found on exactly the lines of the form. -/
theorem isSome_onLine?_iff {identifier text : List Char} :
    (onLine? identifier text).isSome ↔ Declares identifier text := by
  constructor
  · intro found
    obtain ⟨declaration, found⟩ := Option.isSome_iff_exists.1 found
    exact ⟨declaration, form_of_onLine? found⟩
  · rintro ⟨_, blank, assigns⟩
    rename_i indent value rest
    have read := (readHere?_append identifier rest).trans (readValue?_of_assigns assigns)
    obtain ⟨declaration, found⟩ := Option.isSome_iff_exists.1 (isSome_onLine? read)
    rw [List.append_assoc, onLine?_append blank found]
    rfl

instance (identifier text : List Char) : Decidable (Declares identifier text) :=
  decidable_of_iff _ isSome_onLine?_iff

/-- The two quotes may differ, and the value may be empty. -/
example : Declares "version".toList "  version ='\" # unset".toList := by decide

/-- A name is not found within a longer one. -/
example : ¬Declares "version".toList "my_version = '1.0'".toList := by decide

/-! ## Terminators -/

/-- Anything may follow the closing quote. -/
theorem Assigns.exists_closing {value text : List Char} (assigns : Assigns value text) :
    ∃ front closing rest, text = front ++ closing :: rest ∧ isQuote closing = true ∧
      ∀ other, Assigns value (front ++ closing :: other) := by
  cases assigns with
  | @quoted before after rest opening closing blankBefore blankAfter opens closes unquoted =>
    refine ⟨before ++ '=' :: (after ++ opening :: value), closing, rest, by simp, closes, ?_⟩
    intro other
    have assigns : Assigns value
        (before ++ '=' :: (after ++ opening :: (value ++ closing :: other))) :=
      .quoted blankBefore blankAfter opens closes unquoted
    simpa using assigns

/-- A character of a text that is not behind some cut stands before it. -/
theorem exists_of_append_eq_append_cons {first second front rest : List Char} {character : Char}
    (whole : first ++ second = front ++ character :: rest) (absent : character ∉ second) :
    ∃ more, first = front ++ character :: more := by
  rcases List.append_eq_append_iff.1 whole with ⟨more, later, earlier⟩ | ⟨more, earlier, later⟩
  · exact absurd (earlier ▸ List.mem_append_right more List.mem_cons_self) absent
  · cases more with
    | nil =>
      rw [List.nil_append] at later
      exact absurd (later ▸ List.mem_cons_self) absent
    | cons head more =>
      obtain ⟨rfl, -⟩ := List.cons.inj later
      exact ⟨more, earlier⟩

theorem isQuote_of_mem_ending {ending : LineEnding} {character : Char}
    (member : character ∈ ending.text) : isQuote character = false := by
  cases ending with
  | unterminated => cases member
  | newline =>
    rw [List.mem_singleton.1 member]
    rfl
  | returnNewline =>
    simp only [LineEnding.text, List.mem_cons, List.not_mem_nil, or_false] at member
    rcases member with rfl | rfl <;> rfl

/-- A line has a declaration with its terminator if it has the same one without. -/
theorem form_text_iff {identifier : List Char} {declaration : Declaration} (line : Line) :
    Form identifier declaration line.text ↔ Form identifier declaration line.content := by
  have closing_not_mem {closing : Char} (closes : isQuote closing = true) :
      closing ∉ line.ending.text := fun member => by
    rw [isQuote_of_mem_ending member] at closes
    cases closes
  constructor
  · generalize whole : line.text = text
    rintro ⟨blank, assigns⟩
    rename_i indent value rest
    obtain ⟨front, closing, behind, rfl, closes, any⟩ := assigns.exists_closing
    have cut : line.content ++ line.ending.text =
        (indent ++ identifier ++ front) ++ closing :: behind := by
      rw [List.append_assoc (indent ++ identifier)]
      exact whole
    obtain ⟨more, content⟩ := exists_of_append_eq_append_cons cut (closing_not_mem closes)
    rw [content, List.append_assoc (indent ++ identifier)]
    exact .line blank (any more)
  · generalize same : line.content = content
    rintro ⟨blank, assigns⟩
    rename_i indent value rest
    obtain ⟨front, closing, behind, rfl, closes, any⟩ := assigns.exists_closing
    rw [Line.text, same, List.append_assoc, List.append_assoc front]
    exact .line blank (any (behind ++ line.ending.text))

/-- A line declares a version with its terminator if it does without. -/
theorem declares_text_iff {identifier : List Char} (line : Line) :
    Declares identifier line.text ↔ Declares identifier line.content :=
  exists_congr fun _ => form_text_iff line

end ReleasePilot.Declaration
