import ReleasePilot.Declaration
import ReleasePilot.Proofs.Text.Lines
import ReleasePilot.Proofs.Version.RoundTrip

/-!
# Reading a declaration that was set

A file whose declaration was set to a version declares that version
(`current_set`). An identifier may be any text, also one that is blank or begins
with blanks, so that the name may be found in more than one place of the line
that was written; the value is the same in all of them.
-/

namespace ReleasePilot.Declaration

/-! ## What is read from a line -/

/-- A declaration on a line is blanks, the name and what reads as its value. -/
theorem of_onLine? {identifier text : List Char} {declaration : Declaration}
    (found : onLine? identifier text = some declaration) :
    (∀ character ∈ declaration.indent, Text.isBlank character = true) ∧
      ∃ rest, text = declaration.indent ++ identifier ++ rest ∧
        readValue? rest = some declaration.value := by
  have here {text : List Char} {declaration : Declaration}
      (found : ((readHere? identifier text).map fun value =>
        { indent := [], value : Declaration }) = some declaration) :
      (∀ character ∈ declaration.indent, Text.isBlank character = true) ∧
        ∃ rest, text = declaration.indent ++ identifier ++ rest ∧
          readValue? rest = some declaration.value := by
    obtain ⟨value, read, rfl⟩ := Option.map_eq_some_iff.1 found
    unfold readHere? at read
    split at read
    case isTrue begins =>
      obtain ⟨rest, rfl⟩ := List.isPrefixOf_iff_prefix.1 begins
      rw [List.drop_left] at read
      exact ⟨nofun, rest, rfl, read⟩
    case isFalse => cases read
  induction text generalizing declaration with
  | nil => exact here found
  | cons character rest inductionHypothesis =>
    rw [onLine?] at found
    split at found
    case isFalse => exact here found
    case isTrue blank =>
      split at found
      case h_2 => exact here found
      case h_1 deeper read =>
        obtain rfl := Option.some.inj found
        obtain ⟨blanks, behind, rfl, value⟩ := inductionHypothesis read
        exact ⟨List.forall_mem_cons.2 ⟨blank, blanks⟩, behind, rfl, value⟩

/-- Blanks in front belong to the indent. -/
theorem onLine?_append {identifier text blanks : List Char} {declaration : Declaration}
    (blank : ∀ character ∈ blanks, Text.isBlank character = true)
    (found : onLine? identifier text = some declaration) :
    onLine? identifier (blanks ++ text) =
      some { declaration with indent := blanks ++ declaration.indent } := by
  induction blanks with
  | nil => exact found
  | cons character more inductionHypothesis =>
    obtain ⟨first, others⟩ := List.forall_mem_cons.1 blank
    rw [List.cons_append, onLine?, if_pos first, inductionHypothesis others]
    rfl

/-- A name that can be read here is found on the line, here or farther on. -/
theorem isSome_onLine? {identifier text value : List Char}
    (read : readHere? identifier text = some value) : (onLine? identifier text).isSome := by
  cases text with
  | nil => simp [onLine?, read]
  | cons character rest =>
    rw [onLine?]
    split
    · split <;> simp [read]
    · simp [read]

theorem readHere?_append (identifier rest : List Char) :
    readHere? identifier (identifier ++ rest) = readValue? rest := by
  unfold readHere?
  rw [if_pos (List.isPrefixOf_iff_prefix.2 (List.prefix_append _ _)), List.drop_left]

/-- Wherever behind blanks the name is found, the same value follows it. -/
theorem readValue?_of_append {identifier first second blanks others : List Char}
    (blank : ∀ character ∈ blanks, Text.isBlank character = true)
    (otherBlank : ∀ character ∈ others, Text.isBlank character = true)
    (same : blanks ++ identifier ++ first = others ++ identifier ++ second) :
    readValue? first = readValue? second := by
  -- Both sides go on in the same way behind their blanks.
  replace same := congrArg (List.dropWhile Text.isBlank) same
  rw [List.append_assoc, List.append_assoc, List.dropWhile_append_of_pos blank,
    List.dropWhile_append_of_pos otherBlank, List.dropWhile_append, List.dropWhile_append] at same
  split at same
  · unfold readValue? Text.trimStart
    rw [same]
  · rw [List.append_cancel_left same]

/-- The value of a declaration that is found behind blanks. -/
theorem value_of_onLine? {identifier indent rest : List Char} {declaration : Declaration}
    (blank : ∀ character ∈ indent, Text.isBlank character = true)
    (found : onLine? identifier (indent ++ identifier ++ rest) = some declaration) :
    readValue? rest = some declaration.value := by
  obtain ⟨otherBlank, behind, same, value⟩ := of_onLine? found
  rw [readValue?_of_append blank otherBlank same, value]

/-! ## What is written to a line -/

/-- What stands behind the name once a version is set. -/
def assignment (version : Version) : List Char :=
  " = \"".toList ++ version.characters ++ ['"']

theorem readValue?_assignment {version : Version} (canonical : version.Canonical) :
    readValue? (assignment version) = some version.characters := by
  have noQuote : ∀ character ∈ version.characters, (!isQuote character) = true := by
    intro character member
    have code := (Version.isWrittenWith_of_mem_characters canonical member).code
    cases quote : isQuote character with
    | false => rfl
    | true =>
      simp only [isQuote, Bool.or_eq_true, beq_iff_eq] at quote
      rcases quote with rfl | rfl <;> exact absurd code (by decide)
  have read : readValue? (assignment version) =
      if isQuote '"' && (version.characters ++ ['"']).any isQuote then
        some ((version.characters ++ ['"']).takeWhile (!isQuote ·)) else none := rfl
  rw [read, if_pos (by simp [isQuote]),
    Text.takeWhile_run noQuote (Text.stopsRun_cons (by decide))]

theorem setOnLine_of_some {identifier : List Char} {line : Line} {declaration : Declaration}
    (found : onLine? identifier line.content = some declaration) (version : Version) :
    setOnLine identifier version line =
      ⟨declaration.indent ++ identifier ++ assignment version, line.ending⟩ := by
  rw [setOnLine, found]
  simp only [assignment, List.append_assoc]

theorem setOnLine_of_none {identifier : List Char} {line : Line}
    (absent : onLine? identifier line.content = none) (version : Version) :
    setOnLine identifier version line = line := by
  rw [setOnLine, absent]

/-- A line that declares a version declares the one that it is set to. -/
theorem onLine?_setOnLine {identifier : List Char} {version : Version}
    (canonical : version.Canonical) (line : Line) :
    (onLine? identifier (setOnLine identifier version line).content).isSome =
        (onLine? identifier line.content).isSome ∧
      ∀ declaration, onLine? identifier (setOnLine identifier version line).content =
        some declaration → declaration.value = version.characters := by
  cases found : onLine? identifier line.content with
  | none =>
    rw [setOnLine_of_none found, found]
    exact ⟨rfl, nofun⟩
  | some declaration =>
    obtain ⟨blank, -⟩ := of_onLine? found
    rw [setOnLine_of_some found]
    constructor
    · have read := (readHere?_append identifier _).trans (readValue?_assignment canonical)
      obtain ⟨again, here⟩ := Option.isSome_iff_exists.1 (isSome_onLine? read)
      rw [List.append_assoc, onLine?_append blank here]
      rfl
    · intro again here
      have value := (value_of_onLine? blank here).symm.trans (readValue?_assignment canonical)
      exact Option.some.inj value

/-! ## What is written to a file -/

/-- A line stays one line when its declaration is set. -/
theorem split_setOnLine {identifier text : List Char} {version : Version}
    (canonical : version.Canonical) {line : Line} (member : line ∈ Line.split text) :
    Line.split (setOnLine identifier version line).text = [setOnLine identifier version line] := by
  cases found : onLine? identifier line.content with
  | none =>
    rw [setOnLine_of_none found]
    exact Line.split_text_of_mem member
  | some declaration =>
    obtain ⟨-, rest, content, -⟩ := of_onLine? found
    have inLine := Line.newline_not_mem_content member
    rw [content, List.mem_append, not_or] at inLine
    have versionInLine : '\n' ∉ version.characters := fun member =>
      absurd (Version.isWrittenWith_of_mem_characters canonical member).code (by decide)
    have whole : declaration.indent ++ identifier ++ assignment version =
        declaration.indent ++ identifier ++ (" = \"".toList ++ version.characters) ++ ['"'] := by
      rw [assignment, List.append_assoc (declaration.indent ++ identifier)]
    rw [setOnLine_of_some found, whole]
    refine Line.split_text _ ?_ (by decide)
    simp only [List.mem_append, not_or] at inLine ⊢
    exact ⟨⟨inLine.1, by decide, versionInLine⟩, by decide⟩

theorem ending_setOnLine (identifier : List Char) (version : Version) (line : Line) :
    (setOnLine identifier version line).ending = line.ending := by
  unfold setOnLine
  split <;> rfl

/-- The lines of a file with its declaration set. -/
theorem of_set {path identifier contents changed : String} {version : Version}
    (canonical : version.Canonical)
    (updated : set path identifier version contents = .ok changed) :
    ((Line.split contents.toList).countP fun line =>
        (onLine? identifier.toList line.content).isSome) = 1 ∧
      Line.split changed.toList =
        (Line.split contents.toList).map (setOnLine identifier.toList version) := by
  unfold set setInLines at updated
  split at updated
  · cases updated
  · rename_i one
    obtain rfl := Except.ok.inj updated
    refine ⟨one, ?_⟩
    rw [String.toList_ofList]
    exact Line.split_join_map rfl (fun line member => split_setOnLine canonical member)
      fun line _ => ending_setOnLine _ _ line
  · cases updated

/-- A file whose declaration was set declares the version it was set to. -/
theorem current_set {path identifier contents changed : String} {version : Version}
    (canonical : version.Canonical)
    (updated : set path identifier version contents = .ok changed) :
    current path identifier changed = .ok version := by
  obtain ⟨one, lines⟩ := of_set canonical updated
  unfold current
  rw [lines]
  cases found : ((Line.split contents.toList).map (setOnLine identifier.toList version)).findSome?
      fun line => onLine? identifier.toList line.content with
  | none =>
    -- The one line with a declaration still has it.
    have positive : 0 < (Line.split contents.toList).countP fun line =>
        (onLine? identifier.toList line.content).isSome := by omega
    obtain ⟨line, member, declared⟩ := List.countP_pos_iff.1 positive
    have absent := List.findSome?_eq_none_iff.1 found _ (List.mem_map_of_mem member)
    obtain ⟨kept, -⟩ : (onLine? identifier.toList
        (setOnLine identifier.toList version line).content).isSome = _ ∧ _ :=
      onLine?_setOnLine canonical line
    rw [absent, declared] at kept
    cases kept
  | some declaration =>
    obtain ⟨written, member, here⟩ := List.exists_of_findSome?_eq_some found
    obtain ⟨line, -, rfl⟩ := List.mem_map.1 member
    have value := (onLine?_setOnLine canonical line).2 declaration here
    change Version.parse (String.ofList declaration.value) = .ok version
    rw [value]
    exact Version.parse_eq_ok_iff.2 (Version.ofText?_text canonical)

end ReleasePilot.Declaration
