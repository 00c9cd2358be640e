import ReleasePilot.Proofs.Command.Words

/-!
# Echoed commands

A command is echoed so that a shell would read its words from the echo, and nothing else:
each chunk of a word is read back as it is (`scan_write`), and so are the word and the whole
command (`words?_quoted`). A character that a shell may act on is never left without the
quotes that keep it from doing so.
-/

namespace ReleasePilot.Command

/-- The characters that a shell may act on where they stand. -/
def Enclosure.active : Enclosure → List Char
  | .none => "$\x60!*?[~#;&|<>()".toList
  | .single => []
  | .double => "$\x60!".toList

/-- No character that is found stands where a shell may act on it. -/
def Guarded (signs : List Sign) : Prop :=
  ∀ enclosure character, .letter enclosure character ∈ signs → character ∉ enclosure.active

theorem guarded_append {signs more : List Sign} (first : Guarded signs) (second : Guarded more) :
    Guarded (signs ++ more) := by
  intro enclosure character member
  rcases List.mem_append.1 member with before | after
  · exact first enclosure character before
  · exact second enclosure character after

theorem guarded_mark : Guarded [.mark] := by
  intro enclosure character member
  cases List.mem_singleton.1 member

theorem guarded_letters {text : List Char} {enclosure : Enclosure}
    (inert : ∀ character ∈ text, character ∉ enclosure.active) :
    Guarded (text.map (.letter enclosure)) := by
  intro other character member
  obtain ⟨same, inside, equal⟩ := List.mem_map.1 member
  obtain ⟨rfl, rfl⟩ := Sign.letter.inj equal
  exact inert same inside

/-- A piece of a command line is read as a piece of a word, or as a whole one. -/
def ReadsAs (text word : List Char) : Prop :=
  ∃ signs, Reading.bare.scan text = some (.bare, signs) ∧ Sign.Spells signs word ∧ Guarded signs

theorem ReadsAs.append {text other word more : List Char} (first : ReadsAs text word)
    (second : ReadsAs other more) : ReadsAs (text ++ other) (word ++ more) := by
  obtain ⟨signs, scanned, spells, guarded⟩ := first
  obtain ⟨others, scannedToo, spellsToo, guardedToo⟩ := second
  exact ⟨signs ++ others, Reading.scan_append scanned scannedToo, spells.append spellsToo,
    guarded_append guarded guardedToo⟩

/-! ## Chunks -/

namespace QuoteStyle

/-- Where the characters of a chunk stand. -/
def enclosure : QuoteStyle → Enclosure
  | .bare => .none
  | .single => .single
  | .double => .double

/-- A style holds a chunk well enough for it to be read back. A caret does no harm between
single quotes. -/
def Fits : QuoteStyle → List Char → Prop
  | .bare, chunk => chunk ≠ [] ∧ ∀ character ∈ chunk, isPlain character = true
  | .single, chunk => '\'' ∉ chunk
  | .double, chunk => ∀ character ∈ chunk, QuoteStyle.double.holds character = true

theorem not_active_of_isPlain {character : Char} (plain : isPlain character = true) :
    character ∉ Enclosure.none.active := by
  have active : (Enclosure.none.active.all fun other => !isPlain other) = true := by decide
  intro member
  have special := List.all_eq_true.1 active character member
  rw [plain] at special
  cases special

theorem not_active_of_holds {character : Char}
    (holds : QuoteStyle.double.holds character = true) : character ∉ Enclosure.double.active := by
  have active : (Enclosure.double.active.all fun other =>
      !QuoteStyle.double.holds other) = true := by decide
  intro member
  have refused := List.all_eq_true.1 active character member
  rw [holds] at refused
  cases refused

theorem step_of_isPlain {character : Char} (plain : isPlain character = true) :
    Reading.bare.step character = some (.bare, [.letter .none character]) := by
  have read : ("'\"\\\n \t".toList.all fun other => !isPlain other) = true := by decide
  have different : ∀ other ∈ "'\"\\\n \t".toList, character ≠ other := by
    rintro other member rfl
    have special := List.all_eq_true.1 read character member
    rw [plain] at special
    cases special
  simp only [Reading.step, different _ (by decide : '\'' ∈ _), different _ (by decide : '"' ∈ _),
    different _ (by decide : '\\' ∈ _), different _ (by decide : '\n' ∈ _),
    different _ (by decide : ' ' ∈ _), different _ (by decide : '\t' ∈ _), or_self, if_false]

/-- A character between double quotes is read back, with or without a backslash. -/
theorem scan_escape (character : Char) :
    Reading.double.scan (escape character) = some (.double, [.letter .double character]) := by
  unfold escape
  split
  case isTrue special =>
    have visible : character ≠ '\n' := by
      rintro rfl
      cases special
    have behind : Reading.doubleEscape.step character =
        some (.double, [.letter .double character]) := by
      have same : "$\x60\"\\".toList.contains character = true := special
      simp only [Reading.step, visible, same, if_false, if_true]
    have escaping : Reading.double.step '\\' = some (.doubleEscape, []) := rfl
    exact Reading.scan_cons escaping (Reading.scan_cons behind rfl)
  case isFalse ordinary =>
    have noQuote : character ≠ '"' := by
      rintro rfl
      exact ordinary rfl
    have noBackslash : character ≠ '\\' := by
      rintro rfl
      exact ordinary rfl
    have here : Reading.double.step character = some (.double, [.letter .double character]) := by
      simp only [Reading.step, noQuote, noBackslash, if_false]
    exact Reading.scan_cons here rfl

theorem scan_escapes (chunk : List Char) :
    Reading.double.scan (chunk.flatMap escape) =
      some (.double, chunk.map (.letter .double)) := by
  induction chunk with
  | nil => rfl
  | cons character rest inductionHypothesis =>
    rw [List.flatMap_cons]
    exact Reading.scan_append (scan_escape character) inductionHypothesis

/-- What a chunk is written as is read as the chunk. -/
theorem readsAs_write {style : QuoteStyle} {chunk : List Char} (fits : style.Fits chunk) :
    ReadsAs (style.write chunk) chunk := by
  cases style with
  | bare =>
    obtain ⟨some, plain⟩ := fits
    refine ⟨chunk.map (.letter .none), ?_, .letters some .none, ?_⟩
    · exact Reading.scan_of_forall_step fun character member =>
        step_of_isPlain (plain character member)
    · exact guarded_letters fun character member => not_active_of_isPlain (plain character member)
  | single =>
    refine ⟨.mark :: chunk.map (.letter .single) ++ [.mark], ?_, .quoted chunk .single, ?_⟩
    · have steps : ∀ character ∈ chunk,
          Reading.single.step character = some (.single, [.letter .single character]) := by
        intro character member
        have inside : character ≠ '\'' := ne_of_mem_of_not_mem member fits
        simp only [Reading.step, inside, if_false]
      have opens : Reading.bare.step '\'' = some (.single, [.mark]) := rfl
      have closes : Reading.single.scan ['\''] = some (.bare, [.mark]) := rfl
      have inside := Reading.scan_append (Reading.scan_of_forall_step steps) closes
      have scanned := Reading.scan_cons opens inside
      exact scanned
    · have inner : Guarded (chunk.map (.letter .single)) :=
        guarded_letters fun _ _ => List.not_mem_nil
      exact guarded_append (guarded_append guarded_mark inner) guarded_mark
  | double =>
    refine ⟨.mark :: chunk.map (.letter .double) ++ [.mark], ?_, .quoted chunk .double, ?_⟩
    · have opens : Reading.bare.step '"' = some (.double, [.mark]) := rfl
      have closes : Reading.double.scan ['"'] = some (.bare, [.mark]) := rfl
      have scanned := Reading.scan_cons opens (Reading.scan_append (scan_escapes chunk) closes)
      exact scanned
    · have inner : Guarded (chunk.map (.letter .double)) :=
        guarded_letters fun character member => not_active_of_holds (fits character member)
      exact guarded_append (guarded_append guarded_mark inner) guarded_mark

end QuoteStyle

/-- A chunk is lengthened by what stands next in the word, as long as one of the open styles
holds it. -/
theorem of_extendChunk {styles left : List QuoteStyle} {text added after : List Char}
    (extended : extendChunk styles text = (left, added, after)) :
    added ++ after = text ∧ (styles ≠ [] → left ≠ []) ∧
      ∀ style ∈ left, style ∈ styles ∧ ∀ character ∈ added, style.holds character = true := by
  induction text generalizing styles added with
  | nil =>
    obtain ⟨rfl, rfl, rfl⟩ := extended
    exact ⟨rfl, id, fun style member => ⟨member, nofun⟩⟩
  | cons character rest inductionHypothesis =>
    rw [extendChunk] at extended
    split at extended
    case isTrue stuck =>
      obtain ⟨rfl, rfl, rfl⟩ := extended
      exact ⟨rfl, id, fun style member => ⟨member, nofun⟩⟩
    case isFalse usable =>
      obtain ⟨rfl, rfl, rfl⟩ := extended
      obtain ⟨whole, remains, holds⟩ := inductionHypothesis rfl
      refine ⟨congrArg (character :: ·) whole, fun _ => remains ?_, fun style member => ?_⟩
      · simpa using usable
      · obtain ⟨among, others⟩ := holds style member
        obtain ⟨earlier, here⟩ := List.mem_filter.1 among
        exact ⟨earlier, List.forall_mem_cons.2 ⟨here, others⟩⟩

/-- Every character can begin a chunk. -/
theorem stylesFor_ne_nil (first : Char) : stylesFor first ≠ [] := by
  unfold stylesFor
  split
  case isTrue => exact List.cons_ne_nil _ _
  case isFalse noCaret =>
    cases held : QuoteStyle.single.holds first with
    | true => simp [held]
    | false =>
      have among : first ∈ "'\\^".toList := by
        rwa [QuoteStyle.holds, Bool.not_eq_false', List.contains_iff_mem] at held
      have heldToo : ("'\\^".toList.all fun other =>
          other == '^' || QuoteStyle.double.holds other) = true := by decide
      have heldHere := List.all_eq_true.1 heldToo first among
      rw [beq_false_of_ne noCaret, Bool.false_or] at heldHere
      simp [heldHere]

/-- A style that is open to the first character of a chunk and holds the others holds the
chunk. -/
theorem fits_of_holds {style : QuoteStyle} {first : Char} {added : List Char}
    (opens : style ∈ stylesFor first)
    (holds : ∀ character ∈ added, style.holds character = true) : style.Fits (first :: added) := by
  unfold stylesFor at opens
  split at opens
  case isTrue caret =>
    obtain rfl := List.mem_singleton.1 opens
    subst caret
    intro member
    rcases List.mem_cons.1 member with same | later
    · cases same
    · cases holds _ later
  case isFalse =>
    have all : ∀ character ∈ first :: added, style.holds character = true :=
      List.forall_mem_cons.2 ⟨(List.mem_filter.1 opens).2, holds⟩
    cases style with
    | bare => exact ⟨List.cons_ne_nil _ _, all⟩
    | single =>
      intro member
      cases all _ member
    | double => exact all

/-- The chunks of a word make up the word, and each is held by its style. -/
theorem chunks_fit (word : List Char) :
    (chunks word).flatMap Prod.snd = word ∧ ∀ piece ∈ chunks word, piece.1.Fits piece.2 := by
  fun_induction chunks word with
  | case1 => exact ⟨rfl, nofun⟩
  | case2 first rest extended inductionHypothesis =>
    obtain ⟨joined, fit⟩ := inductionHypothesis
    obtain ⟨whole, remains, holds⟩ := of_extendChunk (Prod.eta extended)
    refine ⟨?_, List.forall_mem_cons.2 ⟨?_, fit⟩⟩
    · rw [List.flatMap_cons, joined, List.cons_append, whole]
    · have chosen : extended.1.headD .double ∈ extended.1 := by
        obtain ⟨style, more, styles⟩ :=
          List.exists_cons_of_ne_nil (remains (stylesFor_ne_nil first))
        rw [styles]
        exact List.mem_cons_self
      obtain ⟨opens, held⟩ := holds _ chosen
      exact fits_of_holds opens held

/-! ## Words and commands -/

theorem readsAs_pieces {pieces : List (QuoteStyle × List Char)} (some : pieces ≠ [])
    (fit : ∀ piece ∈ pieces, piece.1.Fits piece.2) :
    ReadsAs (pieces.flatMap fun (style, chunk) => style.write chunk)
      (pieces.flatMap Prod.snd) := by
  induction pieces with
  | nil => exact absurd rfl some
  | cons piece pieces inductionHypothesis =>
    obtain ⟨first, others⟩ := List.forall_mem_cons.1 fit
    have here := QuoteStyle.readsAs_write first
    cases pieces with
    | nil => simpa using here
    | cons next more =>
      exact here.append (inductionHypothesis (List.cons_ne_nil _ _) others)

/-- What a word is written as is read as the word. -/
theorem readsAs_quoteWord (word : List Char) : ReadsAs (quoteWord word) word := by
  obtain ⟨joined, fit⟩ := chunks_fit word
  unfold quoteWord
  split
  case h_1 none =>
    rw [none] at joined
    subst joined
    exact ⟨[.mark, .mark], rfl, .append .mark .mark, guarded_append guarded_mark guarded_mark⟩
  case h_2 pieces some =>
    have whole := readsAs_pieces some fit
    rwa [joined] at whole

/-- The words that are written one after the other, with a blank between each two, are the
words that are read. -/
theorem scan_joinWith (words : List (List Char)) :
    ∃ signs, Reading.bare.scan (Text.joinWith [' '] (words.map quoteWord)) =
        some (.bare, signs) ∧
      Sign.words signs = words ∧ Guarded signs := by
  induction words with
  | nil => exact ⟨[], rfl, rfl, nofun⟩
  | cons word words inductionHypothesis =>
    obtain ⟨signs, scanned, spells, guarded⟩ := readsAs_quoteWord word
    cases words with
    | nil => exact ⟨signs, scanned, Sign.words_of_spells spells, guarded⟩
    | cons next more =>
      obtain ⟨others, scannedToo, rest, guardedToo⟩ := inductionHypothesis
      have blank : Reading.bare.scan [' '] = some (.bare, [.blank]) := rfl
      refine ⟨signs ++ [.blank] ++ others,
        Reading.scan_append (Reading.scan_append scanned blank) scannedToo, ?_, ?_⟩
      · rw [List.append_assoc, List.singleton_append, Sign.words_append_blank spells, rest]
      · refine guarded_append (guarded_append guarded ?_) guardedToo
        intro enclosure character member
        cases List.mem_singleton.1 member

/-- A command without null characters. -/
def NulFree (command : List String) : Prop :=
  ∀ word ∈ command, '\x00' ∉ word.toList

theorem toList_quoted {command : List String} (nulFree : NulFree command) :
    (quoted command).toList =
      Text.joinWith [' '] ((command.map String.toList).map quoteWord) := by
  have absent : ((command.map String.toList).any (·.contains '\x00')) = false := by
    simpa [NulFree] using nulFree
  simp only [quoted, absent, Bool.false_eq_true, if_false, String.toList_ofList]

theorem words?_of_nulFree {command : List String} (nulFree : NulFree command) :
    words? (quoted command) = some command := by
  obtain ⟨signs, scanned, words, -⟩ := scan_joinWith (command.map String.toList)
  have back : (command.map String.toList).map String.ofList = command := by
    simp [Function.comp_def]
  rw [words?, toList_quoted nulFree, scanned]
  exact congrArg some ((congrArg (List.map String.ofList) words).trans back)

/-- A shell reads from an echo the words of the command, so that no other command has the
same echo, and finds in it no character to act on. -/
theorem words?_quoted {command : List String} (nulFree : NulFree command) :
    words? (quoted command) = some command ∧
      (∀ other, NulFree other → quoted other = quoted command → other = command) ∧
      ∀ enclosure, ∀ character ∈ enclosure.active,
        ¬Exposes (quoted command) enclosure character := by
  refine ⟨words?_of_nulFree nulFree, fun other nulFreeToo same => ?_, ?_⟩
  · have read := words?_of_nulFree nulFreeToo
    rw [same, words?_of_nulFree nulFree] at read
    exact (Option.some.inj read).symm
  · rintro enclosure character active ⟨last, signs, scanned, member⟩
    obtain ⟨found, scannedToo, -, guarded⟩ := scan_joinWith (command.map String.toList)
    rw [toList_quoted nulFree, scannedToo] at scanned
    obtain ⟨-, rfl⟩ := Prod.mk.inj (Option.some.inj scanned)
    exact guarded enclosure character member active

/-- Words that need every style, one of them in several chunks, and an empty one. -/
theorem words?_quoted_everyStyle :
    let command := ["git", "", "it's", "a\\^^\n$(b) 'c'", "ü!~"]
    NulFree command ∧
      quoted command = "git '' \"it's\" \"a\\\\\"'^''^\n$(b) '\"'c'\" 'ü!~'" ∧
      words? (quoted command) = some command ∧
      ∀ enclosure, ∀ character ∈ enclosure.active,
        ¬Exposes (quoted command) enclosure character := by
  intro command
  have nulFree : NulFree command := by
    unfold NulFree
    decide
  obtain ⟨read, -, guarded⟩ := words?_quoted nulFree
  exact ⟨nulFree, by decide +kernel, read, guarded⟩

end ReleasePilot.Command
