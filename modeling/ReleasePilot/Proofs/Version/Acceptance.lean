import ReleasePilot.Proofs.Version.Derivability

/-!
# What is accepted as a version

A text is accepted exactly if the grammar derives it, up to blanks around it, with
numbers that fit a word; the version that is read is then the one that a preferred
derivation stands for (`parse_eq_ok_iff_means`). Any other text is refused with the
text itself as the cause.
-/

namespace ReleasePilot.Version

/-! ## Numbers -/

/-- The numbers that fit a word are the values of words. -/
theorem exists_word_iff {value : Nat} :
    (∃ word : UInt64, word.toNat = value) ↔ value < UInt64.size := by
  constructor
  · rintro ⟨word, rfl⟩
    exact word.toNat_lt
  · intro fits
    exact ⟨UInt64.ofNat value, UInt64.toNat_ofNat_of_lt fits⟩

/-- A written version stands for a version part by part. -/
theorem version?_eq_some_iff {written : Written} {version : Version} :
    written.version? = some version ↔
      Text.readNumeral? written.epoch = some version.epoch ∧
      written.release.mapM Text.readNumeral? = some version.release ∧
      (written.pre.mapM fun (phase, digits) =>
        (Text.readNumeral? digits).map fun number => { phase, number : PreRelease }) =
          some version.pre ∧
      written.post.mapM Text.readNumeral? = some version.post ∧
      written.dev.mapM Text.readNumeral? = some version.dev ∧
      written.label.map canonicalLabel = version.label := by
  unfold Written.version?
  constructor
  · intro found
    obtain ⟨epoch, epochRead, found⟩ := Option.bind_eq_some_iff.1 found
    obtain ⟨release, releaseRead, found⟩ := Option.bind_eq_some_iff.1 found
    obtain ⟨pre, preRead, found⟩ := Option.bind_eq_some_iff.1 found
    obtain ⟨post, postRead, found⟩ := Option.bind_eq_some_iff.1 found
    obtain ⟨dev, devRead, found⟩ := Option.bind_eq_some_iff.1 found
    cases found
    exact ⟨epochRead, releaseRead, preRead, postRead, devRead, rfl⟩
  · rintro ⟨epochRead, releaseRead, preRead, postRead, devRead, label⟩
    rw [epochRead, releaseRead, preRead, postRead, devRead, label]
    rfl

namespace Grammar

theorem readNumeral?_numeration_iff {number : Option Numeral} {word : UInt64} :
    Text.readNumeral? (numeration number) = some word ↔
      word.toNat = number.elim 0 Numeral.value := by
  rw [Text.readNumeral?, Text.word?_eq_some_iff]
  cases number <;> rfl

theorem mapM_readNumeral?_iff {segments : List Numeral} {words : List UInt64} :
    (segments.map Numeral.digits).mapM Text.readNumeral? = some words ↔
      words.map UInt64.toNat = segments.map Numeral.value := by
  induction segments generalizing words with
  | nil =>
    rw [List.map_nil, List.map_nil, List.mapM_nil, List.map_eq_nil_iff]
    exact ⟨fun same => (Option.some.inj same).symm, fun same => congrArg some same.symm⟩
  | cons segment segments inductionHypothesis =>
    have first (word : UInt64) :
        Text.readNumeral? segment.digits = some word ↔ word.toNat = segment.value := by
      rw [Text.readNumeral?, Text.word?_eq_some_iff, Numeral.value]
    rw [List.map_cons, List.mapM_cons]
    constructor
    · intro found
      obtain ⟨word, wordRead, found⟩ := Option.bind_eq_some_iff.1 found
      obtain ⟨others, othersRead, found⟩ := Option.bind_eq_some_iff.1 found
      cases found
      rw [List.map_cons, List.map_cons, (first word).1 wordRead,
        inductionHypothesis.1 othersRead]
    · intro same
      cases words with
      | nil => cases same
      | cons word others =>
        obtain ⟨wordSame, othersSame⟩ := List.cons.inj same
        rw [(first word).2 wordSame, inductionHypothesis.2 othersSame]
        rfl

/-- A part that may be missing has the number that its numeral writes. -/
theorem mapM_part_iff {Part : Type} {part : Option Part} {number : Part → Option Numeral}
    {word : Option UInt64} :
    (part.map fun part => numeration (number part)).mapM Text.readNumeral? = some word ↔
      word.map UInt64.toNat = part.map fun part => (number part).elim 0 Numeral.value := by
  cases part with
  | none => cases word <;> simp
  | some part =>
    rw [Option.map_some, Option.mapM_some, Option.map_some]
    cases word with
    | none => simp
    | some word => simp [readNumeral?_numeration_iff]

/-- A pre-release has the phase that its name means and the number that its numeral writes. -/
theorem mapM_pre_iff {part : Option (Named NamesPhase)} {pre : Option PreRelease} :
    ((part.map fun part => (part.meaning, numeration part.number)).mapM fun (phase, digits) =>
        (Text.readNumeral? digits).map fun number => { phase, number : PreRelease }) = some pre ↔
      pre.map (fun pre => (pre.phase, pre.number.toNat)) =
        part.map fun part => (part.meaning, part.value) := by
  cases part with
  | none => cases pre <;> simp
  | some part =>
    rw [Option.map_some, Option.mapM_some, Option.map_some]
    cases pre with
    | none => simp
    | some pre =>
      obtain ⟨phase, number⟩ := pre
      have value : Text.readNumeral? (numeration part.number) = some number ↔
          number.toNat = part.value := readNumeral?_numeration_iff
      simp [value, and_comm, eq_comm (a := phase)]

/-! ## Words for numbers -/

theorem fits_number_iff {number : Option Numeral} :
    (∀ numeral ∈ number.toList, numeral.value < UInt64.size) ↔
      ∃ word : UInt64, word.toNat = number.elim 0 Numeral.value := by
  rw [exists_word_iff]
  cases number <;> simp

theorem fits_numbers_iff {numerals : List Numeral} :
    (∀ numeral ∈ numerals, numeral.value < UInt64.size) ↔
      ∃ words : List UInt64, words.map UInt64.toNat = numerals.map Numeral.value := by
  simp only [← exists_word_iff]
  constructor
  · intro fits
    induction numerals with
    | nil => exact ⟨[], rfl⟩
    | cons numeral numerals inductionHypothesis =>
      obtain ⟨first, others⟩ := List.forall_mem_cons.1 fits
      obtain ⟨word, same⟩ := first
      obtain ⟨words, sameWords⟩ := inductionHypothesis others
      exact ⟨word :: words, by rw [List.map_cons, List.map_cons, same, sameWords]⟩
  · rintro ⟨words, same⟩ numeral member
    have value : numeral.value ∈ words.map UInt64.toNat := same ▸ List.mem_map_of_mem member
    obtain ⟨word, -, sameWord⟩ := List.mem_map.1 value
    exact ⟨word, sameWord⟩

theorem fits_part_iff {Part : Type} {part : Option Part} {number : Part → Option Numeral} :
    (∀ numeral ∈ (part.bind number).toList, numeral.value < UInt64.size) ↔
      ∃ word : Option UInt64,
        word.map UInt64.toNat = part.map fun part => (number part).elim 0 Numeral.value := by
  cases part with
  | none => exact ⟨fun _ => ⟨none, rfl⟩, fun _ => nofun⟩
  | some part =>
    rw [Option.bind_some, fits_number_iff, Option.map_some]
    constructor
    · rintro ⟨word, same⟩
      exact ⟨some word, congrArg some same⟩
    · rintro ⟨word, same⟩
      obtain ⟨word, -, same⟩ := Option.map_eq_some_iff.1 same
      exact ⟨word, same⟩

theorem exists_pre_iff {part : Option (Named NamesPhase)} :
    (∃ pre : Option PreRelease, pre.map (fun pre => (pre.phase, pre.number.toNat)) =
      part.map fun part => (part.meaning, part.value)) ↔
      ∃ word : Option UInt64, word.map UInt64.toNat =
        part.map fun part => part.number.elim 0 Numeral.value := by
  cases part with
  | none => exact ⟨fun _ => ⟨none, rfl⟩, fun _ => ⟨none, rfl⟩⟩
  | some part =>
    constructor
    · rintro ⟨pre, same⟩
      obtain ⟨⟨phase, word⟩, -, same⟩ := Option.map_eq_some_iff.1 same
      exact ⟨some word, congrArg some (congrArg Prod.snd same)⟩
    · rintro ⟨word, same⟩
      obtain ⟨word, -, same⟩ := Option.map_eq_some_iff.1 same
      exact ⟨some ⟨part.meaning, word⟩, congrArg (fun value => some (part.meaning, value)) same⟩

/-! ## Meanings -/

/-- The canonical form of a label is its canonical spelling. -/
theorem toList_canonicalLabel (label : Label) :
    (canonicalLabel label.characters).toList = label.canonical := by
  rw [canonicalLabel_eq_map, Label.canonical]
  refine List.map_congr_left fun character _ => ?_
  unfold canonicalCharacter isSeparator
  by_cases point : character = '.'
  · subst point
    rfl
  · simp [point]

theorem map_canonicalLabel_iff {label : Option Label} {found : Option String} :
    (label.map Label.characters).map canonicalLabel = found ↔
      found.map String.toList = label.map Label.canonical := by
  cases label with
  | none => cases found <;> simp
  | some label =>
    cases found with
    | none => simp
    | some found => simp [← toList_canonicalLabel, ← String.toList_inj, eq_comm]

/-! ## The characters of a derived text -/

theorem mem_optionalText_iff {Part : Type} {write : Part → List Char} {part : Option Part}
    {character : Char} :
    character ∈ optionalText write part ↔ ∃ found, part = some found ∧ character ∈ write found := by
  cases part <;> simp [optionalText]

theorem Numeral.isUnmarked (numeral : Numeral) {character : Char}
    (member : character ∈ numeral.digits) : IsUnmarked character := by
  have code := Text.isDigit_iff.1 (numeral.decimal character member)
  exact .inl (isLabelCharacter_iff.2 (by omega))

theorem isUnmarked_of_mem_separation {separator : Option Separator} {character : Char}
    (member : character ∈ separation separator) : IsUnmarked character := by
  obtain ⟨found, -, same⟩ := mem_optionalText_iff.1 member
  obtain rfl := List.mem_singleton.1 same
  exact .inr (.inl (isSeparator_character found))

theorem Named.isUnmarked {Meaning : Type} {names : List (String × Meaning)}
    {Names : String → Meaning → Prop} {extending : List Char}
    (table : Lists names Names extending) (part : Named Names) {character : Char}
    (member : character ∈ part.characters) : IsUnmarked character := by
  simp only [Named.characters, Named.tail, List.mem_append] at member
  rcases member with before | spelled | after | number
  · exact isUnmarked_of_mem_separation before
  · have plain := table.plain ((table.mem_iff part.name part.meaning).2 part.named)
    have folded := List.mem_map_of_mem (f := Text.fold) spelled
    rw [Text.map_fold_of_spelling plain part.spelling] at folded
    have matched := (Text.fold_eq_iff_matches (plain _ folded)).1 rfl
    exact .inl (isLabelCharacter_iff_matches.2 ⟨_, plain _ folded, matched⟩)
  · exact isUnmarked_of_mem_separation after
  · obtain ⟨numeral, -, digit⟩ := mem_optionalText_iff.1 number
    exact numeral.isUnmarked digit

theorem Label.isUnmarked (label : Label) {character : Char}
    (member : character ∈ label.characters) : IsUnmarked character := by
  have run {run : Run} (inside : character ∈ run.characters) : IsUnmarked character :=
    .inl (isLabelCharacter_iff_matches.2 (run.alphanumeric character inside))
  rcases List.mem_append.1 member with first | others
  · exact run first
  · obtain ⟨⟨separator, other⟩, -, inside⟩ := List.mem_flatMap.1 others
    rcases List.mem_cons.1 inside with rfl | inside
    · exact .inr (.inl (isSeparator_character separator))
    · exact run inside

namespace Derivation

variable {derivation : Derivation}

/-- The written parts of a derivation stand for the version that it means. -/
theorem version?_written_iff {version : Version} :
    derivation.written.version? = some version ↔ derivation.Means version := by
  rw [version?_eq_some_iff, written, ← List.map_cons]
  constructor
  · rintro ⟨epoch, release, pre, post, dev, label⟩
    exact ⟨readNumeral?_numeration_iff.1 epoch, mapM_readNumeral?_iff.1 release,
      mapM_pre_iff.1 pre, mapM_part_iff.1 post, mapM_part_iff.1 dev,
      map_canonicalLabel_iff.1 label⟩
  · rintro ⟨epoch, release, pre, post, dev, label⟩
    exact ⟨readNumeral?_numeration_iff.2 epoch, mapM_readNumeral?_iff.2 release,
      mapM_pre_iff.2 pre, mapM_part_iff.2 post, mapM_part_iff.2 dev,
      map_canonicalLabel_iff.2 label⟩

/-- Every number fits a word exactly if the derivation means some version. -/
theorem bounded_iff_exists_means (derivation : Derivation) :
    derivation.Bounded ↔ ∃ version, derivation.Means version := by
  have parts : derivation.Bounded ↔
      (∃ epoch : UInt64, epoch.toNat = derivation.epoch.elim 0 Numeral.value) ∧
      (∃ release : List UInt64, release.map UInt64.toNat =
        (derivation.segment :: derivation.segments).map Numeral.value) ∧
      (∃ pre : Option UInt64, pre.map UInt64.toNat =
        derivation.pre.map fun part => part.number.elim 0 Numeral.value) ∧
      (∃ post : Option UInt64, post.map UInt64.toNat = derivation.post.map Post.value) ∧
      ∃ dev : Option UInt64, dev.map UInt64.toNat = derivation.dev.map Named.value := by
    simp only [Bounded, numerals, List.mem_append, or_imp, forall_and, and_assoc]
    exact and_congr fits_number_iff (and_congr fits_numbers_iff (and_congr fits_part_iff
      (and_congr fits_part_iff fits_part_iff)))
  rw [parts]
  constructor
  · rintro ⟨⟨epoch, epochSame⟩, ⟨release, releaseSame⟩, pre, ⟨post, postSame⟩, ⟨dev, devSame⟩⟩
    obtain ⟨pre, preSame⟩ := exists_pre_iff.2 pre
    let label := (derivation.label.map Label.characters).map canonicalLabel
    exact ⟨⟨epoch, release, pre, post, dev, label⟩, ⟨epochSame, releaseSame, preSame, postSame,
      devSame, map_canonicalLabel_iff.1 rfl⟩⟩
  · rintro ⟨version, means⟩
    exact ⟨⟨_, means.epoch⟩, ⟨_, means.release⟩, exists_pre_iff.1 ⟨_, means.pre⟩,
      ⟨_, means.post⟩, ⟨_, means.dev⟩⟩

/-! ## Preference -/

/-- The hyphen and the number of a post-release may be given to a bare pre-release in
front of them, without any change of the text or the numerals. -/
theorem exists_preferred (derivation : Derivation) :
    ∃ preferred : Derivation, preferred.Preferred ∧
      preferred.characters = derivation.characters ∧ preferred.numerals = derivation.numerals := by
  by_cases preferred : derivation.Preferred
  · exact ⟨derivation, preferred, rfl, rfl⟩
  · obtain ⟨part, pre, number, post, noSeparator, noNumber⟩ : ∃ part, derivation.pre = some part ∧
        ∃ number, derivation.post = some (.implicit number) ∧ part.IsBare := by
      simpa [Preferred] using preferred
    refine ⟨{ derivation with
      pre := some { part with after := some .hyphen, number := some number }, post := none },
      nofun, ?_, ?_⟩
    · have taken : Named.characters { part with after := some .hyphen, number := some number } =
          part.characters ++ '-' :: number.digits := by
        simp [Named.characters, Named.tail, noSeparator, noNumber, separation, numeration,
          optionalText, Separator.character]
      simp [characters, epochText, releaseText, preText, postText, devText, labelText, pre, post,
        optionalText, Post.characters, taken]
    · simp [numerals, pre, post, noNumber, Post.number]

/-- The text in front of the label. -/
def frontText (derivation : Derivation) : List Char :=
  optionalText (fun mark => [mark.1]) derivation.mark ++
    (optionalText (fun epoch => epoch.digits ++ ['!']) derivation.epoch ++
      (derivation.segment.digits ++ (segmentsText derivation.segments ++
        (optionalText Named.characters derivation.pre ++
          (optionalText Post.characters derivation.post ++
            optionalText Named.characters derivation.dev)))))

theorem characters_eq (derivation : Derivation) :
    derivation.characters = derivation.frontText ++ derivation.labelText := by
  simp only [characters, epochText, releaseText, preText, postText, devText, frontText,
    List.append_assoc]

theorem isUnmarked_of_mem_frontText {character : Char} (member : character ∈ derivation.frontText) :
    IsUnmarked character := by
  simp only [frontText, List.mem_append, mem_optionalText_iff] at member
  rcases member with ⟨mark, -, inside⟩ | ⟨epoch, -, inside⟩ | inside | inside | ⟨pre, -, inside⟩ |
    ⟨post, -, inside⟩ | ⟨dev, -, inside⟩
  · obtain rfl := List.mem_singleton.1 inside
    exact .inl (isLabelCharacter_iff_matches.2 ⟨'v', by decide, mark.2⟩)
  · rcases inside with digit | exclamation
    · exact epoch.isUnmarked digit
    · obtain rfl := List.mem_singleton.1 exclamation
      exact .inr (.inr rfl)
  · exact derivation.segment.isUnmarked inside
  · obtain ⟨numeral, -, inside⟩ := List.mem_flatMap.1 inside
    rcases List.mem_cons.1 inside with rfl | digit
    · exact .inr (.inl rfl)
    · exact numeral.isUnmarked digit
  · exact pre.isUnmarked lists_phases inside
  · cases post with
    | implicit number =>
      rcases List.mem_cons.1 inside with rfl | digit
      · exact .inr (.inl rfl)
      · exact number.isUnmarked digit
    | named part => exact part.isUnmarked lists_posts inside
  · exact dev.isUnmarked lists_devs inside

/-- No blank is derived. -/
theorem isBlank_eq_false_of_mem {character : Char} (member : character ∈ derivation.characters) :
    Text.isBlank character = false := by
  apply IsSolid.isBlank_eq_false
  rw [characters_eq, List.mem_append] at member
  rcases member with front | label
  · exact (isUnmarked_of_mem_frontText front).isSolid
  · obtain ⟨label, -, inside⟩ := mem_optionalText_iff.1 label
    rcases List.mem_cons.1 inside with rfl | inside
    · exact .inr (.inr (.inr rfl))
    · exact (label.isUnmarked inside).isSolid

/-- As nothing blank is derived, trimming leaves the derived text. -/
theorem writes_iff {text : String} :
    derivation.Writes text ↔ Text.trim text.toList = derivation.characters := by
  constructor
  · rintro ⟨before, after, blankBefore, blankAfter, whole⟩
    rw [whole]
    exact Text.trim_blanks blankBefore blankAfter fun _ => isBlank_eq_false_of_mem
  · intro trimmed
    obtain ⟨before, after, blankBefore, blankAfter, whole⟩ := Text.exists_blanks text.toList
    rw [trimmed] at whole
    exact ⟨before, after, blankBefore, blankAfter, whole⟩

end Derivation

end Grammar

open Grammar

/-- A text with a preferred derivation is read as what this derivation means. -/
theorem ofText?_of_writes {text : String} {derivation : Derivation}
    (writes : derivation.Writes text) (preferred : derivation.Preferred) :
    ofText? text = derivation.written.version? := by
  have read := Derivation.readWritten?_characters preferred
  rw [← Derivation.writes_iff.1 writes] at read
  rw [ofText?, read]
  rfl

/-- What is read is what a preferred derivation of the text means. -/
theorem ofText?_eq_some_iff {text : String} {version : Version} :
    ofText? text = some version ↔ ∃ derivation : Derivation,
      derivation.Writes text ∧ derivation.Preferred ∧ derivation.Means version := by
  constructor
  · intro found
    obtain ⟨written, read, meaning⟩ := Option.bind_eq_some_iff.1 found
    obtain ⟨derivation, whole, preferred, rfl⟩ := exists_of_readWritten? read
    exact ⟨derivation, Derivation.writes_iff.2 whole.symm, preferred,
      Derivation.version?_written_iff.1 meaning⟩
  · rintro ⟨derivation, writes, preferred, means⟩
    rw [ofText?_of_writes writes preferred]
    exact Derivation.version?_written_iff.2 means

/-- Some version is read exactly if some derivation of the text is bounded, be it
preferred or not. -/
theorem exists_ofText?_iff {text : String} :
    (∃ version, ofText? text = some version) ↔
      ∃ derivation : Derivation, derivation.Writes text ∧ derivation.Bounded := by
  constructor
  · rintro ⟨version, found⟩
    obtain ⟨derivation, writes, -, means⟩ := ofText?_eq_some_iff.1 found
    exact ⟨derivation, writes, derivation.bounded_iff_exists_means.2 ⟨version, means⟩⟩
  · rintro ⟨derivation, writes, bounded⟩
    obtain ⟨preferred, prefers, characters, numerals⟩ := derivation.exists_preferred
    have sameText : preferred.Writes text := by
      rw [Derivation.writes_iff, characters]
      exact Derivation.writes_iff.1 writes
    have sameBound : preferred.Bounded := by
      unfold Derivation.Bounded
      rw [numerals]
      exact bounded
    obtain ⟨version, means⟩ := preferred.bounded_iff_exists_means.1 sameBound
    exact ⟨version, ofText?_eq_some_iff.2 ⟨preferred, sameText, prefers, means⟩⟩

theorem parse_eq_error_iff {text : String} {error : ReleaseError} :
    parse text = .error error ↔ ofText? text = none ∧ error = .invalidVersion text := by
  unfold parse
  cases ofText? text <;> simp [eq_comm]

/-- Exactly the texts of the grammar whose numbers fit a word are read. What is read
has the fields of a preferred derivation, and of any preferred derivation of the text;
any other text is the cause of the failure. -/
theorem parse_eq_ok_iff_means (text : String) :
    ((∃ version, parse text = .ok version) ↔
      ∃ derivation : Derivation, derivation.Writes text ∧ derivation.Bounded) ∧
    (∀ version, parse text = .ok version ↔ ∃ derivation : Derivation,
      derivation.Writes text ∧ derivation.Preferred ∧ derivation.Means version) ∧
    (∀ version (derivation : Derivation), parse text = .ok version →
      derivation.Writes text → derivation.Preferred → derivation.Means version) ∧
    (parse text = .error (.invalidVersion text) ↔
      ¬∃ derivation : Derivation, derivation.Writes text ∧ derivation.Bounded) := by
  refine ⟨?_, fun version => parse_eq_ok_iff.trans ofText?_eq_some_iff, ?_, ?_⟩
  · simp only [parse_eq_ok_iff, exists_ofText?_iff]
  · intro version derivation read writes preferred
    rw [parse_eq_ok_iff, ofText?_of_writes writes preferred] at read
    exact Derivation.version?_written_iff.1 read
  · rw [parse_eq_error_iff, ← exists_ofText?_iff, ← Option.isSome_iff_exists]
    simp

end ReleasePilot.Version
