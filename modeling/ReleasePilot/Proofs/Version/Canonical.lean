import ReleasePilot.Proofs.Text.Letters
import ReleasePilot.Proofs.Text.Runs
import ReleasePilot.Version.Written

/-!
# Canonical versions

A version that was read from a text has a release of at least one segment, and
its label is spelled canonically (`canonical_of_ofText?`). What such a version
is written with tells it from every other line of a changelog: it begins with a
digit and has no blanks in it.
-/

namespace ReleasePilot

namespace Version

theorem isSeparator_iff {character : Char} :
    isSeparator character = true ↔
      character.toNat = 45 ∨ character.toNat = 95 ∨ character.toNat = 46 := by
  have byCode (other : Char) : character = other ↔ character.toNat = other.toNat :=
    ⟨congrArg Char.toNat, Text.ext_toNat⟩
  simp [isSeparator, byCode, or_assoc]

/-- Besides letters and digits of ASCII, only the two characters that fold onto
a letter may stand in a label. -/
theorem isLabelCharacter_iff {character : Char} :
    isLabelCharacter character = true ↔
      character.toNat = 0x17f ∨ character.toNat = 0x212a ∨
        (48 ≤ character.toNat ∧ character.toNat ≤ 57) ∨
        (65 ≤ character.toNat ∧ character.toNat ≤ 90) ∨
        (97 ≤ character.toNat ∧ character.toNat ≤ 122) := by
  unfold isLabelCharacter Text.fold
  by_cases longS : character = '\u017f'
  · subst longS
    decide
  by_cases kelvin : character = '\u212a'
  · subst kelvin
    decide
  have notLongS : character.toNat ≠ 0x17f := fun same => longS (Text.ext_toNat same)
  have notKelvin : character.toNat ≠ 0x212a := fun same => kelvin (Text.ext_toNat same)
  rw [if_neg longS, if_neg kelvin]
  have letter : character.toLower.isAlpha =
      (character.toLower.isUpper || character.toLower.isLower) := rfl
  simp only [letter, Bool.or_eq_true, Bool.and_eq_true, Text.isDigit_iff, Text.isUpper_iff,
    Text.isLower_iff, Text.toNat_toLower]
  split <;> omega

/-- No character of a label is a separator. -/
theorem isSeparator_of_isLabelCharacter {character : Char}
    (member : isLabelCharacter character = true) : isSeparator character = false := by
  have code := isLabelCharacter_iff.1 member
  rw [Bool.eq_false_iff, Ne, isSeparator_iff]
  omega

/-- A character of the canonical label. -/
def canonicalCharacter (character : Char) : Char :=
  if isSeparator character then '.' else character.toLower

theorem canonicalLabel_eq_map (label : List Char) :
    (canonicalLabel label).toList = label.map canonicalCharacter := by
  rw [canonicalLabel, String.toList_ofList]
  rfl

/-- A separator becomes a point, a capital a small letter, and all else stays. -/
theorem toNat_canonicalCharacter_cases (character : Char) :
    (isSeparator character = true ∧ (canonicalCharacter character).toNat = 46) ∨
      (isSeparator character = false ∧ 65 ≤ character.toNat ∧ character.toNat ≤ 90 ∧
        (canonicalCharacter character).toNat = character.toNat + 32) ∨
      (isSeparator character = false ∧ ¬(65 ≤ character.toNat ∧ character.toNat ≤ 90) ∧
        (canonicalCharacter character).toNat = character.toNat) := by
  unfold canonicalCharacter
  cases separator : isSeparator character with
  | true => exact .inl ⟨rfl, rfl⟩
  | false =>
    rw [if_neg Bool.false_ne_true, Text.toNat_toLower]
    by_cases capital : 65 ≤ character.toNat ∧ character.toNat ≤ 90
    · exact .inr (.inl ⟨rfl, capital.1, capital.2, if_pos capital⟩)
    · exact .inr (.inr ⟨rfl, capital, if_neg capital⟩)

@[simp] theorem isSeparator_canonicalCharacter (character : Char) :
    isSeparator (canonicalCharacter character) = isSeparator character := by
  have code := toNat_canonicalCharacter_cases character
  rw [Bool.eq_iff_iff, isSeparator_iff]
  rcases code with ⟨separator, code⟩ | ⟨letter, low, high, code⟩ | ⟨other, -, code⟩
  · simp [separator, code]
  · simp only [letter, Bool.false_eq_true, iff_false]
    omega
  · rw [code, ← isSeparator_iff]

theorem isLabelCharacter_canonicalCharacter {character : Char}
    (member : isLabelCharacter character = true) :
    isLabelCharacter (canonicalCharacter character) = true := by
  have code := toNat_canonicalCharacter_cases character
  rw [isSeparator_iff] at code
  rw [isLabelCharacter_iff] at member ⊢
  omega

@[simp] theorem canonicalCharacter_canonicalCharacter (character : Char) :
    canonicalCharacter (canonicalCharacter character) = canonicalCharacter character := by
  apply Text.ext_toNat
  have once := toNat_canonicalCharacter_cases character
  have twice := toNat_canonicalCharacter_cases (canonicalCharacter character)
  rw [isSeparator_canonicalCharacter] at twice
  rcases once with ⟨separator, once⟩ | ⟨letter, low, high, once⟩ | ⟨other, small, once⟩
  · simp only [separator, true_and, Bool.true_eq_false, false_and, or_false] at twice
    omega
  · simp only [letter, Bool.false_eq_true, false_and, true_and, false_or] at twice
    omega
  · simp only [other, Bool.false_eq_true, false_and, true_and, false_or] at twice
    omega

end Version

namespace Text

/-- Characters may be replaced before or after splitting, if separators stay separators. -/
theorem splitWhere_map {isSeparator : Char → Bool} {replace : Char → Char}
    (same : ∀ character, isSeparator (replace character) = isSeparator character)
    (text : List Char) :
    splitWhere isSeparator (text.map replace) =
      (splitWhere isSeparator text).map (List.map replace) := by
  induction text with
  | nil => rfl
  | cons character rest inductionHypothesis =>
    rw [List.map_cons, splitWhere, splitWhere, inductionHypothesis, same]
    cases splitWhere isSeparator rest with
    | nil => rfl
    | cons piece more => cases isSeparator character <;> rfl

/-- Every character is a separator or belongs to a piece. -/
theorem mem_splitWhere (isSeparator : Char → Bool) {text : List Char} {character : Char}
    (member : character ∈ text) :
    isSeparator character = true ∨ ∃ piece ∈ splitWhere isSeparator text, character ∈ piece := by
  induction text with
  | nil => cases member
  | cons first rest inductionHypothesis =>
    obtain ⟨piece, more, pieces⟩ :=
      List.exists_cons_of_ne_nil (splitWhere_ne_nil isSeparator rest)
    rw [splitWhere, pieces]
    rcases List.mem_cons.1 member with rfl | later
    · cases isSeparator character with
      | true => exact .inl rfl
      | false => exact .inr ⟨character :: piece, by simp⟩
    · rcases inductionHypothesis later with separator | ⟨found, among, inside⟩
      · exact .inl separator
      · right
        rw [pieces] at among
        cases isSeparator first with
        | true => exact ⟨found, List.mem_cons_of_mem _ among, inside⟩
        | false =>
          rcases List.mem_cons.1 among with rfl | among
          · exact ⟨first :: found, List.mem_cons_self, List.mem_cons_of_mem _ inside⟩
          · exact ⟨found, List.mem_cons_of_mem _ among, inside⟩

end Text

namespace Version

/-- What is said of every version that a text writes. -/
structure Canonical (version : Version) : Prop where
  segmented : version.release ≠ []
  labelled : ∀ label, version.label = some label →
    isLabel label.toList = true ∧ label.toList.map canonicalCharacter = label.toList

theorem isLabel_iff {label : List Char} :
    isLabel label = true ↔ ∀ segment ∈ Text.splitWhere isSeparator label,
      segment ≠ [] ∧ ∀ character ∈ segment, isLabelCharacter character = true := by
  simp [isLabel]

theorem isLabel_canonical {label : List Char} (valid : isLabel label = true) :
    isLabel (label.map canonicalCharacter) = true := by
  rw [isLabel_iff] at valid ⊢
  rw [Text.splitWhere_map isSeparator_canonicalCharacter]
  intro segment member
  obtain ⟨original, inside, rfl⟩ := List.mem_map.1 member
  obtain ⟨nonempty, letters⟩ := valid original inside
  refine ⟨mt List.map_eq_nil_iff.1 nonempty, fun character among => ?_⟩
  obtain ⟨letter, here, rfl⟩ := List.mem_map.1 among
  exact isLabelCharacter_canonicalCharacter (letters letter here)

theorem isLabel_of_readLabel? {text : List Char} {label : List Char}
    (found : readLabel? text = some (some label)) : isLabel label = true := by
  unfold readLabel? at found
  split at found
  · cases found
  · split at found
    · cases found
      assumption
    · cases found
  · cases found

theorem ne_nil_of_readRelease? {text rest : List Char} {release : List (List Char)}
    (found : readRelease? text = some (release, rest)) : release ≠ [] := by
  unfold readRelease? at found
  split at found
  · cases found
  · cases found
    exact List.cons_ne_nil _ _

/-- The parts that a text writes: a release, and a label that is one. -/
theorem of_readWritten? {text : List Char} {written : Written}
    (found : readWritten? text = some written) :
    written.release ≠ [] ∧ ∀ label, written.label = some label → isLabel label = true := by
  unfold readWritten? at found
  obtain ⟨⟨release, behind⟩, segments, found⟩ := Option.bind_eq_some_iff.1 found
  obtain ⟨label, labelled, found⟩ := Option.bind_eq_some_iff.1 found
  cases found
  refine ⟨ne_nil_of_readRelease? segments, fun letters same => ?_⟩
  change label = some letters at same
  subst same
  exact isLabel_of_readLabel? labelled

theorem of_version? {written : Written} {version : Version}
    (found : written.version? = some version) :
    (version.release = [] → written.release = []) ∧
      version.label = written.label.map canonicalLabel := by
  unfold Written.version? at found
  obtain ⟨epoch, -, found⟩ := Option.bind_eq_some_iff.1 found
  obtain ⟨release, segments, found⟩ := Option.bind_eq_some_iff.1 found
  obtain ⟨pre, -, found⟩ := Option.bind_eq_some_iff.1 found
  obtain ⟨post, -, found⟩ := Option.bind_eq_some_iff.1 found
  obtain ⟨dev, -, found⟩ := Option.bind_eq_some_iff.1 found
  cases found
  refine ⟨fun empty => ?_, rfl⟩
  change release = [] at empty
  subst empty
  cases numerals : written.release with
  | nil => rfl
  | cons numeral more =>
    rw [numerals, List.mapM_cons] at segments
    obtain ⟨number, -, segments⟩ := Option.bind_eq_some_iff.1 segments
    obtain ⟨numbers, -, segments⟩ := Option.bind_eq_some_iff.1 segments
    cases segments

/-- Reading gives canonical versions only. -/
theorem canonical_of_ofText? {text : String} {version : Version}
    (found : ofText? text = some version) : version.Canonical := by
  obtain ⟨written, reading, meaning⟩ := Option.bind_eq_some_iff.1 found
  obtain ⟨segmented, labelled⟩ := of_readWritten? reading
  obtain ⟨release, label⟩ := of_version? meaning
  refine ⟨mt release segmented, fun spelled same => ?_⟩
  rw [label] at same
  obtain ⟨letters, here, rfl⟩ := Option.map_eq_some_iff.1 same
  rw [canonicalLabel_eq_map]
  refine ⟨isLabel_canonical (labelled letters here), ?_⟩
  rw [List.map_map]
  exact List.map_congr_left fun character _ => canonicalCharacter_canonicalCharacter character

theorem parse_eq_ok_iff {text : String} {version : Version} :
    parse text = .ok version ↔ ofText? text = some version := by
  unfold parse
  cases ofText? text <;> simp

/-! ## What a version is spelled with -/

/-- The characters that versions may be spelled with: those of labels, separators and two marks. -/
def IsSolid (character : Char) : Prop :=
  isLabelCharacter character = true ∨ isSeparator character = true ∨
    character = '!' ∨ character = '+'

/-- The same characters but for the mark of a label. -/
def IsUnmarked (character : Char) : Prop :=
  isLabelCharacter character = true ∨ isSeparator character = true ∨ character = '!'

theorem IsUnmarked.isSolid {character : Char} (unmarked : IsUnmarked character) :
    IsSolid character := by
  rcases unmarked with letter | separator | mark
  · exact .inl letter
  · exact .inr (.inl separator)
  · exact .inr (.inr (.inl mark))

theorem not_isUnmarked_plus : ¬IsUnmarked '+' := by
  unfold IsUnmarked
  decide

theorem IsSolid.isBlank_eq_false {character : Char} (solid : IsSolid character) :
    Text.isBlank character = false := by
  have byCode (other : Char) : character = other ↔ character.toNat = other.toNat :=
    ⟨congrArg Char.toNat, Text.ext_toNat⟩
  rw [IsSolid, isLabelCharacter_iff, isSeparator_iff, byCode, byCode] at solid
  change _ ∨ _ ∨ _ = 33 ∨ _ = 43 at solid
  simp only [Text.isBlank, Bool.or_eq_false_iff, Bool.and_eq_false_iff, decide_eq_false_iff_not,
    beq_eq_false_iff_ne]
  omega

/-! ## What a canonical version is written with -/

/-- The characters of a written version: those of labels and three marks. -/
def IsWrittenWith (character : Char) : Prop :=
  isLabelCharacter character = true ∨ character = '.' ∨ character = '!' ∨ character = '+'

theorem isWrittenWith_of_all {letters : List Char} {letter : Char}
    (all : (letters.all fun letter => isLabelCharacter letter || letter == '.') = true)
    (member : letter ∈ letters) : IsWrittenWith letter := by
  have here := List.all_eq_true.1 all letter member
  rcases Bool.or_eq_true_iff.1 here with label | point
  · exact .inl label
  · exact .inr (.inl (eq_of_beq point))

theorem isWrittenWith_of_mem_numeral {number : UInt64} {character : Char}
    (member : character ∈ Text.numeral number) : IsWrittenWith character := by
  have digit := Text.isDigit_iff.1 (Text.isDigit_of_mem_numeral member)
  refine .inl (isLabelCharacter_iff.2 ?_)
  omega

theorem isWrittenWith_of_mem_releaseText {release : List UInt64} {character : Char}
    (member : character ∈ releaseText release) : IsWrittenWith character := by
  fun_induction releaseText release with
  | case1 => cases member
  | case2 segment => exact isWrittenWith_of_mem_numeral member
  | case3 segment next more inductionHypothesis =>
    rcases List.mem_append.1 member with here | later
    · exact isWrittenWith_of_mem_numeral here
    · rcases List.mem_cons.1 later with rfl | later
      · exact .inr (.inl rfl)
      · exact inductionHypothesis later

/-- A word of ASCII letters and points, followed by a numeral. -/
theorem isWrittenWith_of_mem_named {name : List Char} {number : UInt64} {character : Char}
    (letters : ∀ letter ∈ name, IsWrittenWith letter)
    (member : character ∈ name ++ Text.numeral number) : IsWrittenWith character := by
  rcases List.mem_append.1 member with inside | digit
  · exact letters character inside
  · exact isWrittenWith_of_mem_numeral digit

theorem isWrittenWith_of_mem_label {label : List Char} {character : Char}
    (valid : isLabel label = true) (canonical : label.map canonicalCharacter = label)
    (member : character ∈ label) : IsWrittenWith character := by
  rcases Text.mem_splitWhere isSeparator member with separator | ⟨segment, among, inside⟩
  · -- In a canonical label, the point is the only separator.
    rw [← canonical] at member
    obtain ⟨original, -, rfl⟩ := List.mem_map.1 member
    rw [isSeparator_canonicalCharacter] at separator
    right
    left
    exact if_pos separator
  · exact .inl ((isLabel_iff.1 valid segment among).2 character inside)

theorem isWrittenWith_of_mem_characters {version : Version} (canonical : version.Canonical)
    {character : Char} (member : character ∈ version.characters) : IsWrittenWith character := by
  unfold characters at member
  simp only [List.mem_append, or_assoc] at member
  rcases member with epoch | release | pre | post | dev | label
  · split at epoch
    · cases epoch
    · rcases List.mem_append.1 epoch with digit | mark
      · exact isWrittenWith_of_mem_numeral digit
      · exact .inr (.inr (.inl (List.mem_singleton.1 mark)))
  · exact isWrittenWith_of_mem_releaseText release
  · cases part : version.pre with
    | none => rw [part] at pre; cases pre
    | some found =>
      rw [part] at pre
      change character ∈ found.text.toList at pre
      rw [PreRelease.text, String.toList_append, String.toList_ofList] at pre
      refine isWrittenWith_of_mem_named (fun letter => isWrittenWith_of_all ?_) pre
      cases found.phase <;> decide
  · cases part : version.post with
    | none => rw [part] at post; cases post
    | some number =>
      rw [part] at post
      exact isWrittenWith_of_mem_named (fun letter => isWrittenWith_of_all (by decide)) post
  · cases part : version.dev with
    | none => rw [part] at dev; cases dev
    | some number =>
      rw [part] at dev
      exact isWrittenWith_of_mem_named (fun letter => isWrittenWith_of_all (by decide)) dev
  · cases part : version.label with
    | none => rw [part] at label; cases label
    | some found =>
      rw [part] at label
      obtain ⟨valid, spelled⟩ := canonical.labelled found part
      rcases List.mem_cons.1 label with rfl | inside
      · exact .inr (.inr (.inr rfl))
      · exact isWrittenWith_of_mem_label valid spelled inside

/-- The code points of what versions are written with. -/
theorem IsWrittenWith.code {character : Char} (written : IsWrittenWith character) :
    character.toNat = 0x17f ∨ character.toNat = 0x212a ∨
      (48 ≤ character.toNat ∧ character.toNat ≤ 57) ∨
      (65 ≤ character.toNat ∧ character.toNat ≤ 90) ∨
      (97 ≤ character.toNat ∧ character.toNat ≤ 122) ∨
      character.toNat = 46 ∨ character.toNat = 33 ∨ character.toNat = 43 := by
  rcases written with letter | rfl | rfl | rfl
  · have := isLabelCharacter_iff.1 letter
    omega
  all_goals decide

theorem IsWrittenWith.isSolid {character : Char} (written : IsWrittenWith character) :
    IsSolid character := by
  rcases written with letter | rfl | mark
  · exact .inl letter
  · exact .inr (.inl rfl)
  · exact .inr (.inr mark)

theorem IsWrittenWith.isBlank_eq_false {character : Char} (written : IsWrittenWith character) :
    Text.isBlank character = false :=
  written.isSolid.isBlank_eq_false

theorem head?_numeral (number : UInt64) :
    ∃ digit rest, Text.numeral number = digit :: rest ∧ digit.isDigit = true := by
  obtain ⟨digit, rest, numeral⟩ := List.exists_cons_of_ne_nil (Text.numeral_ne_nil number)
  refine ⟨digit, rest, numeral, ?_⟩
  exact Text.isDigit_of_mem_numeral (numeral ▸ List.mem_cons_self)

theorem head?_releaseText {release : List UInt64} (segmented : release ≠ []) :
    ∃ digit rest, releaseText release = digit :: rest ∧ digit.isDigit = true := by
  match release, segmented with
  | [segment], _ => exact head?_numeral segment
  | segment :: next :: more, _ =>
    obtain ⟨digit, rest, numeral, isDigit⟩ := head?_numeral segment
    exact ⟨digit, rest ++ '.' :: releaseText (next :: more), by rw [releaseText, numeral]; rfl,
      isDigit⟩

/-- A written version begins with a digit. -/
theorem head?_characters {version : Version} (canonical : version.Canonical) :
    ∃ digit rest, version.characters = digit :: rest ∧ digit.isDigit = true := by
  obtain ⟨first, others, release, firstDigit⟩ := head?_releaseText canonical.segmented
  unfold characters
  by_cases zero : version.epoch = 0
  · rw [if_pos zero, release]
    exact ⟨first, _, rfl, firstDigit⟩
  · obtain ⟨digit, rest, numeral, isDigit⟩ := head?_numeral version.epoch
    rw [if_neg zero, numeral]
    exact ⟨digit, _, rfl, isDigit⟩

end Version

end ReleasePilot
