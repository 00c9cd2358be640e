import ReleasePilot.Changelog.Section
import ReleasePilot.Proofs.Declaration.Rewriting
import ReleasePilot.Proofs.Text.Forms
import ReleasePilot.Publication

/-!
# The canonical form

The form that versions are printed in is given as a language, apart from the printer
(`canonicalForm`). Labels are printed in lower case as far as ASCII goes. As two
letters beyond ASCII are read where ASCII letters are expected, a version is printed in the
canonical form exactly if neither of them was written in its label
(`shown_mem_canonicalForm_iff`).
-/

namespace ReleasePilot.Version

open Grammar

/-! ## The form -/

/-- What versions are printed as, the letters of labels being of one class. -/
def canonicalForm (letter : Char → Prop) : Language Char :=
  (1 + Text.decimals * Text.literal "!") * Text.series Text.decimals *
    (1 + (Text.literal "a" + Text.literal "b" + Text.literal "rc") * Text.decimals) *
    (1 + Text.literal ".post" * Text.decimals) * (1 + Text.literal ".dev" * Text.decimals) *
    (1 + Text.literal "+" * Text.series (Text.runs letter))

/-- The characters of the canonical form. -/
def IsCanonicalWith (letter : Char → Prop) (character : Char) : Prop :=
  letter character ∨ character = '.' ∨ character = '!' ∨ character = '+'

instance (letter : Char → Prop) [DecidablePred letter] : DecidablePred (IsCanonicalWith letter) :=
  fun _ => inferInstanceAs (Decidable (_ ∨ _))

variable {letter : Char → Prop} {version : Version}

/-- The form itself needs only small letters, digits and its marks. -/
theorem spelledWith_canonicalForm (plain : ∀ character, Text.IsPlain character → letter character) :
    Text.SpelledWith (IsCanonicalWith letter) (canonicalForm letter) := by
  have literal (letters : String)
      (each : ∀ character ∈ letters.toList, IsCanonicalWith Text.IsPlain character) :
      Text.SpelledWith (IsCanonicalWith letter) (Text.literal letters) :=
    Text.spelledWith_literal letters fun character member =>
      (each character member).imp_left (plain character)
  have decimals : Text.SpelledWith (IsCanonicalWith letter) Text.decimals :=
    Text.spelledWith_decimals fun digit isDigit =>
      .inl (plain digit (Text.isPlain_iff.2 (.inr (Text.isDigit_iff.1 isDigit))))
  have runs : Text.SpelledWith (IsCanonicalWith letter) (Text.runs letter) :=
    Text.spelledWith_runs.mono fun _ => .inl
  have point : IsCanonicalWith letter '.' := .inr (.inl rfl)
  have phases := ((literal "a" (by decide)).add (literal "b" (by decide))).add
    (literal "rc" (by decide))
  have epoch := (decimals.mul (literal "!" (by decide))).optional
  have release := decimals.series point
  have pre := (phases.mul decimals).optional
  have post := ((literal ".post" (by decide)).mul decimals).optional
  have dev := ((literal ".dev" (by decide)).mul decimals).optional
  have label := ((literal "+" (by decide)).mul (runs.series point)).optional
  exact ((((epoch.mul release).mul pre).mul post).mul dev).mul label

/-! ## Printing -/

theorem optionalText_mem {Part : Type} {write : Part → List Char} {language : Language Char}
    (part : Option Part) (each : ∀ found, part = some found → write found ∈ language) :
    optionalText write part ∈ 1 + language := by
  cases part with
  | none => exact .inl rfl
  | some found => exact .inr (each found rfl)

theorem releaseText_mem {release : List UInt64} (segmented : release ≠ []) :
    releaseText release ∈ Text.series Text.decimals := by
  fun_induction releaseText release with
  | case1 => exact absurd rfl segmented
  | case2 segment => exact Text.mem_series (Text.numeral_mem_decimals segment)
  | case3 segment next more inductionHypothesis =>
    exact Text.append_mem_series (Text.numeral_mem_decimals segment)
      (inductionHypothesis (List.cons_ne_nil _ _))

/-- A part that is told by its name is printed as the name with a number behind it. -/
theorem named_mem (name : String) (number : UInt64) :
    name.toList ++ Text.numeral number ∈ Text.literal name * Text.decimals :=
  Language.append_mem_mul rfl (Text.numeral_mem_decimals number)

theorem preText_mem (pre : PreRelease) : pre.text.toList ∈
    (Text.literal "a" + Text.literal "b" + Text.literal "rc") * Text.decimals := by
  rw [PreRelease.text, String.toList_append, String.toList_ofList]
  refine Language.append_mem_mul ?_ (Text.numeral_mem_decimals pre.number)
  cases pre.phase with
  | alpha => exact .inl (.inl rfl)
  | beta => exact .inl (.inr rfl)
  | candidate => exact .inr rfl

/-- A version is printed in the form if its label is. -/
theorem characters_mem_canonicalForm (segmented : version.release ≠ [])
    (labelled : ∀ label, version.label = some label →
      label.toList ∈ Text.series (Text.runs letter)) :
    version.characters ∈ canonicalForm letter := by
  have epoch : (if version.epoch = 0 then [] else Text.numeral version.epoch ++ ['!']) ∈
      1 + Text.decimals * Text.literal "!" := by
    split
    · exact .inl rfl
    · exact .inr (Language.append_mem_mul (Text.numeral_mem_decimals version.epoch) rfl)
  have pre := optionalText_mem version.pre fun pre _ => preText_mem pre
  have post := optionalText_mem version.post fun number _ => named_mem ".post" number
  have dev := optionalText_mem version.dev fun number _ => named_mem ".dev" number
  have label := optionalText_mem version.label fun label present =>
    Language.append_mem_mul (a := ['+']) (l := Text.literal "+") rfl (labelled label present)
  unfold characters canonicalForm
  exact Language.append_mem_mul (Language.append_mem_mul (Language.append_mem_mul
    (Language.append_mem_mul (Language.append_mem_mul epoch (releaseText_mem segmented)) pre)
    post) dev) label

/-! ## Labels -/

/-- The letters beyond ASCII that match a small letter. Lower case of ASCII leaves them alone. -/
def IsOutlier (character : Char) : Prop :=
  character = '\u017f' ∨ character = '\u212a'

instance : DecidablePred IsOutlier :=
  fun _ => inferInstanceAs (Decidable (_ ∨ _))

theorem isOutlier_iff {character : Char} :
    IsOutlier character ↔ character.toNat = 0x17f ∨ character.toNat = 0x212a := by
  have byCode (other : Char) : character = other ↔ character.toNat = other.toNat :=
    ⟨congrArg Char.toNat, Text.ext_toNat⟩
  exact or_congr (byCode _) (byCode _)

/-- An outlier is none of the characters of the form. -/
theorem IsOutlier.not_isCanonicalWith_isPlain {character : Char} (outlier : IsOutlier character) :
    ¬IsCanonicalWith Text.IsPlain character := by
  rcases outlier with rfl | rfl <;> decide

theorem IsOutlier.isBlank_eq_false {character : Char} (outlier : IsOutlier character) :
    Text.isBlank character = false := by
  rcases outlier with rfl | rfl <;> decide

/-- Only an outlier itself is printed as one. -/
theorem canonicalCharacter_eq_iff {character outlier : Char} (isOutlier : IsOutlier outlier) :
    canonicalCharacter character = outlier ↔ character = outlier := by
  constructor
  · rintro rfl
    have printed := toNat_canonicalCharacter_cases character
    rw [isOutlier_iff] at isOutlier
    apply Text.ext_toNat
    omega
  · rintro rfl
    rcases isOutlier with rfl | rfl <;> rfl

/-- All other letters and digits of a label are printed as small ones. -/
theorem isPlain_canonicalCharacter {character : Char} (read : isLabelCharacter character = true)
    (inlier : ¬IsOutlier character) : Text.IsPlain (canonicalCharacter character) := by
  have together := isSeparator_of_isLabelCharacter read
  have printed := toNat_canonicalCharacter_cases character
  rw [together] at printed
  rw [isLabelCharacter_iff] at read
  rw [isOutlier_iff] at inlier
  rw [Text.isPlain_iff]
  simp only [Bool.false_eq_true, false_and, true_and, false_or] at printed
  omega

namespace Grammar

theorem Label.canonical_eq_map (label : Label) :
    label.canonical = label.characters.map canonicalCharacter := by
  rw [← toList_canonicalLabel, canonicalLabel_eq_map]

theorem Label.mem_canonical_iff {label : Label} {outlier : Char} (isOutlier : IsOutlier outlier) :
    outlier ∈ label.canonical ↔ outlier ∈ label.characters := by
  simp only [Label.canonical_eq_map, List.mem_map, canonicalCharacter_eq_iff isOutlier,
    exists_eq_right]

/-- A label is printed in the form if its letters and digits are. -/
theorem Label.canonical_mem {label : Label}
    (small : ∀ character ∈ label.characters, isLabelCharacter character = true →
      letter (canonicalCharacter character)) :
    label.canonical ∈ Text.series (Text.runs letter) := by
  rw [Label.canonical_eq_map]
  obtain ⟨first, others⟩ := label
  have printed {run : Run} (inside : ∀ character ∈ run.characters,
      isLabelCharacter character = true → letter (canonicalCharacter character)) :
      run.characters.map canonicalCharacter ∈ Text.runs letter := by
    refine ⟨mt List.map_eq_nil_iff.1 run.nonempty, List.forall_mem_map.2 fun character member => ?_⟩
    exact inside character member
      (isLabelCharacter_iff_matches.2 (run.alphanumeric character member))
  induction others generalizing first with
  | nil =>
    rw [Label.characters_nil] at small ⊢
    exact Text.mem_series (printed small)
  | cons entry others inductionHypothesis =>
    obtain ⟨separator, next⟩ := entry
    rw [Label.characters_cons] at small ⊢
    obtain ⟨here, later⟩ := List.forall_mem_append.1 small
    have point : canonicalCharacter separator.character = '.' :=
      if_pos (isSeparator_character separator)
    rw [List.map_append, List.map_cons, point]
    exact Text.append_mem_series (printed here)
      (inductionHypothesis next (List.forall_mem_cons.1 later).2)

/-- An outlier stands behind the plus sign of a text exactly if it is in the label. -/
theorem Derivation.standsBehind_iff {derivation : Derivation} {text : String}
    (writes : derivation.Writes text) {outlier : Char} (isOutlier : IsOutlier outlier) :
    Text.StandsBehind '+' outlier text.toList ↔
      ∃ label, derivation.label = some label ∧ outlier ∈ label.characters := by
  obtain ⟨before, after, blankBefore, blankAfter, whole⟩ := writes
  have noPlus {blanks : List Char}
      (blank : ∀ character ∈ blanks, Text.isBlank character = true) : '+' ∉ blanks :=
    fun member => absurd (blank '+' member) (by decide)
  have inFront : '+' ∉ before ++ derivation.frontText := by
    rw [List.mem_append, not_or]
    exact ⟨noPlus blankBefore, fun member =>
      not_isUnmarked_plus (isUnmarked_of_mem_frontText member)⟩
  have outside : outlier ∉ after := fun member => by
    have blank := blankAfter outlier member
    rw [isOutlier.isBlank_eq_false] at blank
    cases blank
  -- In front of the label there is no plus sign, so the label begins with the first one.
  rw [whole, derivation.characters_eq, ← List.append_assoc, List.append_assoc,
    Text.standsBehind_append_iff inFront]
  unfold labelText
  cases derivation.label with
  | none => simpa [optionalText] using Text.not_standsBehind (noPlus blankAfter)
  | some label =>
    rw [optionalText, List.cons_append, Text.standsBehind_cons_iff, List.mem_append]
    simp [outside]

end Grammar

/-! ## Where versions show -/

/-- Where a version shows when it is released: printed alone, as the name of its tag, as
the header of its section and between the quotes of its declaration. -/
inductive Shows (version : Version) : List Char → Prop where
  | printed : Shows version version.text.toList
  | tag {config : Config} {publication : Publication} {call : Call} {name message : String}
      (released : publication.version = version)
      (planned : call ∈ publication.taggingCalls config)
      (tags : call.command = ["git", "tag", "-a", name, "-m", message]) :
      Shows version name.toList
  | header {entries : List String} {ending : LineEnding} {line : Line}
      (second : ((Changelog.Section.ofVersion version entries).lines ending)[1]? = some line) :
      Shows version line.content
  | declared {path identifier contents changed : String} {line : Line} {declaration : Declaration}
      (updated : Declaration.set path identifier version contents = .ok changed)
      (member : line ∈ Line.split changed.toList)
      (declares : Declaration.onLine? identifier.toList line.content = some declaration) :
      Shows version declaration.value

/-- Everywhere it is the printed version that shows. -/
theorem Shows.eq_characters {version : Version} (canonical : version.Canonical)
    {shown : List Char} (shows : Shows version shown) : shown = version.characters := by
  have spelled : version.text.toList = version.characters := String.toList_ofList
  cases shows with
  | printed => exact spelled
  | @tag _ publication _ name _ released planned tags =>
    have named : publication.tagName = name := by
      simp only [Publication.taggingCalls, List.mem_cons, List.not_mem_nil, or_false] at planned
      rcases planned with rfl | rfl | rfl | rfl | rfl <;>
        simp_all [Publication.fatal, Publication.optional]
    rw [← named, Publication.tagName, released, spelled]
  | @header entries ending _ second =>
    have header : ((Changelog.Section.ofVersion version entries).lines ending)[1]? =
        some ⟨version.characters, ending⟩ := by
      rw [← spelled]
      rfl
    rw [← Option.some.inj (header.symm.trans second)]
  | declared updated member declares =>
    obtain ⟨-, lines⟩ := Declaration.of_set canonical updated
    rw [lines] at member
    obtain ⟨original, -, rfl⟩ := List.mem_map.1 member
    exact (Declaration.onLine?_setOnLine canonical original).2 _ declares

/-! ## What is printed -/

/-- The label is printed behind all other parts. -/
theorem characters_eq_append (version : Version) : version.characters =
    ({ version with label := none } : Version).characters ++
      optionalText (fun label => '+' :: label.toList) version.label := by
  simp only [characters, optionalText, List.append_nil]

/-- Outliers are printed in labels only. -/
theorem mem_characters_iff (segmented : version.release ≠ []) {outlier : Char}
    (isOutlier : IsOutlier outlier) :
    outlier ∈ version.characters ↔
      ∃ label, version.label = some label ∧ outlier ∈ label.toList := by
  have unlabelled : ({ version with label := none } : Version).characters ∈
      canonicalForm Text.IsPlain := characters_mem_canonicalForm segmented nofun
  have inFront : outlier ∉ ({ version with label := none } : Version).characters := fun member =>
    isOutlier.not_isCanonicalWith_isPlain
      (spelledWith_canonicalForm (fun _ => id) _ unlabelled outlier member)
  have notPlus : outlier ≠ '+' := by
    rintro rfl
    exact absurd isOutlier (by decide)
  rw [characters_eq_append, List.mem_append, mem_optionalText_iff]
  simp [inFront, notPlus]

namespace Grammar.Derivation

variable {derivation : Derivation}

theorem Means.segmented (means : derivation.Means version) : version.release ≠ [] := by
  intro none
  have release := means.release
  rw [none] at release
  cases release

/-- A version is printed in the form if the letters and digits of the written label are. -/
theorem Means.characters_mem (means : derivation.Means version)
    (small : ∀ label, derivation.label = some label → ∀ character ∈ label.characters,
      isLabelCharacter character = true → letter (canonicalCharacter character)) :
    version.characters ∈ canonicalForm letter := by
  refine characters_mem_canonicalForm means.segmented fun label present => ?_
  have labels := means.label
  rw [present] at labels
  obtain ⟨written, labelled, same⟩ := Option.map_eq_some_iff.1 labels.symm
  rw [← same]
  exact Label.canonical_mem (small written labelled)

/-- Outliers are printed as they were written. -/
theorem Means.mem_characters_iff (means : derivation.Means version) {text : String}
    (writes : derivation.Writes text) {outlier : Char} (isOutlier : IsOutlier outlier) :
    outlier ∈ version.characters ↔ Text.StandsBehind '+' outlier text.toList := by
  rw [Version.mem_characters_iff means.segmented isOutlier, standsBehind_iff writes isOutlier]
  have labels := means.label
  cases present : version.label with
  | none =>
    rw [present] at labels
    rw [Option.map_eq_none_iff.1 labels.symm]
    simp
  | some label =>
    rw [present] at labels
    obtain ⟨written, labelled, same⟩ := Option.map_eq_some_iff.1 labels.symm
    simp [labelled, ← same, Label.mem_canonical_iff isOutlier]

end Grammar.Derivation

/-- Wherever a version shows that was read from a text, it has the canonical form, but for
outliers in its label. It has them as they were written behind the plus sign, and so is in
the canonical form exactly if there were none. -/
theorem shown_mem_canonicalForm_iff {text : String} {version : Version}
    (read : parse text = .ok version) {shown : List Char} (shows : Shows version shown) :
    (shown ∈ canonicalForm Text.IsPlain ↔
        ∀ outlier, IsOutlier outlier → ¬Text.StandsBehind '+' outlier text.toList) ∧
      shown ∈ canonicalForm (fun letter => Text.IsPlain letter ∨ IsOutlier letter) ∧
      ∀ character ∈ shown,
        Text.IsPlain character ∨ character = '.' ∨ character = '!' ∨ character = '+' ∨
          IsOutlier character ∧ Text.StandsBehind '+' character text.toList := by
  have found := parse_eq_ok_iff.1 read
  obtain ⟨derivation, writes, -, means⟩ := ofText?_eq_some_iff.1 found
  obtain rfl := shows.eq_characters (canonical_of_ofText? found)
  have form : version.characters ∈
      canonicalForm (fun letter => Text.IsPlain letter ∨ IsOutlier letter) := by
    refine means.characters_mem fun label _ character _ read => ?_
    by_cases isOutlier : IsOutlier character
    · rw [(canonicalCharacter_eq_iff isOutlier).2 rfl]
      exact .inr isOutlier
    · exact .inl (isPlain_canonicalCharacter read isOutlier)
  refine ⟨⟨fun member outlier isOutlier behind => ?_, fun absent => ?_⟩, form, ?_⟩
  · have shown := (means.mem_characters_iff writes isOutlier).2 behind
    exact isOutlier.not_isCanonicalWith_isPlain
      (spelledWith_canonicalForm (fun _ => id) _ member outlier shown)
  · refine means.characters_mem fun label labelled character member read => ?_
    refine isPlain_canonicalCharacter read fun isOutlier => absent character isOutlier ?_
    exact (Derivation.standsBehind_iff writes isOutlier).2 ⟨label, labelled, member⟩
  · intro character member
    rcases spelledWith_canonicalForm (fun _ => .inl) _ form character member with
      (plain | isOutlier) | point | exclamation | plus
    · exact .inl plain
    · exact .inr (.inr (.inr (.inr
        ⟨isOutlier, (means.mem_characters_iff writes isOutlier).1 member⟩)))
    · exact .inr (.inl point)
    · exact .inr (.inr (.inl exclamation))
    · exact .inr (.inr (.inr (.inl plus)))

/-- Other spellings of all parts are printed in the form. The Kelvin sign is read as a
letter and printed as it is. -/
theorem shown_mem_canonicalForm_iff_kelvin : ∃ version labelled : Version,
    (parse " v01!07.0-PreView_2po\u017ft.DEV-3+Ubuntu_04\n" = .ok version ∧
      version.text = "1!7.0rc2.post0.dev3+ubuntu.04" ∧
      version.text.toList ∈ canonicalForm Text.IsPlain) ∧
    parse "1.0+\u212a" = .ok labelled ∧ labelled.text = "1.0+\u212a" ∧
      labelled.text.toList ∉ canonicalForm Text.IsPlain := by
  have printed (text shown : String) (done : (parse text).map Version.text = .ok shown) :
      ∃ version, parse text = .ok version ∧ version.text = shown := by
    cases read : parse text with
    | error => rw [read] at done; cases done
    | ok version => rw [read] at done; exact ⟨version, rfl, Except.ok.inj done⟩
  obtain ⟨version, read, shown⟩ := printed " v01!07.0-PreView_2po\u017ft.DEV-3+Ubuntu_04\n"
    "1!7.0rc2.post0.dev3+ubuntu.04" (by decide +kernel)
  obtain ⟨labelled, readLabelled, shownLabelled⟩ := printed "1.0+\u212a" "1.0+\u212a"
    (by decide +kernel)
  obtain ⟨form, -, -⟩ := shown_mem_canonicalForm_iff read .printed
  obtain ⟨labelledForm, -, -⟩ := shown_mem_canonicalForm_iff readLabelled .printed
  refine ⟨version, labelled, ⟨read, shown, form.2 ?_⟩, readLabelled, shownLabelled, ?_⟩
  · have cut : " v01!07.0-PreView_2po\u017ft.DEV-3+Ubuntu_04\n".toList =
        " v01!07.0-PreView_2po\u017ft.DEV-3".toList ++ '+' :: "Ubuntu_04\n".toList := by decide
    intro outlier isOutlier
    rw [cut, Text.standsBehind_append_iff (by decide), Text.standsBehind_cons_iff]
    rcases isOutlier with rfl | rfl <;> decide
  · exact fun member =>
      labelledForm.1 member '\u212a' (.inr rfl) ⟨"1.0".toList, ['\u212a'], rfl, by simp⟩

end ReleasePilot.Version
