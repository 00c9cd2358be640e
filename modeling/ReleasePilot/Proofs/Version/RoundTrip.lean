import ReleasePilot.Proofs.Version.Acceptance

/-!
# Reading back what was written

The canonical spelling of a version is derived by the grammar, with a derivation
that stands for this version (`Grammar.Derivation.ofVersion`). A canonical version
thus reads back from its own spelling, field by field (`ofText?_text`).
-/

namespace ReleasePilot.Version

namespace Grammar

/-- The numeral of a word, without superfluous zeros. -/
def Numeral.ofWord (word : UInt64) : Numeral where
  digits := Text.numeral word
  nonempty := Text.numeral_ne_nil word
  decimal _ member := Text.isDigit_of_mem_numeral member

@[simp] theorem Numeral.value_ofWord (word : UInt64) :
    (Numeral.ofWord word).value = word.toNat :=
  Nat.ofDigitChars_ten_toDigits

/-- A name in small letters with a numeral right behind it. -/
def Named.ofWord {Meaning : Type} {Names : String → Meaning → Prop} (before : Option Separator)
    {name : String} {meaning : Meaning} (named : Names name meaning) (word : UInt64) :
    Named Names where
  before := before
  name := name
  meaning := meaning
  named := named
  spelled := name.toList
  spelling := List.forall₂_same.2 fun letter _ => .itself letter
  after := none
  number := some (.ofWord word)

theorem namesPhase_text (phase : Phase) : NamesPhase phase.text phase := by
  cases phase <;> constructor

namespace Derivation

/-- How the canonical spelling of a version is derived, its release and its label being
given apart. -/
def ofVersion (version : Version) (segment : UInt64) (segments : List UInt64)
    (label : Option Label) : Derivation where
  mark := none
  epoch := if version.epoch = 0 then none else some (.ofWord version.epoch)
  segment := .ofWord segment
  segments := segments.map .ofWord
  pre := version.pre.map fun pre => .ofWord none (namesPhase_text pre.phase) pre.number
  post := version.post.map fun number => .named (.ofWord (some .point) .post number)
  dev := version.dev.map fun number => .ofWord (some .point) .dev number
  label := label

theorem releaseText_eq (segment : UInt64) (segments : List UInt64) :
    Version.releaseText (segment :: segments) =
      Text.numeral segment ++ segmentsText (segments.map .ofWord) := by
  induction segments generalizing segment with
  | nil => exact (List.append_nil _).symm
  | cons next segments inductionHypothesis =>
    rw [Version.releaseText, inductionHypothesis]
    rfl

theorem characters_ofVersion {version : Version} {segment : UInt64} {segments : List UInt64}
    {label : Option Label} (release : version.release = segment :: segments)
    (labelled : version.label.map String.toList = label.map Label.characters) :
    (ofVersion version segment segments label).characters = version.characters := by
  have epochText : optionalText (fun epoch => epoch.digits ++ ['!'])
      (ofVersion version segment segments label).epoch =
        if version.epoch = 0 then [] else Text.numeral version.epoch ++ ['!'] := by
    unfold ofVersion
    by_cases zero : version.epoch = 0
    · simp only [if_pos zero]
      rfl
    · simp only [if_neg zero]
      rfl
  have preText : optionalText Named.characters (ofVersion version segment segments label).pre =
      optionalText (fun pre => pre.text.toList) version.pre := by
    unfold ofVersion
    cases version.pre with
    | none => rfl
    | some pre =>
      change [] ++ (pre.phase.text.toList ++ ([] ++ Text.numeral pre.number)) = pre.text.toList
      rw [PreRelease.text, String.toList_append, String.toList_ofList, List.nil_append,
        List.nil_append]
  have postText : optionalText Post.characters (ofVersion version segment segments label).post =
      optionalText (fun number => ".post".toList ++ Text.numeral number) version.post := by
    unfold ofVersion
    cases version.post <;> rfl
  have devText : optionalText Named.characters (ofVersion version segment segments label).dev =
      optionalText (fun number => ".dev".toList ++ Text.numeral number) version.dev := by
    unfold ofVersion
    cases version.dev <;> rfl
  have labelText : (ofVersion version segment segments label).labelText =
      optionalText (fun label => '+' :: label.toList) version.label := by
    unfold Derivation.labelText ofVersion
    cases label with
    | none =>
      rw [Option.map_eq_none_iff.1 labelled]
      rfl
    | some label =>
      obtain ⟨spelled, present, same⟩ := Option.map_eq_some_iff.1 labelled
      rw [present]
      exact congrArg ('+' :: ·) same.symm
  have releaseText : (ofVersion version segment segments label).segment.digits ++
      segmentsText (ofVersion version segment segments label).segments =
        Version.releaseText version.release := by
    rw [release, releaseText_eq]
    rfl
  simp only [Derivation.characters, Derivation.epochText, Derivation.releaseText,
    Derivation.preText, Derivation.postText, Derivation.devText, Version.characters, epochText,
    ← releaseText, preText, postText, devText, labelText, List.append_assoc]
  rfl

theorem preferred_ofVersion (version : Version) (segment : UInt64) (segments : List UInt64)
    (label : Option Label) : (ofVersion version segment segments label).Preferred := by
  intro _ number _ post
  obtain ⟨_, -, impossible⟩ := Option.map_eq_some_iff.1 post
  cases impossible

theorem means_ofVersion {version : Version} {segment : UInt64} {segments : List UInt64}
    {label : Option Label} (release : version.release = segment :: segments)
    (labelled : version.label.map String.toList = label.map Label.canonical) :
    (ofVersion version segment segments label).Means version where
  epoch := by
    unfold ofVersion
    by_cases zero : version.epoch = 0 <;> simp [zero]
  release := by
    simp [release, ofVersion]
  pre := by
    simp [ofVersion, Named.value, Named.ofWord, Function.comp_def]
  post := by
    simp [ofVersion, Post.value, Post.number, Named.ofWord, Function.comp_def]
  dev := by
    simp [ofVersion, Named.value, Named.ofWord, Function.comp_def]
  label := labelled

end Derivation

end Grammar

open Grammar

/-- The label of a canonical version is a label of the grammar in canonical form. -/
theorem Canonical.exists_label {version : Version} (canonical : version.Canonical) :
    ∃ label : Option Label, version.label.map String.toList = label.map Label.characters ∧
      version.label.map String.toList = label.map Label.canonical := by
  cases part : version.label with
  | none => exact ⟨none, rfl, rfl⟩
  | some spelled =>
    obtain ⟨valid, fixed⟩ := canonical.labelled spelled part
    obtain ⟨label, characters⟩ := isLabel_iff_exists.1 valid
    refine ⟨some label, congrArg some characters.symm, congrArg some ?_⟩
    rw [← toList_canonicalLabel, canonicalLabel_eq_map, characters, fixed]

/-- A canonical version reads back from its spelling, field by field. -/
theorem ofText?_text {version : Version} (canonical : version.Canonical) :
    ofText? version.text = some version := by
  obtain ⟨segment, segments, release⟩ := List.exists_cons_of_ne_nil canonical.segmented
  obtain ⟨label, characters, meaning⟩ := canonical.exists_label
  refine ofText?_eq_some_iff.2 ⟨.ofVersion version segment segments label, ?_, ?_, ?_⟩
  · have whole := Derivation.characters_ofVersion release characters
    refine ⟨[], [], nofun, nofun, ?_⟩
    rw [whole, text, String.toList_ofList, List.nil_append, List.append_nil]
  · exact Derivation.preferred_ofVersion version segment segments label
  · exact Derivation.means_ofVersion release meaning

/-- A label of runs of small letters and digits of ASCII with points between them. -/
def IsPlainLabel (label : String) : Prop :=
  ∃ segments : List (List Char), segments ≠ [] ∧
    (∀ segment ∈ segments, segment ≠ [] ∧ ∀ character ∈ segment, Text.IsPlain character) ∧
    label.toList = ['.'].intercalate segments

/-- A run of small letters and digits. -/
def Grammar.Run.ofPlain (segment : List Char)
    (plain : segment ≠ [] ∧ ∀ character ∈ segment, Text.IsPlain character) : Run where
  characters := segment
  nonempty := plain.1
  alphanumeric character member := ⟨character, plain.2 character member, .itself character⟩

/-- A plain label is one of the grammar, and a point is its only separator. -/
theorem exists_label_of_segments {segments : List (List Char)} (nonempty : segments ≠ [])
    (plain : ∀ segment ∈ segments, segment ≠ [] ∧ ∀ character ∈ segment, Text.IsPlain character) :
    ∃ label : Label, label.characters = ['.'].intercalate segments ∧
      ∀ character ∈ label.characters, Text.IsPlain character ∨ character = '.' := by
  induction segments with
  | nil => exact absurd rfl nonempty
  | cons segment segments inductionHypothesis =>
    obtain ⟨first, others⟩ := List.forall_mem_cons.1 plain
    cases segments with
    | nil =>
      have whole : Label.characters ⟨.ofPlain segment first, []⟩ = segment := List.append_nil _
      refine ⟨⟨.ofPlain segment first, []⟩, by simp [whole], fun character member => ?_⟩
      rw [whole] at member
      exact .inl (first.2 character member)
    | cons next segments =>
      obtain ⟨label, characters, written⟩ := inductionHypothesis (List.cons_ne_nil _ _) others
      let joined : Label := ⟨.ofPlain segment first, (.point, label.first) :: label.others⟩
      have whole : joined.characters = segment ++ '.' :: label.characters := rfl
      refine ⟨joined, ?_, ?_⟩
      · rw [whole, characters]
        simp [List.intercalate_cons_cons]
      · intro character member
        rw [whole] at member
        rcases List.mem_append.1 member with here | later
        · exact .inl (first.2 character here)
        · rcases List.mem_cons.1 later with rfl | inside
          · exact .inr rfl
          · exact written character inside

theorem canonicalCharacter_of_isPlain {character : Char} (plain : Text.IsPlain character) :
    canonicalCharacter character = character := by
  rw [Text.isPlain_iff] at plain
  apply Text.ext_toNat
  rcases toNat_canonicalCharacter_cases character with ⟨separator, -⟩ | ⟨-, low, high, -⟩ |
    ⟨-, -, same⟩
  · rw [isSeparator_iff] at separator
    omega
  · omega
  · exact same

theorem IsPlainLabel.canonical {label : String} (plain : IsPlainLabel label) :
    isLabel label.toList = true ∧ label.toList.map canonicalCharacter = label.toList := by
  obtain ⟨segments, nonempty, runs, spelled⟩ := plain
  obtain ⟨label, characters, written⟩ := exists_label_of_segments nonempty runs
  rw [spelled, ← characters]
  refine ⟨isLabel_characters label, ?_⟩
  have fixed : ∀ character ∈ label.characters, canonicalCharacter character = character := by
    intro character member
    rcases written character member with plain | rfl
    · exact canonicalCharacter_of_isPlain plain
    · rfl
  rw [List.map_congr_left fixed, List.map_id']

/-- What was read from a text, or built from a release and a plain label, is read back
from its spelling with every field as it was, and so is spelled the same again. -/
theorem parse_text {version : Version}
    (origin : (∃ text, parse text = .ok version) ∨
      (version.release ≠ [] ∧ ∀ label, version.label = some label → IsPlainLabel label)) :
    parse version.text = .ok version ∧ (parse version.text).map text = .ok version.text := by
  have canonical : version.Canonical := by
    rcases origin with ⟨text, read⟩ | ⟨segmented, labelled⟩
    · exact canonical_of_ofText? (parse_eq_ok_iff.1 read)
    · exact ⟨segmented, fun label present => (labelled label present).canonical⟩
  have same : parse version.text = .ok version := parse_eq_ok_iff.2 (ofText?_text canonical)
  refine ⟨same, ?_⟩
  rw [same]
  rfl

theorem parse_text_of_plainLabel :
    let version : Version := ⟨2, [1, 0], some ⟨.candidate, 18446744073709551615⟩, some 0, some 3,
      some "ubuntu.1"⟩
    parse version.text = .ok version ∧ (parse version.text).map text = .ok version.text := by
  refine parse_text (.inr ⟨List.cons_ne_nil _ _, ?_⟩)
  rintro _ ⟨⟩
  exact ⟨["ubuntu".toList, "1".toList], by decide, by decide, by decide⟩

end ReleasePilot.Version
