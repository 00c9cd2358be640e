import ReleasePilot.Proofs.Version.Labels

/-!
# Reading what the grammar derives

Every part of a version begins with characters of its own (`Begins`), so that a part
that is read as far as it reaches ends where the derivation ends it. Only a bare name
reaches further: it takes a separator that the derivation gives to the next part. What
is left is then read all the same (`Resumes`), with one exception: the hyphen of a
post-release without a name is missed, which is why the derivation must be preferred.
-/

namespace ReleasePilot.Version.Grammar

/-! ## How the parts begin -/

/-- A text is empty or begins with one of some characters, letters being taken in any case. -/
def Begins (initials text : List Char) : Prop :=
  ∀ character ∈ text.head?, Text.fold character ∈ initials

theorem begins_nil (initials : List Char) : Begins initials [] :=
  nofun

theorem begins_cons {initials : List Char} {character : Char}
    (initial : Text.fold character ∈ initials) (rest : List Char) :
    Begins initials (character :: rest) := by
  rintro _ ⟨⟩
  exact initial

namespace Begins

variable {initials text : List Char}

theorem mono {more : List Char} (begins : Begins initials text)
    (subset : ∀ initial ∈ initials, initial ∈ more) : Begins more text :=
  fun character head => subset _ (begins character head)

/-- One separator may stand in front. -/
theorem of_skipSeparator (begins : Begins initials (skipSeparator text)) :
    Begins ('-' :: '_' :: '.' :: initials) text := by
  cases text with
  | nil => exact begins_nil _
  | cons character rest =>
    cases separates : isSeparator character with
    | true =>
      obtain ⟨separator, rfl⟩ := exists_separator separates
      exact begins_cons (by cases separator <;> simp [Separator.character, Text.fold]) rest
    | false =>
      have kept : skipSeparator (character :: rest) = character :: rest :=
        skipSeparator_of_stops (Text.stopsRun_cons separates)
      rw [kept] at begins
      exact begins.mono fun initial member => by simp [member]

theorem stopsNumeral (begins : Begins initials text)
    (others : ∀ initial ∈ initials, initial.isDigit = false) : StopsNumeral text := by
  intro character head
  rw [Bool.eq_false_iff]
  intro digit
  have initial := begins character head
  rw [Text.fold_of_isDigit digit] at initial
  simp [others character initial] at digit

theorem stopsSeparator (begins : Begins initials text)
    (letters : ∀ initial ∈ initials, initial = '+' ∨ initial.isLower = true) :
    Text.StopsRun isSeparator text := by
  intro character head
  rw [Bool.eq_false_iff, Ne, isSeparator_iff]
  intro separator
  have ascii : character.toNat < 128 := by omega
  have folded := Text.fold_of_ascii ascii
  have code := Text.toNat_toLower character
  rw [if_neg (by omega), ← folded] at code
  rcases letters _ (begins character head) with plus | lower
  · rw [plus] at code
    change 43 = _ at code
    omega
  · have := Text.code_of_isLower_fold lower
    omega

theorem stopsName {letters : List Char} (begins : Begins initials text)
    (others : ∀ initial ∈ initials, initial ∉ letters) : StopsName letters text := by
  intro character head
  simp [others _ (begins character head)]

end Begins

variable {Meaning : Type} {names : List (String × Meaning)} {Names : String → Meaning → Prop}
  {extending : List Char}

/-- A part begins as one of the names does, behind its separator. -/
theorem Named.begins (table : Lists names Names extending) (part : Named Names)
    {initials : List Char} (initial : ∀ entry ∈ names, ∀ letter ∈ entry.1.toList.head?,
      letter ∈ initials) (rest : List Char) : Begins initials (part.spelled ++ rest) := by
  obtain ⟨character, more, spelled, head, -⟩ := exists_initial table part.named part.spelling
  rw [spelled]
  exact begins_cons (initial _ ((table.mem_iff _ _).2 part.named) _ head) _

namespace Derivation

variable (derivation : Derivation)

theorem begins_labelText : Begins ['+'] derivation.labelText := by
  unfold labelText
  cases derivation.label with
  | none => exact begins_nil _
  | some label => exact begins_cons (by decide) _

theorem skipSeparator_labelText : skipSeparator derivation.labelText = derivation.labelText :=
  skipSeparator_of_stops (derivation.begins_labelText.stopsSeparator (by decide))

theorem devText_of_none (absent : derivation.dev = none) :
    derivation.devText = derivation.labelText := by
  rw [devText, absent]
  rfl

theorem devText_of_some {part : Named NamesDev} (present : derivation.dev = some part) :
    derivation.devText = part.characters ++ derivation.labelText := by
  rw [devText, present]
  rfl

theorem begins_skipSeparator_devText :
    Begins ['+', 'd'] (skipSeparator derivation.devText) := by
  cases dev : derivation.dev with
  | none =>
    rw [derivation.devText_of_none dev, skipSeparator_labelText]
    exact derivation.begins_labelText.mono (by decide)
  | some part =>
    rw [derivation.devText_of_some dev, part.skipSeparator_characters lists_devs]
    exact part.begins lists_devs (by decide) _

theorem postText_of_none (absent : derivation.post = none) :
    derivation.postText = derivation.devText := by
  rw [postText, absent]
  rfl

theorem postText_of_implicit {number : Numeral}
    (present : derivation.post = some (.implicit number)) :
    derivation.postText = '-' :: (number.digits ++ derivation.devText) := by
  rw [postText, present]
  rfl

theorem postText_of_named {part : Named NamesPost}
    (present : derivation.post = some (.named part)) :
    derivation.postText = part.characters ++ derivation.devText := by
  rw [postText, present]
  rfl

/-- A post-release that is there has a name. -/
def Explicit : Prop :=
  ∀ number, derivation.post ≠ some (.implicit number)

variable {derivation}

theorem begins_skipSeparator_postText (explicit : derivation.Explicit) :
    Begins ['+', 'd', 'p', 'r'] (skipSeparator derivation.postText) := by
  cases post : derivation.post with
  | none =>
    rw [derivation.postText_of_none post]
    exact derivation.begins_skipSeparator_devText.mono (by decide)
  | some found =>
    cases found with
    | implicit number => exact absurd post (explicit number)
    | named part =>
      rw [derivation.postText_of_named post, part.skipSeparator_characters lists_posts]
      have begins : Begins ['p', 'r'] (part.spelled ++ (part.tail ++ derivation.devText)) :=
        part.begins lists_posts (by decide) _
      exact begins.mono (by decide)

theorem begins_devText : Begins ['-', '_', '.', '+', 'd'] derivation.devText :=
  derivation.begins_skipSeparator_devText.of_skipSeparator

theorem begins_postText (derivation : Derivation) :
    Begins ['-', '_', '.', '+', 'd', 'p', 'r'] derivation.postText := by
  by_cases explicit : derivation.Explicit
  · exact (begins_skipSeparator_postText explicit).of_skipSeparator
  · obtain ⟨number, post⟩ := not_forall_not.1 explicit
    rw [derivation.postText_of_implicit post]
    exact begins_cons (by decide) _

theorem preText_of_none (absent : derivation.pre = none) :
    derivation.preText = derivation.postText := by
  rw [preText, absent]
  rfl

theorem preText_of_some {part : Named NamesPhase} (present : derivation.pre = some part) :
    derivation.preText = part.characters ++ derivation.postText := by
  rw [preText, present]
  rfl

theorem begins_skipSeparator_preText {part : Named NamesPhase}
    (present : derivation.pre = some part) :
    Begins ['a', 'b', 'c', 'p', 'r'] (skipSeparator derivation.preText) := by
  rw [preText_of_some present, part.skipSeparator_characters lists_phases]
  exact part.begins lists_phases (by decide) _

end Derivation

/-! ## The parts behind the release -/

/-- What is left of a text behind a part: a bare name may have taken a separator. -/
def Resumes (left rest : List Char) : Prop :=
  left = rest ∨ left = skipSeparator rest

theorem Resumes.skipSeparator_eq {left rest : List Char} (resumes : Resumes left rest)
    (stops : Text.StopsRun isSeparator (skipSeparator rest)) :
    skipSeparator left = skipSeparator rest := by
  rcases resumes with rfl | rfl
  · rfl
  · exact skipSeparator_of_stops stops

theorem Named.resumes_behind (part : Named Names) (rest : List Char) :
    Resumes (part.behind rest) rest := by
  unfold behind
  split
  · exact .inr rfl
  · exact .inl rfl

theorem Named.behind_of_not_isBare {part : Named Names} (more : ¬part.IsBare) (rest : List Char) :
    part.behind rest = rest := by
  unfold behind
  split
  case h_1 after number => exact absurd ⟨after, number⟩ more
  case h_2 => rfl

theorem readNamed?_eq_none {text : List Char}
    (absent : readName? names (skipSeparator text) = none) : readNamed? names text = none := by
  rw [readNamed?, absent]
  rfl

theorem Begins.readName?_eq_none (table : Lists names Names extending) {initials text : List Char}
    (begins : Begins initials text)
    (others : ∀ entry ∈ names, ∀ letter ∈ entry.1.toList.head?, letter ∉ initials) :
    readName? names text = none :=
  readName?_of_head table fun character head entry member same =>
    others entry member _ same (begins character head)

/-- Without a number behind a hyphen, a post-release needs a name. -/
theorem readPost?_eq_namedPost {text : List Char} (stops : StopsNumeral (skipSeparator text)) :
    readPost? text = readPost?.namedPost text := by
  unfold readPost?
  split
  case h_1 digit rest =>
    have other : digit.isDigit = false := stops digit rfl
    exact if_neg (by simp [other])
  case h_2 => rfl

namespace Derivation

variable {derivation : Derivation}

theorem eq_labelText_of_resumes {text : List Char} (resumes : Resumes text derivation.labelText) :
    text = derivation.labelText := by
  rcases resumes with same | skipped
  · exact same
  · rw [skipped, skipSeparator_labelText]

theorem readDev?_of_resumes {text : List Char} (resumes : Resumes text derivation.devText) :
    readOptional readDev? text =
      (derivation.dev.map fun part => numeration part.number, derivation.labelText) := by
  have begins := derivation.begins_labelText
  cases dev : derivation.dev with
  | none =>
    rw [derivation.devText_of_none dev] at resumes
    obtain rfl := eq_labelText_of_resumes resumes
    have absent : readNamed? devNames derivation.labelText = none := by
      apply readNamed?_eq_none
      rw [skipSeparator_labelText]
      exact begins.readName?_eq_none lists_devs (by decide)
    rw [readOptional, readDev?, absent]
    rfl
  | some part =>
    have same := resumes.skipSeparator_eq
      (derivation.begins_skipSeparator_devText.stopsSeparator (by decide))
    rw [derivation.devText_of_some dev, part.skipSeparator_characters lists_devs] at same
    have stops := begins.stopsNumeral (by decide)
    have read := part.readNamed?_eq lists_devs same stops
      (fun _ => derivation.skipSeparator_labelText.symm ▸ stops) (begins.stopsName (by decide))
    rw [eq_labelText_of_resumes (part.resumes_behind _)] at read
    rw [readOptional, readDev?, read]
    rfl

/-- A post-release is read if its hyphen was not taken. -/
theorem readPost?_of_resumes {text : List Char} (resumes : Resumes text derivation.postText)
    (whole : ¬derivation.Explicit → text = derivation.postText) :
    ∃ left, readOptional readPost? text =
        (derivation.post.map fun post => numeration post.number, left) ∧
      Resumes left derivation.devText := by
  have begins := derivation.begins_skipSeparator_devText
  have stops := derivation.begins_devText.stopsNumeral (by decide)
  cases post : derivation.post with
  | none =>
    rw [derivation.postText_of_none post] at resumes
    refine ⟨text, ?_, resumes⟩
    rw [← resumes.skipSeparator_eq (begins.stopsSeparator (by decide))] at begins
    have absent : readNamed? postNames text = none :=
      readNamed?_eq_none (begins.readName?_eq_none lists_posts (by decide))
    rw [readOptional, readPost?_eq_namedPost (begins.stopsNumeral (by decide)),
      readPost?.namedPost, absent]
    rfl
  | some found =>
    cases found with
    | implicit number =>
      refine ⟨derivation.devText, ?_, .inl rfl⟩
      have hyphen := whole fun explicit => explicit number post
      rw [derivation.postText_of_implicit post] at hyphen
      have digits := number.leadingDigits_append stops
      have left := number.afterDigits_append stops
      obtain ⟨digit, more, first, decimal⟩ := number.exists_cons
      have read : readPost? text = some (number.digits, derivation.devText) := by
        rw [first] at hyphen digits left
        rw [hyphen, List.cons_append, readPost?, if_pos decimal, ← List.cons_append, digits, left,
          first]
      rw [readOptional, read]
      rfl
    | named part =>
      have explicit : derivation.Explicit := by
        intro number
        rw [post]
        nofun
      have beginning := begins_skipSeparator_postText explicit
      have same := resumes.skipSeparator_eq (beginning.stopsSeparator (by decide))
      rw [← same] at beginning
      rw [derivation.postText_of_named post, part.skipSeparator_characters lists_posts] at same
      have read := part.readNamed?_eq lists_posts same stops
        (fun _ => begins.stopsNumeral (by decide)) (derivation.begins_devText.stopsName (by decide))
      refine ⟨part.behind derivation.devText, ?_, part.resumes_behind _⟩
      rw [readOptional, readPost?_eq_namedPost (beginning.stopsNumeral (by decide)),
        readPost?.namedPost, read]
      rfl

/-- What follows the release is no pre-release if the grammar derives none. -/
theorem readPre?_postText (derivation : Derivation) : readPre? derivation.postText = none := by
  apply readNamed?_eq_none
  cases post : derivation.post with
  | none =>
    rw [derivation.postText_of_none post]
    exact derivation.begins_skipSeparator_devText.readName?_eq_none lists_phases (by decide)
  | some found =>
    cases found with
    | implicit number =>
      rw [derivation.postText_of_implicit post]
      have skipped : skipSeparator ('-' :: (number.digits ++ derivation.devText)) =
          number.digits ++ derivation.devText := rfl
      rw [skipped]
      apply readName?_of_head lists_phases
      obtain ⟨digit, more, first, decimal⟩ := number.exists_cons
      rw [first]
      rintro _ ⟨⟩ entry member same
      rw [Text.fold_of_isDigit decimal] at same
      have lower := lists_phases.lower entry member digit (List.mem_of_mem_head? same)
      rw [Text.isDigit_iff] at decimal
      rw [Text.isLower_iff] at lower
      omega
    | named part =>
      rw [derivation.postText_of_named post, part.skipSeparator_characters lists_posts]
      -- Only `rc` goes on where a name of a post-release ends.
      have stops : StopsName ['c'] (part.tail ++ derivation.devText) :=
        part.stops_tail (by decide) (derivation.begins_devText.stopsName (by decide))
      exact readName?_other lists_posts part.named part.spelling (by decide) stops

theorem readPre?_preText (preferred : derivation.Preferred) :
    ∃ left, readOptional readPre? derivation.preText =
        (derivation.pre.map fun part => (part.meaning, numeration part.number), left) ∧
      Resumes left derivation.postText ∧ (¬derivation.Explicit → left = derivation.postText) := by
  cases pre : derivation.pre with
  | none =>
    refine ⟨derivation.postText, ?_, .inl rfl, fun _ => rfl⟩
    rw [preText_of_none pre, readOptional, readPre?_postText]
    rfl
  | some part =>
    have begins := derivation.begins_postText
    have explicit (bare : part.IsBare) : derivation.Explicit :=
      fun number post => preferred part number pre post bare
    have same := part.skipSeparator_characters lists_phases derivation.postText
    rw [← preText_of_some pre] at same
    have read := part.readNamed?_eq lists_phases same (begins.stopsNumeral (by decide))
      (fun bare => (begins_skipSeparator_postText (explicit bare)).stopsNumeral (by decide))
      (begins.stopsName (by decide))
    refine ⟨part.behind derivation.postText, ?_, part.resumes_behind _, fun implicit => ?_⟩
    · rw [readOptional, readPre?, read]
      rfl
    · exact Named.behind_of_not_isBare (mt explicit implicit) _

/-! ## The release and what stands in front of it -/

/-- What may follow the release: it is not taken for a segment or an epoch. -/
structure EndsRelease (rest : List Char) : Prop where
  stops : StopsNumeral rest
  noSegment : ∀ more, rest = '.' :: more → StopsNumeral more
  noMark : rest.head? ≠ some '!'

theorem endsRelease_preText (derivation : Derivation) : EndsRelease derivation.preText := by
  have begins : Begins ['-', '_', '.', '+', 'd', 'p', 'r', 'a', 'b', 'c'] derivation.preText := by
    cases pre : derivation.pre with
    | none =>
      rw [preText_of_none pre]
      exact derivation.begins_postText.mono (by decide)
    | some part => exact (begins_skipSeparator_preText pre).of_skipSeparator.mono (by decide)
  refine ⟨begins.stopsNumeral (by decide), fun more point => ?_, fun mark => ?_⟩
  · have skipped : skipSeparator derivation.preText = more := by
      rw [point]
      rfl
    rw [← skipped]
    cases pre : derivation.pre with
    | none =>
      have explicit : derivation.Explicit := by
        intro number post
        rw [preText_of_none pre, postText_of_implicit derivation post] at point
        cases point
      rw [preText_of_none pre]
      exact (begins_skipSeparator_postText explicit).stopsNumeral (by decide)
    | some part => exact (begins_skipSeparator_preText pre).stopsNumeral (by decide)
  · exact absurd (begins '!' mark) (by decide)

theorem readSegments_eq_nil {rest : List Char} (ends : EndsRelease rest) :
    readSegments rest = ([], rest) := by
  rw [readSegments.eq_def]
  split
  case h_1 more =>
    have none : leadingDigits more = [] :=
      Text.takeWhile_eq_nil_of_stopsRun (ends.noSegment more rfl)
    rw [none]
  case h_2 => rfl

/-- Segments go on with a point, or end. -/
theorem stopsNumeral_segmentsText {rest : List Char} (stops : StopsNumeral rest)
    (segments : List Numeral) : StopsNumeral (segmentsText segments ++ rest) := by
  cases segments with
  | nil => exact stops
  | cons segment segments => exact Text.stopsRun_cons (by decide)

theorem readSegments_segmentsText {rest : List Char} (ends : EndsRelease rest)
    (segments : List Numeral) :
    readSegments (segmentsText segments ++ rest) = (segments.map Numeral.digits, rest) := by
  induction segments with
  | nil => exact readSegments_eq_nil ends
  | cons segment segments inductionHypothesis =>
    have stops := stopsNumeral_segmentsText ends.stops segments
    have digits := segment.leadingDigits_append stops
    have left := segment.afterDigits_append stops
    obtain ⟨digit, more, first, -⟩ := segment.exists_cons
    have whole : segmentsText (segment :: segments) ++ rest =
        '.' :: (segment.digits ++ (segmentsText segments ++ rest)) := by
      simp [segmentsText]
    rw [whole, readSegments, digits, left, inductionHypothesis, first, List.map_cons, first]

theorem readRelease?_releaseText (derivation : Derivation) :
    readRelease? derivation.releaseText =
      some (derivation.segment.digits :: derivation.segments.map Numeral.digits,
        derivation.preText) := by
  have ends := derivation.endsRelease_preText
  have stops := stopsNumeral_segmentsText ends.stops derivation.segments
  have digits := derivation.segment.leadingDigits_append stops
  have left := derivation.segment.afterDigits_append stops
  obtain ⟨digit, more, first, -⟩ := derivation.segment.exists_cons
  rw [releaseText, readRelease?, digits, left, readSegments_segmentsText ends, first]

/-- No mark of an epoch stands behind the first segment. -/
theorem noMark_segmentsText {rest : List Char} (noMark : rest.head? ≠ some '!')
    (segments : List Numeral) : (segmentsText segments ++ rest).head? ≠ some '!' := by
  cases segments with
  | nil => exact noMark
  | cons segment segments => nofun

theorem readEpoch_epochText (derivation : Derivation) :
    readEpoch derivation.epochText = (numeration derivation.epoch, derivation.releaseText) := by
  cases epoch : derivation.epoch with
  | none =>
    have whole : derivation.epochText = derivation.releaseText := by
      rw [epochText, epoch]
      rfl
    have ends := derivation.endsRelease_preText
    have left := derivation.segment.afterDigits_append
      (stopsNumeral_segmentsText ends.stops derivation.segments)
    rw [whole, readEpoch]
    split
    case h_1 marked =>
      rw [releaseText, left] at marked
      exact absurd (congrArg List.head? marked) (noMark_segmentsText ends.noMark _)
    case h_2 => rfl
  | some numeral =>
    have whole : derivation.epochText = numeral.digits ++ '!' :: derivation.releaseText := by
      rw [epochText, epoch, optionalText, List.append_assoc]
      rfl
    have stops : StopsNumeral ('!' :: derivation.releaseText) := Text.stopsRun_cons (by decide)
    have digits := numeral.leadingDigits_append stops
    have left := numeral.afterDigits_append stops
    obtain ⟨digit, more, first, -⟩ := numeral.exists_cons
    rw [whole, readEpoch, digits, left, numeration, optionalText, first]
    rfl

theorem skipMark_characters (derivation : Derivation) :
    skipMark derivation.characters = derivation.epochText := by
  cases mark : derivation.mark with
  | none =>
    have whole : derivation.characters = derivation.epochText := by
      rw [characters, mark]
      rfl
    have beginning (numeral : Numeral) (rest : List Char) :
        skipMark (numeral.digits ++ rest) = numeral.digits ++ rest := by
      obtain ⟨digit, more, first, decimal⟩ := numeral.exists_cons
      rw [first]
      refine if_neg ?_
      rw [Text.fold_of_isDigit decimal]
      rintro rfl
      exact absurd decimal (by decide)
    rw [whole, epochText]
    cases derivation.epoch with
    | none => exact beginning derivation.segment _
    | some epoch =>
      rw [optionalText, List.append_assoc]
      exact beginning epoch _
  | some found =>
    obtain ⟨letter, matched⟩ := found
    have whole : derivation.characters = letter :: derivation.epochText := by
      rw [characters, mark]
      rfl
    rw [whole, skipMark, if_pos ((Text.fold_eq_iff_matches (by decide)).2 matched)]

/-! ## The whole -/

/-- The parts of a derivation as the reader returns them. -/
def written (derivation : Derivation) : Written where
  epoch := numeration derivation.epoch
  release := derivation.segment.digits :: derivation.segments.map Numeral.digits
  pre := derivation.pre.map fun part => (part.meaning, numeration part.number)
  post := derivation.post.map fun post => numeration post.number
  dev := derivation.dev.map fun part => numeration part.number
  label := derivation.label.map Label.characters

/-- What a preferred derivation derives is read as it is derived. -/
theorem readWritten?_characters (preferred : derivation.Preferred) :
    readWritten? derivation.characters = some derivation.written := by
  obtain ⟨behindPre, pre, resumesPre, whole⟩ := readPre?_preText preferred
  obtain ⟨behindPost, post, resumesPost⟩ := readPost?_of_resumes resumesPre whole
  have dev := readDev?_of_resumes resumesPost
  have label : readLabel? derivation.labelText = some (derivation.label.map Label.characters) :=
    readLabel?_eq_some_iff.2 ⟨derivation.label, rfl, rfl⟩
  unfold readWritten?
  simp only [skipMark_characters, readEpoch_epochText, readRelease?_releaseText, pre, post, dev,
    label, bind, Option.bind]
  rfl

end Derivation

end ReleasePilot.Version.Grammar
