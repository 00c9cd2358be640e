import ReleasePilot.Proofs.Version.Recognition

/-!
# Deriving what is read

Whatever the reader takes from a text is a part of the grammar in front of the rest.
Put together, the parts derive the whole text (`exists_of_readWritten?`). The reader
never leaves a separator behind a bare name, so that the derivation is preferred.
-/

namespace ReleasePilot.Version.Grammar

theorem exists_of_skipMark (text : List Char) :
    ∃ mark : Option { character // Text.Matches 'v' character },
      text = optionalText (fun mark => [mark.1]) mark ++ skipMark text := by
  cases text with
  | nil => exact ⟨none, rfl⟩
  | cons character rest =>
    by_cases folded : Text.fold character = 'v'
    · have matched := (Text.fold_eq_iff_matches (by decide)).1 folded
      refine ⟨some ⟨character, matched⟩, ?_⟩
      rw [skipMark, if_pos folded]
      rfl
    · refine ⟨none, ?_⟩
      rw [skipMark, if_neg folded]
      rfl

/-- Digits that are read make up a numeral in front of the rest. -/
theorem exists_of_leadingDigits {text digits : List Char} (read : leadingDigits text = digits)
    (nonempty : digits ≠ []) :
    ∃ numeral : Numeral, numeral.digits = digits ∧ text = numeral.digits ++ afterDigits text := by
  have undivided := leadingDigits_append_afterDigits text
  obtain ⟨number, written⟩ := exists_numeration text
  rw [read] at written
  cases number with
  | none => exact absurd written.symm nonempty
  | some numeral =>
    change numeral.digits = digits at written
    refine ⟨numeral, written, ?_⟩
    rw [written, ← read, undivided]

theorem exists_of_readEpoch {text epoch rest : List Char} (read : readEpoch text = (epoch, rest)) :
    ∃ number, numeration number = epoch ∧
      text = optionalText (fun number => number.digits ++ ['!']) number ++ rest := by
  unfold readEpoch at read
  split at read
  case h_1 digit digits after digits_eq after_eq =>
    obtain ⟨rfl, rfl⟩ := Prod.mk.inj read
    obtain ⟨numeral, written, whole⟩ := exists_of_leadingDigits digits_eq (List.cons_ne_nil _ _)
    refine ⟨some numeral, written, ?_⟩
    rw [after_eq] at whole
    rw [whole, optionalText, List.append_assoc]
    rfl
  case h_2 =>
    obtain ⟨rfl, rfl⟩ := Prod.mk.inj read
    exact ⟨none, rfl, rfl⟩

theorem exists_of_readSegments (text : List Char) :
    ∃ segments : List Numeral, segments.map Numeral.digits = (readSegments text).1 ∧
      text = Derivation.segmentsText segments ++ (readSegments text).2 := by
  fun_induction readSegments text with
  | case1 rest none => exact ⟨[], rfl, rfl⟩
  | case2 rest digit digits found segments after read inductionHypothesis =>
    obtain ⟨numeral, written, whole⟩ := exists_of_leadingDigits found (List.cons_ne_nil _ _)
    obtain ⟨others, others_eq, others_whole⟩ := inductionHypothesis
    rw [read] at others_eq others_whole
    refine ⟨numeral :: others, ?_, ?_⟩
    · rw [List.map_cons, written, others_eq]
    · have separated : Derivation.segmentsText (numeral :: others) =
          '.' :: (numeral.digits ++ Derivation.segmentsText others) := by
        simp [Derivation.segmentsText]
      rw [separated, List.cons_append, List.append_assoc, ← others_whole, ← whole]
  | case3 => exact ⟨[], rfl, rfl⟩

theorem exists_of_readRelease? {text rest : List Char} {release : List (List Char)}
    (read : readRelease? text = some (release, rest)) :
    ∃ (segment : Numeral) (segments : List Numeral),
      segment.digits :: segments.map Numeral.digits = release ∧
        text = segment.digits ++ (Derivation.segmentsText segments ++ rest) := by
  unfold readRelease? at read
  split at read
  case h_1 => cases read
  case h_2 digit digits found =>
    obtain ⟨segment, written, whole⟩ := exists_of_leadingDigits found (List.cons_ne_nil _ _)
    obtain ⟨segments, segments_eq, segments_whole⟩ := exists_of_readSegments (afterDigits text)
    cases read
    refine ⟨segment, segments, ?_, ?_⟩
    · rw [written, segments_eq]
    · rw [← segments_whole, ← whole]

theorem exists_of_readPre? {text rest : List Char} {pre : Option (Phase × List Char)}
    (read : readOptional readPre? text = (pre, rest)) :
    ∃ part : Option (Named NamesPhase),
      part.map (fun part => (part.meaning, numeration part.number)) = pre ∧
        text = optionalText Named.characters part ++ rest ∧
        ∀ found, part = some found → found.IsBare → Text.StopsRun isSeparator rest := by
  unfold readOptional at read
  split at read
  case h_1 found =>
    cases read
    obtain ⟨part, meaning, number, whole, bare⟩ := Named.exists_of_readNamed? lists_phases found
    refine ⟨some part, ?_, whole, ?_⟩
    · rw [Option.map_some, meaning, number]
    · rintro _ ⟨⟩
      exact bare
  case h_2 =>
    cases read
    exact ⟨none, rfl, rfl, nofun⟩

/-- A part that is read for its number alone. -/
theorem exists_of_readNamed?_map {names : List (String × Unit)} {Names : String → Unit → Prop}
    {extending : List Char} (table : Lists names Names extending) {text digits rest : List Char}
    (read : (readNamed? names text).map (fun (((), digits), rest) => (digits, rest)) =
      some (digits, rest)) :
    ∃ part : Named Names, numeration part.number = digits ∧ text = part.characters ++ rest := by
  obtain ⟨⟨⟨⟨⟩, found⟩, behind⟩, named, same⟩ := Option.map_eq_some_iff.1 read
  cases same
  obtain ⟨part, -, number, whole, -⟩ := Named.exists_of_readNamed? table named
  exact ⟨part, number, whole⟩

theorem exists_of_readPost? {text rest : List Char} {post : Option (List Char)}
    (read : readOptional readPost? text = (post, rest)) :
    ∃ part : Option Post, part.map (fun part => numeration part.number) = post ∧
      text = optionalText Post.characters part ++ rest := by
  unfold readOptional at read
  split at read
  case h_2 =>
    cases read
    exact ⟨none, rfl, rfl⟩
  case h_1 digits behind found =>
    cases read
    have byName (read : readPost?.namedPost text = some (digits, rest)) :
        ∃ part : Option Post, part.map (fun part => numeration part.number) = some digits ∧
          text = optionalText Post.characters part ++ rest := by
      obtain ⟨part, number, whole⟩ := exists_of_readNamed?_map lists_posts read
      exact ⟨some (.named part), congrArg some number, whole⟩
    unfold readPost? at found
    split at found
    case h_2 => exact byName found
    case h_1 digit more =>
      split at found
      case isFalse => exact byName found
      case isTrue decimal =>
        cases found
        have nonempty : leadingDigits (digit :: more) ≠ [] := by
          rw [leadingDigits, List.takeWhile_cons_of_pos decimal]
          exact List.cons_ne_nil _ _
        obtain ⟨number, written, whole⟩ := exists_of_leadingDigits rfl nonempty
        refine ⟨some (.implicit number), congrArg some written, ?_⟩
        exact congrArg ('-' :: ·) whole

theorem exists_of_readDev? {text rest : List Char} {dev : Option (List Char)}
    (read : readOptional readDev? text = (dev, rest)) :
    ∃ part : Option (Named NamesDev), part.map (fun part => numeration part.number) = dev ∧
      text = optionalText Named.characters part ++ rest := by
  unfold readOptional at read
  split at read
  case h_1 found =>
    cases read
    obtain ⟨part, number, whole⟩ := exists_of_readNamed?_map lists_devs found
    exact ⟨some part, congrArg some number, whole⟩
  case h_2 =>
    cases read
    exact ⟨none, rfl, rfl⟩

/-- What is read as a version is derived, with the hyphen behind a bare pre-release
taken as the reader takes it. -/
theorem exists_of_readWritten? {text : List Char} {written : Written}
    (read : readWritten? text = some written) :
    ∃ derivation : Derivation, derivation.characters = text ∧ derivation.Preferred ∧
      derivation.written = written := by
  unfold readWritten? at read
  generalize epochRead : readEpoch (skipMark text) = epochPart at read
  obtain ⟨epochDigits, behindEpoch⟩ := epochPart
  obtain ⟨⟨release, behindRelease⟩, releaseRead, read⟩ := Option.bind_eq_some_iff.1 read
  dsimp only at read
  generalize preRead : readOptional readPre? behindRelease = prePart at read
  obtain ⟨preFound, behindPre⟩ := prePart
  generalize postRead : readOptional readPost? behindPre = postPart at read
  obtain ⟨postDigits, behindPost⟩ := postPart
  generalize devRead : readOptional readDev? behindPost = devPart at read
  obtain ⟨devDigits, behindDev⟩ := devPart
  obtain ⟨labelFound, labelRead, read⟩ := Option.bind_eq_some_iff.1 read
  obtain ⟨mark, whole⟩ := exists_of_skipMark text
  obtain ⟨epoch, rfl, epochWhole⟩ := exists_of_readEpoch epochRead
  obtain ⟨segment, segments, rfl, releaseWhole⟩ := exists_of_readRelease? releaseRead
  obtain ⟨pre, rfl, preWhole, bare⟩ := exists_of_readPre? preRead
  obtain ⟨post, rfl, postWhole⟩ := exists_of_readPost? postRead
  obtain ⟨dev, rfl, devWhole⟩ := exists_of_readDev? devRead
  obtain ⟨label, rfl, labelWhole⟩ := readLabel?_eq_some_iff.1 labelRead
  refine ⟨⟨mark, epoch, segment, segments, pre, post, dev, label⟩, ?_, ?_, Option.some.inj read⟩
  · change optionalText _ mark ++ (optionalText _ epoch ++ (segment.digits ++
      (Derivation.segmentsText segments ++ (optionalText _ pre ++ (optionalText _ post ++
        (optionalText _ dev ++ optionalText _ label)))))) = text
    rw [← labelWhole, ← devWhole, ← postWhole, ← preWhole, ← releaseWhole, ← epochWhole, ← whole]
  · -- Behind a bare name the reader has skipped every separator.
    rintro found number rfl rfl isBare
    have hyphen := bare found rfl isBare '-' (congrArg List.head? postWhole)
    exact absurd hyphen (by decide)

end ReleasePilot.Version.Grammar
