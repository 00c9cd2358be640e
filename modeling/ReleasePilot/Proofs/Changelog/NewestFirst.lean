import ReleasePilot.Proofs.Changelog.Insertion
import ReleasePilot.Proofs.Version.Canonical

/-!
# In which order sections stand

A section is inserted above the first underline, and an underline is three
dashes or more. The underline of a new section is as long as its header, so a
section with a header of one or two characters is passed over by the sections
that come after it. `insertAll_order_iff` says what becomes of any sequence of
sections: they stand newest first exactly when no header but the last is that
short.
-/

namespace ReleasePilot.Changelog

/-- Inserts sections one after the other, each into what the last one left. -/
def insertAll (path : String) (sections : List Section) (contents : String) :
    Except ReleaseError String :=
  sections.foldlM (fun contents entry => insert path entry contents) contents

/-- A section as a release makes it: it documents a version that was read from a
text, and each of its entries is one line with a bullet. -/
structure Section.IsRelease (entry : Section) : Prop where
  documents : ∃ text version, Version.parse text = .ok version ∧
    entry = Section.ofVersion version entry.entries
  bullets : ∀ item ∈ entry.entries, "- ".toList <+: item.toList ∧ '\n' ∉ item.toList

/-- A section under the canonical spelling of some text is one that a release makes. -/
theorem Section.isRelease_of_spelling (text : String) {header : String} {entries : List String}
    (spelled : (Version.ofText? text).map Version.text = some header)
    (bullets : ∀ item ∈ entries, "- ".toList <+: item.toList ∧ '\n' ∉ item.toList) :
    Section.IsRelease ⟨header, entries⟩ := by
  obtain ⟨version, read, rfl⟩ := Option.map_eq_some_iff.1 spelled
  exact ⟨⟨text, version, Version.parse_eq_ok_iff.2 read, rfl⟩, bullets⟩

namespace Section

/-- Whether the underline of a section is long enough to be known as one. -/
def isUnderlined (entry : Section) : Bool :=
  3 ≤ entry.header.length

/-- The bare lines of a section that a release makes. -/
def block (entry : Section) : List (List Char) :=
  [[], entry.header.toList, List.replicate entry.header.length '-', []] ++
    entry.entries.map fun item => Text.trimEnd isBreak item.toList

end Section

variable {entry other : Section}

theorem Section.IsRelease.canonical (release : entry.IsRelease) :
    ∃ version : Version, version.Canonical ∧ entry.header.toList = version.characters := by
  obtain ⟨text, version, parsed, same⟩ := release.documents
  refine ⟨version, Version.canonical_of_ofText? (Version.parse_eq_ok_iff.1 parsed), ?_⟩
  rw [same]
  exact String.toList_ofList

/-- A header is not blank and begins with a digit. -/
theorem Section.IsRelease.header_solid (release : entry.IsRelease) :
    (∀ character ∈ entry.header.toList, Text.isBlank character = false) ∧
      ∃ digit rest, entry.header.toList = digit :: rest ∧ digit.isDigit = true := by
  obtain ⟨version, canonical, header⟩ := release.canonical
  rw [header]
  exact ⟨fun character member =>
    (Version.isWrittenWith_of_mem_characters canonical member).isBlank_eq_false,
    Version.head?_characters canonical⟩

theorem Section.IsRelease.header_inLine (release : entry.IsRelease) :
    '\n' ∉ entry.header.toList := by
  intro member
  exact absurd (release.header_solid.1 '\n' member) (by decide)

/-- A release adds its block and nothing else. -/
theorem Section.IsRelease.insertedLines (release : entry.IsRelease) (below : List Line) :
    insertedLines entry below = entry.block := by
  rw [insertedLines_eq below release.header_inLine fun item member =>
    (release.bullets item member).2]
  have dashes : Text.trimEnd isBreak (List.replicate entry.header.length '-') =
      List.replicate entry.header.length '-' := by
    apply Text.trimEnd_eq_self
    intro character last
    rw [List.eq_of_mem_replicate (List.mem_of_mem_getLast? last)]
    decide
  have header := trimEnd_isBreak_eq_self release.header_solid.1
  have blank : Text.trimEnd isBreak [] = [] := rfl
  simp only [List.map_append, List.map_cons, List.map_nil, blank, header, dashes, List.map_map]
  rfl

/-! ## Which lines of a block are underlines -/

theorem isDashes_eq_false_of_short {content : List Char}
    (short : (content.takeWhile (· == '-')).length < 3) : isDashes content = false := by
  unfold isDashes
  rw [decide_eq_false (Nat.not_le.2 short), Bool.false_and]

theorem isDashes_of_digit {digit : Char} {rest : List Char} (isDigit : digit.isDigit = true) :
    isDashes (digit :: rest) = false := by
  have other : (digit == '-') = false := by
    rw [beq_eq_false_iff_ne]
    rintro rfl
    exact absurd isDigit (by decide)
  apply isDashes_eq_false_of_short
  rw [List.takeWhile_cons_of_neg (by simp [other])]
  decide

theorem isDashes_replicate (count : Nat) :
    isDashes (List.replicate count '-') = decide (3 ≤ count) := by
  unfold isDashes
  rw [List.takeWhile_replicate, List.dropWhile_replicate]
  simp

/-- A bullet is no underline, and neither is what is left of it. -/
theorem isDashes_of_bullet {content rest : List Char} (part : content <+: '-' :: ' ' :: rest) :
    isDashes content = false := by
  match content, part with
  | [], _ => rfl
  | [first], _ =>
    apply isDashes_eq_false_of_short
    have shorter := (List.takeWhile_sublist (l := [first]) (· == '-')).length_le
    rw [List.length_singleton] at shorter
    omega
  | first :: second :: more, part =>
    obtain ⟨rfl, tail⟩ := List.cons_prefix_cons.1 part
    obtain ⟨rfl, -⟩ := List.cons_prefix_cons.1 tail
    exact isDashes_eq_false_of_short (by simp)

theorem Section.IsRelease.isDashes_header (release : entry.IsRelease) :
    isDashes entry.header.toList = false := by
  obtain ⟨-, digit, rest, header, isDigit⟩ := release.header_solid
  rw [header]
  exact isDashes_of_digit isDigit

/-- The entries of a release, as they stand on their lines. -/
theorem Section.IsRelease.bullet (release : entry.IsRelease) {content : List Char}
    (member : content ∈ entry.entries.map fun item => Text.trimEnd isBreak item.toList) :
    ∃ rest, content <+: '-' :: ' ' :: rest := by
  obtain ⟨item, inside, rfl⟩ := List.mem_map.1 member
  obtain ⟨rest, spelled⟩ := (release.bullets item inside).1
  have part := Text.trimEnd_prefix isBreak item.toList
  exact ⟨rest, part.trans (spelled ▸ List.prefix_rfl)⟩

/-- A new section opens the changelog if its underline is one; if not, the
place for the next section is behind it. -/
theorem Section.IsRelease.insertionPoint (release : entry.IsRelease)
    {above below : List (List Char)} (point : InsertionPoint above below) :
    if entry.isUnderlined then InsertionPoint above (entry.block ++ below)
    else InsertionPoint (above ++ entry.block) below := by
  have header := release.isDashes_header
  have underline := isDashes_replicate entry.header.length
  by_cases underlined : 3 ≤ entry.header.length
  · rw [if_pos (by simpa [isUnderlined] using underlined)]
    refine ⟨point.noneAbove, _, _, _, _, rfl, rfl, header, ?_⟩
    rw [underline, decide_eq_true underlined]
  · rw [if_neg (by simpa [isUnderlined] using underlined)]
    refine ⟨fun content member => ?_, point.opening⟩
    simp only [block, List.mem_append, List.mem_cons, List.not_mem_nil, or_false] at member
    rcases member with earlier | (rfl | rfl | rfl | rfl) | item
    · exact point.noneAbove content earlier
    · rfl
    · exact header
    · rw [underline, decide_eq_false underlined]
    · rfl
    · obtain ⟨rest, part⟩ := release.bullet item
      exact isDashes_of_bullet part

/-- Of the headers of releases, only its own stands in the block of a section. -/
theorem Section.IsRelease.mem_block_iff (release : entry.IsRelease)
    (otherRelease : other.IsRelease) :
    other.header.toList ∈ entry.block ↔ other.header = entry.header := by
  obtain ⟨-, digit, rest, header, isDigit⟩ := otherRelease.header_solid
  have notDash : digit ≠ '-' := by
    rintro rfl
    exact absurd isDigit (by decide)
  simp only [block, List.mem_append, List.mem_cons, List.not_mem_nil, or_false]
  constructor
  · rintro ((empty | same | underline | empty) | item)
    · rw [header] at empty
      cases empty
    · exact String.toList_inj.1 same
    · rw [header] at underline
      exact absurd (List.eq_of_mem_replicate (underline ▸ List.mem_cons_self)) notDash
    · rw [header] at empty
      cases empty
    · obtain ⟨tail, part⟩ := release.bullet item
      rw [header] at part
      exact absurd (List.cons_prefix_cons.1 part).1 notDash
  · intro same
    exact .inl (.inr (.inl (congrArg String.toList same)))

/-! ## Whole histories -/

/-- The sections from the top down, after they were inserted in the given order:
each that is underlined goes above all that is there, and each other one goes
between the others and these. -/
def standing (sections : List Section) : List Section :=
  sections.filter (!·.isUnderlined) ++ (sections.filter (·.isUnderlined)).reverse

theorem standing_cons (entry : Section) (more : List Section) :
    standing (entry :: more) =
      if entry.isUnderlined then standing more ++ [entry] else entry :: standing more := by
  cases underlined : entry.isUnderlined <;> simp [standing, underlined]

/-- One section after the other is inserted, and each adds its block. -/
theorem bareLines_insertAll (path : String) {sections : List Section} {contents : String}
    {above below : List (List Char)} (releases : ∀ entry ∈ sections, entry.IsRelease)
    (distinct : (sections.map Section.header).Nodup)
    (unused : ∀ entry ∈ sections, entry.header.toList ∉ bareLines contents)
    (lines : bareLines contents = above ++ below) (point : InsertionPoint above below) :
    ∃ final, insertAll path sections contents = .ok final ∧
      bareLines final = above ++ (standing sections).flatMap Section.block ++ below := by
  induction sections generalizing contents above below with
  | nil => exact ⟨contents, rfl, by simpa [standing] using lines⟩
  | cons entry more inductionHypothesis =>
    obtain ⟨release, laterReleases⟩ := List.forall_mem_cons.1 releases
    obtain ⟨fresh, laterUnused⟩ := List.forall_mem_cons.1 unused
    rw [List.map_cons, List.nodup_cons] at distinct
    obtain ⟨result, added, inserted, after⟩ := insert_of_insertionPoint path lines point fresh
    rw [release.insertedLines] at after
    have stillUnused : ∀ later ∈ more, later.header.toList ∉ bareLines result := by
      intro later member occurs
      rw [after, List.append_assoc, List.mem_append, List.mem_append] at occurs
      have before := laterUnused later member
      rw [lines, List.mem_append, not_or] at before
      rcases occurs with inAbove | inBlock | inBelow
      · exact before.1 inAbove
      · have same := (release.mem_block_iff (laterReleases later member)).1 inBlock
        exact distinct.1 (same ▸ List.mem_map_of_mem member)
      · exact before.2 inBelow
    have next := release.insertionPoint point
    -- The later sections go above this one if it is underlined, and otherwise below it.
    obtain ⟨higher, lower, laterLines, laterPoint, ordered⟩ : ∃ higher lower,
        bareLines result = higher ++ lower ∧ InsertionPoint higher lower ∧
          higher ++ (standing more).flatMap Section.block ++ lower =
            above ++ (standing (entry :: more)).flatMap Section.block ++ below := by
      rw [standing_cons]
      cases underlined : entry.isUnderlined with
      | true =>
        rw [underlined, if_pos rfl] at next
        rw [List.append_assoc] at after
        exact ⟨_, _, after, next, by simp⟩
      | false =>
        rw [underlined, if_neg Bool.false_ne_true] at next
        exact ⟨_, _, after, next, by simp⟩
    obtain ⟨final, completed, finalLines⟩ :=
      inductionHypothesis laterReleases distinct.2 stillUnused laterLines laterPoint
    refine ⟨final, ?_, finalLines.trans ordered⟩
    rw [insertAll, List.foldlM_cons, inserted]
    exact completed

/-- The lines of a changelog from its first section on: the line above the
header, the header, its underline and all that follows. -/
def fromFirstSection (contents : String) : List (List Char) :=
  (bareLines contents).drop ((bareLines contents).findIdx isDashes - 2)

theorem InsertionPoint.below_eq {contents : String} {above below : List (List Char)}
    (point : InsertionPoint above below) (lines : bareLines contents = above ++ below) :
    below = fromFirstSection contents := by
  obtain ⟨blank, header, underline, rest, rfl, plainBlank, plainHeader, dashes⟩ := point.opening
  have found : (bareLines contents).findIdx? isDashes = some (above.length + 2) := by
    refine findIdx?_eq_some_iff_append.2
      ⟨above ++ [blank, header], underline, rest, by simp [lines], by simp, ?_, dashes⟩
    intro content member
    simp only [List.mem_append, List.mem_cons, List.not_mem_nil, or_false] at member
    rcases member with earlier | rfl | rfl
    · exact point.noneAbove content earlier
    · exact plainBlank
    · exact plainHeader
  obtain ⟨-, index⟩ := List.findIdx?_eq_some_iff_findIdx_eq.1 found
  rw [fromFirstSection, index, Nat.add_sub_cancel, lines, List.drop_left]

/-- The headers of some sections that stand on lines of their own, from the top. -/
def headersAmong (sections : List Section) (lines : List (List Char)) : List String :=
  (lines.map String.ofList).filter (· ∈ sections.map Section.header)

theorem headersAmong_append (sections : List Section) (first second : List (List Char)) :
    headersAmong sections (first ++ second) =
      headersAmong sections first ++ headersAmong sections second := by
  simp [headersAmong]

theorem headersAmong_eq_nil {sections : List Section} {lines : List (List Char)}
    (unused : ∀ entry ∈ sections, entry.header.toList ∉ lines) :
    headersAmong sections lines = [] := by
  rw [headersAmong, List.filter_eq_nil_iff]
  intro line member header
  obtain ⟨content, inside, rfl⟩ := List.mem_map.1 member
  obtain ⟨entry, among, same⟩ := List.mem_map.1 (of_decide_eq_true header)
  apply unused entry among
  rwa [same, String.toList_ofList]

/-- The block of a section shows its own header once and no other. -/
theorem headersAmong_block {sections : List Section}
    (releases : ∀ entry ∈ sections, entry.IsRelease) (member : entry ∈ sections) :
    headersAmong sections entry.block = [entry.header] := by
  have release := releases entry member
  have noHeader {lines : List (List Char)}
      (plain : ∀ content ∈ lines, content = [] ∨ ∃ rest, content = '-' :: rest) :
      headersAmong sections lines = [] := by
    refine headersAmong_eq_nil fun other among occurs => ?_
    obtain ⟨-, digit, rest, header, isDigit⟩ := (releases other among).header_solid
    rw [header] at occurs
    rcases plain _ occurs with impossible | ⟨tail, dash⟩
    · cases impossible
    · obtain ⟨rfl, -⟩ := List.cons.inj dash
      exact absurd isDigit (by decide)
  have own : headersAmong sections [entry.header.toList] = [entry.header] := by
    simpa [headersAmong] using ⟨entry, member, rfl⟩
  have around : entry.block = [[]] ++ ([entry.header.toList] ++
      ([List.replicate entry.header.length '-', []] ++
        entry.entries.map fun item => Text.trimEnd isBreak item.toList)) := rfl
  rw [around, headersAmong_append, headersAmong_append, own, noHeader (by simp), noHeader]
  · rfl
  · intro content inside
    simp only [List.mem_append, List.mem_cons, List.not_mem_nil, or_false] at inside
    rcases inside with (rfl | rfl) | item
    · cases entry.header.length with
      | zero => exact .inl rfl
      | succ count => exact .inr ⟨_, rfl⟩
    · exact .inl rfl
    · obtain ⟨rest, part⟩ := release.bullet item
      match content, part with
      | [], _ => exact .inl rfl
      | first :: tail, part =>
        obtain ⟨rfl, -⟩ := List.cons_prefix_cons.1 part
        exact .inr ⟨tail, rfl⟩

theorem headersAmong_blocks {sections among : List Section}
    (releases : ∀ entry ∈ sections, entry.IsRelease)
    (included : ∀ entry ∈ among, entry ∈ sections) :
    headersAmong sections (among.flatMap Section.block) = among.map Section.header := by
  induction among with
  | nil => rfl
  | cons entry more inductionHypothesis =>
    obtain ⟨member, others⟩ := List.forall_mem_cons.1 included
    rw [List.flatMap_cons, headersAmong_append, headersAmong_block releases member,
      inductionHypothesis others]
    rfl

theorem mem_standing {sections : List Section} (member : entry ∈ standing sections) :
    entry ∈ sections := by
  simp only [standing, List.mem_append, List.mem_filter, List.mem_reverse] at member
  rcases member with ⟨inside, -⟩ | ⟨inside, -⟩ <;> exact inside

/-- A section that is not underlined is passed over by the next one, so that
only the last may be such for the newest to stand first. -/
theorem standing_eq_reverse_iff {sections : List Section}
    (distinct : (sections.map Section.header).Nodup) :
    (standing sections).map Section.header = (sections.map Section.header).reverse ↔
      ∀ entry ∈ sections.dropLast, entry.isUnderlined = true := by
  rcases List.eq_nil_or_concat sections with rfl | ⟨earlier, last, rfl⟩
  · simp [standing]
  rw [List.concat_eq_append] at distinct ⊢
  rw [List.dropLast_concat]
  constructor
  · intro newestFirst
    by_contra notAll
    -- The topmost section is one that is passed over, and so it is not the last.
    have passedOver : earlier.filter (!·.isUnderlined) ≠ [] := by
      intro none
      apply notAll
      intro entry member
      simpa using List.filter_eq_nil_iff.1 none entry member
    obtain ⟨top, others, tops⟩ := List.exists_cons_of_ne_nil passedOver
    have topEarlier : top ∈ earlier := List.mem_of_mem_filter (tops ▸ List.mem_cons_self)
    have heads := congrArg List.head? newestFirst
    rw [standing, List.filter_append, tops] at heads
    simp only [List.cons_append, List.map_cons, List.map_append, List.reverse_append,
      List.map_nil, List.reverse_cons, List.reverse_nil, List.nil_append, List.head?_cons,
      Option.some.injEq] at heads
    rw [List.map_append, List.nodup_append] at distinct
    exact distinct.2.2 _ (List.mem_map_of_mem topEarlier) _ (List.mem_singleton_self _) heads
  · intro allUnderlined
    have none : earlier.filter (!·.isUnderlined) = [] :=
      List.filter_eq_nil_iff.2 fun entry member => by simp [allUnderlined entry member]
    have all : earlier.filter (·.isUnderlined) = earlier := List.filter_eq_self.2 allUnderlined
    rw [standing, List.filter_append, List.filter_append, none, all]
    cases underlined : last.isUnderlined <;> simp [underlined]

/-- Sections that are inserted one after the other always find a place, above
the section that was the first of the changelog. They stand newest first there
exactly if every header but the last is of three characters or more: the
underline of a shorter one is not known as an underline. -/
theorem insertAll_order_iff (path : String) {contents : String} {first : Section}
    {more : List Section} (releases : ∀ entry ∈ first :: more, entry.IsRelease)
    (distinct : ((first :: more).map Section.header).Nodup)
    (unused : ∀ entry ∈ first :: more, entry.header.toList ∉ bareLines contents)
    (opened : ∃ result, insert path first contents = .ok result) :
    ∃ final above, insertAll path (first :: more) contents = .ok final ∧
      bareLines final = above ++ fromFirstSection contents ∧
      headersAmong (first :: more) above = (standing (first :: more)).map Section.header ∧
      (headersAmong (first :: more) above = ((first :: more).map Section.header).reverse ↔
        ∀ entry ∈ (first :: more).dropLast, 3 ≤ entry.header.length) := by
  obtain ⟨result, inserted⟩ := opened
  obtain ⟨-, above, below, -, lines, point, -⟩ := bareLines_of_insert inserted
  obtain ⟨final, completed, finalLines⟩ :=
    bareLines_insertAll path releases distinct unused lines point
  have order : headersAmong (first :: more)
      (above ++ (standing (first :: more)).flatMap Section.block) =
      (standing (first :: more)).map Section.header := by
    have untouched : headersAmong (first :: more) above = [] :=
      headersAmong_eq_nil fun entry member occurs =>
        unused entry member (lines ▸ List.mem_append_left _ occurs)
    rw [headersAmong_append, untouched, headersAmong_blocks releases fun entry => mem_standing]
    rfl
  refine ⟨final, _, completed, ?_, order, ?_⟩
  · rw [finalLines, point.below_eq lines]
  · rw [order, standing_eq_reverse_iff distinct]
    simp [Section.isUnderlined]

/-- Two releases whose headers are single digits end up oldest first. -/
theorem insertAll_order_of_digits :
    ∃ final above,
      insertAll "CHANGELOG.rst" [⟨"1", ["- First"]⟩, ⟨"2", ["- Second"]⟩]
        "Changelog\n=========\n\n0.9\n---\n\n- Old\n" = .ok final ∧
      bareLines final = above ++
        fromFirstSection "Changelog\n=========\n\n0.9\n---\n\n- Old\n" ∧
      headersAmong [⟨"1", ["- First"]⟩, ⟨"2", ["- Second"]⟩] above = ["1", "2"] ∧
      headersAmong [⟨"1", ["- First"]⟩, ⟨"2", ["- Second"]⟩] above ≠ ["1", "2"].reverse := by
  have one : Section.IsRelease ⟨"1", ["- First"]⟩ :=
    Section.isRelease_of_spelling "1" (by decide +kernel) (by decide)
  have two : Section.IsRelease ⟨"2", ["- Second"]⟩ :=
    Section.isRelease_of_spelling "2" (by decide +kernel) (by decide)
  have releases : ∀ entry ∈ [(⟨"1", ["- First"]⟩ : Section), ⟨"2", ["- Second"]⟩],
      entry.IsRelease := by
    simp [one, two]
  have unused : ∀ entry ∈ [(⟨"1", ["- First"]⟩ : Section), ⟨"2", ["- Second"]⟩],
      entry.header.toList ∉ bareLines "Changelog\n=========\n\n0.9\n---\n\n- Old\n" := by
    decide +kernel
  have opened : ∃ result, insert "CHANGELOG.rst" ⟨"1", ["- First"]⟩
      "Changelog\n=========\n\n0.9\n---\n\n- Old\n" = .ok result := ⟨_, rfl⟩
  obtain ⟨final, above, completed, lines, order, newestFirst⟩ :=
    insertAll_order_iff "CHANGELOG.rst" releases (by decide) unused opened
  refine ⟨final, above, completed, lines, order, fun reversed => ?_⟩
  exact absurd (newestFirst.1 reversed) (by decide)

end ReleasePilot.Changelog
