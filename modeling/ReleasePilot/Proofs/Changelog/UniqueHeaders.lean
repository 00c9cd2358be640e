import Mathlib.Data.List.Count
import ReleasePilot.Proofs.Changelog.NewestFirst
import ReleasePilot.Proofs.Changelog.Placement

/-!
# How often a version is a header

The block of a section shows the section's own version once and no other version,
so that an insertion adds one to the count of one header (`headerCount_of_insert`) and
a sequence of insertions adds one for each of its sections (`headerCount_of_insertAll`).
As a section is refused whose header is there already, no header comes to stand twice
(`headersUnique_of_insertAll`).
-/

namespace ReleasePilot.Changelog

/-- How many lines of a changelog are some header, whatever characters end them. -/
def headerCount (header contents : String) : Nat :=
  (bareLines contents).count header.toList

/-- The text of a version that was read from some spelling. -/
def IsVersionText (header : String) : Prop :=
  ∃ text version, Version.parse text = .ok version ∧ header = version.text

/-- No version is more than one line of a changelog. -/
def HeadersUnique (contents : String) : Prop :=
  ∀ header, IsVersionText header → headerCount header contents ≤ 1

theorem headerCount_eq_zero_iff {header contents : String} :
    headerCount header contents = 0 ↔ header.toList ∉ bareLines contents :=
  List.count_eq_zero

variable {path header contents changed final : String} {entry : Section} {sections : List Section}

theorem Section.IsRelease.isVersionText (release : entry.IsRelease) :
    IsVersionText entry.header := by
  obtain ⟨text, version, read, same⟩ := release.documents
  exact ⟨text, version, read, congrArg Section.header same⟩

/-- The block of a section shows its own header once and no other. -/
theorem Section.IsRelease.count_block (release : entry.IsRelease)
    (isVersion : IsVersionText header) :
    entry.block.count header.toList = if header = entry.header then 1 else 0 := by
  obtain ⟨text, version, read, rfl⟩ := isVersion
  let other := Section.ofVersion version []
  have otherRelease : other.IsRelease := ⟨⟨text, version, read, rfl⟩, nofun⟩
  have releases : ∀ item ∈ [entry, other], item.IsRelease := by
    simp [release, otherRelease]
  have shown := headersAmong_block releases List.mem_cons_self
  have among : decide (version.text ∈ [entry, other].map Section.header) = true := by
    simp [other, Section.ofVersion]
  calc entry.block.count version.text.toList
      = (entry.block.map String.ofList).count (String.ofList version.text.toList) :=
        (List.count_map_of_injective _ _ (fun _ _ => String.ofList_injective) _).symm
    _ = (entry.block.map String.ofList).count version.text := by rw [String.ofList_toList]
    _ = (headersAmong [entry, other] entry.block).count version.text :=
        (List.count_filter (p := (· ∈ [entry, other].map Section.header)) among).symm
    _ = if version.text = entry.header then 1 else 0 := by
        rw [shown, List.count_singleton]
        simp only [beq_iff_eq, eq_comm (a := entry.header)]

/-! ## One insertion -/

/-- Inserting a section adds one to the count of its header and leaves the others alone. -/
theorem headerCount_of_insert (release : entry.IsRelease)
    (inserted : insert path entry contents = .ok changed) (isVersion : IsVersionText header) :
    headerCount header changed =
      headerCount header contents + if header = entry.header then 1 else 0 := by
  obtain ⟨-, above, below, lines, before, -, after⟩ := bareLines_of_insert inserted
  rw [headerCount, headerCount, before, after, release.insertedLines, List.count_append,
    List.count_append, List.count_append, release.count_block isVersion]
  omega

/-- An insertion finds its header on no line. -/
theorem headerCount_eq_zero_of_insert (inserted : insert path entry contents = .ok changed) :
    headerCount entry.header contents = 0 :=
  headerCount_eq_zero_iff.2 (bareLines_of_insert inserted).1

theorem headerCount_inserted (release : entry.IsRelease)
    (inserted : insert path entry contents = .ok changed) : headerCount entry.header changed = 1 := by
  rw [headerCount_of_insert release inserted release.isVersionText, if_pos rfl,
    headerCount_eq_zero_of_insert inserted]

theorem headersUnique_of_insert (release : entry.IsRelease)
    (inserted : insert path entry contents = .ok changed) (unique : HeadersUnique contents) :
    HeadersUnique changed := by
  intro header isVersion
  by_cases same : header = entry.header
  · exact same ▸ Nat.le_of_eq (headerCount_inserted release inserted)
  · rw [headerCount_of_insert release inserted isVersion, if_neg same]
    exact unique header isVersion

/-- A header that stands on one line stays on one line, as its section is refused. -/
theorem headerCount_eq_one_of_insert (release : entry.IsRelease)
    (inserted : insert path entry contents = .ok changed) (isVersion : IsVersionText header)
    (once : headerCount header contents = 1) : headerCount header changed = 1 := by
  have other : header ≠ entry.header := by
    rintro rfl
    rw [headerCount_eq_zero_of_insert inserted] at once
    cases once
  rw [headerCount_of_insert release inserted isVersion, if_neg other, once]

/-! ## Sequences of insertions -/

theorem insertAll_cons_eq_ok_iff :
    insertAll path (entry :: sections) contents = .ok final ↔
      ∃ between, insert path entry contents = .ok between ∧
        insertAll path sections between = .ok final := by
  rw [insertAll, List.foldlM_cons]
  cases insert path entry contents with
  | error cause => simp [bind, Except.bind]
  | ok between => simp [bind, Except.bind, insertAll]

/-- What every insertion keeps, a sequence of them keeps. -/
theorem of_insertAll {holds : String → Prop}
    (kept : ∀ entry ∈ sections, ∀ before after, insert path entry before = .ok after →
      holds before → holds after)
    (inserted : insertAll path sections contents = .ok final) (start : holds contents) :
    holds final := by
  induction sections generalizing contents with
  | nil =>
    cases inserted
    exact start
  | cons entry more inductionHypothesis =>
    obtain ⟨first, others⟩ := List.forall_mem_cons.1 kept
    obtain ⟨between, firstInserted, later⟩ := insertAll_cons_eq_ok_iff.1 inserted
    exact inductionHypothesis others later (first contents between firstInserted start)

/-- A sequence of insertions adds one to a header's count for each section under it. -/
theorem headerCount_of_insertAll (releases : ∀ entry ∈ sections, entry.IsRelease)
    (inserted : insertAll path sections contents = .ok final) (isVersion : IsVersionText header) :
    headerCount header final =
      headerCount header contents + (sections.map Section.header).count header := by
  induction sections generalizing contents with
  | nil =>
    cases inserted
    rfl
  | cons entry more inductionHypothesis =>
    obtain ⟨release, others⟩ := List.forall_mem_cons.1 releases
    obtain ⟨between, first, later⟩ := insertAll_cons_eq_ok_iff.1 inserted
    rw [inductionHypothesis others later, headerCount_of_insert release first isVersion,
      List.map_cons, List.count_cons]
    simp only [beq_iff_eq, eq_comm (a := entry.header)]
    omega

theorem headersUnique_of_insertAll (releases : ∀ entry ∈ sections, entry.IsRelease)
    (inserted : insertAll path sections contents = .ok final) (unique : HeadersUnique contents) :
    HeadersUnique final :=
  of_insertAll (fun entry member _ _ step => headersUnique_of_insert (releases entry member) step)
    inserted unique

theorem headerCount_eq_one_of_insertAll (releases : ∀ entry ∈ sections, entry.IsRelease)
    (inserted : insertAll path sections contents = .ok final) (isVersion : IsVersionText header)
    (once : headerCount header contents = 1) : headerCount header final = 1 :=
  of_insertAll
    (fun entry member _ _ step =>
      headerCount_eq_one_of_insert (releases entry member) step isVersion)
    inserted once

/-- The header of each section of a sequence stands on exactly one line in the end. -/
theorem headerCount_of_mem (releases : ∀ entry ∈ sections, entry.IsRelease)
    (inserted : insertAll path sections contents = .ok final) (member : entry ∈ sections) :
    headerCount entry.header final = 1 := by
  induction sections generalizing contents with
  | nil => cases member
  | cons first more inductionHypothesis =>
    obtain ⟨release, others⟩ := List.forall_mem_cons.1 releases
    obtain ⟨between, firstInserted, later⟩ := insertAll_cons_eq_ok_iff.1 inserted
    rcases List.mem_cons.1 member with rfl | among
    · exact headerCount_eq_one_of_insertAll others later release.isVersionText
        (headerCount_inserted release firstInserted)
    · exact inductionHypothesis others later among

/-- A version is the header of one section at most: an insertion adds one line that is its
own version and none that is another, a sequence of insertions adds one for each of its
sections and lets no version stand twice that did not do so before, and a version that is
there already is refused. -/
theorem header_inserted_once (path contents : String) :
    (∀ (entry : Section) (changed : String), entry.IsRelease →
      insert path entry contents = .ok changed →
        (∀ text version, Version.parse text = .ok version →
          headerCount version.text changed = headerCount version.text contents +
            if version.text = entry.header then 1 else 0) ∧
        headerCount entry.header changed = 1) ∧
    (∀ (sections : List Section) (final : String), (∀ entry ∈ sections, entry.IsRelease) →
      insertAll path sections contents = .ok final →
        (∀ text version, Version.parse text = .ok version →
          headerCount version.text final = headerCount version.text contents +
            (sections.map Section.header).count version.text) ∧
        (HeadersUnique contents → HeadersUnique final) ∧
        ∀ entry ∈ sections, headerCount entry.header final = 1) ∧
    ∀ entry : Section, 0 < headerCount entry.header contents →
      insert path entry contents = .error (.duplicateTag entry.header) := by
  refine ⟨fun entry changed release inserted => ⟨?_, ?_⟩, ?_, fun entry present => ?_⟩
  · intro text version read
    exact headerCount_of_insert release inserted ⟨text, version, read, rfl⟩
  · exact headerCount_inserted release inserted
  · intro sections final releases inserted
    refine ⟨fun text version read => ?_, headersUnique_of_insertAll releases inserted,
      fun entry member => headerCount_of_mem releases inserted member⟩
    exact headerCount_of_insertAll releases inserted ⟨text, version, read, rfl⟩
  · exact insert_of_header (List.count_pos_iff.1 present)

/-- Two releases after a first one, and the first of them once more. -/
theorem header_inserted_once_again :
    ∃ final, insertAll "CHANGELOG.rst" [⟨"1.3.0", ["- Second"]⟩, ⟨"1.4.0", ["- Third"]⟩]
        "Changelog\n=========\n\n1.2.3\n-----\n- First\n" = .ok final ∧
      HeadersUnique final ∧ headerCount "1.3.0" final = 1 ∧
      insert "CHANGELOG.rst" ⟨"1.3.0", ["- Again"]⟩ final = .error (.duplicateTag "1.3.0") := by
  have second : Section.IsRelease ⟨"1.3.0", ["- Second"]⟩ :=
    Section.isRelease_of_spelling "1.3.0" (by decide +kernel) (by decide)
  have third : Section.IsRelease ⟨"1.4.0", ["- Third"]⟩ :=
    Section.isRelease_of_spelling "1.4.0" (by decide +kernel) (by decide)
  have releases : ∀ entry ∈ [(⟨"1.3.0", ["- Second"]⟩ : Section), ⟨"1.4.0", ["- Third"]⟩],
      entry.IsRelease := by
    simp [second, third]
  have distinct : (bareLines "Changelog\n=========\n\n1.2.3\n-----\n- First\n").Nodup := by
    decide +kernel
  obtain ⟨-, sequences, -⟩ := header_inserted_once "CHANGELOG.rst"
    "Changelog\n=========\n\n1.2.3\n-----\n- First\n"
  obtain ⟨-, unique, once⟩ := sequences _ _ releases rfl
  have stands := once _ List.mem_cons_self
  obtain ⟨-, -, refused⟩ := header_inserted_once "CHANGELOG.rst" _
  refine ⟨_, rfl, unique fun header _ => List.nodup_iff_count.1 distinct _, stands, ?_⟩
  exact refused ⟨"1.3.0", ["- Again"]⟩ (Nat.lt_of_lt_of_eq Nat.zero_lt_one stands.symm)

end ReleasePilot.Changelog
