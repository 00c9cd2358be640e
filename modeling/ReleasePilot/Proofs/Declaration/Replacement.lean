import ReleasePilot.Proofs.Declaration.Agreement
import ReleasePilot.Proofs.Text.Places

/-!
# What becomes of a file whose version is set

The one line that declares a version is replaced, and what stands above and below it
stays as it is; without such a line, or with several, nothing is set (`Outcome`). The
outcomes are described by where lines stand and what form they have, without the splitter
and the reader; `set_eq_iff_outcome` says that setting a version has these outcomes.
-/

namespace ReleasePilot.Declaration

/-- The blanks in front of the name on a line that declares a version. A name that begins
with blanks itself may be found in several places, and then they are as many as can be. -/
structure IsIndent (identifier indent line : List Char) : Prop where
  fits : ∃ value, Form identifier { indent, value } line
  longest : ∀ other value, Form identifier { indent := other, value } line →
    other.length ≤ indent.length

/-- The one line of a text that declares a version. -/
structure IsOnlyDeclaration (identifier above line below text : List Char) : Prop where
  stands : Line.StandsBetween above line below text
  declares : Declares identifier line
  only : ∀ higher other lower, Line.StandsBetween higher other lower text →
    Declares identifier other → higher = above

/-- What setting a version comes to. -/
inductive Outcome (path identifier : String) (version : Version) (text : List Char) :
    Except ReleaseError String → Prop where
  | undeclared
      (none : ∀ above line below, Line.StandsBetween above line below text →
        ¬Declares identifier.toList line) :
      Outcome path identifier version text (.error (.versionNotFound path identifier))
  | ambiguous {above line below higher other lower : List Char}
      (stands : Line.StandsBetween above line below text)
      (declares : Declares identifier.toList line)
      (otherStands : Line.StandsBetween higher other lower text)
      (otherDeclares : Declares identifier.toList other) (different : higher ≠ above) :
      Outcome path identifier version text (.error (.ambiguousVersion path identifier))
  | replaced {above line below indent : List Char}
      (only : IsOnlyDeclaration identifier.toList above line below text)
      (indented : IsIndent identifier.toList indent line) :
      Outcome path identifier version text (.ok (String.ofList
        (above ++ (indent ++ identifier.toList ++ assignment version ++ Line.terminator line) ++
          below)))

/-! ## The indent -/

theorem IsIndent.unique {identifier indent other line : List Char}
    (first : IsIndent identifier indent line) (second : IsIndent identifier other line) :
    indent = other := by
  obtain ⟨value, form⟩ := first.fits
  obtain ⟨otherValue, otherForm⟩ := second.fits
  have sameLength := Nat.le_antisymm (second.longest indent value form)
    (first.longest other otherValue otherForm)
  generalize whole : line = text at form
  obtain ⟨-, -⟩ := form
  obtain ⟨-, -⟩ := otherForm
  rw [List.append_assoc, List.append_assoc] at whole
  exact (List.append_inj_left whole sameLength.symm).symm

/-- The reader takes the longest indent. -/
theorem isIndent_of_onLine? {identifier : List Char} {line : Line} {declaration : Declaration}
    (found : onLine? identifier line.content = some declaration) :
    IsIndent identifier declaration.indent line.text := by
  refine ⟨⟨declaration.value, (form_text_iff line).2 (form_of_onLine? found)⟩, ?_⟩
  intro indent value form
  have inContent := (form_text_iff line).1 form
  generalize line.content = content at found inContent
  obtain ⟨blank, assigns⟩ := inContent
  rename_i rest
  -- From behind the indent the name is read, there or still farther on.
  have read := (readHere?_append identifier rest).trans (readValue?_of_assigns assigns)
  obtain ⟨behind, here⟩ := Option.isSome_iff_exists.1 (isSome_onLine? read)
  rw [List.append_assoc, onLine?_append blank here] at found
  obtain rfl := Option.some.inj found
  rw [List.length_append]
  exact Nat.le_add_right _ _

/-- The line that is written, with its terminator. -/
theorem text_setOnLine {identifier indent text : List Char} {line : Line}
    (member : line ∈ Line.split text) (indented : IsIndent identifier indent line.text)
    (version : Version) :
    (setOnLine identifier version line).text =
      indent ++ identifier ++ assignment version ++ Line.terminator line.text := by
  obtain ⟨value, form⟩ := indented.fits
  have declares : Declares identifier line.text := ⟨_, form⟩
  obtain ⟨declaration, found⟩ := Option.isSome_iff_exists.1 ((isSome_content_iff line).2 declares)
  rw [setOnLine_of_some found, indented.unique (isIndent_of_onLine? found),
    Line.terminator_text member]
  rfl

/-! ## Counting lines that declare a version -/

/-- The file that setting a version gives if one line declares a version. -/
theorem set_of_one {path identifier contents : String}
    (one : declarationCount identifier.toList contents.toList = 1) (version : Version) :
    set path identifier version contents = .ok (String.ofList (Line.join
      ((Line.split contents.toList).map (setOnLine identifier.toList version)))) := by
  unfold declarationCount at one
  unfold set setInLines
  rw [one]
  rfl

theorem set_of_several {path identifier contents : String}
    (several : 2 ≤ declarationCount identifier.toList contents.toList) (version : Version) :
    set path identifier version contents = .error (.ambiguousVersion path identifier) := by
  unfold declarationCount at several
  unfold set setInLines
  split
  case h_1 => omega
  case h_2 => omega
  case h_3 => rfl

/-- A test that accepts elements in two places of a list. -/
theorem two_le_countP_iff {Element : Type} {test : Element → Bool} {list : List Element} :
    2 ≤ list.countP test ↔ ∃ before element after earlier other later,
      (list = before ++ element :: after ∧ test element = true) ∧
        (list = earlier ++ other :: later ∧ test other = true) ∧ earlier ≠ before := by
  constructor
  · intro several
    obtain ⟨element, member, accepted⟩ := List.countP_pos_iff.1 (Nat.zero_lt_of_lt several)
    obtain ⟨before, after, rfl⟩ := List.append_of_mem member
    rw [List.countP_append, List.countP_cons_of_pos accepted] at several
    by_cases inFront : 0 < before.countP test
    · obtain ⟨other, inside, otherAccepted⟩ := List.countP_pos_iff.1 inFront
      obtain ⟨earlier, between, rfl⟩ := List.append_of_mem inside
      exact ⟨_, element, after, earlier, other, between ++ element :: after, ⟨rfl, accepted⟩,
        ⟨by simp, otherAccepted⟩, by simp⟩
    · obtain ⟨other, inside, otherAccepted⟩ :=
        List.countP_pos_iff.1 (show 0 < after.countP test by omega)
      obtain ⟨between, later, rfl⟩ := List.append_of_mem inside
      exact ⟨before, element, _, before ++ element :: between, other, later, ⟨rfl, accepted⟩,
        ⟨by simp, otherAccepted⟩, by simp⟩
  · rintro ⟨before, element, after, earlier, other, later, ⟨rfl, accepted⟩,
      ⟨same, otherAccepted⟩, different⟩
    have positive (part : List Element) (inside : other ∈ part) : 0 < part.countP test :=
      List.countP_pos_iff.2 ⟨other, inside, otherAccepted⟩
    rw [List.countP_append, List.countP_cons_of_pos accepted]
    rcases List.append_eq_append_iff.1 same with ⟨between, rfl, rest⟩ | ⟨between, rfl, rest⟩
    · cases between with
      | nil => exact absurd (List.append_nil before) different
      | cons first between =>
        have := positive after
          ((List.cons.inj rest).2 ▸ List.mem_append_cons_self)
        omega
    · cases between with
      | nil => exact absurd (List.append_nil earlier).symm different
      | cons first between =>
        have := positive (earlier ++ first :: between)
          (List.mem_append_right _ ((List.cons.inj rest).1 ▸ List.mem_cons_self))
        omega

/-- No line is counted if none of the standing lines declares a version. -/
theorem declarationCount_eq_zero_iff_stands {identifier text : List Char} :
    declarationCount identifier text = 0 ↔
      ∀ above line below, Line.StandsBetween above line below text → ¬Declares identifier line := by
  rw [declarationCount_eq_zero_iff, Line.forall_standsBetween_iff, Undeclared]

/-- Two lines or more are counted if two standing lines declare a version. -/
theorem two_le_declarationCount_iff {identifier text : List Char} :
    2 ≤ declarationCount identifier text ↔ ∃ above line below higher other lower,
      (Line.StandsBetween above line below text ∧ Declares identifier line) ∧
        (Line.StandsBetween higher other lower text ∧ Declares identifier other) ∧
        higher ≠ above := by
  rw [declarationCount, two_le_countP_iff]
  constructor
  · rintro ⟨before, line, after, earlier, other, later, ⟨lines, declared⟩,
      ⟨otherLines, otherDeclared⟩, different⟩
    refine ⟨_, _, _, _, _, _,
      ⟨Line.standsBetween_iff.2 ⟨before, line, after, lines, rfl, rfl, rfl⟩,
        (isSome_content_iff line).1 declared⟩,
      ⟨Line.standsBetween_iff.2 ⟨earlier, other, later, otherLines, rfl, rfl, rfl⟩,
        (isSome_content_iff other).1 otherDeclared⟩, fun same => different ?_⟩
    rw [← (Line.of_split_eq_append otherLines).1, same, (Line.of_split_eq_append lines).1]
  · rintro ⟨above, line, below, higher, other, lower, ⟨stands, declares⟩,
      ⟨otherStands, otherDeclares⟩, different⟩
    obtain ⟨before, found, after, lines, rfl, rfl, -⟩ := Line.standsBetween_iff.1 stands
    obtain ⟨earlier, another, later, otherLines, rfl, rfl, -⟩ :=
      Line.standsBetween_iff.1 otherStands
    exact ⟨before, found, after, earlier, another, later,
      ⟨lines, (isSome_content_iff found).2 declares⟩,
      ⟨otherLines, (isSome_content_iff another).2 otherDeclares⟩,
      fun same => different (congrArg Line.join same)⟩

/-- Exactly one line is counted if one standing line alone declares a version. -/
theorem declarationCount_eq_one_iff_only {identifier text : List Char} :
    declarationCount identifier text = 1 ↔
      ∃ above line below, IsOnlyDeclaration identifier above line below text := by
  constructor
  · intro one
    obtain ⟨before, found, after, lines, declares, -⟩ := declarationCount_eq_one_iff.1 one
    refine ⟨_, _, _, Line.standsBetween_iff.2 ⟨before, found, after, lines, rfl, rfl, rfl⟩,
      declares, fun higher other lower stands otherDeclares => ?_⟩
    by_contra different
    have several := two_le_declarationCount_iff.2 ⟨_, _, _, higher, other, lower,
      ⟨Line.standsBetween_iff.2 ⟨before, found, after, lines, rfl, rfl, rfl⟩, declares⟩,
      ⟨stands, otherDeclares⟩, different⟩
    omega
  · rintro ⟨above, line, below, stands, declares, only⟩
    have some : declarationCount identifier text ≠ 0 := fun zero =>
      declarationCount_eq_zero_iff_stands.1 zero above line below stands declares
    have single : ¬2 ≤ declarationCount identifier text := by
      intro several
      obtain ⟨_, _, _, _, _, _, ⟨stands, declares⟩, ⟨otherStands, otherDeclares⟩, different⟩ :=
        two_le_declarationCount_iff.1 several
      exact different ((only _ _ _ otherStands otherDeclares).trans
        (only _ _ _ stands declares).symm)
    omega

/-! ## What is written -/

/-- Where one line declares a version, the others stay as they are. -/
theorem join_map_setOnLine {identifier above line below indent text : List Char}
    (only : IsOnlyDeclaration identifier above line below text)
    (indented : IsIndent identifier indent line) (version : Version) :
    Line.join ((Line.split text).map (setOnLine identifier version)) =
      above ++ (indent ++ identifier ++ assignment version ++ Line.terminator line) ++ below := by
  have one := declarationCount_eq_one_iff_only.2 ⟨above, line, below, only⟩
  obtain ⟨before, found, after, lines, rfl, rfl, rfl⟩ := Line.standsBetween_iff.1 only.stands
  have member : found ∈ Line.split text := lines ▸ List.mem_append_cons_self
  have declared : (onLine? identifier found.content).isSome = true :=
    (isSome_content_iff found).2 only.declares
  have kept {part : List Line}
      (none : (part.countP fun line => (onLine? identifier line.content).isSome) = 0) :
      part.map (setOnLine identifier version) = part := by
    refine (List.map_congr_left fun other inside => ?_).trans (List.map_id part)
    have absent := List.countP_eq_zero.1 none other inside
    rw [Option.not_isSome_iff_eq_none] at absent
    exact setOnLine_of_none absent version
  rw [declarationCount, lines, List.countP_append,
    List.countP_cons_of_pos (by exact declared)] at one
  rw [lines, List.map_append, List.map_cons, kept (by omega), kept (by omega), Line.join_append,
    ← text_setOnLine member indented version, List.append_assoc]
  rfl

/-- A line that declares a version has an indent. -/
theorem exists_isIndent {identifier above line below text : List Char}
    (stands : Line.StandsBetween above line below text) (declares : Declares identifier line) :
    ∃ indent, IsIndent identifier indent line := by
  obtain ⟨_, found, _, _, _, rfl, _⟩ := Line.standsBetween_iff.1 stands
  obtain ⟨declaration, read⟩ := Option.isSome_iff_exists.1 ((isSome_content_iff found).2 declares)
  exact ⟨declaration.indent, isIndent_of_onLine? read⟩

/-- Setting a version gives its outcome and nothing else; and it succeeds if exactly one
line declares a version. -/
theorem set_eq_iff_outcome (path identifier contents : String) (version : Version) :
    (∀ result, set path identifier version contents = result ↔
        Outcome path identifier version contents.toList result) ∧
      ((∃ changed, set path identifier version contents = .ok changed) ↔
        ∃ above line below,
          IsOnlyDeclaration identifier.toList above line below contents.toList) := by
  have outcome (result : Except ReleaseError String) :
      set path identifier version contents = result ↔
        Outcome path identifier version contents.toList result := by
    constructor
    · rintro rfl
      match count : declarationCount identifier.toList contents.toList with
      | 0 =>
        rw [set_eq_notFound_iff.2 (declarationCount_eq_zero_iff.1 count)]
        exact .undeclared (declarationCount_eq_zero_iff_stands.1 count)
      | 1 =>
        obtain ⟨above, line, below, only⟩ := declarationCount_eq_one_iff_only.1 count
        obtain ⟨indent, indented⟩ := exists_isIndent only.stands only.declares
        rw [set_of_one count, join_map_setOnLine only indented]
        exact .replaced only indented
      | more + 2 =>
        have several : 2 ≤ declarationCount identifier.toList contents.toList := by omega
        obtain ⟨above, line, below, higher, other, lower, ⟨stands, declares⟩,
          ⟨otherStands, otherDeclares⟩, different⟩ := two_le_declarationCount_iff.1 several
        rw [set_of_several several]
        exact .ambiguous stands declares otherStands otherDeclares different
    · intro outcome
      cases outcome with
      | undeclared none =>
        have zero := declarationCount_eq_zero_iff_stands.2 none
        exact set_eq_notFound_iff.2 (declarationCount_eq_zero_iff.1 zero)
      | ambiguous stands declares otherStands otherDeclares different =>
        exact set_of_several (two_le_declarationCount_iff.2 ⟨_, _, _, _, _, _,
          ⟨stands, declares⟩, ⟨otherStands, otherDeclares⟩, different⟩) version
      | replaced only indented =>
        rw [set_of_one (declarationCount_eq_one_iff_only.2 ⟨_, _, _, only⟩),
          join_map_setOnLine only indented]
  refine ⟨outcome, ?_⟩
  constructor
  · rintro ⟨changed, done⟩
    cases (outcome _).1 done with
    | replaced only indented => exact ⟨_, _, _, only⟩
  · rintro ⟨above, line, below, only⟩
    obtain ⟨indent, indented⟩ := exists_isIndent only.stands only.declares
    exact ⟨_, (outcome _).2 (.replaced only indented)⟩

end ReleasePilot.Declaration
