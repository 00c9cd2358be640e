import ReleasePilot.Proofs.Declaration.Form
import ReleasePilot.Proofs.Version.RoundTrip

/-!
# Reading and setting agree

The version of a file can be read unless no line declares one, and then it cannot be
set either; a file whose version was set still declares one on exactly one line, and it
is the version that was set (`current_agrees_set`). Reading takes the first declaration
and setting wants exactly one, so that the two part only where there are several.
-/

namespace ReleasePilot.Declaration

/-- No line of a text declares a version. -/
def Undeclared (identifier text : List Char) : Prop :=
  ∀ line ∈ Line.split text, ¬Declares identifier line.text

/-- Exactly one line of a text declares a version. -/
def DeclaredOnce (identifier text : List Char) : Prop :=
  ∃ above line below, Line.split text = above ++ line :: below ∧
    Declares identifier line.text ∧ ∀ other ∈ above ++ below, ¬Declares identifier other.text

/-! ## Counting declarations -/

/-- A test accepts one element of a list if it accepts one and none around it. -/
theorem countP_eq_one_iff {Element : Type} {test : Element → Bool} {list : List Element} :
    list.countP test = 1 ↔ ∃ before element after, list = before ++ element :: after ∧
      test element = true ∧ ∀ other ∈ before ++ after, ¬test other = true := by
  rw [List.countP_eq_length_filter, List.length_eq_one_iff]
  constructor
  · rintro ⟨element, only⟩
    obtain ⟨before, after, parts, none, accepted, rest⟩ := List.filter_eq_cons_iff.1 only
    refine ⟨before, element, after, parts, accepted, fun other member => ?_⟩
    rcases List.mem_append.1 member with earlier | later
    · exact none other earlier
    · exact List.filter_eq_nil_iff.1 rest other later
  · rintro ⟨before, element, after, parts, accepted, rejected⟩
    obtain ⟨earlier, later⟩ := List.forall_mem_append.1 rejected
    exact ⟨element, List.filter_eq_cons_iff.2
      ⟨before, after, parts, earlier, accepted, List.filter_eq_nil_iff.2 later⟩⟩

/-- The declarations that setting a version counts. -/
def declarationCount (identifier text : List Char) : ℕ :=
  (Line.split text).countP fun line => (onLine? identifier line.content).isSome

/-- The reader of lines works without terminators. -/
theorem isSome_content_iff {identifier : List Char} (line : Line) :
    (onLine? identifier line.content).isSome = true ↔ Declares identifier line.text :=
  isSome_onLine?_iff.trans (declares_text_iff line).symm

theorem declarationCount_eq_zero_iff {identifier text : List Char} :
    declarationCount identifier text = 0 ↔ Undeclared identifier text := by
  rw [declarationCount, List.countP_eq_zero]
  simp only [isSome_content_iff, Undeclared]

theorem declarationCount_eq_one_iff {identifier text : List Char} :
    declarationCount identifier text = 1 ↔ DeclaredOnce identifier text := by
  rw [declarationCount, countP_eq_one_iff]
  simp only [isSome_content_iff, DeclaredOnce]

/-! ## Where no version is found -/

theorem current_eq_notFound_iff {path identifier contents : String} :
    current path identifier contents = .error (.versionNotFound path identifier) ↔
      Undeclared identifier.toList contents.toList := by
  unfold current
  cases found : (Line.split contents.toList).findSome? fun line =>
      onLine? identifier.toList line.content with
  | none =>
    refine iff_of_true rfl fun line member => ?_
    rw [← isSome_content_iff, List.findSome?_eq_none_iff.1 found line member]
    exact Bool.false_ne_true
  | some declaration =>
    obtain ⟨line, member, here⟩ := List.exists_of_findSome?_eq_some found
    have declares : Declares identifier.toList line.text := by
      rw [← isSome_content_iff, here]
      rfl
    refine iff_of_false (fun failed => ?_) fun undeclared => undeclared line member declares
    -- What is declared may be no version, but then the failure is another one.
    obtain ⟨-, ⟨⟩⟩ := Version.parse_eq_error_iff.1 failed

theorem set_eq_notFound_iff {path identifier contents : String} {version : Version} :
    set path identifier version contents = .error (.versionNotFound path identifier) ↔
      Undeclared identifier.toList contents.toList := by
  rw [← declarationCount_eq_zero_iff, declarationCount]
  unfold set setInLines
  split
  case h_1 none => exact iff_of_true rfl none
  case h_2 one => exact iff_of_false nofun (by omega)
  case h_3 some _ => exact iff_of_false nofun some

/-! ## Agreement -/

/-- A file whose version was set still declares one on exactly one line. -/
theorem declarationCount_of_set {path identifier contents changed : String} {version : Version}
    (canonical : version.Canonical)
    (updated : set path identifier version contents = .ok changed) :
    declarationCount identifier.toList changed.toList = 1 := by
  obtain ⟨one, lines⟩ := of_set canonical updated
  have kept (line : Line) :
      (onLine? identifier.toList (setOnLine identifier.toList version line).content).isSome =
        (onLine? identifier.toList line.content).isSome := (onLine?_setOnLine canonical line).1
  rw [declarationCount, lines, List.countP_map, ← one]
  exact congrArg (List.countP · _) (funext kept)

/-- Reading and setting fail alike for want of a declaration; and a version that was set
is declared on exactly one line and is the one that is read. -/
theorem current_agrees_set {path identifier contents spelling : String} {version : Version}
    (parsed : Version.parse spelling = .ok version) :
    (current path identifier contents = .error (.versionNotFound path identifier) ↔
        set path identifier version contents = .error (.versionNotFound path identifier)) ∧
      (set path identifier version contents = .error (.versionNotFound path identifier) ↔
        Undeclared identifier.toList contents.toList) ∧
      ∀ changed, set path identifier version contents = .ok changed →
        DeclaredOnce identifier.toList changed.toList ∧
          current path identifier changed = .ok version := by
  refine ⟨current_eq_notFound_iff.trans set_eq_notFound_iff.symm, set_eq_notFound_iff, ?_⟩
  intro changed updated
  have canonical := Version.canonical_of_ofText? (Version.parse_eq_ok_iff.1 parsed)
  exact ⟨declarationCount_eq_one_iff.1 (declarationCount_of_set canonical updated),
    current_set canonical updated⟩

/-- A name that is a blank and an equals sign, behind blanks of the line's own. -/
theorem current_agrees_set_blankName :
    let version : Version := { release := [1, 1], pre := some ⟨.candidate, 1⟩ }
    let changed := "x\r\n\t  = = \"1.1rc1\"\r\nrest"
    Version.parse version.text = .ok version ∧
      set "version.py" " =" version "x\r\n\t  == '1.0' # old\r\nrest" = .ok changed ∧
      DeclaredOnce " =".toList changed.toList ∧
      current "version.py" " =" changed = .ok version := by
  intro version changed
  have parsed : Version.parse version.text = .ok version :=
    Version.parse_eq_ok_iff.2 (Version.ofText?_text ⟨List.cons_ne_nil _ _, nofun⟩)
  have updated : set "version.py" " =" version "x\r\n\t  == '1.0' # old\r\nrest" =
      .ok changed := by decide +kernel
  obtain ⟨once, declared⟩ := (current_agrees_set parsed).2.2 changed updated
  exact ⟨parsed, updated, once, declared⟩

end ReleasePilot.Declaration
