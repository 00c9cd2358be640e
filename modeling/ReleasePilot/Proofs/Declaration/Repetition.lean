import ReleasePilot.Proofs.Declaration.Replacement

/-!
# Setting a version again and again

Of the versions that are set in a file one after the other, the last one leaves the file
that it would have left if it were the only one (`set_again`). This holds for every name
that is not all blank: where blanks are, the indent takes as many as it can, so that the
one blank that is written between a blank name and the equals sign would join it.
-/

namespace ReleasePilot.Declaration

/-- Sets one version after the other, each in the file that the one before it left. -/
def setAll (path identifier : String) (versions : List Version) (contents : String) :
    Except ReleaseError String :=
  versions.foldlM (fun contents version => set path identifier version contents) contents

variable {path identifier contents once spelling : String} {first : Version}

/-- In front of a name that is not all blank there is but one indent. -/
theorem indent_unique {name indent other rest behind : List Char}
    (solid : ∃ character ∈ name, Text.isBlank character = false)
    (blank : ∀ character ∈ indent, Text.isBlank character = true)
    (otherBlank : ∀ character ∈ other, Text.isBlank character = true)
    (same : indent ++ name ++ rest = other ++ name ++ behind) : indent = other := by
  obtain ⟨run, runBlank, parts⟩ := exists_run Text.isBlank name
  obtain ⟨start, tail, shown⟩ : ∃ start tail,
      name.dropWhile Text.isBlank = start :: tail := by
    apply List.exists_cons_of_ne_nil
    intro none
    obtain ⟨character, member, notBlank⟩ := solid
    rw [parts, none, List.append_nil] at member
    rw [runBlank character member] at notBlank
    cases notBlank
  have stops : Text.isBlank start = false := by
    have head := List.head?_dropWhile_not Text.isBlank name
    simpa [shown] using head
  -- The blanks that the line begins with are the indent and those of the name.
  have leading {front end_ : List Char}
      (blank : ∀ character ∈ front, Text.isBlank character = true) :
      (front ++ name ++ end_).takeWhile Text.isBlank = front ++ run := by
    have whole : front ++ name ++ end_ = (front ++ run) ++ start :: (tail ++ end_) := by
      rw [parts, shown]
      simp
    rw [whole]
    exact Text.takeWhile_run (List.forall_mem_append.2 ⟨blank, runBlank⟩)
      (Text.stopsRun_cons stops)
  have both := congrArg (List.takeWhile Text.isBlank) same
  rw [leading blank, leading otherBlank] at both
  exact List.append_cancel_right both

/-- A line that was set to one version and is set to another shows no trace of the first. -/
theorem setOnLine_setOnLine {name : List Char}
    (solid : ∃ character ∈ name, Text.isBlank character = false) (canonical : first.Canonical)
    (second : Version) (line : Line) :
    setOnLine name second (setOnLine name first line) = setOnLine name second line := by
  cases found : onLine? name line.content with
  | none => rw [setOnLine_of_none found]
  | some declaration =>
    have kept : (onLine? name (setOnLine name first line).content).isSome =
        (onLine? name line.content).isSome := (onLine?_setOnLine canonical line).1
    obtain ⟨blank, -⟩ := of_onLine? found
    rw [found, setOnLine_of_some found] at kept
    obtain ⟨again, here⟩ := Option.isSome_iff_exists.1 kept
    obtain ⟨otherBlank, rest, same, -⟩ := of_onLine? here
    rw [setOnLine_of_some found, setOnLine_of_some here, setOnLine_of_some found,
      indent_unique solid blank otherBlank same]

/-- One step: the second version is set as if the first had never been. -/
theorem set_of_set (solid : ∃ character ∈ identifier.toList, Text.isBlank character = false)
    (canonical : first.Canonical) (updated : set path identifier first contents = .ok once)
    (second : Version) :
    ∃ twice, set path identifier second once = .ok twice ∧
      set path identifier second contents = .ok twice := by
  obtain ⟨one, lines⟩ := of_set canonical updated
  refine ⟨_, ?_, set_of_one one second⟩
  rw [set_of_one (declarationCount_of_set canonical updated), lines, List.map_map]
  have same : setOnLine identifier.toList second ∘ setOnLine identifier.toList first =
      setOnLine identifier.toList second :=
    funext (setOnLine_setOnLine solid canonical second)
  rw [same]

/-- Any number of steps: all versions before the last leave no trace. -/
theorem setAll_of_set (solid : ∃ character ∈ identifier.toList, Text.isBlank character = false)
    (canonical : first.Canonical) (updated : set path identifier first contents = .ok once)
    {later : List Version} (laterCanonical : ∀ version ∈ later, version.Canonical)
    (last : Version) :
    ∃ final, setAll path identifier (later ++ [last]) once = .ok final ∧
      set path identifier last contents = .ok final := by
  induction later generalizing first once with
  | nil =>
    obtain ⟨final, again, only⟩ := set_of_set solid canonical updated last
    refine ⟨final, ?_, only⟩
    rw [setAll, List.nil_append, List.foldlM_cons, again]
    rfl
  | cons next more inductionHypothesis =>
    obtain ⟨nextCanonical, others⟩ := List.forall_mem_cons.1 laterCanonical
    obtain ⟨twice, again, only⟩ := set_of_set solid canonical updated next
    obtain ⟨final, rest, same⟩ := inductionHypothesis nextCanonical only others
    refine ⟨final, ?_, same⟩
    rw [setAll, List.cons_append, List.foldlM_cons, again]
    exact rest

/-- Once a version is set, any other can be set, and gives the file that it would have
given before; setting the same one again changes nothing; and of any number of versions
that follow, only the last one shows. -/
theorem set_again (solid : ∃ character ∈ identifier.toList, Text.isBlank character = false)
    (parsed : Version.parse spelling = .ok first)
    (updated : set path identifier first contents = .ok once) :
    (∀ second, ∃ twice, set path identifier second once = .ok twice ∧
        set path identifier second contents = .ok twice) ∧
      set path identifier first once = .ok once ∧
      ∀ later : List Version, (∀ version ∈ later, ∃ text, Version.parse text = .ok version) →
        ∀ last, ∃ final, setAll path identifier (later ++ [last]) once = .ok final ∧
          set path identifier last contents = .ok final := by
  have canonical_of_parse {version : Version} {text : String}
      (parsed : Version.parse text = .ok version) : version.Canonical :=
    Version.canonical_of_ofText? (Version.parse_eq_ok_iff.1 parsed)
  have step := set_of_set solid (canonical_of_parse parsed) updated
  refine ⟨step, ?_, fun later readable last => ?_⟩
  · obtain ⟨twice, again, same⟩ := step first
    rw [again, ← same, updated]
  · refine setAll_of_set solid (canonical_of_parse parsed) updated (fun version member => ?_) last
    obtain ⟨text, read⟩ := readable version member
    exact canonical_of_parse read

/-- A name with blanks at both ends, quotes and an equals sign, on an indented line. -/
theorem set_again_quotedName :
    let first : Version := { release := [1, 1], pre := some ⟨.candidate, 1⟩ }
    let second : Version := { release := [2], dev := some 0 }
    let name := " \"v\" = "
    let contents := "x\n\t  \"v\" = = '1.0' # old\r\nrest"
    let once := "x\n\t  \"v\" =  = \"1.1rc1\"\r\nrest"
    set "version.py" name first contents = .ok once ∧
      (∃ twice, set "version.py" name second once = .ok twice ∧
        set "version.py" name second contents = .ok twice) ∧
      set "version.py" name first once = .ok once ∧
      ∃ final, setAll "version.py" name ([second, first] ++ [second]) once = .ok final ∧
        set "version.py" name second contents = .ok final := by
  intro first second name contents once
  have solid : ∃ character ∈ name.toList, Text.isBlank character = false :=
    ⟨'v', by decide, by decide⟩
  have readable {version : Version} (segmented : version.release ≠ [])
      (unlabelled : version.label = none) : Version.parse version.text = .ok version := by
    refine Version.parse_eq_ok_iff.2 (Version.ofText?_text ⟨segmented, fun label labelled => ?_⟩)
    rw [unlabelled] at labelled
    cases labelled
  have firstParsed : Version.parse first.text = .ok first := readable (List.cons_ne_nil _ _) rfl
  have secondParsed : Version.parse second.text = .ok second :=
    readable (List.cons_ne_nil _ _) rfl
  have updated : set "version.py" name first contents = .ok once := by decide +kernel
  obtain ⟨step, same, run⟩ := set_again solid firstParsed updated
  refine ⟨updated, step second, same, run [second, first] (fun version member => ?_) second⟩
  simp only [List.mem_cons, List.not_mem_nil, or_false] at member
  rcases member with rfl | rfl
  · exact ⟨_, secondParsed⟩
  · exact ⟨_, firstParsed⟩

/-- A name that is a blank moves to the right each time. -/
example : set "version.py" " " { release := [1] } "  = '0'" = .ok "   = \"1\"" := by
  decide +kernel

end ReleasePilot.Declaration
