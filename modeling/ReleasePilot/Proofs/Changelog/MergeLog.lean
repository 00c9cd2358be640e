import ReleasePilot.Proofs.Changelog.Bullets
import ReleasePilot.Proofs.Session.Step
import ReleasePilot.Workflow

/-!
# Reading the merge log

The log prints a merge as a record (`Merge.record`) and the records with newlines between
them (`mergeLog`). Splitting the log gives back the records in their order, so that each
merge has one bullet (`bullets_mergeLog`), and each bullet is one line wherever the bullets
are listed (`collect_mergeLog`).
-/

namespace ReleasePilot.Changelog

/-- A merge as the log reports it. -/
structure Merge where
  subject : String
  body : String

namespace Merge

/-- The characters that the log puts around a subject and behind a body are not in them. A
subject is one line. -/
structure IsLoggable (merge : Merge) : Prop where
  inLine : '\n' ∉ merge.subject.toList
  subjectEnds : '\x1f' ∉ merge.subject.toList
  subjectWithin : '\x1e' ∉ merge.subject.toList
  bodyEnds : '\x1e' ∉ merge.body.toList

instance (merge : Merge) : Decidable merge.IsLoggable :=
  decidable_of_iff
    ('\n' ∉ merge.subject.toList ∧ '\x1f' ∉ merge.subject.toList ∧
      '\x1e' ∉ merge.subject.toList ∧ '\x1e' ∉ merge.body.toList)
    ⟨fun ⟨inLine, subjectEnds, subjectWithin, bodyEnds⟩ =>
        ⟨inLine, subjectEnds, subjectWithin, bodyEnds⟩,
      fun ⟨inLine, subjectEnds, subjectWithin, bodyEnds⟩ =>
        ⟨inLine, subjectEnds, subjectWithin, bodyEnds⟩⟩

/-- A merge as it stands in the log. -/
def record (merge : Merge) : String :=
  merge.subject ++ "\x1f" ++ merge.body ++ "\x1e"

/-- The bullet that a merge has of its own. -/
def bullet (merge : Merge) : String :=
  String.ofList (Changelog.bullet merge.subject.toList merge.body.toList)

/-- A record without the character that ends it. -/
def fields (merge : Merge) : List Char :=
  merge.subject.toList ++ '\x1f' :: merge.body.toList

end Merge

/-- What the log prints for merges: their records with newlines between them. -/
def mergeLog (merges : List Merge) : String :=
  "\n".intercalate (merges.map Merge.record)

variable {merge : Merge} {merges : List Merge}

/-! ## Records -/

theorem Merge.toList_record (merge : Merge) : merge.record.toList = merge.fields ++ ['\x1e'] := by
  simp [record, fields]

theorem Merge.IsLoggable.fields_within (loggable : merge.IsLoggable) :
    ∀ character ∈ merge.fields, (character == recordSeparator) = false := by
  intro character member
  rw [beq_eq_false_iff_ne]
  rintro rfl
  rcases List.mem_append.1 member with inside | behind
  · exact loggable.subjectWithin inside
  · rcases List.mem_cons.1 behind with same | inside
    · exact absurd same (by decide)
    · exact loggable.bodyEnds inside

/-- The records of a log, of which all but the first begin with a newline, and the empty text
behind the last. -/
theorem splitAt_mergeLog (loggable : ∀ item ∈ merge :: merges, item.IsLoggable) :
    Text.splitAt recordSeparator (mergeLog (merge :: merges)).toList =
      merge.fields :: (merges.map fun item => '\n' :: item.fields) ++ [[]] := by
  induction merges generalizing merge with
  | nil =>
    have alone := (loggable merge List.mem_cons_self).fields_within
    rw [mergeLog, List.map_singleton, String.intercalate_singleton, Merge.toList_record]
    exact Text.splitWhere_append_cons alone rfl []
  | cons next more inductionHypothesis =>
    obtain ⟨first, others⟩ := List.forall_mem_cons.1 loggable
    -- The newline behind a record begins the piece of the next one.
    have whole : (mergeLog (merge :: next :: more)).toList =
        merge.fields ++ '\x1e' :: '\n' :: (mergeLog (next :: more)).toList := by
      simp [mergeLog, Merge.toList_record]
    have later := inductionHypothesis others
    rw [Text.splitAt] at later ⊢
    rw [whole, Text.splitWhere_append_cons first.fields_within rfl, Text.splitWhere, later]
    rfl

/-- What is left of the records when newlines are dropped at their start. -/
theorem trimmed_records {drop : Char → Bool} (newline : drop '\n' = true)
    (loggable : ∀ item ∈ merges, item.IsLoggable) :
    (Text.splitAt recordSeparator (mergeLog merges).toList).map (Text.trimStart drop) =
      (merges.map fun item => Text.trimStart drop item.fields) ++ [[]] := by
  cases merges with
  | nil =>
    rw [mergeLog, List.map_nil, String.intercalate_nil]
    rfl
  | cons merge more =>
    have behind (record : List Char) :
        Text.trimStart drop ('\n' :: record) = Text.trimStart drop record :=
      List.dropWhile_cons_of_pos newline
    have none : Text.trimStart drop [] = [] := rfl
    rw [splitAt_mergeLog loggable]
    simp only [List.map_cons, List.map_append, List.map_map, List.cons_append, List.map_nil,
      Function.comp_def, behind, none]

/-- A record is not dropped, whatever is dropped at its start. -/
theorem Merge.trim_fields_ne_nil (merge : Merge) {drop : Char → Bool}
    (stays : drop '\x1f' = false) : Text.trim (Text.trimStart drop merge.fields) ≠ [] := by
  rw [Merge.fields, Text.trimStart_append_cons stays]
  intro nothing
  have blank := Text.trim_eq_nil_iff.1 nothing '\x1f' List.mem_append_cons_self
  exact absurd blank (by decide)

/-- The bullet of a record is the one of its merge, if only blanks are dropped at its start:
these would be trimmed from the subject. -/
theorem Merge.IsLoggable.recordBullet (loggable : merge.IsLoggable) {drop : Char → Bool}
    (stays : drop '\x1f' = false)
    (blank : ∀ character, drop character = true → Text.isBlank character = true) :
    Changelog.recordBullet (Text.trimStart drop merge.fields) =
      Changelog.bullet merge.subject.toList merge.body.toList := by
  have cut : Text.splitOnce? fieldSeparator (Text.trimStart drop merge.fields) =
      some (Text.trimStart drop merge.subject.toList, merge.body.toList) := by
    refine Text.splitOnce?_eq_some_iff.2 ⟨fun member => ?_, Text.trimStart_append_cons stays _ _⟩
    exact loggable.subjectEnds ((List.dropWhile_sublist drop).subset member)
  rw [Changelog.recordBullet, cut]
  simp only [Changelog.bullet, Text.trim_trimStart blank]

/-- A log has the bullets of its merges, in their order. -/
theorem bullets_mergeLog (loggable : ∀ item ∈ merges, item.IsLoggable) :
    bullets (mergeLog merges) = merges.map Merge.bullet := by
  let drop := fun character : Char => character == '\n' || character == '\r'
  have blank : ∀ character, drop character = true → Text.isBlank character = true := by
    intro character dropped
    rcases Bool.or_eq_true_iff.1 dropped with same | same <;> rw [eq_of_beq same] <;> decide
  have kept : (merges.map fun item => Text.trimStart drop item.fields).filter
      (fun record => !(Text.trim record).isEmpty) =
        merges.map fun item => Text.trimStart drop item.fields := by
    refine List.filter_eq_self.2 fun record member => ?_
    obtain ⟨item, -, rfl⟩ := List.mem_map.1 member
    simpa using item.trim_fields_ne_nil rfl
  have last : [[]].filter (fun record => !(Text.trim record).isEmpty) = [] := rfl
  rw [bullets, trimmed_records rfl loggable, List.filter_append, kept, last, List.append_nil,
    List.map_map]
  refine List.map_congr_left fun item member => ?_
  rw [Function.comp_apply, (loggable item member).recordBullet rfl blank, Merge.bullet]

/-! ## Where entries are listed -/

/-- Entries that are one line each wherever they are listed: bullets, which are the last lines
of a tag message that quotes them, and of the block that a changelog is given. -/
structure OneLineEach (entries : List String) : Prop where
  bulleted : ∀ item ∈ entries, "- ".toList <+: item.toList ∧ '\n' ∉ item.toList
  quoted : ∀ publication : Publication,
    publication.changelog = (Section.ofVersion publication.version entries).body →
      Line.contents publication.tagMessage =
        Line.contents (publication.tagName ++ "\n\nChangelog:\n") ++ entries
  listed : ∀ (version : Version) (ending : LineEnding), ending ≠ .unterminated →
    Line.split (Line.join ((Section.ofVersion version entries).lines ending)) =
      Line.split (Line.join ((Section.ofVersion version []).lines ending)) ++
        entries.map fun item => ⟨item.toList, ending⟩

/-- A tag message has the lines above its changelog and then the entries. -/
theorem contents_tagMessage {publication : Publication} {entries : List String}
    (contents : ∀ item ∈ entries, Line.IsContent item.toList)
    (quotes : publication.changelog = (Section.ofVersion publication.version entries).body) :
    Line.contents publication.tagMessage =
      Line.contents (publication.tagName ++ "\n\nChangelog:\n") ++ entries := by
  have ended : Line.EndsLine (publication.tagName ++ "\n\nChangelog:\n").toList := by
    right
    rw [String.toList_append, List.getLast?_append]
    rfl
  have pieces : ∀ piece ∈ entries.map String.toList, Line.IsContent piece := by
    simpa using contents
  have below : (Line.split publication.changelog.toList).map Line.content =
      entries.map String.toList := by
    rw [quotes, Section.body, String.toList_intercalate]
    exact Line.content_split_intercalate pieces
  have strings : (Line.split publication.changelog.toList).map
      (fun line => String.ofList line.content) = entries := by
    have mapped := congrArg (List.map String.ofList) below
    simpa [Function.comp_def] using mapped
  rw [Line.contents, Publication.tagMessage, String.toList_append, Line.split_append ended,
    List.map_append, strings]
  rfl

/-- The block of a section has the lines above its entries and then the entries. -/
theorem split_lines_ofVersion {entries : List String}
    (contents : ∀ item ∈ entries, Line.IsContent item.toList) (version : Version)
    {ending : LineEnding} (terminated : ending ≠ .unterminated) :
    Line.split (Line.join ((Section.ofVersion version entries).lines ending)) =
      Line.split (Line.join ((Section.ofVersion version []).lines ending)) ++
        entries.map fun item => ⟨item.toList, ending⟩ := by
  have parts : (Section.ofVersion version entries).lines ending =
      (Section.ofVersion version []).lines ending ++
        (entries.map String.toList).map fun piece => ⟨piece, ending⟩ := by
    simp [Section.lines, Section.ofVersion]
  have above : ∀ line ∈ (Section.ofVersion version []).lines ending,
      line.ending ≠ .unterminated := by
    simp [Section.lines, terminated]
  have pieces : ∀ piece ∈ entries.map String.toList, Line.IsContent piece := by
    simpa using contents
  rw [parts, Line.join_append, Line.split_append (Line.split_join above).1,
    Line.split_join_contents pieces terminated, List.map_map]
  rfl

theorem Merge.toList_bullet (merge : Merge) :
    merge.bullet.toList = Changelog.bullet merge.subject.toList merge.body.toList :=
  String.toList_ofList

theorem Merge.IsLoggable.isContent_bullet (loggable : merge.IsLoggable) :
    Line.IsContent merge.bullet.toList := by
  rw [merge.toList_bullet]
  refine ⟨?_, newline_not_mem_bullet loggable.inLine _, getLast?_bullet_ne _ _⟩
  rw [bullet_eq]
  exact List.append_ne_nil_of_left_ne_nil (by decide) _

theorem oneLineEach_bullets (loggable : ∀ item ∈ merges, item.IsLoggable) :
    OneLineEach (merges.map Merge.bullet) := by
  have contents : ∀ item ∈ merges.map Merge.bullet, Line.IsContent item.toList := by
    intro item member
    obtain ⟨merge, among, rfl⟩ := List.mem_map.1 member
    exact (loggable merge among).isContent_bullet
  refine ⟨fun item member => ?_, fun _ => contents_tagMessage contents,
    fun version _ => split_lines_ofVersion contents version⟩
  have inLine := (contents item member).inLine
  obtain ⟨merge, -, rfl⟩ := List.mem_map.1 member
  refine ⟨?_, inLine⟩
  rw [merge.toList_bullet, bullet_eq]
  exact List.prefix_append _ _

/-- Of a log that the runner replies with, every merge becomes one bullet, in the order of the
log, and every bullet is one line of the tag message and of the changelog's block. -/
theorem collect_mergeLog {runner : Runner} {previous : Version} {before after : Session}
    (loggable : ∀ item ∈ merges, item.IsLoggable)
    (replied : before.perform runner ⟨mergeLogCommand previous, .query⟩ =
      (.ok (mergeLog merges), after)) :
    (collect runner previous).run.run before = (.ok (merges.map Merge.bullet), after) ∧
      OneLineEach (merges.map Merge.bullet) := by
  refine ⟨?_, oneLineEach_bullets loggable⟩
  have performed : (Action.perform runner ⟨mergeLogCommand previous, .query⟩).run.run before =
      (.ok (mergeLog merges), after) := replied
  rw [collect, run_bind_of_ok _ performed, run_pure, bullets_mergeLog loggable]

/-- A log of three merges, of which one has a body with a blank line and a field separator,
one has no body and one has a carriage return in front of its subject. -/
theorem collect_mergeLog_three :
    let merges : List Merge :=
      [⟨"Merge pull request #12 from acme/colors", "Add colors\r\n\r\n(see \x1f)\n"⟩,
        ⟨"Merge branch 'main'", ""⟩, ⟨"\rMerge tag '1.0'", "\nRelease\n"⟩]
    let previous : Version := { release := [1, 0] }
    let query : Call := ⟨mergeLogCommand previous, .query⟩
    let runner := Runner.recorded [⟨["git", "log"], .output (mergeLog merges)⟩]
    let before : Session := { tree := ⟨[], []⟩, operator := .scripted [] [] }
    (∀ item ∈ merges, item.IsLoggable) ∧
      before.perform runner query = (.ok (mergeLog merges), { before with calls := [query] }) ∧
      (collect runner previous).run.run before =
        (.ok (merges.map Merge.bullet), { before with calls := [query] }) ∧
      OneLineEach (merges.map Merge.bullet) := by
  intro merges previous query runner before
  have loggable : ∀ item ∈ merges, item.IsLoggable := by decide
  have replied : before.perform runner query =
      (.ok (mergeLog merges), { before with calls := [query] }) := rfl
  exact ⟨loggable, replied, collect_mergeLog loggable replied⟩

end ReleasePilot.Changelog
