import ReleasePilot.Command.Quoting

/-!
# The words of a command line

A shell reads a command line from left to right and knows of each character whether it
stands in quotes (`Reading`). Quotation marks, and backslashes that quote, are no part of a
word; what is left between the blanks outside of quotes are the words (`words?`). A line is
read piece by piece: what a piece is read as depends only on the reading at which it starts
(`scan_append`).
-/

namespace ReleasePilot.Command

/-- Where a character of a command line stands. -/
inductive Enclosure where
  | none
  | single
  | double
deriving DecidableEq, Repr

/-- What a shell finds in a command line. -/
inductive Sign where
  /-- A blank between words. -/
  | blank
  /-- A quotation mark: there is a word here, even if it is empty. -/
  | mark
  /-- A character that belongs to a word. -/
  | letter (enclosure : Enclosure) (character : Char)
deriving DecidableEq, Repr

/-- How far a shell has read: where the next character stands, and whether there is a
backslash in front of it. -/
inductive Reading where
  | bare
  | bareEscape
  | single
  | double
  | doubleEscape
deriving DecidableEq, Repr

namespace Reading

/-- One character is read. A line break outside of quotes would end the command, so that
there is no going on. In double quotes a backslash stands for itself, unless the character
behind it would be special there. -/
def step : Reading → Char → Option (Reading × List Sign)
  | .bare, character =>
    if character = '\'' then some (.single, [.mark])
    else if character = '"' then some (.double, [.mark])
    else if character = '\\' then some (.bareEscape, [])
    else if character = '\n' then none
    else if character = ' ' ∨ character = '\t' then some (.bare, [.blank])
    else some (.bare, [.letter .none character])
  | .bareEscape, character =>
    some (.bare, if character = '\n' then [] else [.letter .none character])
  | .single, character =>
    if character = '\'' then some (.bare, [.mark])
    else some (.single, [.letter .single character])
  | .double, character =>
    if character = '"' then some (.bare, [.mark])
    else if character = '\\' then some (.doubleEscape, [])
    else some (.double, [.letter .double character])
  | .doubleEscape, character =>
    some (.double,
      if character = '\n' then []
      else if "$\x60\"\\".toList.contains character then [.letter .double character]
      else [.letter .double '\\', .letter .double character])

/-- A text is read, with what is found in it and how the reading goes on behind it. -/
def scan : Reading → List Char → Option (Reading × List Sign)
  | reading, [] => some (reading, [])
  | reading, character :: rest =>
    (reading.step character).bind fun (next, found) =>
      (next.scan rest).map fun (last, more) => (last, found ++ more)

/-- A character is read, and then the rest. -/
theorem scan_cons {reading next last : Reading} {character : Char} {rest : List Char}
    {found more : List Sign} (stepped : reading.step character = some (next, found))
    (scanned : next.scan rest = some (last, more)) :
    reading.scan (character :: rest) = some (last, found ++ more) := by
  simp only [scan, stepped, Option.bind_some, scanned, Option.map_some]

/-- A text in two pieces is read one piece after the other. -/
theorem scan_append {reading between last : Reading} {text rest : List Char}
    {signs more : List Sign} (first : reading.scan text = some (between, signs))
    (second : between.scan rest = some (last, more)) :
    reading.scan (text ++ rest) = some (last, signs ++ more) := by
  induction text generalizing reading signs with
  | nil =>
    obtain ⟨rfl, rfl⟩ := Prod.mk.inj (Option.some.inj first)
    exact second
  | cons character text inductionHypothesis =>
    obtain ⟨⟨next, found⟩, stepped, scanned⟩ := Option.bind_eq_some_iff.1 first
    obtain ⟨⟨behind, others⟩, inner, same⟩ := Option.map_eq_some_iff.1 scanned
    obtain ⟨rfl, rfl⟩ := Prod.mk.inj same
    rw [List.append_assoc]
    exact scan_cons stepped (inductionHypothesis inner)

/-- Characters that all leave the reading as it is, each with a sign of its own. -/
theorem scan_of_forall_step {reading : Reading} {sign : Char → Sign} {text : List Char}
    (steps : ∀ character ∈ text, reading.step character = some (reading, [sign character])) :
    reading.scan text = some (reading, text.map sign) := by
  induction text with
  | nil => rfl
  | cons character text inductionHypothesis =>
    obtain ⟨first, others⟩ := List.forall_mem_cons.1 steps
    exact scan_cons first (inductionHypothesis others)

end Reading

/-! ## Words -/

namespace Sign

/-- The word in which some signs begin, if they begin in one, and the words behind it. -/
def assemble : List Sign → Option (List Char) × List (List Char)
  | [] => (none, [])
  | .blank :: more => (none, (assemble more).1.toList ++ (assemble more).2)
  | .mark :: more => (some ((assemble more).1.getD []), (assemble more).2)
  | .letter _ character :: more =>
    (some (character :: (assemble more).1.getD []), (assemble more).2)

/-- The words that signs make up. -/
def words (signs : List Sign) : List (List Char) :=
  (assemble signs).1.toList ++ (assemble signs).2

/-- Some signs are a piece of a word, or a whole one: what follows up to the next blank
belongs to the same word. -/
def Spells (signs : List Sign) (piece : List Char) : Prop :=
  ∀ more, assemble (signs ++ more) =
    (some (piece ++ (assemble more).1.getD []), (assemble more).2)

namespace Spells

theorem mark : Spells [.mark] [] :=
  fun _ => rfl

theorem append {signs others : List Sign} {piece other : List Char} (first : Spells signs piece)
    (second : Spells others other) : Spells (signs ++ others) (piece ++ other) := by
  intro more
  rw [List.append_assoc, first, second, Option.getD_some, List.append_assoc]

theorem letters {text : List Char} (some : text ≠ []) (enclosure : Enclosure) :
    Spells (text.map (.letter enclosure)) text := by
  induction text with
  | nil => exact absurd rfl some
  | cons character text inductionHypothesis =>
    cases text with
    | nil => exact fun _ => rfl
    | cons next rest =>
      have alone : Spells [.letter enclosure character] [character] := fun _ => rfl
      exact append alone (inductionHypothesis (List.cons_ne_nil _ _))

/-- Between quotation marks there may be nothing. -/
theorem quoted (text : List Char) (enclosure : Enclosure) :
    Spells (.mark :: text.map (.letter enclosure) ++ [.mark]) text := by
  cases text with
  | nil => exact append mark mark
  | cons character rest =>
    have inner := append (append mark (letters (List.cons_ne_nil character rest) enclosure)) mark
    rwa [List.nil_append, List.append_nil] at inner

end Spells

theorem words_of_spells {signs : List Sign} {word : List Char} (spells : Spells signs word) :
    words signs = [word] := by
  have alone := spells []
  rw [List.append_nil] at alone
  rw [words, alone]
  simp [assemble]

/-- A blank ends a word. -/
theorem words_append_blank {signs : List Sign} {word : List Char} (spells : Spells signs word)
    (more : List Sign) : words (signs ++ .blank :: more) = word :: words more := by
  rw [words, spells]
  simp [assemble, words]

end Sign

/-- The words of a command line, if it is a whole command. -/
def words? (line : String) : Option (List String) :=
  match Reading.bare.scan line.toList with
  | some (.bare, signs) => some ((Sign.words signs).map String.ofList)
  | _ => none

/-- A command line has a character that stands outside of quotes, or in quotes of a kind. -/
def Exposes (line : String) (enclosure : Enclosure) (character : Char) : Prop :=
  ∃ last signs, Reading.bare.scan line.toList = some (last, signs) ∧
    .letter enclosure character ∈ signs

end ReleasePilot.Command
