import ReleasePilot.Proofs.Text.Runs
import ReleasePilot.Proofs.Version.Canonical
import ReleasePilot.Proofs.Version.Grammar

/-!
# Parts that are told by a name

The reader looks for the names of a table one after the other. A longer name
stands before any that it begins with, so that the name found is the longest one
that the text begins with (`readName?_spelled`), and a part is read with all that
the grammar lets belong to it (`readNamed?_eq`).
-/

namespace ReleasePilot.Version.Grammar

-- What is said of the characters of a text is decided along the text. Without these
-- instances it would be decided over all characters there are.
scoped instance (letters : List Char) (holds : Char → Prop) [DecidablePred holds] :
    Decidable (∀ letter ∈ letters, holds letter) :=
  List.decidableBAll holds letters

scoped instance (letter? : Option Char) (holds : Char → Prop) [DecidablePred holds] :
    Decidable (∀ letter ∈ letter?, holds letter) :=
  Option.decidableForallMem letter?

/-! ## Separators and numerals -/

/-- What follows a numeral does not go on with a digit. -/
abbrev StopsNumeral (rest : List Char) : Prop :=
  Text.StopsRun Char.isDigit rest

theorem isSeparator_character (separator : Separator) :
    isSeparator separator.character = true := by
  cases separator <;> rfl

theorem isSeparator_of_isDigit {digit : Char} (isDigit : digit.isDigit = true) :
    isSeparator digit = false := by
  have code := Text.isDigit_iff.1 isDigit
  rw [Bool.eq_false_iff, Ne, isSeparator_iff]
  omega

theorem exists_separator {character : Char} (separates : isSeparator character = true) :
    ∃ separator : Separator, separator.character = character := by
  rcases isSeparator_iff.1 separates with hyphen | underscore | point
  · exact ⟨.hyphen, Text.ext_toNat hyphen.symm⟩
  · exact ⟨.underscore, Text.ext_toNat underscore.symm⟩
  · exact ⟨.point, Text.ext_toNat point.symm⟩

theorem skipSeparator_of_stops {text : List Char} (stops : Text.StopsRun isSeparator text) :
    skipSeparator text = text := by
  cases text with
  | nil => rfl
  | cons character text => exact if_neg (by simp [stops character rfl])

/-- A separator is skipped if there is one. -/
theorem skipSeparator_separation (separator : Option Separator) {text : List Char}
    (stops : Text.StopsRun isSeparator text) :
    skipSeparator (separation separator ++ text) = text := by
  cases separator with
  | none => exact skipSeparator_of_stops stops
  | some separator => exact if_pos (isSeparator_character separator)

/-- What is skipped is a separator, and none is left if nothing was skipped. -/
theorem exists_separation (text : List Char) :
    ∃ separator, text = separation separator ++ skipSeparator text ∧
      (separator = none → Text.StopsRun isSeparator text) := by
  cases text with
  | nil => exact ⟨none, rfl, fun _ => Text.stopsRun_nil _⟩
  | cons character text =>
    cases separates : isSeparator character with
    | true =>
      obtain ⟨separator, rfl⟩ := exists_separator separates
      refine ⟨some separator, ?_, nofun⟩
      rw [skipSeparator, if_pos separates]
      rfl
    | false =>
      refine ⟨none, ?_, fun _ => Text.stopsRun_cons separates⟩
      exact (skipSeparator_of_stops (Text.stopsRun_cons separates)).symm

namespace Numeral

theorem exists_cons (numeral : Numeral) :
    ∃ digit more, numeral.digits = digit :: more ∧ digit.isDigit = true := by
  obtain ⟨digit, more, digits⟩ := List.exists_cons_of_ne_nil numeral.nonempty
  exact ⟨digit, more, digits, numeral.decimal digit (digits ▸ List.mem_cons_self)⟩

theorem stops_separator (numeral : Numeral) (rest : List Char) :
    Text.StopsRun isSeparator (numeral.digits ++ rest) := by
  obtain ⟨digit, more, digits, decimal⟩ := numeral.exists_cons
  rw [digits]
  exact Text.stopsRun_cons (isSeparator_of_isDigit decimal)

theorem leadingDigits_append (numeral : Numeral) {rest : List Char} (stops : StopsNumeral rest) :
    leadingDigits (numeral.digits ++ rest) = numeral.digits :=
  Text.takeWhile_run numeral.decimal stops

theorem afterDigits_append (numeral : Numeral) {rest : List Char} (stops : StopsNumeral rest) :
    afterDigits (numeral.digits ++ rest) = rest :=
  Text.dropWhile_run numeral.decimal stops

end Numeral

theorem leadingDigits_numeration (number : Option Numeral) {rest : List Char}
    (stops : StopsNumeral rest) :
    leadingDigits (numeration number ++ rest) = numeration number := by
  cases number with
  | none => exact Text.takeWhile_eq_nil_of_stopsRun stops
  | some numeral => exact numeral.leadingDigits_append stops

theorem afterDigits_numeration (number : Option Numeral) {rest : List Char}
    (stops : StopsNumeral rest) : afterDigits (numeration number ++ rest) = rest := by
  cases number with
  | none => exact Text.dropWhile_eq_self_of_stopsRun stops
  | some numeral => exact numeral.afterDigits_append stops

theorem leadingDigits_append_afterDigits (text : List Char) :
    leadingDigits text ++ afterDigits text = text :=
  List.takeWhile_append_dropWhile

/-- Leading digits make up a numeral if there are any. -/
theorem exists_numeration (text : List Char) :
    ∃ number, numeration number = leadingDigits text := by
  by_cases none : leadingDigits text = []
  · exact ⟨.none, none.symm⟩
  · refine ⟨some ⟨leadingDigits text, none, fun digit member => ?_⟩, rfl⟩
    exact List.all_eq_true.1 List.all_takeWhile digit member

/-! ## Tables of names -/

/-- The letter with which a longer word goes on where a shorter one ends. -/
def extension? (short long : List Char) : Option Char :=
  if short <+: long then (long.drop short.length).head? else none

/-- A word at the beginning of a name and what follows it ends within the name, or
goes on with the letter behind the name. -/
theorem prefix_append_cases {word name rest : List Char} (begins : word <+: name ++ rest) :
    word <+: name ∨ ∃ letter, extension? name word = some letter ∧ rest.head? = some letter := by
  rcases List.prefix_or_prefix_of_prefix begins (List.prefix_append name rest) with inside | beyond
  · exact .inl inside
  · obtain ⟨more, rfl⟩ := beyond
    cases more with
    | nil => exact .inl (by simp)
    | cons letter more =>
      right
      refine ⟨letter, by simp [extension?], ?_⟩
      rw [List.prefix_append_right_inj] at begins
      obtain ⟨others, rfl⟩ := begins
      rfl

/-- What follows a name does not go on with one of the letters. -/
abbrev StopsName (letters : List Char) (rest : List Char) : Prop :=
  Text.StopsRun (fun character => letters.contains (Text.fold character)) rest

/-- A word begins a spelled name and what follows it only if it begins the name or
goes on where the name ends. -/
theorem not_prefix_of_spelling {word name spelled more letters : List Char}
    (folded : spelled.map Text.fold = name) (outside : ¬word <+: name)
    (extended : ∀ letter ∈ extension? name word, letter ∈ letters)
    (stops : StopsName letters more) : ¬word <+: (spelled ++ more).map Text.fold := by
  intro begins
  rw [List.map_append, folded] at begins
  rcases prefix_append_cases begins with inside | ⟨letter, goesOn, next⟩
  · exact outside inside
  · have among := extended letter goesOn
    rw [List.head?_map] at next
    obtain ⟨character, head, rfl⟩ := Option.map_eq_some_iff.1 next
    have stopped := stops character head
    simp [among] at stopped

variable {Meaning : Type} {names : List (String × Meaning)} {Names : String → Meaning → Prop}
  {extending : List Char}

/-- A table lists the names of the grammar, a longer one before any that it begins
with; where a longer name goes on, it does so with an extending letter. -/
structure Lists (names : List (String × Meaning)) (Names : String → Meaning → Prop)
    (extending : List Char) : Prop where
  mem_iff : ∀ name meaning, (name, meaning) ∈ names ↔ Names name meaning
  lower : ∀ entry ∈ names, ∀ letter ∈ entry.1.toList, letter.isLower = true
  nonempty : ∀ entry ∈ names, entry.1.toList ≠ []
  ordered : names.Pairwise fun earlier later => ¬earlier.1.toList <+: later.1.toList
  extended : ∀ short ∈ names, ∀ long ∈ names,
    ∀ letter ∈ extension? short.1.toList long.1.toList, letter ∈ extending
  letters : ∀ letter ∈ extending, letter.isLower = true

theorem Lists.plain (table : Lists names Names extending) {entry : String × Meaning}
    (member : entry ∈ names) : ∀ letter ∈ entry.1.toList, Text.IsPlain letter :=
  fun letter among => Text.isPlain_of_isLower (table.lower entry member letter among)

theorem lists_phases : Lists Phase.spellings NamesPhase ['l', 'e', 'v'] where
  mem_iff name phase := by
    constructor
    · intro member
      simp only [Phase.spellings, List.mem_cons, Prod.mk.injEq, List.not_mem_nil, or_false]
        at member
      rcases member with ⟨rfl, rfl⟩ | ⟨rfl, rfl⟩ | ⟨rfl, rfl⟩ | ⟨rfl, rfl⟩ | ⟨rfl, rfl⟩ |
        ⟨rfl, rfl⟩ | ⟨rfl, rfl⟩ | ⟨rfl, rfl⟩ <;> constructor
    · intro named
      cases named <;> decide
  lower := by decide
  nonempty := by decide
  ordered := by decide
  extended := by decide
  letters := by decide

theorem lists_posts : Lists postNames NamesPost ['e'] where
  mem_iff name _ := by
    constructor
    · intro member
      simp only [postNames, List.mem_cons, Prod.mk.injEq, List.not_mem_nil, or_false] at member
      rcases member with ⟨rfl, -⟩ | ⟨rfl, -⟩ | ⟨rfl, -⟩ <;> constructor
    · intro named
      cases named <;> decide
  lower := by decide
  nonempty := by decide
  ordered := by decide
  extended := by decide
  letters := by decide

theorem lists_devs : Lists devNames NamesDev [] where
  mem_iff name _ := by
    constructor
    · intro member
      simp only [devNames, List.mem_cons, Prod.mk.injEq, List.not_mem_nil, or_false] at member
      obtain ⟨rfl, -⟩ := member
      constructor
    · intro named
      cases named
      decide
  lower := by decide
  nonempty := by decide
  ordered := by decide
  extended := by decide
  letters := by decide

/-! ## Reading names -/

/-- No name is read from a text that folds onto none. -/
theorem readName?_eq_none {text : List Char}
    (absent : ∀ entry ∈ names, ¬entry.1.toList <+: text.map Text.fold) :
    readName? names text = none := by
  unfold readName?
  rw [List.findSome?_eq_none_iff]
  rintro ⟨name, meaning⟩ member
  have none := Text.stripWord?_eq_none_iff.2 (absent (name, meaning) member)
  exact congrArg (Option.map _) none

/-- No name is read from a text that begins with the first letter of none. -/
theorem readName?_of_head (table : Lists names Names extending) {text : List Char}
    (other : ∀ character ∈ text.head?, ∀ entry ∈ names,
      entry.1.toList.head? ≠ some (Text.fold character)) : readName? names text = none := by
  apply readName?_eq_none
  intro entry member begins
  obtain ⟨letter, letters, name⟩ := List.exists_cons_of_ne_nil (table.nonempty entry member)
  cases text with
  | nil => simp [name] at begins
  | cons character text =>
    have different := other character rfl entry member
    rw [name, List.map_cons, List.cons_prefix_cons] at begins
    rw [name, List.head?_cons, begins.1] at different
    exact different rfl

/-- Of the names that a text begins with, the first of the table is read. -/
theorem readName?_append_cons {before after : List (String × Meaning)} {name : String}
    {meaning : Meaning} {text rest : List Char}
    (found : Text.stripWord? name.toList text = some rest)
    (absent : ∀ entry ∈ before, ¬entry.1.toList <+: text.map Text.fold) :
    readName? (before ++ (name, meaning) :: after) text = some (meaning, rest) := by
  have none : readName? before text = none := readName?_eq_none absent
  unfold readName? at none ⊢
  rw [List.findSome?_append, none, List.findSome?_cons]
  simp only [found]
  rfl

/-- A spelled name is read, unless what follows extends it. -/
theorem readName?_spelled (table : Lists names Names extending) {name : String}
    {meaning : Meaning} (named : Names name meaning) {spelled more : List Char}
    (spelling : List.Forall₂ Text.Matches name.toList spelled)
    (stops : StopsName extending more) :
    readName? names (spelled ++ more) = some (meaning, more) := by
  have listed := (table.mem_iff name meaning).2 named
  have plain := table.plain listed
  have folded := Text.map_fold_of_spelling plain spelling
  have found : Text.stripWord? name.toList (spelled ++ more) = some more :=
    (Text.stripWord?_eq_some_iff plain).2 ⟨spelled, spelling, rfl⟩
  obtain ⟨before, after, split⟩ := List.append_of_mem listed
  have ordered := table.ordered
  have extended := table.extended (name, meaning) listed
  rw [split] at ordered extended ⊢
  apply readName?_append_cons found
  intro entry member
  have outside := (List.pairwise_append.1 ordered).2.2 entry member _ List.mem_cons_self
  exact not_prefix_of_spelling folded outside (extended entry (List.mem_append_left _ member)) stops

/-- Where a name of one table stands, no name of another is read, unless it goes on
where the first name ends. -/
theorem readName?_other (table : Lists names Names extending) {Other : Type}
    {others : List (String × Other)} {letters : List Char} {name : String} {meaning : Meaning}
    (named : Names name meaning) {spelled more : List Char}
    (spelling : List.Forall₂ Text.Matches name.toList spelled)
    (differ : ∀ entry ∈ names, ∀ other ∈ others, ¬other.1.toList <+: entry.1.toList ∧
      ∀ letter ∈ extension? entry.1.toList other.1.toList, letter ∈ letters)
    (stops : StopsName letters more) :
    readName? others (spelled ++ more) = none := by
  have listed := (table.mem_iff name meaning).2 named
  have folded := Text.map_fold_of_spelling (table.plain listed) spelling
  apply readName?_eq_none
  intro other member
  obtain ⟨outside, extended⟩ := differ (name, meaning) listed other member
  exact not_prefix_of_spelling folded outside extended stops

/-- What is read is a spelling of a name. -/
theorem exists_spelled_of_readName? (table : Lists names Names extending) {text rest : List Char}
    {meaning : Meaning} (found : readName? names text = some (meaning, rest)) :
    ∃ name spelled, Names name meaning ∧ List.Forall₂ Text.Matches name.toList spelled ∧
      text = spelled ++ rest := by
  obtain ⟨⟨name, other⟩, member, read⟩ := List.exists_of_findSome?_eq_some found
  obtain ⟨behind, stripped, same⟩ := Option.map_eq_some_iff.1 read
  obtain ⟨rfl, rfl⟩ := Prod.mk.inj same
  obtain ⟨spelled, spelling, rfl⟩ :=
    (Text.stripWord?_eq_some_iff (table.plain member)).1 stripped
  exact ⟨name, spelled, (table.mem_iff _ _).1 member, spelling, rfl⟩

/-- A spelled name begins with the first letter of the name. -/
theorem exists_initial (table : Lists names Names extending) {name : String} {meaning : Meaning}
    (named : Names name meaning) {spelled : List Char}
    (spelling : List.Forall₂ Text.Matches name.toList spelled) :
    ∃ character more, spelled = character :: more ∧
      name.toList.head? = some (Text.fold character) ∧
      (Text.fold character).isLower = true := by
  have listed := (table.mem_iff name meaning).2 named
  obtain ⟨letter, letters, letterwise⟩ := List.exists_cons_of_ne_nil (table.nonempty _ listed)
  have lower := table.lower _ listed letter (letterwise ▸ List.mem_cons_self)
  change name.toList = letter :: letters at letterwise
  rw [letterwise] at spelling ⊢
  obtain ⟨character, more, matched, -, rfl⟩ := List.forall₂_cons_left_iff.1 spelling
  have folded := (Text.fold_eq_iff_matches (Text.isPlain_of_isLower lower)).2 matched
  exact ⟨character, more, rfl, by rw [folded]; rfl, by rw [folded]; exact lower⟩

/-! ## Reading named parts -/

namespace Named

theorem stops_spelled (table : Lists names Names extending) (part : Named Names)
    (rest : List Char) : Text.StopsRun isSeparator (part.spelled ++ rest) := by
  obtain ⟨character, more, spelled, -, lower⟩ := exists_initial table part.named part.spelling
  have code := Text.code_of_isLower_fold lower
  rw [spelled]
  refine Text.stopsRun_cons ?_
  rw [Bool.eq_false_iff, Ne, isSeparator_iff]
  omega

theorem skipSeparator_characters (table : Lists names Names extending) (part : Named Names)
    (rest : List Char) :
    skipSeparator (part.characters ++ rest) = part.spelled ++ (part.tail ++ rest) := by
  rw [characters, List.append_assoc, List.append_assoc]
  exact skipSeparator_separation part.before (part.stops_spelled table _)

/-- What is left behind a part: a bare name takes the separator that follows it. -/
def behind (part : Named Names) (rest : List Char) : List Char :=
  match part.after, part.number with
  | none, none => skipSeparator rest
  | _, _ => rest

/-- The numeral behind a name, and what is left after it. -/
theorem digits_tail (part : Named Names) {rest : List Char} (stops : StopsNumeral rest)
    (stopsBare : part.IsBare → StopsNumeral (skipSeparator rest)) :
    leadingDigits (skipSeparator (part.tail ++ rest)) = numeration part.number ∧
      afterDigits (skipSeparator (part.tail ++ rest)) = part.behind rest := by
  unfold tail behind
  rw [List.append_assoc]
  cases after : part.after with
  | some separator =>
    have skipped : skipSeparator (separation (some separator) ++ (numeration part.number ++ rest)) =
        numeration part.number ++ rest := if_pos (isSeparator_character separator)
    rw [skipped]
    exact ⟨leadingDigits_numeration _ stops, afterDigits_numeration _ stops⟩
  | none =>
    cases number : part.number with
    | some numeral =>
      have kept : skipSeparator (separation none ++ (numeration (some numeral) ++ rest)) =
          numeration (some numeral) ++ rest :=
        skipSeparator_of_stops (numeral.stops_separator rest)
      rw [kept]
      exact ⟨leadingDigits_numeration _ stops, afterDigits_numeration _ stops⟩
    | none =>
      have stopped := stopsBare ⟨after, number⟩
      exact ⟨leadingDigits_numeration none stopped, afterDigits_numeration none stopped⟩

/-- The separator and the digits behind a name do not extend it. -/
theorem stops_tail (part : Named Names) {letters rest : List Char}
    (lower : ∀ letter ∈ letters, letter.isLower = true) (stops : StopsName letters rest) :
    StopsName letters (part.tail ++ rest) := by
  have outside {character : Char} (other : character.toNat < 65 ∨ character.toNat = 95) :
      letters.contains (Text.fold character) = false := by
    rw [Bool.eq_false_iff, Ne, List.contains_iff_mem]
    intro among
    have code := Text.code_of_isLower_fold (lower _ among)
    omega
  unfold tail
  rw [List.append_assoc]
  cases part.after with
  | some separator =>
    refine Text.stopsRun_cons (outside ?_)
    cases separator <;> decide
  | none =>
    cases part.number with
    | some numeral =>
      obtain ⟨digit, more, digits, decimal⟩ := numeral.exists_cons
      have code := Text.isDigit_iff.1 decimal
      change Text.StopsRun _ (numeral.digits ++ rest)
      rw [digits]
      exact Text.stopsRun_cons (outside (by omega))
    | none => exact stops

/-- A part is read, whether or not the separator in front of it was already taken. -/
theorem readNamed?_eq (table : Lists names Names extending) (part : Named Names)
    {text rest : List Char} (begins : skipSeparator text = part.spelled ++ (part.tail ++ rest))
    (stops : StopsNumeral rest) (stopsBare : part.IsBare → StopsNumeral (skipSeparator rest))
    (stopsName : StopsName extending rest) :
    readNamed? names text =
      some ((part.meaning, numeration part.number), part.behind rest) := by
  obtain ⟨digits, left⟩ := part.digits_tail stops stopsBare
  unfold readNamed?
  rw [begins, readName?_spelled table part.named part.spelling
    (part.stops_tail table.letters stopsName)]
  simp only [Option.map_some, digits, left]

/-- What is read is a part, and a bare name leaves no separator behind. -/
theorem exists_of_readNamed? (table : Lists names Names extending) {text rest digits : List Char}
    {meaning : Meaning} (found : readNamed? names text = some ((meaning, digits), rest)) :
    ∃ part : Named Names, part.meaning = meaning ∧ numeration part.number = digits ∧
      text = part.characters ++ rest ∧ (part.IsBare → Text.StopsRun isSeparator rest) := by
  obtain ⟨⟨same, more⟩, name, read⟩ := Option.map_eq_some_iff.1 found
  obtain ⟨parts, rfl⟩ := Prod.mk.inj read
  obtain ⟨rfl, rfl⟩ := Prod.mk.inj parts
  obtain ⟨name, spelled, named, spelling, begins⟩ := exists_spelled_of_readName? table name
  obtain ⟨before, whole, -⟩ := exists_separation text
  obtain ⟨after, tail, none_left⟩ := exists_separation more
  obtain ⟨number, written⟩ := exists_numeration (skipSeparator more)
  refine ⟨⟨before, name, same, named, spelled, spelling, after, number⟩, rfl, written, ?_, ?_⟩
  · simp only [characters, Named.tail, List.append_assoc, written,
      leadingDigits_append_afterDigits]
    rw [← tail, ← begins, ← whole]
  · rintro ⟨noSeparator, noNumber⟩
    change after = none at noSeparator
    change number = none at noNumber
    subst noSeparator noNumber
    have stops := none_left rfl
    have kept := skipSeparator_of_stops stops
    have undivided := leadingDigits_append_afterDigits more
    rw [kept] at written ⊢
    rw [← written] at undivided
    change afterDigits more = more at undivided
    rw [undivided]
    exact stops

end Named

end ReleasePilot.Version.Grammar
