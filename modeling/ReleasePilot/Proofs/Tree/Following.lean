import ReleasePilot.Proofs.Tree.RegularFile

/-!
# Following paths in stretches

Names lead from one location to another (`Leads`), by the same rules by which they are
followed (`walk_eq_ok_iff`). What follows a stretch of names starts in a directory that the
stretch leads to (`Leads.of_append`). A change at one location makes a difference only to
names that lead to it or through a link there (`Leads.of_sameElsewhere`).
-/

namespace ReleasePilot.Tree

/-- A location is a directory, and so is every location above it. -/
def IsOpen (tree : Tree) (place : Location) : Prop :=
  ∀ above, above <+: place → tree.lookup above = some .directory

/-- Where the names of a link's target are followed from. -/
def linkStart (place : Location) (target : String) : Location :=
  if isAbsolutePath target then [] else place

/-- Names lead from a location to another, through a limited number of links. -/
inductive Leads (tree : Tree) : Nat → Location → List String → Location → Prop where
  | done {links : Nat} {place : Location} : Leads tree links place [] place
  | stay {links : Nat} {place last : Location} {name : String} {rest : List String}
      (same : name = "" ∨ name = ".") (rests : Leads tree links place rest last) :
      Leads tree links place (name :: rest) last
  | ascend {links : Nat} {place last : Location} {rest : List String}
      (rests : Leads tree links place.dropLast rest last) :
      Leads tree links place (".." :: rest) last
  | enter {links : Nat} {place last : Location} {name : String} {rest : List String}
      (plain : IsPlainName name) (short : name.utf8ByteSize ≤ nameLimit)
      (found : tree.lookup (place ++ [name]) = some .directory)
      (rests : Leads tree links (place ++ [name]) rest last) :
      Leads tree links place (name :: rest) last
  /-- Only the last name may be of anything but a directory, or of nothing. -/
  | arrive {links : Nat} {place : Location} {name : String} (plain : IsPlainName name)
      (short : name.utf8ByteSize ≤ nameLimit)
      (noDirectory : tree.lookup (place ++ [name]) ≠ some .directory)
      (noLink : ∀ target, tree.lookup (place ++ [name]) ≠ some (.link target)) :
      Leads tree links place [name] (place ++ [name])
  | follow {links : Nat} {place last : Location} {name target : String} {rest : List String}
      (plain : IsPlainName name) (short : name.utf8ByteSize ≤ nameLimit)
      (found : tree.lookup (place ++ [name]) = some (.link target))
      (rests : Leads tree links (linkStart place target) (pathNames target ++ rest) last) :
      Leads tree (links + 1) place (name :: rest) last

variable {tree other : Tree} {links more : Nat} {place last : Location}
  {names rest : List String}

/-! ## Walking -/

/-- A name that is neither empty nor a dot leads to an entry of its own. -/
theorem walkNames_of_plain {follow : Location → List String → Except Fault Location}
    {name : String} (plain : IsPlainName name) (short : name.utf8ByteSize ≤ nameLimit) :
    tree.walkNames follow place (name :: rest) =
      match tree.lookup (place ++ [name]) with
      | none => if rest.isEmpty then .ok (place ++ [name]) else .error .notFound
      | some (.file _ _) | some (.service _) =>
        if rest.isEmpty then .ok (place ++ [name]) else .error .notDirectory
      | some .directory => tree.walkNames follow (place ++ [name]) rest
      | some (.link target) => follow (linkStart place target) (pathNames target ++ rest) := by
  obtain ⟨notEmpty, notHere, notAbove⟩ := plain
  rw [walkNames, if_neg (by simp [notEmpty, notHere]), if_neg notAbove,
    if_neg (Nat.not_lt.2 short)]
  rfl

/-- Names that are walked lead to where the walk ends, if the targets of links do. -/
theorem leads_of_walkNames {follow : Location → List String → Except Fault Location}
    (follows : ∀ name start target rest, IsPlainName name → name.utf8ByteSize ≤ nameLimit →
      tree.lookup (start ++ [name]) = some (.link target) →
      follow (linkStart start target) (pathNames target ++ rest) = .ok last →
      Leads tree links start (name :: rest) last)
    (walked : tree.walkNames follow place names = .ok last) :
    Leads tree links place names last := by
  induction names generalizing place with
  | nil =>
    obtain rfl := Except.ok.inj walked
    exact .done
  | cons name rest inductionHypothesis =>
    by_cases same : name = "" ∨ name = "."
    · rw [walkNames, if_pos same] at walked
      exact .stay same (inductionHypothesis walked)
    by_cases up : name = ".."
    · rw [walkNames, if_neg same, if_pos up] at walked
      subst up
      exact .ascend (inductionHypothesis walked)
    by_cases long : nameLimit < name.utf8ByteSize
    · rw [walkNames, if_neg same, if_neg up, if_pos long] at walked
      cases walked
    have plain : IsPlainName name := ⟨(same <| .inl ·), (same <| .inr ·), up⟩
    have short := Nat.not_lt.1 long
    rw [walkNames_of_plain plain short] at walked
    -- At the last name the walk arrives; before it there has to be a directory or a link.
    have arrives (noDirectory : tree.lookup (place ++ [name]) ≠ some .directory)
        (noLink : ∀ target, tree.lookup (place ++ [name]) ≠ some (.link target)) {fault : Fault}
        (ends : (if rest.isEmpty then .ok (place ++ [name]) else .error fault) = Except.ok last) :
        Leads tree links place (name :: rest) last := by
      split at ends
      case isTrue final =>
        obtain rfl := Except.ok.inj ends
        rw [List.isEmpty_iff.1 final]
        exact .arrive plain short noDirectory noLink
      case isFalse => cases ends
    split at walked
    case h_1 missing => exact arrives (by simp [missing]) (by simp [missing]) walked
    case h_2 contents executable file => exact arrives (by simp [file]) (by simp [file]) walked
    case h_3 kind served => exact arrives (by simp [served]) (by simp [served]) walked
    case h_4 directory => exact .enter plain short directory (inductionHypothesis walked)
    case h_5 target link => exact follows name place target rest plain short link walked

theorem leads_of_walk (walked : tree.walk links place names = .ok last) :
    Leads tree links place names last := by
  induction links generalizing place names with
  | zero =>
    refine leads_of_walkNames ?_ walked
    intro _ _ _ _ _ _ _ followed
    cases followed
  | succ links inductionHypothesis =>
    exact leads_of_walkNames (fun _ _ _ _ plain short link followed =>
      .follow plain short link (inductionHypothesis followed)) walked

/-- The names that a walk with some number of links leaves to follow. -/
theorem walk_eq_walkNames (tree : Tree) (links : Nat) : ∃ follow,
    tree.walk links = tree.walkNames follow ∧
      ∀ fewer, links = fewer + 1 → follow = tree.walk fewer := by
  cases links with
  | zero => exact ⟨_, rfl, nofun⟩
  | succ fewer =>
    refine ⟨_, rfl, ?_⟩
    rintro _ ⟨⟩
    rfl

theorem walk_of_leads (leads : Leads tree links place names last) :
    tree.walk links place names = .ok last := by
  induction leads with
  | @done links place => cases links <;> rfl
  | @stay links place last name rest same rests inductionHypothesis =>
    obtain ⟨follow, walks, -⟩ := walk_eq_walkNames tree links
    rw [walks] at inductionHypothesis ⊢
    rw [walkNames, if_pos same, inductionHypothesis]
  | @ascend links place last rest rests inductionHypothesis =>
    obtain ⟨follow, walks, -⟩ := walk_eq_walkNames tree links
    rw [walks] at inductionHypothesis ⊢
    rw [walkNames, if_neg (by decide), if_pos rfl, inductionHypothesis]
  | @enter links place last name rest plain short found rests inductionHypothesis =>
    obtain ⟨follow, walks, -⟩ := walk_eq_walkNames tree links
    rw [walks] at inductionHypothesis ⊢
    rw [walkNames_of_plain plain short, found]
    exact inductionHypothesis
  | @arrive links place name plain short noDirectory noLink =>
    obtain ⟨follow, walks, -⟩ := walk_eq_walkNames tree links
    rw [walks, walkNames_of_plain plain short]
    split
    case h_4 directory => exact absurd directory noDirectory
    case h_5 target link => exact absurd link (noLink target)
    all_goals rfl
  | @follow links place last name target rest plain short found rests inductionHypothesis =>
    obtain ⟨follow, walks, follows⟩ := walk_eq_walkNames tree (links + 1)
    rw [walks, walkNames_of_plain plain short, found, follows links rfl]
    exact inductionHypothesis

theorem walk_eq_ok_iff :
    tree.walk links place names = .ok last ↔ Leads tree links place names last :=
  ⟨leads_of_walk, walk_of_leads⟩

/-! ## Stretches -/

theorem isOpen_nil (tree : Tree) : tree.IsOpen [] := by
  intro above within
  rw [List.prefix_nil.1 within]
  rfl

theorem IsOpen.self (isOpen : tree.IsOpen place) : tree.lookup place = some .directory :=
  isOpen place List.prefix_rfl

theorem IsOpen.dropLast (isOpen : tree.IsOpen place) : tree.IsOpen place.dropLast :=
  fun above within => isOpen above (within.trans (List.dropLast_prefix place))

theorem IsOpen.concat {name : String} (isOpen : tree.IsOpen place)
    (found : tree.lookup (place ++ [name]) = some .directory) : tree.IsOpen (place ++ [name]) := by
  intro above within
  rcases List.prefix_concat_iff.1 within with rfl | inside
  · exact found
  · exact isOpen above inside

theorem IsOpen.linkStart (isOpen : tree.IsOpen place) (target : String) :
    tree.IsOpen (linkStart place target) := by
  unfold Tree.linkStart
  split
  · exact isOpen_nil tree
  · exact isOpen

namespace Leads

theorem mono (leads : Leads tree links place names last) (enough : links ≤ more) :
    Leads tree more place names last := by
  induction leads generalizing more with
  | done => exact .done
  | stay same rests inductionHypothesis => exact .stay same (inductionHypothesis enough)
  | ascend rests inductionHypothesis => exact .ascend (inductionHypothesis enough)
  | enter plain short found rests inductionHypothesis =>
    exact .enter plain short found (inductionHypothesis enough)
  | arrive plain short noDirectory noLink => exact .arrive plain short noDirectory noLink
  | follow plain short found rests inductionHypothesis =>
    obtain ⟨fewer, rfl⟩ := Nat.exists_eq_add_one_of_ne_zero (Nat.ne_zero_of_lt enough)
    exact .follow plain short found (inductionHypothesis (Nat.le_of_succ_le_succ enough))

/-- Names lead to one location, however many links are allowed. -/
theorem unique {elsewhere : Location} (leads : Leads tree links place names last)
    (leadsToo : Leads tree more place names elsewhere) : last = elsewhere := by
  have walked := walk_of_leads (leads.mono (Nat.le_max_left links more))
  rw [walk_of_leads (leadsToo.mono (Nat.le_max_right links more))] at walked
  exact (Except.ok.inj walked).symm

/-- What stands behind a stretch of names is followed from a directory that the stretch
leads to. -/
theorem of_append (leads : Leads tree links place (names ++ rest) last)
    (isOpen : tree.IsOpen place) (remains : rest ≠ []) :
    ∃ between fewer, Leads tree links place names between ∧ tree.IsOpen between ∧
      Leads tree fewer between rest last := by
  -- The induction is on the whole way, which the stretch may end at any name of.
  generalize whole : names ++ rest = all at leads
  induction leads generalizing names with
  | done => exact absurd (List.append_eq_nil_iff.1 whole).2 remains
  | @stay links place last name others same rests inductionHypothesis =>
    rcases List.append_eq_cons_iff.1 whole with ⟨rfl, rfl⟩ | ⟨names, rfl, rfl⟩
    · exact ⟨place, links, .done, isOpen, .stay same rests⟩
    · obtain ⟨between, fewer, first, opens, second⟩ := inductionHypothesis isOpen rfl
      exact ⟨between, fewer, .stay same first, opens, second⟩
  | @ascend links place last others rests inductionHypothesis =>
    rcases List.append_eq_cons_iff.1 whole with ⟨rfl, rfl⟩ | ⟨names, rfl, rfl⟩
    · exact ⟨place, links, .done, isOpen, .ascend rests⟩
    · obtain ⟨between, fewer, first, opens, second⟩ := inductionHypothesis isOpen.dropLast rfl
      exact ⟨between, fewer, .ascend first, opens, second⟩
  | @enter links place last name others plain short found rests inductionHypothesis =>
    rcases List.append_eq_cons_iff.1 whole with ⟨rfl, rfl⟩ | ⟨names, rfl, rfl⟩
    · exact ⟨place, links, .done, isOpen, .enter plain short found rests⟩
    · obtain ⟨between, fewer, first, opens, second⟩ :=
        inductionHypothesis (isOpen.concat found) rfl
      exact ⟨between, fewer, .enter plain short found first, opens, second⟩
  | @arrive links place name plain short noDirectory noLink =>
    rcases List.append_eq_cons_iff.1 whole with ⟨rfl, rfl⟩ | ⟨names, rfl, behind⟩
    · exact ⟨place, links, .done, isOpen, .arrive plain short noDirectory noLink⟩
    · exact absurd (List.append_eq_nil_iff.1 behind.symm).2 remains
  | @follow links place last name target others plain short found rests inductionHypothesis =>
    rcases List.append_eq_cons_iff.1 whole with ⟨rfl, rfl⟩ | ⟨names, rfl, rfl⟩
    · exact ⟨place, links + 1, .done, isOpen, .follow plain short found rests⟩
    · obtain ⟨between, fewer, first, opens, second⟩ :=
        inductionHypothesis (isOpen.linkStart target) (List.append_assoc ..)
      exact ⟨between, fewer, .follow plain short found first, opens, second⟩

/-- What a link in the last place leads to is what its target leads to. -/
theorem of_link {name target : String} (leads : Leads tree links place [name] last)
    (plain : IsPlainName name) (link : tree.lookup (place ++ [name]) = some (.link target)) :
    ∃ fewer, Leads tree fewer (linkStart place target) (pathNames target) last := by
  cases leads with
  | stay same =>
    rcases same with rfl | rfl
    · exact absurd rfl plain.1
    · exact absurd rfl plain.2.1
  | ascend => exact absurd rfl plain.2.2
  | enter _ _ found => cases link.symm.trans found
  | arrive _ _ _ noLink => exact absurd link (noLink target)
  | follow _ _ found rests =>
    cases link.symm.trans found
    rw [List.append_nil] at rests
    exact ⟨_, rests⟩

/-- If nothing but one location changes, names lead to another as before, unless they lead
through a link that was there. -/
theorem of_sameElsewhere {changed : Location} (leads : Leads tree links place names last)
    (same : ∀ location, location ≠ changed → other.lookup location = tree.lookup location)
    (noDirectory : tree.lookup changed ≠ some .directory) (different : last ≠ changed)
    (aside : ∀ target, tree.lookup changed = some (.link target) → ∀ links rest,
      ¬Leads tree links (linkStart changed.dropLast target) (pathNames target ++ rest) last) :
    Leads other links place names last := by
  induction leads with
  | done => exact .done
  | stay still rests inductionHypothesis => exact .stay still (inductionHypothesis different aside)
  | ascend rests inductionHypothesis => exact .ascend (inductionHypothesis different aside)
  | @enter links place last name rest plain short found rests inductionHypothesis =>
    have away : place ++ [name] ≠ changed := by
      rintro rfl
      exact noDirectory found
    exact .enter plain short ((same _ away).trans found) (inductionHypothesis different aside)
  | @arrive links place name plain short none noLink =>
    refine .arrive plain short ?_ fun target => ?_
    · rwa [same _ different]
    · rw [same _ different]
      exact noLink target
  | @follow links place last name target rest plain short found rests inductionHypothesis =>
    have away : place ++ [name] ≠ changed := by
      rintro rfl
      refine aside target found links rest ?_
      rwa [List.dropLast_concat]
    exact .follow plain short ((same _ away).trans found) (inductionHypothesis different aside)

end Leads

end ReleasePilot.Tree
