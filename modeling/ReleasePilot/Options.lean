import ReleasePilot.Text.Split

/-!
# Options

The words of the command line are options, some of which take a value. Each
option may be given once, and words that are no options are not accepted. A
request for help is granted as soon as it is read; what excludes each other is
checked at the end.
-/

namespace ReleasePilot

/-- The options of the command line. -/
inductive Switch where
  | version
  | dryRun
  | testIndex
  | repository
  | repositoryUrl
  | newVersion
  | config
  | verbose
  | help
deriving DecidableEq, Repr

namespace Switch

/-- All options, in the order of the help. -/
def all : List Switch :=
  [.version, .dryRun, .testIndex, .repository, .repositoryUrl, .newVersion, .config, .verbose,
    .help]

/-- The long name of an option. -/
def long : Switch → String
  | .version => "version"
  | .dryRun => "dry-run"
  | .testIndex => "test-pypi"
  | .repository => "repository"
  | .repositoryUrl => "repository-url"
  | .newVersion => "new-version"
  | .config => "config"
  | .verbose => "verbose"
  | .help => "help"

/-- The one letter that some options have for a name. -/
def short? : Switch → Option Char
  | .version => some 'V'
  | .dryRun => some 'n'
  | .testIndex => some 'T'
  | .config => some 'c'
  | .verbose => some 'v'
  | .help => some 'h'
  | .repository | .repositoryUrl | .newVersion => none

/-- What the value of an option is, if it takes one. -/
def value? : Switch → Option String
  | .repository => some "NAME"
  | .repositoryUrl => some "URL"
  | .newVersion => some "VERSION"
  | .config => some "PATH"
  | .version | .dryRun | .testIndex | .verbose | .help => none

/-- What an option is for. -/
def description : Switch → String
  | .version => "Print the current version and exit"
  | .dryRun => "Preview what would happen without making changes"
  | .testIndex => "Upload to the configured test repository"
  | .repository => "Upload to a named repository"
  | .repositoryUrl => "Upload to an explicit repository URL"
  | .newVersion => "Release this version without prompting"
  | .config => "Custom configuration file path"
  | .verbose => "Show debug logging"
  | .help => "Print help"

/-- The options that an option excludes. -/
def excludes : Switch → List Switch
  | .testIndex => [.repository, .repositoryUrl]
  | .repository => [.repositoryUrl]
  | _ => []

/-- Whether an option takes a value that may not be empty. -/
def needsText (option : Switch) : Bool :=
  option == .config

/-- An option as it is written, with its value. -/
def usage (option : Switch) : String :=
  "--" ++ option.long ++
    match option.value? with
    | some value => " <" ++ value ++ ">"
    | none => ""

/-- The option with a long name. -/
def ofLong? (name : List Char) : Option Switch :=
  all.find? fun option => option.long.toList = name

/-- The option with a short name. -/
def ofShort? (name : Char) : Option Switch :=
  all.find? fun option => option.short? = some name

end Switch

/-- What is wrong with the words of the command line. -/
inductive UsageProblem where
  | unexpected (word : String)
  | valueMissing (option : Switch)
  | valueUnexpected (option : Switch) (value : String)
  | repeated (option : Switch)
  | conflicting (option other : Switch)
deriving DecidableEq, Repr

namespace UsageProblem

/-- A problem in words. -/
def message : UsageProblem → String
  | .unexpected word => "unexpected argument '" ++ word ++ "' found"
  | .valueMissing option =>
    "a value is required for '" ++ option.usage ++ "' but none was supplied"
  | .valueUnexpected option value =>
    "unexpected value '" ++ value ++ "' for '" ++ option.usage ++ "' found; no more were expected"
  | .repeated option => "the argument '" ++ option.usage ++ "' cannot be used multiple times"
  | .conflicting option other =>
    "the argument '" ++ option.usage ++ "' cannot be used with '" ++ other.usage ++ "'"

end UsageProblem

/-- The options that are given, with their values. -/
abbrev Options := List (Switch × String)

namespace Options

/-- The name of the program. -/
def programName : String := "pkg-release"

/-- The line that sums up the usage of the program. -/
def usageLine : String :=
  "Usage: " ++ programName ++ " [OPTIONS]"

/-- An option in the help, without its description. -/
def helpForm (option : Switch) : String :=
  (match option.short? with
    | some name => "  -" ++ String.singleton name ++ ", "
    | none => "      ") ++ option.usage

/-- A text filled up with spaces. -/
def padded (width : Nat) (text : String) : String :=
  text ++ String.ofList (List.replicate (width - text.length) ' ')

/-- The help of the program. -/
def help : String :=
  let width := (Switch.all.map fun option => (helpForm option).length).foldl max 0 + 2
  let entries := Switch.all.map fun option =>
    padded width (helpForm option) ++ option.description
  "\n".intercalate
    (["Bump the version, update the changelog, tag and publish a package release", "",
      usageLine, "", "Options:"] ++ entries)

/-- What is said about a problem. -/
def complaint (problem : UsageProblem) : String :=
  "\n".intercalate
    ["error: " ++ problem.message, "", usageLine, "", "For more information, try '--help'."]

/-- The value of an option that is given. -/
def value? (options : Options) (option : Switch) : Option String :=
  options.lookup option

/-- Whether an option is given. -/
def has (options : Options) (option : Switch) : Bool :=
  (options.value? option).isSome

/-- The options with one more, which may not be there already. -/
def add (options : Options) (option : Switch) (value : String) : Except UsageProblem Options :=
  if option.needsText ∧ value = "" then .error (.valueMissing option)
  else if options.has option then .error (.repeated option)
  else .ok (options ++ [(option, value)])

/-- What the words read so far come to: more words are wanted, or the value of
an option, or help. -/
inductive Progress where
  | ready (options : Options)
  | awaiting (options : Options) (option : Switch)
  | helpWanted
deriving DecidableEq, Repr

/-- Reads the letters of a word of short options. What follows an option that
takes a value is that value. -/
def readShort (options : Options) : List Char → Except UsageProblem Progress
  | [] => .ok (.ready options)
  | name :: rest =>
    match Switch.ofShort? name with
    | none => .error (.unexpected ("-" ++ String.singleton name))
    | some .help => .ok .helpWanted
    | some option =>
      if option.value?.isNone then do readShort (← options.add option "") rest
      else
        match rest with
        | [] => .ok (.awaiting options option)
        | '=' :: value | value => return .ready (← options.add option (String.ofList value))

/-- Reads a long option, which may have its value behind an equals sign. -/
def readLong (options : Options) (word : List Char) : Except UsageProblem Progress :=
  let (name, attached) :=
    match Text.splitOnce? '=' word with
    | some (name, value) => (name, some (String.ofList value))
    | none => (word, none)
  match Switch.ofLong? name with
  | none => .error (.unexpected ("--" ++ String.ofList word))
  | some option =>
    match option.value?, attached with
    | none, some value => .error (.valueUnexpected option value)
    | none, none =>
      if option = .help then .ok .helpWanted else return .ready (← options.add option "")
    | some _, some value => return .ready (← options.add option value)
    | some _, none => .ok (.awaiting options option)

/-- Reads words. Behind two dashes that stand alone, no word is an option.
Gives nothing if help is wanted. -/
def readWords (options : Options) : List String → Except UsageProblem (Option Options)
  | [] => .ok (some options)
  | word :: more => do
    let progress ←
      match word.toList with
      | ['-', '-'] =>
        match more with
        | [] => .ok (.ready options)
        | next :: _ => .error (.unexpected next)
      | '-' :: '-' :: name => readLong options name
      | '-' :: name :: names => readShort options (name :: names)
      | _ => .error (.unexpected word)
    match progress with
    | .helpWanted => .ok none
    | .ready options => readWords options more
    | .awaiting options option =>
      match more with
      | [] => .error (.valueMissing option)
      | value :: more =>
        if value ≠ "-" ∧ value.toList.head? = some '-' then .error (.valueMissing option)
        else readWords (← options.add option value) more

/-- The first two options that exclude each other. -/
def conflict? (options : Options) : Option (Switch × Switch) :=
  options.findSome? fun (option, _) =>
    (option.excludes.find? options.has).map fun other => (option, other)

/-- The options that words give, or nothing if they ask for help. -/
def parse (words : List String) : Except UsageProblem (Option Options) := do
  match ← readWords [] words with
  | none => return none
  | some options =>
    match options.conflict? with
    | some (option, other) => .error (.conflicting option other)
    | none => return some options

end Options

end ReleasePilot
