import ReleasePilot.Program.Editing
import ReleasePilot.Text.Integer

/-!
# Starting programs with other variables

A program may be started by another one, which first changes its variables and
its working directory. Without a program to start, the variables are shown.
-/

namespace ReleasePilot

/-- What a program is started with once its environment is prepared. -/
structure Preparation where
  bindings : List (RawText × RawText)
  directory : Option RawText := none
  /-- The name of the program and its arguments. -/
  words : List RawText := []
deriving DecidableEq, Repr

namespace Preparation

/-- Variables with one of them set, at its place if it is there already. -/
def putBinding (name value : RawText) : List (RawText × RawText) → List (RawText × RawText)
  | [] => [(name, value)]
  | (known, old) :: more =>
    if known = name then (name, value) :: more else (known, old) :: putBinding name value more

/-- The preparation without one of its variables. -/
def erase (preparation : Preparation) (name : RawText) : Preparation :=
  { preparation with bindings := preparation.bindings.filter (·.1 != name) }

/-- Takes the settings at the front of some words. -/
def readSettings (preparation : Preparation) : List RawText → Preparation
  | [] => preparation
  | word :: rest =>
    match Text.splitOnce? '=' word.toList with
    | some (name, value) =>
      let bindings := putBinding (String.ofList name) (String.ofList value) preparation.bindings
      readSettings { preparation with bindings } rest
    | none => { preparation with words := word :: rest }

/-- The words of a text, between its blanks and with its quotes taken off. -/
def splitWords (current : Option (List Char)) (quote : Option Char) : List Char → List RawText
  | [] => (current.map fun characters => String.ofList characters.reverse).toList
  | '\\' :: character :: rest => splitWords (some (character :: current.getD [])) quote rest
  | character :: rest =>
    match quote with
    | some closing =>
      if character = closing then splitWords (some (current.getD [])) none rest
      else splitWords (some (character :: current.getD [])) quote rest
    | none =>
      if character = '"' ∨ character = '\'' then
        splitWords (some (current.getD [])) (some character) rest
      else if Text.isAsciiBlank character then
        (current.map fun characters => String.ofList characters.reverse).toList ++
          splitWords none none rest
      else splitWords (some (character :: current.getD [])) none rest

/-- Reads the options at the front of some words, or says what is wrong with
them. Their number is bounded by that of the characters. -/
def readOptions (preparation : Preparation) : Nat → List RawText → Except RawText Preparation
  | 0, _ | _, [] => .ok preparation
  | count + 1, word :: rest =>
    let bare := { preparation with bindings := [] }
    let valued (letter : Char) (value : List Char)
        (go : RawText → List RawText → Except RawText Preparation) :
        Except RawText Preparation :=
      match value, rest with
      | [], given :: rest => go given rest
      | [], [] => .error ("option requires an argument -- '" ++ String.ofList [letter, '\''])
      | value, rest => go (String.ofList value) rest
    match word.toList with
    | ['-'] | ['-', 'i'] => readOptions bare count rest
    | ['-', '-'] => .ok (readSettings preparation rest)
    | '-' :: 'u' :: value =>
      valued 'u' value fun name rest => readOptions (preparation.erase name) count rest
    | '-' :: 'C' :: value =>
      valued 'C' value fun path rest =>
        readOptions { preparation with directory := some path } count rest
    | '-' :: 'S' :: value =>
      valued 'S' value fun text rest =>
        readOptions preparation count (splitWords none none text.toList ++ rest)
    | '-' :: letter :: _ =>
      if word = "--ignore-environment" then readOptions bare count rest
      else .error ("invalid option -- '" ++ String.ofList [letter, '\''])
    | _ => .ok (readSettings preparation (word :: rest))

end Preparation

namespace Utility

/-- Starts another program with variables of its own. -/
def env (launcher : Launcher) : Utility := fun launch =>
  let size := launch.arguments.foldl (fun total word => total + word.length + 1) 1
  match Preparation.readOptions { bindings := launch.bindings } size launch.arguments with
  | .error complaint =>
    launch.failing (complaint ++ "\nTry '" ++ launch.name ++ " --help' for more information.") 125
  | .ok { bindings, directory, words } =>
    let entered : Except Fault Tree :=
      match directory with
      | none => .ok launch.tree
      | some path => launch.tree.enter (RawText.toText path)
    match words, entered with
    | [], _ =>
      launch.printing (String.join (bindings.map fun (name, value) =>
        name ++ "=" ++ value ++ "\n"))
    | _, .error fault =>
      let path := directory.getD ""
      launch.failing ("cannot change directory to '" ++ path ++ "': " ++ wording fault) 125
    | name :: arguments, .ok tree =>
      match launcher { launch with name, path := none, arguments, bindings, tree } with
      | .ok completion => completion
      | .error fault =>
        let missing := fault == .notFound || fault == .notDirectory
        launch.failing (typographic name ++ ": " ++ wording fault) (if missing then 127 else 126)

end Utility

end ReleasePilot
