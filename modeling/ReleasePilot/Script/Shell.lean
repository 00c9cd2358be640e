import ReleasePilot.Script.Evaluation

/-!
# The shell

The shell is the program that runs scripts: a text among its arguments, a file
or its input.
-/

namespace ReleasePilot.Script

/-- What the options of a shell ask for, and the words behind them. -/
structure Calling where
  /-- The letters of the options that are on. -/
  options : List Char := []
  /-- Whether the script is the first of the words. -/
  hasText : Bool := false
  words : List RawText := []
deriving DecidableEq, Repr

namespace Calling

/-- Turns an option on or off. -/
def setOption (calling : Calling) (on : Bool) (letter : Char) : Calling :=
  let others := calling.options.filter (· != letter)
  { calling with options := if on then letter :: others else others }

/-- Turns an option on or off by its letter. -/
def addLetter (on : Bool) (calling : Calling) (letter : Char) : Except RawText Calling :=
  if letter = 'c' then .ok { calling with hasText := true }
  else if letter = 'l' ∨ letter = 'o' then .ok calling
  else if (optionNames.map Prod.snd).contains letter then .ok (calling.setOption on letter)
  else .error ("Illegal option -" ++ String.ofList [letter])

/-- Reads the options at the front of some words, or says what is wrong with them. -/
def readOptions (calling : Calling) : List RawText → Except RawText Calling
  | [] => .ok calling
  | word :: rest =>
    match word.toList with
    | ['-'] | ['-', '-'] => .ok { calling with words := rest }
    | sign :: letters =>
      if sign = '-' ∨ sign = '+' then do
        let on := sign == '-'
        let calling ← letters.foldlM (addLetter on) calling
        match letters.contains 'o', rest with
        | true, name :: rest =>
          match optionNames.lookup name with
          | some letter => readOptions (calling.setOption on letter) rest
          | none => .error ("Illegal option " ++ String.ofList [sign, 'o', ' '] ++ name)
        | _, rest => readOptions calling rest
      else .ok { calling with words := word :: rest }
    | [] => .ok { calling with words := word :: rest }

end Calling

/-- Runs the script of a file. A directory counts as an empty one. -/
def executeFile (launcher : Launcher) (options : List Char) (path : RawText) : Utility :=
  fun launch =>
    let run (contents : ByteArray) : Completion :=
      execute launcher options true (RawText.ofBytes contents) { launch with name := path }
    match launch.tree.read (RawText.toText path) with
    | .ok contents => run contents
    | .error .isDirectory => run ByteArray.empty
    | .error fault =>
      let missing := fault == .notFound || fault == .notDirectory
      let reason := if missing then "No such file" else Utility.wording fault
      launch.failing ("0: cannot open " ++ path ++ ": " ++ reason) 2

/-- Runs a script. -/
def shell (launcher : Launcher) : Utility := fun launch =>
  match Calling.readOptions {} launch.arguments with
  | .error complaint => launch.failing ("0: " ++ complaint) 2
  | .ok calling =>
    let options := calling.options
    match calling.hasText, calling.words with
    | true, [] => launch.failing "0: -c requires an argument" 2
    | true, text :: words =>
      execute launcher options false text
        { launch with name := words.head?.getD launch.name, arguments := words.drop 1 }
    | false, words =>
      match options.contains 's', words with
      | false, path :: arguments =>
        executeFile launcher options path { launch with arguments }
      | _, _ =>
        let options := (calling.setOption true 's').options
        execute launcher options true (RawText.ofBytes launch.input)
          { launch with input := ByteArray.empty, arguments := words }

end ReleasePilot.Script
