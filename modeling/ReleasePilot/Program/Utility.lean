import ReleasePilot.Program.CountedTesting
import ReleasePilot.Program.Counting
import ReleasePilot.Program.Cutting
import ReleasePilot.Program.Editing
import ReleasePilot.Program.Excerpt
import ReleasePilot.Program.Sorting
import ReleasePilot.Program.Transliteration

/-!
# Utilities

The small programs that every system has, by their names.
-/

namespace ReleasePilot.Utility

/-- Ends with a given status whatever its arguments are. -/
def ending (status : Nat) : Utility := fun launch =>
  { status := .code status, tree := launch.tree }

/-- The utilities by their names. -/
def table : List (String × Utility) :=
  [("true", ending 0), ("false", ending 1), ("sleep", sleep), ("sync", ending 0),
    ("echo", echo), ("printf", printf), ("pwd", pwd), ("basename", basename),
    ("dirname", dirname), ("printenv", printenv), ("seq", seq), ("test", test), ("[", bracket),
    ("cat", cat), ("head", head), ("tail", tail), ("wc", wc), ("sort", sort), ("uniq", uniq),
    ("cut", cut), ("tr", tr), ("tee", tee), ("ls", ls), ("touch", touch), ("mkdir", mkdir),
    ("rm", rm), ("rmdir", rmdir), ("cp", cp), ("mv", mv), ("ln", ln), ("chmod", chmod),
    ("readlink", readlink)]

/-- The utility with a name. -/
def named? (name : String) : Option Utility :=
  table.lookup name

end ReleasePilot.Utility
