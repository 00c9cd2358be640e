/-!
# TOML values and tables

Settings are texts and lists of texts, so only texts, arrays and tables keep
what they hold; of every other value just the kind is kept.
-/

namespace ReleasePilot.Toml

/-- The kinds of values that no setting takes. -/
inductive Scalar where
  | integer
  | float
  | boolean
  | dateTime
deriving DecidableEq, Repr

/-- A value on the right of an equals sign. -/
inductive Value where
  | text (content : String)
  | scalar (kind : Scalar)
  | array (items : List Value)
  /-- An inline table; its keys are checked when it is read. -/
  | inlineTable
deriving Repr

/-- How a table came to be, which decides what may still be added to it. -/
inductive TableOrigin where
  /-- By a header of its own, or as the element of an array. -/
  | header
  /-- On the way to the table of a longer header. -/
  | path
  /-- On the way to a dotted key. -/
  | dotted
deriving DecidableEq, Repr

/-- What a key of a table leads to. -/
inductive Item where
  | value (value : Value)
  | table (origin : TableOrigin) (entries : List (String × Item))
  /-- The elements of an array of tables, of which only the last can grow. -/
  | tables (elements : List (List (String × Item)))
deriving Repr

/-- The entries of a table, in the order in which they were made. -/
abbrev Entries := List (String × Item)

/-- One statement of a document. -/
inductive Statement where
  | header (path : List String)
  | arrayHeader (path : List String)
  /-- A key with the dotted path before it, set to a value. -/
  | setting (path : List String) (key : String) (value : Value)
deriving Repr

end ReleasePilot.Toml
