import Scaffold.Number.Binary64

/-! Values of a TOML document.

A table keeps its entries in the order in which they came about, and remembers how it was written,
because that decides whether later statements may add to it. The same holds of an array: one that
was made by `[[header]]` lines can grow. -/

set_option autoImplicit false

namespace Scaffold.Toml

inductive Origin where
  /-- Written between braces; nothing can be added to it. -/
  | inline
  | header
  /-- Only passed through by header lines. -/
  | implied
  /-- Passed through by dotted keys. -/
  | dotted
deriving DecidableEq, Repr

inductive Value where
  | string (text : String)
  | integer (value : Int)
  | float (value : Number.Binary64)
  | boolean (value : Bool)
  /-- A date, a time, or both, as it is written in full. -/
  | dateTime (text : String)
  /-- An array; `growing` if it was made by header lines. -/
  | array (growing : Bool) (items : List Value)
  | table (origin : Origin) (entries : List (String × Value))
deriving Inhabited

abbrev Entries := List (String × Value)

end Scaffold.Toml
