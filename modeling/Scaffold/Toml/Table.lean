import Scaffold.Toml.Value

/-! Building tables entry by entry.

Statements name tables by paths of keys. `updateAt` goes down a path, makes the tables that are
missing on it, and changes the table at its end; it refuses a path through a value that is no
table, through a table written between braces, and, for dotted keys, through a table that has a
header of its own. No key of a table is ever bound twice. -/

set_option autoImplicit false

namespace Scaffold.Toml

def Origin.isImplicit : Origin → Bool
  | .implied => true
  | .dotted => true
  | _ => false

def replaceEntry (key : String) (value : Value) : Entries → Entries
  | [] => []
  | (other, old) :: rest =>
      if other = key then (key, value) :: rest else (other, old) :: replaceEntry key value rest

/-- Change the table at the end of a path, where missing tables on the way get the origin
`passed`. The change also answers something of its own. -/
def updateAt {α : Type} (passed : Origin) (change : Origin → Entries → Option (Entries × α)) :
    List String → Origin → Entries → Option (Entries × α)
  | [], origin, entries => change origin entries
  | key :: path, _, entries =>
      match entries.lookup key with
      | none => do
          let (inner, answer) ← updateAt passed change path passed []
          return (entries ++ [(key, .table passed inner)], answer)
      | some (.table origin inner) =>
          if origin = .inline ∨ (passed = .dotted ∧ !origin.isImplicit) then none
          else do
            let (inner, answer) ← updateAt passed change path origin inner
            return (replaceEntry key (.table origin inner) entries, answer)
      | some (.array true items) =>
          match items.getLast? with
          | some (.table origin inner) => do
              let (inner, answer) ← updateAt passed change path origin inner
              return (replaceEntry key
                (.array true (items.dropLast ++ [.table origin inner])) entries, answer)
          | _ => none
      | some _ => none

/-- Bind a key that a dotted path leads to. A table that is not written with dotted keys takes no
binding through them. -/
def bind? (path : List String) (key : String) (value : Value) (origin : Origin)
    (entries : Entries) : Option Entries :=
  let change (reached : Origin) (inner : Entries) : Option (Entries × Unit) :=
    if (reached == .dotted) == path.isEmpty then none
    else if (inner.lookup key).isSome then none
    else some (inner ++ [(key, value)], ())
  (updateAt .dotted change path origin entries).map Prod.fst

end Scaffold.Toml
