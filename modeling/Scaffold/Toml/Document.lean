import Scaffold.Toml.Statement

/-! TOML documents: the table that a sequence of statements describes.

Bindings go into the table of the last header. That table is put in its place when the next header
or the end comes; a table that earlier headers passed through is taken up again by a header of its
own, and then counts as new in the order of entries. A statement that names a table or key a second
time is refused. -/

set_option autoImplicit false

namespace Scaffold.Toml

structure Assembly where
  root : Entries
  current : Entries
  name : Option DottedKey
  isItem : Bool

namespace Assembly

def start : Assembly := ⟨[], [], none, false⟩

/-- The entries of the whole document once the table under way is put in its place. -/
def finish? (assembly : Assembly) : Option Entries :=
  match assembly.name with
  | none => some assembly.current
  | some name =>
      let complete : Value := .table .header assembly.current
      let change (_ : Origin) (entries : Entries) : Option (Entries × Unit) :=
        match entries.lookup name.key with
        | none =>
            let value := if assembly.isItem then .array true [complete] else complete
            some (entries ++ [(name.key, value)], ())
        | some (.array true items) =>
            if assembly.isItem then
              some (replaceEntry name.key (.array true (items ++ [complete])) entries, ())
            else none
        | some _ => none
      (updateAt .implied change name.path .header assembly.root).map Prod.fst

/-- Begin a table: one that headers passed through is taken up with its entries. -/
def beginTable? (name : DottedKey) (root : Entries) : Option Assembly := do
  let change (_ : Origin) (entries : Entries) : Option (Entries × Entries) :=
    match entries.lookup name.key with
    | none => some (entries, [])
    | some (.table .implied inner) => some (entries.filter (·.1 ≠ name.key), inner)
    | some _ => none
  let (root, current) ← updateAt .implied change name.path .header root
  return ⟨root, current, some name, false⟩

def beginItem? (name : DottedKey) (root : Entries) : Option Assembly := do
  let change (_ : Origin) (entries : Entries) : Option (Entries × Unit) :=
    match entries.lookup name.key with
    | none => some (entries ++ [(name.key, .array true [])], ())
    | some (.array true _) => some (entries, ())
    | some _ => none
  let (root, _) ← updateAt .implied change name.path .header root
  return ⟨root, [], some name, true⟩

def add? (assembly : Assembly) : Statement → Option Assembly
  | .header name => do beginTable? name (← assembly.finish?)
  | .arrayHeader name => do beginItem? name (← assembly.finish?)
  | .binding name value => do
      return { assembly with current := ← bind? name.path name.key value .header assembly.current }

end Assembly

/-- The entries of the document that a text writes; absent if it is no TOML document. -/
def document? (text : String) : Option Entries := do
  let statements ← statements? text.toList
  let assembly ← statements.foldlM Assembly.add? Assembly.start
  assembly.finish?

end Scaffold.Toml
