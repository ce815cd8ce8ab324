import Scaffold.Unicode.WhiteSpace

/-! Severities of events, and their names. -/

set_option autoImplicit false

namespace Scaffold

inductive Severity where
  | debug
  | info
  | warning
  | error
deriving DecidableEq, Repr

namespace Severity

def rank : Severity → Nat
  | .debug => 0
  | .info => 1
  | .warning => 2
  | .error => 3

def name : Severity → String
  | .debug => "DEBUG"
  | .info => "INFO"
  | .warning => "WARN"
  | .error => "ERROR"

def order (left right : Severity) : Ordering := compare left.rank right.rank

/-- The capital of a letter in a severity name. Apart from the ASCII letters only the dotless `ı`
has a capital that occurs in one of these names. -/
def capital (c : Char) : Char := if c = 'ı' then 'I' else c.toUpper

/-- The severity that a name means. White space around the name and the case of its letters do not
matter; a trace counts as `debug`. -/
def ofName? (name : String) : Option Severity :=
  match String.ofList ((Unicode.trim name.toList).map capital) with
  | "DEBUG" => some .debug
  | "TRACE" => some .debug
  | "INFO" => some .info
  | "WARN" => some .warning
  | "WARNING" => some .warning
  | "ERROR" => some .error
  | _ => none

def unknownMessage (name : String) : String := "unknown log level: " ++ name

end Severity

end Scaffold
