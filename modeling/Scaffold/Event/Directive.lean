import Scaffold.Event.Severity
import Scaffold.Text.Offset
import Scaffold.Text.Pattern

/-! Directives: from which severity on the events of some kind are admitted.

The full form of a directive is `topic[span{field=value}]=severity`, and any part but one may be
left out. A topic is given by a beginning of its name, a field by its name. A span is a stretch of
work that events can lie in; the operations of this library open none, so a directive that asks for
a span, or for the value of a field in one, speaks of no event.

White space around a directive does not count when its parts are looked for. They are then taken
out of the whole text at the offsets found, so white space at the beginning moves every part, and
white space at the end belongs to the last one. -/

set_option autoImplicit false

namespace Scaffold

structure FieldCondition where
  name : String
  value : Option String
deriving DecidableEq, Repr

/-- From which severity on some events are admitted. -/
structure Directive where
  /-- What the name of a topic begins with; absent for all topics. -/
  topic : Option String := none
  span : Option String := none
  field : Option FieldCondition := none
  /-- The least severity admitted; absent if nothing is. -/
  threshold : Option Severity := some .debug
deriving DecidableEq, Repr

namespace FieldCondition

def isUnsignedNumber (text : List Char) : Bool :=
  let word := String.ofList (text.map Char.toLower)
  let whole := text.takeWhile Char.isDigit
  let (fraction, rest) :=
    match text.dropWhile Char.isDigit with
    | '.' :: more => (more.takeWhile Char.isDigit, more.dropWhile Char.isDigit)
    | more => ([], more)
  let exponentIsRight :=
    match rest with
    | [] => true
    | e :: more =>
        let digits := if more.head?.any (· ∈ ['+', '-']) then more.drop 1 else more
        (e == 'e' || e == 'E') && !digits.isEmpty && digits.all Char.isDigit
  word ∈ ["inf", "infinity", "nan"] || (!(whole ++ fraction).isEmpty && exponentIsRight)

/-- Whether a text can be asked for as a value: a pattern, which every number without a plus sign
is as well, or a number with one. -/
def isValue (text : List Char) : Bool :=
  match text with
  | '+' :: rest => isUnsignedNumber rest
  | _ => Text.isPattern text

/-- The condition that a text writes: a name, and a value after an equals sign. What stands after a
second one is of no account. -/
def parse? (text : List Char) : Option FieldCondition :=
  match text.splitOn '=' with
  | [] => none
  | [name] => if name = [] then none else some ⟨String.ofList name, none⟩
  | name :: value :: _ =>
      if isValue value then some ⟨String.ofList name, some (String.ofList value)⟩ else none

end FieldCondition

namespace Directive

/-- The least severity admitted by a name or number; `trace` admits all that `debug` does. -/
def threshold? (text : List Char) : Option (Option Severity) :=
  let number := if text.head? = some '+' then text.drop 1 else text
  if !number.isEmpty && number.all Char.isDigit then
    match number.dropWhile (· = '0') with
    | [] => some none
    | ['1'] => some (some .error)
    | ['2'] => some (some .warning)
    | ['3'] => some (some .info)
    | ['4'] => some (some .debug)
    | ['5'] => some (some .debug)
    | _ => none
  else
    match String.ofList (text.map Char.toUpper) with
    | "OFF" => some none
    | "ERROR" => some (some .error)
    | "WARN" => some (some .warning)
    | "INFO" => some (some .info)
    | "DEBUG" => some (some .debug)
    | "TRACE" => some (some .debug)
    | _ => none

def isTopicStart (c : Char) : Bool := c ∈ ['-', ':', '_'] || Unicode.isAlphanumeric c

/-- The least severity that a text names from an offset on; all is admitted if nothing stands
there. -/
def thresholdFrom? (offset : Nat) (text : List Char) : Option (Option Severity) :=
  match (Text.cutAt offset text).2 with
  | [] => some (some .debug)
  | name => threshold? name

/-- A directive with the severity that `rest`, the end of `text` from an offset on, gives it. -/
def close? (directive : Directive) (text : List Char) (offset : Nat) (rest : List Char) :
    Option Directive :=
  match rest with
  | [] => some directive
  | '=' :: _ =>
      (thresholdFrom? (offset + 1) text).map fun least => { directive with threshold := least }
  | _ => none

/-- A directive with what stands between brackets; `inner` is the end of `text` after the opening
bracket, which is at an offset. -/
def bracket? (directive : Directive) (text : List Char) (offset : Nat) (inner : List Char) :
    Option Directive :=
  let name := inner.takeWhile fun c => c ≠ ']' && c ≠ '\x7b'
  let first := offset + 1
  let last := first + Text.byteLength name
  let span := String.ofList (Text.slice first last text)
  match inner.drop name.length with
  | [] => none
  | ']' :: rest => close? { directive with span := some span } text (last + 1) rest
  | _ :: inBraces =>
      let written := inBraces.takeWhile (· ≠ '\x7d')
      let fieldLast := last + 1 + Text.byteLength written
      match inBraces.drop written.length with
      | '\x7d' :: ']' :: rest => do
          let field ← FieldCondition.parse? (Text.slice (last + 1) fieldLast text)
          close?
            { directive with span := if name = [] then none else some span, field := some field }
            text (fieldLast + 2) rest
      | _ => none

/-- The directive that a text writes, if it writes one. A text without brackets and equals sign is
a severity if it names one, and else a topic. -/
def parse? (text : List Char) : Option Directive :=
  match Unicode.trim text with
  | [] => none
  | '[' :: inner => bracket? {} text 0 inner
  | c :: rest =>
      if !isTopicStart c then none
      else
        let name := (c :: rest).takeWhile fun c => c ≠ '=' && c ≠ '['
        let last := Text.byteLength name
        let topic := String.ofList (Text.slice 0 last text)
        match (c :: rest).drop name.length with
        | [] =>
            match threshold? text with
            | some least => some { threshold := least }
            | none => some { topic := some (String.ofList text) }
        | '[' :: inner => bracket? { topic := some topic } text last inner
        | more => close? { topic := some topic } text last more

def speaksOf (directive : Directive) (topic : String) (fields : List String) : Bool :=
  directive.span.isNone &&
    directive.topic.all (fun beginning => beginning.toList.isPrefixOf topic.toList) &&
    directive.field.all fun condition => condition.value.isNone && condition.name ∈ fields

/-- How much of a topic a directive gives; nothing given is less than any beginning. -/
def reach (directive : Directive) : Nat :=
  match directive.topic with
  | none => 0
  | some beginning => beginning.utf8ByteSize + 1

/-- Whether, of two directives that speak of the same event, the second one decides on it: the one
with the longer topic, then one with a field, then the one whose field comes later by name. Of two
alike the second decides. -/
def yieldsTo (first second : Directive) : Bool :=
  if first.reach = second.reach then
    match first.field, second.field with
    | none, _ => true
    | some _, none => false
    | some left, some right => left.name ≤ right.name
  else first.reach < second.reach

end Directive

end Scaffold
