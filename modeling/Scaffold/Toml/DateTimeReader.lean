import Scaffold.Toml.Character
import Scaffold.Toml.Value

/-! Reading TOML dates and times.

A date is `1979-05-27` and has to exist in the calendar; a time is `07:32:00` with an optional
fraction of a second; a date may be followed by `T` or a space and a time, and then by an offset
`Z`, `+01:00` or `-01:00`. The value is the date or time in full: `T` between date and time, at
most nine places of a fraction, and none that are zero at its end. -/

set_option autoImplicit false

namespace Scaffold.Toml

def fixedDigits? (count least most : Nat) (text : List Char) : Option (Nat × List Char) :=
  let digits := text.take count
  let value := digitsValue 10 digits
  if digits.length = count && digits.all Char.isDigit && least ≤ value && value ≤ most then
    some (value, text.drop count)
  else none

def after? (c : Char) : List Char → Option (List Char)
  | [] => none
  | first :: rest => if first = c then some rest else none

def padded (width value : Nat) : List Char :=
  let digits := Nat.toDigits 10 value
  List.replicate (width - digits.length) '0' ++ digits

def daysIn (year month : Nat) : Nat :=
  if month = 2 then
    if year % 4 = 0 ∧ (year % 100 ≠ 0 ∨ year % 400 = 0) then 29 else 28
  else if month = 4 ∨ month = 6 ∨ month = 9 ∨ month = 11 then 30
  else 31

def date? (text : List Char) : Option (List Char × List Char) := do
  let (year, rest) ← fixedDigits? 4 0 9999 text
  let (month, rest) ← fixedDigits? 2 1 12 (← after? '-' rest)
  let (day, rest) ← fixedDigits? 2 1 (daysIn year month) (← after? '-' rest)
  return (padded 4 year ++ '-' :: padded 2 month ++ '-' :: padded 2 day, rest)

/-- A fraction of a second, if one comes next: its first nine places without zeros at the end. -/
def secondFraction (text : List Char) : List Char × List Char :=
  match text with
  | '.' :: c :: rest =>
      if c.isDigit then
        let places := (c :: rest).takeWhile Char.isDigit
        let kept := ((places.take 9).reverse.dropWhile (· = '0')).reverse
        (if kept = [] then [] else '.' :: kept, (c :: rest).dropWhile Char.isDigit)
      else ([], text)
  | _ => ([], text)

def time? (text : List Char) : Option (List Char × List Char) := do
  let (hour, rest) ← fixedDigits? 2 0 23 text
  let (minute, rest) ← fixedDigits? 2 0 59 (← after? ':' rest)
  let (second, rest) ← fixedDigits? 2 0 60 (← after? ':' rest)
  let (fraction, rest) := secondFraction rest
  return (padded 2 hour ++ ':' :: padded 2 minute ++ ':' :: padded 2 second ++ fraction, rest)

def offset (text : List Char) : List Char × List Char :=
  let numeric : Option (List Char × List Char) := do
    let (negative, unsigned) ← match text with
      | '+' :: rest => some (false, rest)
      | '-' :: rest => some (true, rest)
      | _ => none
    let (hour, rest) ← fixedDigits? 2 0 23 unsigned
    let (minute, rest) ← fixedDigits? 2 0 59 (← after? ':' rest)
    let shown := if negative ∧ (hour ≠ 0 ∨ minute ≠ 0) then '-' else '+'
    return (shown :: padded 2 hour ++ ':' :: padded 2 minute, rest)
  match text with
  | 'Z' :: rest => (['Z'], rest)
  | 'z' :: rest => (['Z'], rest)
  | _ => numeric.getD ([], text)

def timeAfterDate (text : List Char) : List Char × List Char :=
  match text with
  | [] => ([], text)
  | c :: rest =>
      if c = 'T' ∨ c = 't' ∨ c = ' ' then
        match time? rest with
        | some (time, after) => ('T' :: time ++ (offset after).1, (offset after).2)
        | none => ([], text)
      else ([], text)

def dateTime? (text : List Char) : Option (Value × List Char) :=
  match date? text with
  | some (date, rest) =>
      let (time, after) := timeAfterDate rest
      some (.dateTime (String.ofList (date ++ time)), after)
  | none => (time? text).map fun (time, rest) => (.dateTime (String.ofList time), rest)

end Scaffold.Toml
