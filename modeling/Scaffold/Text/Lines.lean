/-! The lines of a text and the colour codes in them.

A line ends at a line feed; a carriage return before it belongs to the end of the line. A colour
code is the escape character with an opening bracket, numbers with semicolons between them, and the
letter `m`. -/

set_option autoImplicit false

namespace Scaffold.Text

def escapeChar : Char := '\x1b'

/-- What follows the colour code that a text begins with. -/
def afterColourCode? (text : List Char) : Option (List Char) :=
  match text with
  | '\x1b' :: '[' :: rest =>
      match rest.dropWhile fun c => c.isDigit || c == ';' with
      | 'm' :: after => some after
      | _ => none
  | _ => none

theorem length_lt_of_afterColourCode? {text after : List Char}
    (found : afterColourCode? text = some after) : after.length < text.length := by
  unfold afterColourCode? at found
  split at found
  · rename_i rest
    split at found
    · rename_i remaining dropped
      cases found
      have shorter := (List.dropWhile_sublist (fun c : Char => c.isDigit || c == ';')
        : List.Sublist _ rest).length_le
      rw [dropped] at shorter
      simp only [List.length_cons] at shorter ⊢
      omega
    · cases found
  · cases found

def withoutColour (text : List Char) : List Char :=
  match _ : afterColourCode? text with
  | some after => withoutColour after
  | none =>
      match text with
      | [] => []
      | c :: rest => c :: withoutColour rest
termination_by text.length
decreasing_by
  · exact length_lt_of_afterColourCode? ‹_›
  · simp

def withoutReturn (line : List Char) : List Char :=
  if line.getLast? = some '\r' then line.dropLast else line

def lines (text : List Char) : List (List Char) := (text.splitOn '\n').map withoutReturn

end Scaffold.Text
