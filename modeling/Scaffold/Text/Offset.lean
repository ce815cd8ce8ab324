/-! Byte offsets into a text.

A text is handled as its list of characters, while places in it are counted in UTF-8 bytes, one
to four for a character. This module holds the byte length of a text, the cut of a text at an
offset and the part between two offsets. A cut never divides a character: an offset inside one is
moved back to where the character begins, and an offset past the end is the end. -/

set_option autoImplicit false

namespace Scaffold.Text

def byteLength : List Char → Nat
  | [] => 0
  | c :: rest => c.utf8Size + byteLength rest

/-- The longest beginning of a text that takes at most `offset` bytes, and what follows it. -/
def cutAt : Nat → List Char → List Char × List Char
  | _, [] => ([], [])
  | offset, c :: rest =>
      if c.utf8Size ≤ offset then
        let (front, back) := cutAt (offset - c.utf8Size) rest
        (c :: front, back)
      else ([], c :: rest)

def slice (first last : Nat) (text : List Char) : List Char :=
  (cutAt (last - first) (cutAt first text).2).1

theorem cutAt_append (offset : Nat) (text : List Char) :
    (cutAt offset text).1 ++ (cutAt offset text).2 = text := by
  fun_induction cutAt offset text with
  | case1 => rfl
  | case2 offset c rest fits front back cut ih =>
      simp only [cut] at ih
      simp [ih]
  | case3 => rfl

theorem byteLength_append (front back : List Char) :
    byteLength (front ++ back) = byteLength front + byteLength back := by
  induction front with
  | nil => simp [byteLength]
  | cons c rest ih => simp [byteLength, ih, Nat.add_assoc]

theorem length_cutAt_snd_le (offset : Nat) (text : List Char) :
    (cutAt offset text).2.length ≤ text.length := by
  have whole := congrArg List.length (cutAt_append offset text)
  rw [List.length_append] at whole
  omega

end Scaffold.Text
