/-! UTF-8 bytes of texts.

`encode` and `decode` go between texts and their bytes; `decode` refuses bytes that are no text.
`decodeLossy` shows any bytes: each stretch that can begin no character, or that breaks off inside
one, is shown as one replacement character U+FFFD. -/

set_option autoImplicit false

namespace Scaffold.Text

def encode (text : String) : List UInt8 := text.toByteArray.data.toList

/-- The text that bytes spell, if they spell one. -/
def decode (bytes : List UInt8) : Option String := String.fromUTF8? ⟨bytes.toArray⟩

def continuationBits (byte : UInt8) : Nat := byte.toNat % 64

def isContinuation (byte : UInt8) : Bool := 0x80 ≤ byte && byte ≤ 0xBF

def mayFollowThree (first second : UInt8) : Bool :=
  if first = 0xE0 then 0xA0 ≤ second && second ≤ 0xBF
  else if first = 0xED then 0x80 ≤ second && second ≤ 0x9F
  else isContinuation second

def mayFollowFour (first second : UInt8) : Bool :=
  if first = 0xF0 then 0x90 ≤ second && second ≤ 0xBF
  else if first = 0xF4 then 0x80 ≤ second && second ≤ 0x8F
  else isContinuation second

def replacement : Char := '\uFFFD'

/-- The first character that bytes show, and the number of bytes that it stands for. -/
def firstShown (first : UInt8) (rest : List UInt8) : Char × Nat :=
  let continuation (index : Nat) : Bool := (rest[index]?.map isContinuation).getD false
  let bits (index : Nat) : Nat := continuationBits (rest[index]?.getD 0)
  if first < 0x80 then (Char.ofNat first.toNat, 1)
  else if 0xC2 ≤ first && first ≤ 0xDF then
    if continuation 0 then (Char.ofNat ((first.toNat - 0xC0) * 64 + bits 0), 2)
    else (replacement, 1)
  else if 0xE0 ≤ first && first ≤ 0xEF then
    if !(rest[0]?.map (mayFollowThree first)).getD false then (replacement, 1)
    else if !continuation 1 then (replacement, 2)
    else (Char.ofNat (((first.toNat - 0xE0) * 64 + bits 0) * 64 + bits 1), 3)
  else if 0xF0 ≤ first && first ≤ 0xF4 then
    if !(rest[0]?.map (mayFollowFour first)).getD false then (replacement, 1)
    else if !continuation 1 then (replacement, 2)
    else if !continuation 2 then (replacement, 3)
    else (Char.ofNat ((((first.toNat - 0xF0) * 64 + bits 0) * 64 + bits 1) * 64 + bits 2), 4)
  else (replacement, 1)

def shown : List UInt8 → List Char
  | [] => []
  | first :: rest =>
      (firstShown first rest).1 :: shown (rest.drop ((firstShown first rest).2 - 1))
termination_by bytes => bytes.length
decreasing_by simp only [List.length_drop, List.length_cons]; omega

/-- The text that bytes show; bytes that spell no character appear as U+FFFD. -/
def decodeLossy (bytes : List UInt8) : String := (decode bytes).getD (String.ofList (shown bytes))

end Scaffold.Text
