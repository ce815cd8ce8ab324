import Scaffold.Unicode.Unprintable

/-! Quoted text, as diagnostics and log lines show it.

A text is written between double quotes. A double quote, a backslash and the usual controls have
short escapes; any other character that cannot be shown by itself is written by its code point in
hexadecimal. -/

set_option autoImplicit false

namespace Scaffold.Text

def codePointEscape (c : Char) : List Char :=
  "\\u\x7b".toList ++ Nat.toDigits 16 c.toNat ++ ['\x7d']

def quotedChar (c : Char) : List Char :=
  if c = '\x00' then ['\\', '0']
  else if c = '\t' then ['\\', 't']
  else if c = '\r' then ['\\', 'r']
  else if c = '\n' then ['\\', 'n']
  else if c = '\\' || c = '"' then ['\\', c]
  else if Unicode.isExtending c || Unicode.isUnprintable c then codePointEscape c
  else [c]

def quoted (text : String) : String :=
  String.ofList ('"' :: text.toList.flatMap quotedChar ++ ['"'])

end Scaffold.Text
