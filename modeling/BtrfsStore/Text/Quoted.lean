import BtrfsStore.Text.Unprintable
/-!
# BtrfsStore.Text.Quoted

The quoted form in which messages show a text that came from outside:
between double quotes, with quotes, backslashes and everything that would not
be visible written as escapes.
-/

namespace BtrfsStore.Text

/-- The lower-case hexadecimal digits of a number, without padding. -/
def hexDigits (n : Nat) : List Char := Nat.toDigits 16 n

/-- One character inside the quotes. -/
def escapeChar (c : Char) : List Char :=
  if c = '"' then ['\\', '"']
  else if c = '\\' then ['\\', '\\']
  else if c = '\n' then ['\\', 'n']
  else if c = '\r' then ['\\', 'r']
  else if c = '\t' then ['\\', 't']
  else if c.toNat = 0 then ['\\', '0']
  else if isUnprintable c then ['\\', 'u', '\x7b'] ++ hexDigits c.toNat ++ ['\x7d']
  else [c]

/-- The quoted form of a text. -/
def quoted (s : String) : String :=
  String.ofList ('"' :: s.toList.flatMap escapeChar ++ ['"'])

end BtrfsStore.Text
