/-!
# BtrfsStore.Text.Decimal

Reading unsigned decimal numbers below a bound. One leading `+` is allowed;
the first fault from the left decides the answer. `valueOfDigits` is for digits
that are known to be such.
-/

namespace BtrfsStore.Text

/-- The first number that does not fit in 64 bits. -/
def word64 : Nat := Nat.pow 2 64

/-- Why a text is no number. -/
inductive DecimalFault where
  /-- There is nothing to read. -/
  | empty
  /-- A character that is no digit, or a sign with nothing after it. -/
  | invalidDigit
  /-- The digits so far denote a number that is not below the bound. -/
  | tooLarge
  deriving Repr, DecidableEq

/-- The wording of a fault. -/
def DecimalFault.message : DecimalFault → String
  | .empty => "cannot parse integer from empty string"
  | .invalidDigit => "invalid digit found in string"
  | .tooLarge => "number too large to fit in target type"

/-- Reads the digits from the left, with `acc` for those already read. -/
def readDigits (bound : Nat) : Nat → List Char → Except DecimalFault Nat
  | acc, [] => .ok acc
  | acc, c :: cs =>
    if c.isDigit then
      let next := acc * 10 + (c.toNat - '0'.toNat)
      if next < bound then readDigits bound next cs else .error .tooLarge
    else .error .invalidDigit

/-- Reads a decimal number below `bound`. -/
def readNat (bound : Nat) (s : String) : Except DecimalFault Nat :=
  match s.toList with
  | [] => .error .empty
  | '+' :: cs => if cs.isEmpty then .error .invalidDigit else readDigits bound 0 cs
  | cs => readDigits bound 0 cs

/-- The number that decimal digits denote. -/
def valueOfDigits (digits : List Char) : Nat :=
  digits.foldl (fun n c => n * 10 + (c.toNat - '0'.toNat)) 0

end BtrfsStore.Text
