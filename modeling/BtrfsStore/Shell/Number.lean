import BtrfsStore.Text.Decimal
/-!
# BtrfsStore.Shell.Number

How the shell reads whole numbers. A number starts after blanks and a sign; in
base zero, `0x` in front stands for base sixteen and `0` for base eight. What
does not fit into 64 bits is cut off at the limits.
-/

namespace BtrfsStore.Shell.Number

/-- A blank in front of or after a number. -/
def isBlank (c : Char) : Bool := c == ' ' || (9 ≤ c.toNat && c.toNat ≤ 13)

/-- The value of a digit in any base. -/
def digitValue? (c : Char) : Option Nat :=
  if c.isDigit then some (c.toNat - 48)
  else if 'a' ≤ c ∧ c ≤ 'z' then some (c.toNat - 87)
  else if 'A' ≤ c ∧ c ≤ 'Z' then some (c.toNat - 55)
  else none

/-- Whether a character is a digit of a base. -/
def isDigitOf (base : Nat) (c : Char) : Bool := (digitValue? c).any (· < base)

/-- The value of digits in a base. -/
def valueOf (base : Nat) (digits : List Char) : Nat :=
  digits.foldl (fun n c => n * base + (digitValue? c).getD 0) 0

/-- Reads a number without sign in base zero, eight, ten or sixteen. -/
def readMagnitude? (base : Nat) (cs : List Char) : Option (Nat × List Char) :=
  let digits (base : Nat) (cs : List Char) : Option (Nat × List Char) :=
    let taken := cs.takeWhile (isDigitOf base)
    if taken.isEmpty then none else some (valueOf base taken, cs.drop taken.length)
  let hexadecimal? := match cs with
    | '0' :: x :: c :: rest =>
      if (x == 'x' || x == 'X') && isDigitOf 16 c then digits 16 (c :: rest) else none
    | _ => none
  if base = 0 ∨ base = 16 then
    match hexadecimal? with
    | some read => some read
    | none =>
      digits (if base = 16 then 16 else if cs.head? = some '0' then 8 else 10) cs
  else digits base cs

/-- Reads a number: its value, and what follows it; nothing if there are no
digits. -/
def read? (base : Nat) (cs : List Char) : Option (Int × List Char) :=
  let cs := cs.dropWhile isBlank
  let (negative, cs) := match cs with
    | '-' :: cs => (true, cs)
    | '+' :: cs => (false, cs)
    | cs => (false, cs)
  (readMagnitude? base cs).map fun (n, rest) => ((if negative then -(n : Int) else n), rest)

/-- The greatest number of 64 bits with a sign. -/
def maxSigned : Int := Nat.pow 2 63 - 1

/-- The smallest number of 64 bits with a sign. -/
def minSigned : Int := -(Nat.pow 2 63 : Int)

/-- Whether a number fits into 64 bits with a sign. -/
def fits (n : Int) : Bool := minSigned ≤ n && n ≤ maxSigned

/-- A number cut off at the limits of 64 bits with a sign. -/
def clamp (n : Int) : Int := max minSigned (min maxSigned n)

/-- A number reduced to 64 bits with a sign. -/
def wrap (n : Int) : Int := n.bmod (Nat.pow 2 64)

/-- The number that a whole text stands for. In base zero a blank text stands
for zero. -/
def ofText? (base : Nat) (s : String) : Option Int :=
  match read? base s.toList with
  | some (n, rest) => if fits n && rest.all isBlank then some n else none
  | none => if base = 0 && s.toList.all isBlank then some 0 else none

/-- The greatest number that an argument of a command can be. -/
def maxArgument : Int := Nat.pow 2 31 - 1

/-- The number that an argument of a command stands for. -/
def argument? (s : String) : Option Nat :=
  match ofText? 10 s with
  | some n => if 0 ≤ n && n ≤ maxArgument then some n.toNat else none
  | none => none

end BtrfsStore.Shell.Number
