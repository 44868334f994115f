import BtrfsStore.Binary64.Basic
/-!
# BtrfsStore.Binary64.Shortest

The shortest decimal that reads back as a given number, and its text.

All reals that round to a number form an interval around it. Among the grids
of decimals with 1, 2, … 17 digits, the first one with a point in that
interval wins; of several points the one nearest to the number is taken, and
of two equally near ones the one with the even digit.
-/

namespace BtrfsStore.Binary64

/-! ### The interval of a number -/

/-- Rationals around a positive number, over one denominator. -/
structure Interval where
  /-- The denominator of the three numerators. -/
  den : Nat
  low : Nat
  value : Nat
  high : Nat
  /-- Both ends round to the number, too. -/
  closed : Bool

/-- The reals that round to `mantissa * 2 ^ exponent`. Below a power of two the
neighbour is only half as far away. -/
def intervalOf (mantissa : Nat) (exponent : Int) : Interval :=
  let scale := if 0 ≤ exponent then Nat.pow 2 exponent.toNat else 1
  let den := if 0 ≤ exponent then 4 else 4 * Nat.pow 2 (-exponent).toNat
  let below := if mantissa = Nat.pow 2 (precision - 1) ∧ minExponent < exponent then 1 else 2
  { den
    low := (4 * mantissa - below) * scale
    value := 4 * mantissa * scale
    high := (4 * mantissa + 2) * scale
    closed := mantissa % 2 = 0 }

namespace Interval

/-- Whether `num / den'` lies in the interval. -/
def contains (i : Interval) (num den' : Nat) : Bool :=
  let low := i.low * den'
  let high := i.high * den'
  let x := num * i.den
  if i.closed then low ≤ x && x ≤ high else low < x && x < high

/-- How far `num / den'` is from the value, up to a common factor. -/
def distance (i : Interval) (num den' : Nat) : Nat :=
  let x := num * i.den
  let v := i.value * den'
  (x - v) + (v - x)

end Interval

/-! ### The search -/

/-- The number `n * 10 ^ k` as a fraction. -/
def gridPoint (n : Nat) (k : Int) : Nat × Nat :=
  if 0 ≤ k then (n * Nat.pow 10 k.toNat, 1) else (n, Nat.pow 10 (-k).toNat)

/-- The nearest grid point of the form `n * 10 ^ k` in the interval. -/
def onGrid (i : Interval) (k : Int) : Option Nat :=
  let unit := gridPoint 1 k
  let n := i.value * unit.2 / (i.den * unit.1)
  let inside (n : Nat) : Bool := n != 0 && i.contains (gridPoint n k).1 (gridPoint n k).2
  let distance (n : Nat) : Nat := i.distance (gridPoint n k).1 (gridPoint n k).2
  match inside n, inside (n + 1) with
  | true, true =>
    if distance n < distance (n + 1) then some n
    else if distance (n + 1) < distance n then some (n + 1)
    else some (if n % 2 = 0 then n else n + 1)
  | true, false => some n
  | false, true => some (n + 1)
  | false, false => none

/-- The power of ten just above a positive fraction, found from below. -/
def decimalSize (num den : Nat) : Int :=
  let digits (n : Nat) : Int := (Nat.toDigits 10 n).length
  let guess := digits num - digits den
  let (p, q) := gridPoint 1 guess
  if num * q < p * den then guess else guess + 1

/-- Tries grids with more and more digits, starting with `count` digits. -/
def searchGrids (i : Interval) (size : Int) : Nat → Nat → Option (Nat × Int)
  | 0, _ => none
  | fuel + 1, count =>
    match onGrid i (size - count) with
    | some n => some (n, size - count)
    | none => searchGrids i size fuel (count + 1)

/-- Drops zeros at the end of a decimal. -/
def dropZeros : Nat → Nat → Int → Nat × Int
  | 0, n, k => (n, k)
  | fuel + 1, n, k =>
    if n != 0 && n % 10 == 0 then dropZeros fuel (n / 10) (k + 1) else (n, k)

/-- The most digits that are ever needed. -/
def maxDigits : Nat := 17

/-- The shortest decimal `n * 10 ^ k` for a positive number. -/
def shortest (mantissa : Nat) (exponent : Int) : Nat × Int :=
  let i := intervalOf mantissa exponent
  match searchGrids i (decimalSize i.value i.den) maxDigits 1 with
  | some (n, k) => dropZeros maxDigits n k
  | none => (mantissa, 0)

/-! ### The text -/

/-- The largest number of digits before the point that are written out. -/
def maxWhole : Int := 16

/-- The number of zeros after the point from which on an exponent is used. -/
def maxLeadingZeros : Int := 5

/-- The digits of a decimal `n * 10 ^ k` in positional or exponent
notation. -/
def decimalText (n : Nat) (k : Int) : String :=
  let digits := Nat.toDigits 10 n
  let point := digits.length + k
  if 0 ≤ k ∧ point ≤ maxWhole then
    String.ofList (digits ++ List.replicate k.toNat '0') ++ ".0"
  else if 0 < point ∧ point ≤ maxWhole then
    String.ofList (digits.take point.toNat ++ '.' :: digits.drop point.toNat)
  else if -maxLeadingZeros < point ∧ point ≤ 0 then
    "0." ++ String.ofList (List.replicate (-point).toNat '0' ++ digits)
  else
    let exponent := "e" ++ toString (point - 1)
    match digits with
    | [d] => String.ofList [d] ++ exponent
    | d :: ds => String.ofList (d :: '.' :: ds) ++ exponent
    | [] => exponent

/-- The text of a finite number without its sign; none for others. -/
def magnitudeText : Binary64 → Option String
  | finite _ 0 _ => some "0.0"
  | finite _ m e => some (decimalText (shortest m e).1 (shortest m e).2)
  | _ => none

/-- The text of a finite number; none for others. -/
def text : Binary64 → Option String
  | x@(finite negative _ _) =>
    x.magnitudeText.map fun s => if negative then "-" ++ s else s
  | _ => none

end BtrfsStore.Binary64
