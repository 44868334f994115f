import BtrfsStore.Binary64.Basic
import BtrfsStore.Shell.Number
/-!
# BtrfsStore.Shell.Fraction

Numbers with a binary point of a given precision, read from a text and written
with a given number of decimal digits. Both roundings are exact and take the
nearest value, of two that are equally near the even one.
-/

namespace BtrfsStore.Shell

/-- A number with a binary point. -/
inductive Fraction where
  /-- The number `± mantissa * 2 ^ exponent`. -/
  | finite (negative : Bool) (mantissa : Nat) (exponent : Int)
  | infinite (negative : Bool)
  | nan (negative : Bool)
  deriving Repr, DecidableEq

namespace Fraction

/-- How many bits a mantissa has, and the least and the greatest exponent. -/
structure Precision where
  bits : Nat
  least : Int
  greatest : Int

/-- The precision of numbers of 64 bits. -/
def double : Precision := ⟨53, -1074, 971⟩

/-- The precision of numbers of 80 bits. -/
def extended : Precision := ⟨64, -16445, 16320⟩

/-! ### Reading -/

/-- The number nearest to a quotient, and whether it is within the range of the
precision: not too great, and exact if it is too small for all bits. -/
def ofRatio (p : Precision) (negative : Bool) (num den : Nat) : Fraction × Bool :=
  if num = 0 then (.finite negative 0 0, true)
  else
    let guess : Int := (Nat.log2 num : Int) - Nat.log2 den - p.bits
    let e := max guess p.least
    let m := Binary64.scaledDiv num den e
    let (m, e) :=
      if Nat.pow 2 p.bits ≤ m then (Binary64.scaledDiv num den (e + 1), e + 1) else (m, e)
    if p.greatest < e then (.infinite negative, false)
    else
      let isExact :=
        if 0 ≤ e then m * Nat.pow 2 e.toNat * den == num
        else m * den == num * Nat.pow 2 e.natAbs
      (.finite negative m e, isExact || Nat.pow 2 (p.bits - 1) ≤ m)

/-- The digits around a point, and what follows. -/
def splitPoint (isDigit : Char → Bool) (cs : List Char) :
    (List Char × List Char) × List Char :=
  let whole := cs.takeWhile isDigit
  match cs.drop whole.length with
  | '.' :: rest => ((whole, rest.takeWhile isDigit), rest.dropWhile isDigit)
  | rest => ((whole, []), rest)

/-- An exponent after its letter, and what follows; without digits there is no
exponent. -/
def readExponent (letter : Char) (cs : List Char) : Int × List Char :=
  match cs with
  | c :: rest =>
    if c.toLower ≠ letter then (0, cs)
    else
      let (negative, digits) := match rest with
        | '-' :: ds => (true, ds)
        | '+' :: ds => (false, ds)
        | ds => (false, ds)
      let taken := digits.takeWhile Char.isDigit
      if taken.isEmpty then (0, cs)
      else
        let n : Int := min (Number.valueOf 10 taken) 100000
        (if negative then -n else n, digits.drop taken.length)
  | [] => (0, cs)

/-- The text without a word in front, whatever the case of its letters. -/
def dropWord? (word : String) (cs : List Char) : Option (List Char) :=
  if (cs.take word.length).map Char.toLower = word.toList then some (cs.drop word.length)
  else none

/-- A number that has been read. -/
structure Reading where
  value : Fraction
  /-- The number is within the range of the precision. -/
  inRange : Bool := true
  rest : List Char

/-- Reads a number after its sign. -/
def readUnsigned? (p : Precision) (negative : Bool) (cs : List Char) : Option Reading :=
  let reading (read : Fraction × Bool) (rest : List Char) : Reading := ⟨read.1, read.2, rest⟩
  let hexadecimal? : Option Reading :=
    match cs with
    | '0' :: x :: rest =>
      let ((whole, part), rest) := splitPoint (Number.isDigitOf 16) rest
      if x.toLower ≠ 'x' ∨ (whole.isEmpty ∧ part.isEmpty) then none
      else
        let (e, rest) := readExponent 'p' rest
        let m := Number.valueOf 16 (whole ++ part)
        let e := e - 4 * part.length
        some (reading
          (if 0 ≤ e then ofRatio p negative (m * Nat.pow 2 e.toNat) 1
          else ofRatio p negative m (Nat.pow 2 (-e).toNat)) rest)
    | _ => none
  let decimal? : Option Reading :=
    let ((whole, part), rest) := splitPoint Char.isDigit cs
    if whole.isEmpty ∧ part.isEmpty then none
    else
      let (e, rest) := readExponent 'e' rest
      let n := Number.valueOf 10 (whole ++ part)
      let e := e - part.length
      let size := e + (Nat.toDigits 10 n).length
      some (reading
        (if n = 0 ∨ size < -6000 then (.finite negative 0 0, n == 0)
          else if 6000 < size then (.infinite negative, false)
          else if 0 ≤ e then ofRatio p negative (n * Nat.pow 10 e.toNat) 1
          else ofRatio p negative n (Nat.pow 10 (-e).toNat)) rest)
  let word? (word : String) (value : Fraction) : Option Reading :=
    (dropWord? word cs).map fun rest => { value, rest }
  hexadecimal?
    <|> decimal?
    <|> word? "infinity" (.infinite negative)
    <|> word? "inf" (.infinite negative)
    <|> word? "nan" (.nan negative)

/-- Reads a number. -/
def read? (p : Precision) (cs : List Char) : Option Reading :=
  match cs.dropWhile Number.isBlank with
  | '-' :: cs => readUnsigned? p true cs
  | '+' :: cs => readUnsigned? p false cs
  | cs => readUnsigned? p false cs

/-! ### Writing -/

/-- Whether the number has a minus sign. -/
def isNegative : Fraction → Bool
  | .finite negative _ _ | .infinite negative | .nan negative => negative

/-- The magnitude times a power of ten, rounded to a whole number. -/
def scaled (mantissa : Nat) (exponent tens : Int) : Nat :=
  let num := mantissa * Nat.pow 2 exponent.toNat * Nat.pow 10 tens.toNat
  let den := Nat.pow 2 (-exponent).toNat * Nat.pow 10 (-tens).toNat
  Binary64.roundDiv num den

/-- Decimal digits, filled up with zeros to a width. -/
def digits (width n : Nat) : List Char :=
  let cs := Nat.toDigits 10 n
  List.replicate (width - cs.length) '0' ++ cs

/-- A point and what follows it. -/
def pointed (showPoint : Bool) (part : List Char) : List Char :=
  if part.isEmpty ∧ !showPoint then [] else '.' :: part

/-- The digits with a number of places after the point. -/
def fixed (showPoint : Bool) (places mantissa : Nat) (exponent : Int) : List Char :=
  let cs := digits (places + 1) (scaled mantissa exponent places)
  cs.take (cs.length - places) ++ pointed showPoint (cs.drop (cs.length - places))

/-- The decimal exponent of a number, and its digits with one in front of the
point and a number of places after it. -/
def significant (places mantissa : Nat) (exponent : Int) : Int × List Char :=
  if mantissa = 0 then (0, List.replicate (places + 1) '0')
  else
    -- The guess is too small by one at most.
    let bits : Int := (Nat.log2 mantissa : Int) + exponent
    let guess : Int := Int.fdiv (bits * 30103) 100000 - 1
    let at? (tens : Int) : Option (Int × List Char) :=
      let cs := Nat.toDigits 10 (scaled mantissa exponent (places - tens))
      if cs.length = places + 1 then some (tens, cs) else none
    let found := at? guess <|> at? (guess + 1) <|> at? (guess + 2) <|> at? (guess + 3)
    found.getD (0, [])

/-- A decimal exponent with its letter, its sign and at least two digits. -/
def exponentText (tens : Int) : List Char :=
  'e' :: (if tens < 0 then '-' else '+') :: digits 2 tens.natAbs

/-- The digits with an exponent. -/
def scientific (showPoint : Bool) (places mantissa : Nat) (exponent : Int) : List Char :=
  let (tens, cs) := significant places mantissa exponent
  cs.take 1 ++ pointed showPoint (cs.drop 1) ++ exponentText tens

/-- Digits without zeros at the end of their part after the point. -/
def withoutZeros (cs : List Char) : List Char :=
  if cs.contains '.' then
    let kept := (cs.reverse.dropWhile (· == '0')).reverse
    if kept.getLast? = some '.' then kept.dropLast else kept
  else cs

/-- The shorter one of the two notations, with a number of significant digits. -/
def general (showPoint : Bool) (count mantissa : Nat) (exponent : Int) : List Char :=
  let count := max count 1
  let (tens, cs) := significant (count - 1) mantissa exponent
  let trim (cs : List Char) : List Char := if showPoint then cs else withoutZeros cs
  if tens < -4 ∨ (count : Int) ≤ tens then
    trim (cs.take 1 ++ pointed showPoint (cs.drop 1)) ++ exponentText tens
  else trim (fixed showPoint (count - 1 - tens).toNat mantissa exponent)

/-- The hexadecimal digits with a binary exponent; `lead` bits stand in front of
the point, and without a number of places there are as many as it takes. -/
def hexadecimal (p : Precision) (lead : Nat) (showPoint : Bool) (places : Option Nat)
    (mantissa : Nat) (exponent : Int) : List Char :=
  let size := Nat.log2 mantissa + 1
  let (m, e) :=
    if mantissa = 0 then (0, (0 : Int))
    else (mantissa * Nat.pow 2 (p.bits - size), exponent - (p.bits - size : Nat))
  let total := (p.bits - lead) / 4
  let (m, count) := match places with
    | some n =>
      if n < total then (Binary64.roundDiv m (Nat.pow 16 (total - n)), n)
      else (m * Nat.pow 16 (n - total), n)
    | none => (m, total)
  let cs := Nat.toDigits 16 m
  let cs := List.replicate (count + 1 - cs.length) '0' ++ cs
  let whole := cs.take (cs.length - count)
  let part := cs.drop (cs.length - count)
  let part := if places.isNone then (part.reverse.dropWhile (· == '0')).reverse else part
  let binary : Int := if mantissa = 0 then 0 else e + (p.bits - lead : Nat)
  '0' :: 'x' :: whole ++ pointed showPoint part
    ++ 'p' :: (if binary < 0 then '-' else '+') :: Nat.toDigits 10 binary.natAbs

/-- The text of a magnitude in the notation of a conversion letter. -/
def magnitudeText (p : Precision) (lead : Nat) (conversion : Char) (showPoint : Bool)
    (places : Option Nat) (x : Fraction) : List Char :=
  let text := match x with
    | .infinite _ => "inf".toList
    | .nan _ => "nan".toList
    | .finite _ m e =>
      match conversion.toLower with
      | 'f' => fixed showPoint (places.getD 6) m e
      | 'e' => scientific showPoint (places.getD 6) m e
      | 'g' => general showPoint (places.getD 6) m e
      | _ => hexadecimal p lead showPoint places m e
  if conversion.isUpper then text.map Char.toUpper else text

end Fraction

end BtrfsStore.Shell
