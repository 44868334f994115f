/-!
# BtrfsStore.Binary64.Basic

Binary floating-point numbers of 64 bits, as exact values: a mantissa below
`2 ^ 53` and a power of two. Reading a decimal number rounds its exact value
to the nearest of them, and to the one with the even mantissa if two are
equally near. All arithmetic is on natural numbers, so that it can be reasoned
about.
-/

namespace BtrfsStore

/-- A binary floating-point number. -/
inductive Binary64 where
  /-- The number `± mantissa * 2 ^ exponent`. -/
  | finite (negative : Bool) (mantissa : Nat) (exponent : Int)
  | infinite (negative : Bool)
  | nan
  deriving Repr, DecidableEq, Inhabited

namespace Binary64

/-- The least exponent. -/
def minExponent : Int := -1074

/-- The largest exponent. -/
def maxExponent : Int := 971

/-- The bits of a mantissa. -/
def precision : Nat := 53

/-- The quotient rounded to the nearest whole number, a half to the even
one. -/
def roundDiv (num den : Nat) : Nat :=
  let q := num / den
  let r := num % den
  if den < 2 * r then q + 1
  else if 2 * r = den then q + q % 2
  else q

/-- The quotient of `num` and `den * 2 ^ e`, rounded. -/
def scaledDiv (num den : Nat) (e : Int) : Nat :=
  if 0 ≤ e then roundDiv num (den * Nat.pow 2 e.toNat)
  else roundDiv (num * Nat.pow 2 (-e).toNat) den

/-- The number nearest to the quotient of two positive numbers. -/
def ofRatio (negative : Bool) (num den : Nat) : Binary64 :=
  let guess : Int := (Nat.log2 num : Int) - Nat.log2 den - precision
  let e := max guess minExponent
  let m := scaledDiv num den e
  -- The guess leaves at most one bit too many.
  let (m, e) := if Nat.pow 2 precision ≤ m then (scaledDiv num den (e + 1), e + 1) else (m, e)
  let (m, e) := if m = Nat.pow 2 precision then (Nat.pow 2 (precision - 1), e + 1) else (m, e)
  if maxExponent < e then .infinite negative else .finite negative m e

/-- Decimal exponents from which on every number is too large, or so small
that it is zero. -/
def decimalReach : Int := 400

/-- The number nearest to `± digits * 10 ^ exponent`. -/
def ofDecimal (negative : Bool) (digits : Nat) (exponent : Int) : Binary64 :=
  let size : Int := (Nat.toDigits 10 digits).length
  if digits = 0 then .finite negative 0 minExponent
  else if decimalReach < exponent + size then .infinite negative
  else if exponent + size < -decimalReach then .finite negative 0 minExponent
  else if 0 ≤ exponent then ofRatio negative (digits * Nat.pow 10 exponent.toNat) 1
  else ofRatio negative digits (Nat.pow 10 (-exponent).toNat)

/-- Whether the number is neither infinite nor undefined. -/
def isFinite : Binary64 → Bool
  | finite _ _ _ => true
  | _ => false

/-- Equality of mapping keys: the two zeros are the same key, and so are all
undefined numbers. -/
def sameKey : Binary64 → Binary64 → Bool
  | finite _ 0 _, finite _ 0 _ => true
  | a, b => a == b

end Binary64

/-! ### Decimal literals -/

/-- The pieces of a decimal literal: the digits before and after the point and
the exponent. -/
structure DecimalLiteral where
  digits : Nat
  exponent : Int
  deriving Repr, DecidableEq

namespace DecimalLiteral

/-- The value of a list of digits. -/
def valueOf (cs : List Char) : Nat := cs.foldl (fun n c => n * 10 + (c.toNat - 48)) 0

/-- The literal with the given digits before and after the point and the given
exponent. -/
def ofParts (whole fraction : List Char) (exponent : Int) : DecimalLiteral :=
  ⟨valueOf (whole ++ fraction), exponent - fraction.length⟩

/-- Reads an optional exponent; what follows has to be empty. -/
def exponentOf : List Char → Option Int
  | [] => some 0
  | c :: cs =>
    if c = 'e' ∨ c = 'E' then
      let (negative, ds) := match cs with
        | '-' :: ds => (true, ds)
        | '+' :: ds => (false, ds)
        | ds => (false, ds)
      if ds.isEmpty || !ds.all Char.isDigit then none
      else some (if negative then -(valueOf ds : Int) else valueOf ds)
    else none

/-- The number nearest to a literal. -/
def toBinary64 (negative : Bool) (d : DecimalLiteral) : Binary64 :=
  Binary64.ofDecimal negative d.digits d.exponent

end DecimalLiteral

end BtrfsStore
