import BtrfsStore.Shell.Utility.Basic
import BtrfsStore.Text.Decimal
/-!
# BtrfsStore.Shell.Utility.Numbers

The utilities that calculate: sequences of numbers and expressions.
-/

namespace BtrfsStore.Shell

namespace Utility

/-! ### Sequences -/

/-- A decimal number: how many units of which place after the point. -/
structure Scaled where
  units : Int
  places : Nat
  deriving Repr, DecidableEq

/-- Reads a decimal number. -/
def Scaled.ofText? (s : String) : Option Scaled :=
  let (negative, cs) := match s.toList with
    | '-' :: cs => (true, cs)
    | '+' :: cs => (false, cs)
    | cs => (false, cs)
  let whole := cs.takeWhile Char.isDigit
  let part? := match cs.drop whole.length with
    | [] => some []
    | '.' :: part => if part.all Char.isDigit then some part else none
    | _ => none
  part?.bind fun part =>
    if whole.isEmpty && part.isEmpty then none
    else
      let n : Int := Number.valueOf 10 (whole ++ part)
      some ⟨if negative then -n else n, part.length⟩

/-- The units of a number for more places. -/
def Scaled.at (x : Scaled) (places : Nat) : Int := x.units * Nat.pow 10 (places - x.places)

/-- A number of units of a place, filled up with zeros. -/
def scaledText (width places : Nat) (units : Int) : String :=
  let digits := Nat.toDigits 10 units.natAbs
  let digits := List.replicate (places + 1 - digits.length) '0' ++ digits
  let whole := digits.take (digits.length - places)
  let part := if places = 0 then [] else '.' :: digits.drop whole.length
  let sign := if units < 0 then ['-'] else []
  let size := sign.length + whole.length + part.length
  String.ofList (sign ++ List.replicate (width - size) '0' ++ whole ++ part)

/-- The greatest number of numbers that are written. -/
def maxCount : Nat := 100000

/-- The units from a first to a last one. -/
def unitsFrom (first step last : Int) : Nat → List Int
  | 0 => []
  | fuel + 1 =>
    if (0 < step && last < first) || (step < 0 && first < last) then []
    else first :: unitsFrom (first + step) step last fuel

/-- Writes a sequence of numbers. -/
def seq (name : String) (args : List String) : Run Nat := do
  let isNumber (arg : String) : Bool := (Scaled.ofText? arg).isSome
  let optionArgs := args.takeWhile fun a => a.startsWith "-" && !isNumber a
  let takesText := optionArgs.getLast? ∈ [some "-s", some "--separator", some "-f"]
  let front := optionArgs ++ if takesText then (args.drop optionArgs.length).take 1 else []
  let operands := args.drop front.length
  let known : Options :=
    { letters := "s:wf:", names := [("separator", 's'), ("equal-width", 'w'), ("format", 'f')] }
  let (options, _) ← known.read name front
  let numberOf (arg : String) : Run Scaled :=
    match Scaled.ofText? arg with
    | some x => pure x
    | none => misuse name ("invalid floating point argument: " ++ quote arg)
  let one : Scaled := ⟨1, 0⟩
  let (first, step, last) ← match operands with
    | [] => misuse name "missing operand"
    | [last] => do pure (one, one, ← numberOf last)
    | [first, last] => do pure (← numberOf first, one, ← numberOf last)
    | [first, step, last] => do
      let step' ← numberOf step
      if step'.units = 0 then misuse name ("invalid Zero increment value: " ++ quote step)
      pure (← numberOf first, step', ← numberOf last)
    | _ :: _ :: _ :: extra :: _ => misuse name ("extra operand " ++ quote extra)
  let places := max first.places step.places
  let deep := max places last.places
  let units := unitsFrom (first.at deep) (step.at deep) (last.at deep) maxCount
  let shown := units.map fun n => n / (Nat.pow 10 (deep - places) : Int)
  let width :=
    if options.any (·.1 == 'w') then
      (shown.map fun n => (scaledText 0 places n).length).foldl max 0
    else 0
  let separator := (options.lookup 's').getD "\n"
  if !shown.isEmpty then
    emitText name (separator.intercalate (shown.map (scaledText width places)) ++ "\n")
  pure 0

/-! ### Expressions -/

/-- Why an expression has no value. -/
abbrev Calculation := Except (String × Nat)

/-- The number that an operand of an expression stands for. -/
def integer (s : String) : Calculation Int :=
  let cs := match s.toList with
    | '-' :: cs => cs
    | cs => cs
  if cs.isEmpty || !(cs.all Char.isDigit) then .error ("non-integer argument", 2)
  else
    let n : Int := Number.valueOf 10 cs
    .ok (if s.startsWith "-" then -n else n)

/-- Whether a value counts as nothing. -/
def isVoid (s : String) : Bool :=
  s.isEmpty || (match integer s with
    | .ok n => n == 0
    | .error _ => false)

/-- The operators by their ranks, the loosest ones in front. -/
def operatorRanks : List (List String) :=
  [["|"], ["&"], ["<", "<=", "=", "==", "!=", ">=", ">"], ["+", "-"], ["*", "/", "%"]]

/-- The value of an operator. -/
def applyOperator (operator a b : String) : Calculation String := do
  let truth (x : Bool) : String := if x then "1" else "0"
  let compare (onNumbers : Int → Int → Bool) (onTexts : String → String → Bool) : String :=
    match integer a, integer b with
    | .ok x, .ok y => truth (onNumbers x y)
    | _, _ => truth (onTexts a b)
  match operator with
  | "|" => pure (if !isVoid a then a else if isVoid b then "0" else b)
  | "&" => pure (if isVoid a || isVoid b then "0" else a)
  | "<" => pure (compare (fun x y => decide (x < y)) fun x y => decide (x < y))
  | "<=" => pure (compare (fun x y => decide (x ≤ y)) fun x y => decide (x ≤ y))
  | "=" | "==" => pure (compare (· == ·) (· == ·))
  | "!=" => pure (compare (· != ·) (· != ·))
  | ">=" => pure (compare (fun x y => decide (y ≤ x)) fun x y => decide (y ≤ x))
  | ">" => pure (compare (fun x y => decide (y < x)) fun x y => decide (y < x))
  | _ =>
    let x ← integer a
    let y ← integer b
    match operator with
    | "+" => pure (toString (x + y))
    | "-" => pure (toString (x - y))
    | "*" => pure (toString (x * y))
    | "/" => if y = 0 then .error ("division by zero", 2) else pure (toString (x.tdiv y))
    | _ => if y = 0 then .error ("division by zero", 2) else pure (toString (x.tmod y))

mutual

/-- The value of an expression whose operators have one of the given ranks, and
the words after it; `last` is the word before it. -/
def calculate : Nat → String → List (List String) → List String →
    Calculation (String × List String)
  | 0, _, _, _ => .error ("syntax error", 2)
  | fuel + 1, last, [], words =>
    match words with
    | [] => .error ("syntax error: missing argument after " ++ quote last, 2)
    | "(" :: rest => do
      let (value, rest) ← calculate fuel "(" operatorRanks rest
      match rest with
      | ")" :: rest => pure (value, rest)
      | [] => .error ("syntax error: expecting \x27)\x27 after " ++ quote value, 2)
      | word :: _ => .error ("syntax error: expecting \x27)\x27 instead of " ++ quote word, 2)
    | "length" :: word :: rest => .ok (toString word.length, rest)
    | "+" :: word :: rest => .ok (word, rest)
    | word :: rest => .ok (word, rest)
  | fuel + 1, last, rank :: ranks, words => do
    let (value, rest) ← calculate fuel last ranks words
    calculateRest fuel rank ranks value rest

/-- Goes on with the operators of a rank after a first value. -/
def calculateRest : Nat → List String → List (List String) → String → List String →
    Calculation (String × List String)
  | 0, _, _, _, _ => .error ("syntax error", 2)
  | fuel + 1, rank, ranks, value, words =>
    match words with
    | operator :: rest =>
      if rank.contains operator then do
        let (next, rest) ← calculate fuel operator ranks rest
        calculateRest fuel rank ranks (← applyOperator operator value next) rest
      else .ok (value, words)
    | [] => .ok (value, [])

end

/-- Writes the value of an expression. -/
def expr (name : String) (args : List String) : Run Nat := do
  let args := if args.head? == some "--" then args.drop 1 else args
  if args.isEmpty then misuse name "missing operand" 2
  match calculate (16 * args.length + 16) "" operatorRanks args with
  | .error (text, status) =>
    complain name text
    pure status
  | .ok (_, word :: _) =>
    complain name ("syntax error: unexpected argument " ++ quote word)
    pure 2
  | .ok (value, []) =>
    emitText name (value ++ "\n")
    pure (if isVoid value then 1 else 0)

end Utility

end BtrfsStore.Shell
