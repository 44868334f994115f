import BtrfsStore.Yaml.Value
/-!
# BtrfsStore.Yaml.Scalar

What a plain scalar means: `~` is null, `true` a boolean, `0x1f` a number, and
whatever means nothing else is a text.
-/

namespace BtrfsStore.Yaml.Scalar

/-! ### Null and booleans -/

/-- Whether a text means null. -/
def isNull (s : String) : Bool := s ∈ ["null", "Null", "NULL", "~"]

/-- The boolean that a text means. -/
def bool? (s : String) : Option Bool :=
  if s ∈ ["true", "True", "TRUE"] then some true
  else if s ∈ ["false", "False", "FALSE"] then some false
  else none

/-! ### Whole numbers -/

/-- The value of a digit in bases up to sixteen. -/
def digitValue? (c : Char) : Option Nat :=
  if c.isDigit then some (c.toNat - 48)
  else if 'a' ≤ c ∧ c ≤ 'f' then some (c.toNat - 87)
  else if 'A' ≤ c ∧ c ≤ 'F' then some (c.toNat - 55)
  else none

/-- Reads the digits after those that make up `acc`. -/
def digitsFrom? (base : Nat) : Nat → List Char → Option Nat
  | acc, [] => some acc
  | acc, c :: cs => do
    let d ← digitValue? c
    if d < base then digitsFrom? base (acc * base + d) cs else none

/-- Reads a number without sign. -/
def digits? (base : Nat) (cs : List Char) : Option Nat :=
  if cs.isEmpty then none else digitsFrom? base 0 cs

/-- Whether a text is made of digits but means no number, because it starts
with a superfluous zero. -/
def isPadded (cs : List Char) : Bool :=
  let digits := match cs with
    | '-' :: cs => cs
    | '+' :: cs => cs
    | cs => cs
  match digits with
  | '0' :: d :: ds => (d :: ds).all Char.isDigit
  | _ => false

/-- The magnitude of a number without sign, in base ten or after a mark for
another base. `padded` tells that base ten is ruled out. -/
def magnitude? (padded : Bool) : List Char → Option Nat
  | '0' :: 'x' :: cs => digits? 16 cs
  | '0' :: 'o' :: cs => digits? 8 cs
  | '0' :: 'b' :: cs => digits? 2 cs
  | cs => if padded then none else digits? 10 cs

/-- The whole number that a text means. -/
def int? (s : String) : Option Int :=
  let cs := s.toList
  let padded := isPadded cs
  match cs with
  | '+' :: cs => (magnitude? padded cs).map Int.ofNat
  | '-' :: cs => (magnitude? padded cs).map fun n => -Int.ofNat n
  | cs => (magnitude? padded cs).map Int.ofNat

/-- The whole numbers that a value can hold. -/
def fits (n : Int) : Bool := -(Nat.pow 2 63 : Int) ≤ n && n < (Nat.pow 2 64 : Int)

/-- The whole numbers that are recognised as such; those that do not fit are
refused, and those beyond are read as floating-point numbers. -/
def isWhole (n : Int) : Bool := -(Nat.pow 2 127 : Int) ≤ n && n < (Nat.pow 2 128 : Int)

/-! ### Other numbers -/

/-- The literal for digits, a fraction and an exponent, each of which may be
missing as long as there is a digit. -/
def literal? (cs : List Char) : Option DecimalLiteral := do
  let whole := cs.takeWhile Char.isDigit
  let rest := cs.dropWhile Char.isDigit
  let (fraction, rest) := match rest with
    | '.' :: more => (more.takeWhile Char.isDigit, more.dropWhile Char.isDigit)
    | rest => ([], rest)
  if whole.isEmpty && fraction.isEmpty then none
  let exponent ← DecimalLiteral.exponentOf rest
  some (.ofParts whole fraction exponent)

/-- The finite number that a text without a leading `+` means. -/
def finite? (cs : List Char) : Option Binary64 := do
  let x ← match cs with
    | '-' :: cs => (literal? cs).map (·.toBinary64 true)
    | cs => (literal? cs).map (·.toBinary64 false)
  if x.isFinite then some x else none

/-- The floating-point number that a text means. -/
def real? (s : String) : Option Binary64 :=
  if s ∈ ["-.inf", "-.Inf", "-.INF"] then some (.infinite true)
  else if s ∈ [".nan", ".NaN", ".NAN"] then some .nan
  else
    let positive (cs : List Char) : Option Binary64 :=
      if String.ofList cs ∈ [".inf", ".Inf", ".INF"] then some (.infinite false) else finite? cs
    match s.toList with
    | '+' :: '+' :: _ => none
    | '+' :: '-' :: _ => none
    | '+' :: cs => positive cs
    | cs => positive cs

/-! ### The meaning -/

/-- The value that a plain scalar means, or nothing if it is a whole number
that no value can hold. -/
def resolve (s : String) : Option Yaml :=
  if s.isEmpty || isNull s then some .null
  else
    match bool? s with
    | some b => some (.bool b)
    | none =>
      match (int? s).filter isWhole with
      | some n => if fits n then some (.int n) else none
      | none =>
        match if isPadded s.toList then none else real? s with
        | some x => some (.real x)
        | none => some (.str s)

/-- Whether a text would not mean itself if it were written as a plain
scalar. -/
def needsQuotes (s : String) : Bool :=
  isPadded s.toList ||
    match resolve s with
    | some (.str _) => false
    | _ => true

end BtrfsStore.Yaml.Scalar
