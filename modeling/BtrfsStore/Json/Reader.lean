import BtrfsStore.Json.Basic
/-!
# BtrfsStore.Json.Reader

Reading JSON text. Of several members with one name the last counts. A whole
number that does not fit in 64 bits, and `-0`, are read as floating-point
numbers.
-/

namespace BtrfsStore.Json

/-- The text without leading blanks. -/
def skipBlank (cs : List Char) : List Char :=
  cs.dropWhile fun c => c == ' ' || c == '\n' || c == '\r' || c == '\t'

/-! ### Strings -/

/-- The value of a hexadecimal digit. -/
def hexValue? (c : Char) : Option Nat :=
  if c.isDigit then some (c.toNat - 48)
  else if 'a' ≤ c ∧ c ≤ 'f' then some (c.toNat - 87)
  else if 'A' ≤ c ∧ c ≤ 'F' then some (c.toNat - 55)
  else none

/-- Reads four hexadecimal digits. -/
def hexUnit? : List Char → Option (Nat × List Char)
  | a :: b :: c :: d :: rest => do
    let a ← hexValue? a
    let b ← hexValue? b
    let c ← hexValue? c
    let d ← hexValue? d
    some (((a * 16 + b) * 16 + c) * 16 + d, rest)
  | _ => none

/-- Reads the number of a character after `\u`, which for a character beyond
the first plane is followed by a second number. -/
def unicodeEscape? (cs : List Char) : Option (Char × List Char) := do
  let (u, rest) ← hexUnit? cs
  if 0xd800 ≤ u ∧ u ≤ 0xdbff then
    match rest with
    | '\\' :: 'u' :: rest =>
      let (v, rest) ← hexUnit? rest
      if 0xdc00 ≤ v ∧ v ≤ 0xdfff then
        some (Char.ofNat (0x10000 + (u - 0xd800) * 1024 + (v - 0xdc00)), rest)
      else none
    | _ => none
  else if 0xdc00 ≤ u ∧ u ≤ 0xdfff then none
  else some (Char.ofNat u, rest)

/-- The character that a one-letter escape stands for. -/
def plainEscape? (c : Char) : Option Char :=
  [('"', '"'), ('\\', '\\'), ('/', '/'), ('b', '\x08'), ('f', '\x0c'), ('n', '\n'),
    ('r', '\r'), ('t', '\t')].lookup c

/-- Reads the rest of a string after its opening quote; `fuel` bounds the
number of characters. -/
def readString : Nat → List Char → List Char → Option (String × List Char)
  | 0, _, _ => none
  | fuel + 1, acc, cs =>
    match cs with
    | [] => none
    | '"' :: rest => some (String.ofList acc.reverse, rest)
    | '\\' :: 'u' :: rest => do
      let (c, rest) ← unicodeEscape? rest
      readString fuel (c :: acc) rest
    | '\\' :: e :: rest => do
      let c ← plainEscape? e
      readString fuel (c :: acc) rest
    | c :: rest => if c.toNat < 0x20 then none else readString fuel (c :: acc) rest

/-! ### Numbers -/

/-- The whole number, or the floating-point number if it does not fit. -/
def ofWhole (negative : Bool) (n : Nat) : Json :=
  if negative then
    if n = 0 ∨ Nat.pow 2 63 < n then .real (.ofDecimal true n 0) else .int (-n)
  else if n < Nat.pow 2 64 then .int n
  else .real (.ofDecimal false n 0)

/-- Reads the digits, the fraction and the exponent of a number. -/
def readNumber (negative : Bool) (cs : List Char) : Option (Json × List Char) := do
  let whole := cs.takeWhile Char.isDigit
  let rest := cs.dropWhile Char.isDigit
  guard (!whole.isEmpty && (whole.length == 1 || whole.head? != some '0'))
  let (fraction, rest) ← match rest with
    | '.' :: more =>
      let fraction := more.takeWhile Char.isDigit
      if fraction.isEmpty then none else some (some fraction, more.dropWhile Char.isDigit)
    | _ => some (none, rest)
  let mark := rest.takeWhile fun c => c.isAlpha
  let sign := (rest.drop mark.length).takeWhile fun c => c == '+' || c == '-'
  let digits := (rest.drop (mark.length + sign.length)).takeWhile Char.isDigit
  match mark with
  | [] =>
    match fraction with
    | none => some (ofWhole negative (DecimalLiteral.valueOf whole), rest)
    | some fraction => finite (.ofParts whole fraction 0) rest
  | _ =>
    let exponent ← DecimalLiteral.exponentOf (mark ++ sign ++ digits)
    finite (.ofParts whole (fraction.getD []) exponent)
      (rest.drop (mark.length + sign.length + digits.length))
where
  finite (literal : DecimalLiteral) (rest : List Char) : Option (Json × List Char) :=
    let x := literal.toBinary64 negative
    if x.isFinite then some (.real x, rest) else none

/-! ### Values -/

/-- The members with one more at the end; a member of the same name is
replaced. -/
def addMember (members : List (String × Json)) (name : String) (value : Json) :
    List (String × Json) :=
  if members.any (·.1 == name) then
    members.map fun m => if m.1 == name then (name, value) else m
  else members ++ [(name, value)]

mutual

/-- Reads a value; `fuel` bounds the number of characters. -/
def readValue : Nat → List Char → Option (Json × List Char)
  | 0, _ => none
  | fuel + 1, cs =>
    match skipBlank cs with
    | 'n' :: 'u' :: 'l' :: 'l' :: rest => some (.null, rest)
    | 't' :: 'r' :: 'u' :: 'e' :: rest => some (.bool true, rest)
    | 'f' :: 'a' :: 'l' :: 's' :: 'e' :: rest => some (.bool false, rest)
    | '"' :: rest => (readString (fuel + 1) [] rest).map fun (s, rest) => (.str s, rest)
    | '[' :: rest =>
      match skipBlank rest with
      | ']' :: rest => some (.arr [], rest)
      | rest => readItems fuel [] rest
    | '\x7b' :: rest =>
      match skipBlank rest with
      | '\x7d' :: rest => some (.obj [], rest)
      | rest => readMembers fuel [] rest
    | '-' :: rest => readNumber true rest
    | rest => readNumber false rest

/-- Reads the items of an array up to its end. -/
def readItems : Nat → List Json → List Char → Option (Json × List Char)
  | 0, _, _ => none
  | fuel + 1, acc, cs => do
    let (item, rest) ← readValue fuel cs
    match skipBlank rest with
    | ',' :: rest => readItems fuel (item :: acc) rest
    | ']' :: rest => some (.arr (item :: acc).reverse, rest)
    | _ => none

/-- Reads the members of an object up to its end. -/
def readMembers : Nat → List (String × Json) → List Char → Option (Json × List Char)
  | 0, _, _ => none
  | fuel + 1, acc, cs => do
    match skipBlank cs with
    | '"' :: rest =>
      let (name, rest) ← readString fuel [] rest
      match skipBlank rest with
      | ':' :: rest =>
        let (value, rest) ← readValue fuel rest
        let acc := addMember acc name value
        match skipBlank rest with
        | ',' :: rest => readMembers fuel acc rest
        | '\x7d' :: rest => some (.obj acc, rest)
        | _ => none
      | _ => none
    | _ => none

end

/-- Reads a text that holds one value. -/
def read? (s : String) : Option Json := do
  let cs := s.toList
  let (value, rest) ← readValue (cs.length + 2) cs
  guard (skipBlank rest).isEmpty
  some value

end BtrfsStore.Json
