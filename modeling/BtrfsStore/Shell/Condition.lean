import BtrfsStore.Shell.Machine
import BtrfsStore.Shell.Number
/-!
# BtrfsStore.Shell.Condition

The conditions of `test`: questions about files, texts and numbers. Whether a
word is an operator or an operand depends on what follows it.
-/

namespace BtrfsStore.Shell

namespace Condition

/-! ### Words -/

/-- What a word is. -/
inductive Kind where
  /-- There is no word. -/
  | missing
  | operand
  | unary
  | binary
  | not
  | and
  | or
  | openParen
  | closeParen
  deriving Repr, DecidableEq

/-- The operators with one operand. -/
def unaryOperators : List String :=
  ["-r", "-w", "-x", "-e", "-f", "-d", "-c", "-b", "-p", "-u", "-g", "-k", "-s", "-t", "-z",
    "-n", "-h", "-O", "-G", "-L", "-S"]

/-- The operators with two operands. -/
def binaryOperators : List String :=
  ["=", "!=", "<", ">", "-eq", "-ne", "-ge", "-gt", "-le", "-lt", "-nt", "-ot", "-ef"]

/-- What a word is if it is an operator wherever it can be one. -/
def operatorKind (s : String) : Kind :=
  if unaryOperators.contains s then .unary
  else if binaryOperators.contains s then .binary
  else
    match s with
    | "!" => .not
    | "-a" => .and
    | "-o" => .or
    | "(" => .openParen
    | ")" => .closeParen
    | _ => .operand

/-- What the first one of the words is. -/
def kindOf : List String → Kind
  | [] => .missing
  | s :: rest =>
    match operatorKind s, rest with
    | .unary, [] | .openParen, [] => .operand
    | .unary, [_] => .unary
    | .unary, next :: _ => if operatorKind next = .binary then .operand else .unary
    | kind, _ => kind

/-! ### Questions -/

/-- A number as an operand. -/
def number (s : String) : Except String Int :=
  match Number.ofText? 10 s with
  | some n => .ok n
  | none => .error ("Illegal number: " ++ s)

/-- The files that questions are about. -/
structure Files where
  tree : FileTree
  isExecutable : Place → Bool

/-- The answer to an operator with one operand. -/
def unary (files : Files) (operator operand : String) : Except String Bool :=
  let path : Path := ⟨ByteText.decode operand⟩
  let isDevice := operand == "/dev/null"
  match operator with
  | "-n" => .ok (!operand.isEmpty)
  | "-z" => .ok operand.isEmpty
  | "-e" | "-r" | "-w" => .ok (isDevice || files.tree.pathExists path)
  | "-O" | "-G" => .ok (isDevice || files.tree.pathExists path)
  | "-c" => .ok isDevice
  | "-t" => (number operand).map fun _ => false
  | _ =>
    match operator, files.tree.walk path with
    | "-d", .ok (.node _ .directory) => .ok true
    | "-f", .ok (.node _ (.file _)) => .ok true
    | "-s", .ok (.node _ (.file bytes)) => .ok (!bytes.isEmpty)
    | "-s", .ok (.node _ .directory) => .ok true
    | "-x", .ok (.node _ .directory) => .ok true
    | "-x", .ok (.node place (.file _)) => .ok (files.isExecutable place)
    | _, _ => .ok false

/-- The place that an operand leads to. -/
def placeOf? (files : Files) (operand : String) : Option Place :=
  match files.tree.walk ⟨ByteText.decode operand⟩ with
  | .ok (.node place _) => some place
  | _ => none

/-- The answer to an operator with two operands. -/
def binary (files : Files) (operator a b : String) : Except String Bool := do
  match operator with
  | "=" => pure (a == b)
  | "!=" => pure (a != b)
  | "<" => pure (decide (a < b))
  | ">" => pure (decide (b < a))
  | "-ef" => pure ((placeOf? files a).isSome && placeOf? files a == placeOf? files b)
  | "-nt" => pure ((placeOf? files a).isSome && (placeOf? files b).isNone)
  | "-ot" => pure ((placeOf? files b).isSome && (placeOf? files a).isNone)
  | "-eq" => return (← number a) == (← number b)
  | "-ne" => return (← number a) != (← number b)
  | "-lt" => return decide ((← number a) < (← number b))
  | "-le" => return decide ((← number a) ≤ (← number b))
  | "-gt" => return decide ((← number b) < (← number a))
  | _ => return decide ((← number b) ≤ (← number a))

/-! ### Conditions -/

/-- The answer to a part of a condition, and the words from its last one on. -/
abbrev Answer := Except String (Bool × List String)

mutual

/-- Alternatives with `-o` between them, the first of which starts with a word
of the given kind; one that holds is given as `held`. -/
def disjunction (files : Files) : Nat → Bool → Kind → List String → Answer
  | 0, _, _, _ => .error "argument expected"
  | fuel + 1, held, kind, words => do
    let (answer, words) ← conjunction files fuel true kind words
    let held := held || answer
    if kindOf (words.drop 1) = .or then
      disjunction files fuel held (kindOf (words.drop 2)) (words.drop 2)
    else pure (held, words)

/-- Conditions with `-a` between them; `held` tells that all before hold. -/
def conjunction (files : Files) : Nat → Bool → Kind → List String → Answer
  | 0, _, _, _ => .error "argument expected"
  | fuel + 1, held, kind, words => do
    let (answer, words) ← negation files fuel kind words
    let held := held && answer
    if kindOf (words.drop 1) = .and then
      conjunction files fuel held (kindOf (words.drop 2)) (words.drop 2)
    else pure (held, words)

/-- A condition after any number of exclamation marks. -/
def negation (files : Files) : Nat → Kind → List String → Answer
  | 0, _, _ => .error "argument expected"
  | fuel + 1, kind, words => do
    if kind ≠ .not then primary files fuel kind words
    else
      let kind := kindOf (words.drop 1)
      let words := if kind = .missing then words else words.drop 1
      let (answer, words) ← negation files fuel kind words
      pure (!answer, words)

/-- A condition without connectives. -/
def primary (files : Files) : Nat → Kind → List String → Answer
  | 0, _, _ => .error "argument expected"
  | fuel + 1, kind, words => do
    match kind, words with
    | .missing, words => pure (false, words)
    | .openParen, _ :: words =>
      match kindOf words with
      | .closeParen => pure (false, words)
      | kind =>
        let (answer, words) ← disjunction files fuel false kind words
        let words := words.drop 1
        if kindOf words ≠ .closeParen then .error "closing paren expected"
        pure (answer, words)
    | .unary, operator :: operand :: rest =>
      return (← unary files operator operand, operand :: rest)
    | .unary, operator :: _ => .error (operator ++ ": argument expected")
    | _, a :: operator :: rest =>
      if kindOf (operator :: rest) = .binary then
        match rest with
        | b :: rest => return (← binary files operator a b, b :: rest)
        | [] => .error (operator ++ ": argument expected")
      else pure (!a.isEmpty, words)
    | _, [a] => pure (!a.isEmpty, words)
    | _, [] => pure (false, words)

end

/-- The answer to a condition that starts with a word of the given kind. -/
def evaluate (files : Files) (kind : Kind) (words : List String) : Except String Bool := do
  let (answer, rest) ← disjunction files (4 * words.length + 8) false kind words
  match rest with
  | last :: _ :: _ =>
    .error ((if last.isEmpty then "" else last ++ ": ") ++ "unexpected operator")
  | _ => pure answer

/-- The answer to a condition. Few words are told apart by their number: the
middle one of three may be an operator whatever the first one is. -/
def answer (files : Files) : List String → Except String Bool
  | [] => .ok false
  | [a, operator, b] =>
    if operatorKind operator = .binary then evaluate files .operand [a, operator, b]
    else if a = "(" ∧ b = ")" then evaluate files (kindOf [operator]) [operator]
    else if a = "!" then (answer files [operator, b]).map not
    else evaluate files (kindOf [a, operator, b]) [a, operator, b]
  | [a, b, c, d] =>
    if a = "(" ∧ d = ")" then evaluate files (kindOf [b, c]) [b, c]
    else if a = "!" then (answer files [b, c, d]).map not
    else evaluate files (kindOf [a, b, c, d]) [a, b, c, d]
  | words => evaluate files (kindOf words) words

end Condition

end BtrfsStore.Shell
