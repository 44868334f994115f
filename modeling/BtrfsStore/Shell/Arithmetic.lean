import BtrfsStore.Shell.Number
import BtrfsStore.Shell.Session
/-!
# BtrfsStore.Shell.Arithmetic

The values of arithmetic expressions: numbers of 64 bits, variables, the usual
operators, assignments, and a choice between two expressions. An operand that
does not matter for the value is read but not calculated.
-/

namespace BtrfsStore.Shell

namespace Arithmetic

/-! ### Operators -/

/-- A binary operator. -/
inductive Operator where
  | multiply
  | divide
  | remainder
  | add
  | subtract
  | shiftLeft
  | shiftRight
  | less
  | lessEqual
  | greater
  | greaterEqual
  | equal
  | notEqual
  | bitAnd
  | bitXor
  | bitOr
  deriving Repr, DecidableEq

/-- How tightly an operator binds; the tightest ones have rank zero. -/
def Operator.rank : Operator → Nat
  | .multiply | .divide | .remainder => 0
  | .add | .subtract => 1
  | .shiftLeft | .shiftRight => 2
  | .less | .lessEqual | .greater | .greaterEqual => 3
  | .equal | .notEqual => 4
  | .bitAnd => 5
  | .bitXor => 6
  | .bitOr => 7

/-- The rank beyond those of all operators. -/
def maxRank : Nat := 8

/-- A token of an expression. -/
inductive Token where
  | finish
  | number (n : Int)
  | name (s : String)
  | operator (o : Operator)
  /-- An assignment, of the outcome of an operator if there is one. -/
  | assign (o : Option Operator)
  | and
  | or
  | not
  | complement
  | question
  | colon
  | openParen
  | closeParen
  | other
  deriving Repr, DecidableEq

/-- The spellings of tokens, the longer ones in front. -/
def spellings : List (String × Token) :=
  [("<<=", .assign (some .shiftLeft)), (">>=", .assign (some .shiftRight)),
    ("<<", .operator .shiftLeft), (">>", .operator .shiftRight), ("<=", .operator .lessEqual),
    (">=", .operator .greaterEqual), ("==", .operator .equal), ("!=", .operator .notEqual),
    ("&&", .and), ("||", .or), ("*=", .assign (some .multiply)), ("/=", .assign (some .divide)),
    ("%=", .assign (some .remainder)), ("+=", .assign (some .add)),
    ("-=", .assign (some .subtract)), ("&=", .assign (some .bitAnd)),
    ("|=", .assign (some .bitOr)), ("\x5e=", .assign (some .bitXor)), ("=", .assign none),
    ("<", .operator .less), (">", .operator .greater), ("*", .operator .multiply),
    ("/", .operator .divide), ("%", .operator .remainder), ("+", .operator .add),
    ("-", .operator .subtract), ("&", .operator .bitAnd), ("|", .operator .bitOr),
    ("\x5e", .operator .bitXor), ("!", .not), ("~", .complement), ("?", .question),
    (":", .colon), ("(", .openParen), (")", .closeParen)]

/-- Reads a token. -/
def readToken (cs : List Char) : Token × List Char :=
  let cs := cs.dropWhile fun c => c == ' ' || c == '\t' || c == '\n'
  match cs with
  | [] => (.finish, [])
  | c :: _ =>
    if c.isDigit then
      match Number.read? 0 cs with
      | some (n, rest) => (.number (Number.clamp n), rest)
      | none => (.other, cs)
    else if startsName c then
      (.name (String.ofList (cs.takeWhile isNameChar)), cs.dropWhile isNameChar)
    else
      match spellings.find? fun e => e.1.toList.isPrefixOf cs with
      | some (spelling, token) => (token, cs.drop spelling.length)
      | none => (.other, cs)

/-! ### Calculating -/

/-- Why an expression has no value. -/
inductive Fault where
  /-- What is wrong with its form. -/
  | malformed (reason : String)
  /-- A value that is no number. -/
  | notANumber (text : String)
  | readOnly (name : String)
  deriving Repr, DecidableEq

/-- The complaint about an expression. -/
def Fault.message (expression : String) : Fault → String
  | .malformed reason => "arithmetic expression: " ++ reason ++ ": \"" ++ expression ++ "\""
  | .notANumber text => "Illegal number: " ++ text
  | .readOnly name => name ++ ": is read only"

/-- One for a condition that holds. -/
def truth (b : Bool) : Int := if b then 1 else 0

/-- The outcome of an operation on the bits of two numbers. -/
def onBits (f : BitVec 64 → BitVec 64 → BitVec 64) (a b : Int) : Int :=
  (f (BitVec.ofInt 64 a) (BitVec.ofInt 64 b)).toInt

/-- The number of places that a shift moves bits. -/
def places (b : Int) : Nat := (b % 64).toNat

/-- The outcome of an operator. -/
def apply (o : Operator) (a b : Int) : Except Fault Int :=
  match o with
  | .multiply => .ok (Number.wrap (a * b))
  | .divide => if b = 0 then .error (.malformed "division by zero") else .ok (Int.tdiv a b)
  | .remainder => if b = 0 then .error (.malformed "division by zero") else .ok (Int.tmod a b)
  | .add => .ok (Number.wrap (a + b))
  | .subtract => .ok (Number.wrap (a - b))
  | .shiftLeft => .ok (Number.wrap (a * Nat.pow 2 (places b)))
  | .shiftRight => .ok (Int.fdiv a (Nat.pow 2 (places b)))
  | .less => .ok (truth (decide (a < b)))
  | .lessEqual => .ok (truth (decide (a ≤ b)))
  | .greater => .ok (truth (decide (b < a)))
  | .greaterEqual => .ok (truth (decide (b ≤ a)))
  | .equal => .ok (truth (a == b))
  | .notEqual => .ok (truth (a != b))
  | .bitAnd => .ok (onBits (· &&& ·) a b)
  | .bitXor => .ok (onBits (· ^^^ ·) a b)
  | .bitOr => .ok (onBits (· ||| ·) a b)

/-- The state of reading an expression. -/
structure State where
  rest : List Char
  /-- The token that comes next. -/
  next : Token
  session : Session

/-- Reads and calculates. -/
abbrev Eval := StateT State (Except Fault)

/-- Takes the next token. -/
def take : Eval Token :=
  modifyGet fun s =>
    let (next, rest) := readToken s.rest
    (s.next, { s with rest, next })

/-- Reports an expression of the wrong form. -/
def fail {α : Type} (reason : String) : Eval α := throw (.malformed reason)

/-- The value of a variable as a number. -/
def lookup (name : String) : Eval Int := do
  let text := ((← get).session.valueOf? name).getD ""
  match Number.ofText? 0 text with
  | some n => pure n
  | none => throw (.notANumber text)

/-- Sets a variable. -/
def store (name : String) (n : Int) : Eval Unit := do
  let s ← get
  if s.session.isReadOnly name then throw (.readOnly name)
  set { s with session := s.session.assign name (toString n) }

/-- The binary operator that comes next. -/
def nextOperator? : Eval (Option Operator) := do
  match (← get).next with
  | .operator o => pure (some o)
  | _ => pure none

mutual

/-- Reads an assignment or anything that binds tighter. Nothing is calculated
unless `live`. -/
def assignment : Nat → Bool → Eval Int
  | 0, _ => fail "expecting primary"
  | fuel + 1, live => do
    let s ← get
    match s.next, (readToken s.rest).1 with
    | .name name, .assign o => do
      discard take
      discard take
      let value ← assignment fuel live
      if !live then return value
      let value ← match o with
        | some o => do liftM (apply o (← lookup name) value)
        | none => pure value
      store name value
      pure value
    | _, _ => choice fuel live

/-- Reads a choice between two expressions, or anything that binds tighter. -/
def choice : Nat → Bool → Eval Int
  | 0, _ => fail "expecting primary"
  | fuel + 1, live => do
    let a ← disjunction fuel live
    if (← get).next != .question then return a
    discard take
    let b ← assignment fuel (live && a != 0)
    if (← get).next != .colon then fail "expecting \x27:\x27"
    discard take
    let c ← choice fuel (live && a == 0)
    pure (if a != 0 then b else c)

/-- Reads operands of `||`. -/
def disjunction : Nat → Bool → Eval Int
  | 0, _ => fail "expecting primary"
  | fuel + 1, live => do
    let a ← conjunction fuel live
    if (← get).next != .or then return a
    discard take
    let b ← disjunction fuel (live && a == 0)
    pure (truth (a != 0 || b != 0))

/-- Reads operands of `&&`. -/
def conjunction : Nat → Bool → Eval Int
  | 0, _ => fail "expecting primary"
  | fuel + 1, live => do
    let a ← operand fuel live
    let a ← match ← nextOperator? with
      | some o => operations fuel live maxRank a o
      | none => pure a
    if (← get).next != .and then return a
    discard take
    let b ← conjunction fuel (live && a != 0)
    pure (truth (a != 0 && b != 0))

/-- Reads operands of binary operators after a first one, as long as the
operators bind tighter than `rank`. -/
def operations : Nat → Bool → Nat → Int → Operator → Eval Int
  | 0, _, _, _, _ => fail "expecting primary"
  | fuel + 1, live, rank, a, o => do
    discard take
    let b ← operand fuel live
    let b ← match ← nextOperator? with
      | some tighter =>
        if tighter.rank < o.rank then operations fuel live o.rank b tighter else pure b
      | none => pure b
    let a ← if live then liftM (apply o a b) else pure b
    match ← nextOperator? with
    | some o' => if o'.rank < rank then operations fuel live rank a o' else pure a
    | none => pure a

/-- Reads an operand. -/
def operand : Nat → Bool → Eval Int
  | 0, _ => fail "expecting primary"
  | fuel + 1, live => do
    match ← take with
    | .openParen => do
      let value ← assignment fuel live
      if (← get).next != .closeParen then fail "expecting \x27)\x27"
      discard take
      pure value
    | .number n => pure n
    | .name name => if live then lookup name else pure 0
    | .operator .add => operand fuel live
    | .operator .subtract => return Number.wrap (-(← operand fuel live))
    | .not => return truth ((← operand fuel live) == 0)
    | .complement => return -(← operand fuel live) - 1
    | _ => fail "expecting primary"

end

/-- The value of an expression, and the session after its assignments. -/
def eval (session : Session) (text : String) : Except Fault (Int × Session) := do
  let (next, rest) := readToken text.toList
  let (value, s) ← (assignment (16 * text.length + 16) true).run { rest, next, session }
  if s.next != .finish then throw (.malformed "expecting EOF")
  pure (value, s.session)

end Arithmetic

end BtrfsStore.Shell
