import BtrfsStore.Binary64.Shortest
/-!
# BtrfsStore.Json.Basic

JSON values and their text. Whole numbers and other numbers are kept apart,
and the members of an object keep the order in which they were written.
-/

namespace BtrfsStore

/-- A JSON value. -/
inductive Json where
  | null
  | bool (b : Bool)
  /-- A whole number, written without point and exponent. -/
  | int (n : Int)
  /-- Any other number. -/
  | real (x : Binary64)
  | str (s : String)
  | arr (items : List Json)
  | obj (members : List (String × Json))
  deriving Repr, Inhabited

namespace Json

/-! ### Looking inside -/

/-- The member of an object with the given name. -/
def member? (name : String) : Json → Option Json
  | obj members => members.lookup name
  | _ => none

/-- The text of a string. -/
def str? : Json → Option String
  | str s => some s
  | _ => none

/-- The value of a boolean. -/
def bool? : Json → Option Bool
  | bool b => some b
  | _ => none

/-- The items of an array. -/
def arr? : Json → Option (List Json)
  | arr items => some items
  | _ => none

/-- A natural number below `2 ^ 64`. -/
def word64? : Json → Option Nat
  | int n => if 0 ≤ n ∧ n < (Nat.pow 2 64 : Int) then some n.toNat else none
  | _ => none

/-! ### Order of members -/

mutual

/-- The value with the members of all objects sorted by name. -/
def sortMembers : Json → Json
  | arr items => arr (sortItems items)
  | obj members => obj ((sortEntries members).mergeSort fun a b => decide (a.1 ≤ b.1))
  | j => j

/-- Sorts within each item. -/
def sortItems : List Json → List Json
  | [] => []
  | j :: js => sortMembers j :: sortItems js

/-- Sorts within each member. -/
def sortEntries : List (String × Json) → List (String × Json)
  | [] => []
  | (k, j) :: rest => (k, sortMembers j) :: sortEntries rest

end

/-! ### Text -/

/-- A hexadecimal digit. -/
def hexDigit (n : Nat) : Char := Nat.digitChar n

/-- One character of a string. -/
def escapeChar (c : Char) : List Char :=
  if c = '"' then ['\\', '"']
  else if c = '\\' then ['\\', '\\']
  else if c = '\n' then ['\\', 'n']
  else if c = '\r' then ['\\', 'r']
  else if c = '\t' then ['\\', 't']
  else if c = '\x08' then ['\\', 'b']
  else if c = '\x0c' then ['\\', 'f']
  else if c.toNat < 0x20 then
    ['\\', 'u', '0', '0', hexDigit (c.toNat / 16), hexDigit (c.toNat % 16)]
  else [c]

/-- A string between quotes. -/
def quote (s : String) : String := String.ofList ('"' :: s.toList.flatMap escapeChar ++ ['"'])

/-- The texts, each after a line break and `indent`, with commas between. -/
def block (indent : String) (items : List String) : String :=
  String.intercalate "," (items.map fun s => "\n" ++ indent ++ s)

/-- The indentation of one level. -/
def indentStep : String := "  "

mutual

/-- The text of a value without blanks. -/
def render : Json → String
  | null => "null"
  | bool b => if b then "true" else "false"
  | int n => toString n
  | real x => x.text.getD "null"
  | str s => quote s
  | arr items => "[" ++ String.intercalate "," (renderItems items) ++ "]"
  | obj members => "\x7b" ++ String.intercalate "," (renderMembers members) ++ "\x7d"

/-- The texts of items. -/
def renderItems : List Json → List String
  | [] => []
  | j :: js => render j :: renderItems js

/-- The texts of members. -/
def renderMembers : List (String × Json) → List String
  | [] => []
  | (k, j) :: rest => (quote k ++ ":" ++ render j) :: renderMembers rest

end

mutual

/-- The text of a value over several lines, for a value that starts at the
given indentation. -/
def prettyAt (indent : String) : Json → String
  | null => "null"
  | bool b => if b then "true" else "false"
  | int n => toString n
  | real x => x.text.getD "null"
  | str s => quote s
  | arr [] => "[]"
  | arr (j :: js) =>
    "[" ++ block (indent ++ indentStep) (prettyItems (indent ++ indentStep) (j :: js))
      ++ "\n" ++ indent ++ "]"
  | obj [] => "\x7b\x7d"
  | obj (m :: ms) =>
    "\x7b" ++ block (indent ++ indentStep) (prettyMembers (indent ++ indentStep) (m :: ms))
      ++ "\n" ++ indent ++ "\x7d"

/-- The texts of items over several lines. -/
def prettyItems (indent : String) : List Json → List String
  | [] => []
  | j :: js => prettyAt indent j :: prettyItems indent js

/-- The texts of members over several lines. -/
def prettyMembers (indent : String) : List (String × Json) → List String
  | [] => []
  | (k, j) :: rest => (quote k ++ ": " ++ prettyAt indent j) :: prettyMembers indent rest

end

/-- The text of a value over several lines. -/
def pretty (j : Json) : String := prettyAt "" j

end Json

end BtrfsStore
