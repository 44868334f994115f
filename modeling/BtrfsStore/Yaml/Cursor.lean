/-!
# BtrfsStore.Yaml.Cursor

A place in YAML text, with its line and column, and the classes of characters
that the format distinguishes there.
-/

namespace BtrfsStore.Yaml

/-! ### Classes of characters -/

/-- The characters that a YAML text may hold. -/
def isAllowed (c : Char) : Bool :=
  let n := c.toNat
  n == 0x09 || n == 0x0a || n == 0x0d || (0x20 ≤ n && n ≤ 0x7e) || n == 0x85
    || (0xa0 ≤ n && n ≤ 0xd7ff) || (0xe000 ≤ n && n ≤ 0xfffd) || 0x10000 ≤ n

/-- The characters that end a line. -/
def isBreak (c : Char) : Bool :=
  c == '\n' || c == '\r' || c == '\u0085' || c == '\u2028' || c == '\u2029'

/-- Spaces and tabs. -/
def isSpaceOrTab (c : Char) : Bool := c == ' ' || c == '\t'

/-- The characters of names. -/
def isNameChar (c : Char) : Bool := c.isAlphanum || c == '_' || c == '-'

/-- Whether there is a space, a tab, a line break or the end of the text. -/
def isGapAt : Option Char → Bool
  | none => true
  | some c => isSpaceOrTab c || isBreak c

/-- Whether there is a line break or the end of the text. -/
def isLineEnd : Option Char → Bool
  | none => true
  | some c => isBreak c

/-! ### Places -/

/-- A place in a text. -/
structure Cursor where
  /-- The text from here on. -/
  rest : List Char
  /-- The number of bytes before. -/
  index : Nat := 0
  line : Nat := 0
  column : Nat := 0
  deriving Repr, Inhabited

namespace Cursor

/-- The next character. -/
def peek (c : Cursor) : Option Char := c.rest.head?

/-- The character `i` places further on. -/
def peekAt (c : Cursor) (i : Nat) : Option Char := c.rest[i]?

/-- The number of bytes that the next `n` characters take. -/
def bytesOf (c : Cursor) (n : Nat) : Nat :=
  (c.rest.take n).foldl (fun size d => size + d.utf8Size) 0

/-- The place after the next `n` characters of the line. -/
def skip (c : Cursor) (n : Nat) : Cursor :=
  { c with rest := c.rest.drop n, index := c.index + c.bytesOf n, column := c.column + n }

/-- The place after the characters of the line that satisfy `p`. -/
def skipWhile (c : Cursor) (p : Char → Bool) : Cursor := c.skip (c.rest.takeWhile p).length

/-- The line break here, as it is kept in a text, and the place after it. The
usual breaks are kept as a newline. -/
def takeBreak (c : Cursor) : List Char × Cursor :=
  let after (n : Nat) : Cursor :=
    { rest := c.rest.drop n, index := c.index + c.bytesOf n, line := c.line + 1, column := 0 }
  match c.rest with
  | '\r' :: '\n' :: _ => (['\n'], after 2)
  | b :: _ =>
    if b == '\n' || b == '\r' || b == '\u0085' then (['\n'], after 1)
    else if isBreak b then ([b], after 1)
    else ([], c)
  | [] => ([], c)

/-- The place after the line break here. -/
def skipBreak (c : Cursor) : Cursor := c.takeBreak.2

/-- Whether a line starts here with the given three characters and a gap. -/
def atMark (c : Cursor) (mark : Char) : Bool :=
  c.column == 0 && c.peek == some mark && c.peekAt 1 == some mark && c.peekAt 2 == some mark
    && isGapAt (c.peekAt 3)

/-- Whether a line starts here that begins or ends a document. -/
def atDocumentMark (c : Cursor) : Bool := c.atMark '-' || c.atMark '.'

/-- Enough steps to reach the end of the text one character at a time. -/
def steps (c : Cursor) : Nat := c.rest.length + 1

end Cursor

end BtrfsStore.Yaml
