import BtrfsStore.Binary64.Shortest
import BtrfsStore.Yaml.Cursor
import BtrfsStore.Yaml.Scalar
/-!
# BtrfsStore.Yaml.Printer

Writing a value as YAML text in block style. A text is written plainly where
that means the text itself; texts of several lines become literal blocks,
other texts are quoted, with escapes only if there is something that does not
print. Lines are never folded.

A collection is written below its key, indented by two columns; the items of a
sequence stand at the column of the key. After the mark of an item or of a key
that does not fit on one line, a collection begins on the same line.
-/

namespace BtrfsStore.Yaml

namespace Printer

/-! ### What a text consists of -/

/-- The characters that are written as they are. -/
def isPrintable (c : Char) : Bool :=
  let n := c.toNat
  n == 0x0a || (0x20 ≤ n && n ≤ 0x7e) || (0xa0 ≤ n && n ≤ 0xd7ff)
    || (0xe000 ≤ n && n ≤ 0xfffd && n != 0xfeff) || 0x10000 ≤ n

/-- The characters that cannot begin a plain scalar. -/
def isLeadingIndicator (c : Char) : Bool :=
  c ∈ ['#', ',', '[', ']', '\x7b', '\x7d', '&', '*', '!', '|', '>', '\x27', '"', '%', '@', '\x60']

/-- Whether a text after its first character holds something that would end a
plain scalar; `before` is the character in front. -/
def holdsIndicator : Char → List Char → Bool
  | _, [] => false
  | before, c :: cs =>
    (c == ':' && isGapAt cs.head?) || (c == '#' && isGapAt (some before)) || holdsIndicator c cs

/-- Whether a text could be taken for something else than a plain scalar. -/
def hasIndicators (cs : List Char) : Bool :=
  ['-', '-', '-'].isPrefixOf cs || ['.', '.', '.'].isPrefixOf cs ||
    match cs with
    | [] => false
    | c :: rest =>
      isLeadingIndicator c || ((c == '?' || c == ':' || c == '-') && isGapAt rest.head?)
        || holdsIndicator c rest

/-- Whether a character of the first class is directly followed by one of the
second. -/
def hasPair (p q : Char → Bool) : List Char → Bool
  | a :: b :: rest => (p a && q b) || hasPair p q (b :: rest)
  | _ => false

/-- A space, as opposed to other blanks. -/
def isSpace (c : Char) : Bool := c == ' '

/-! ### Styles -/

/-- How a scalar is written. -/
inductive Style where
  | plain
  | single
  | double
  | literal
  deriving Repr, DecidableEq

/-- Whether a text can be written without escapes: everything prints, and no
space comes before a line break. -/
def isClean (cs : List Char) : Bool := cs.all isPrintable && !hasPair isSpace isBreak cs

/-- Whether a text that is not empty can be written as a plain scalar. -/
def allowsPlain (cs : List Char) : Bool :=
  isClean cs && !cs.any isBreak && !hasIndicators cs
    && cs.head? != some ' ' && cs.getLast? != some ' '

/-- The style for a text. -/
def styleOf (s : String) : Style :=
  let cs := s.toList
  if cs.contains '\n' then
    if isClean cs && cs.getLast? != some ' ' then .literal else .double
  else if !Scalar.needsQuotes s && allowsPlain cs then .plain
  else if isClean cs && !hasPair isBreak isSpace cs then .single
  else .double

/-! ### Scalars -/

/-- Upper-case hexadecimal digits, filled up with zeros. -/
def hexPadded (width n : Nat) : List Char :=
  let digits := (Nat.toDigits 16 n).map Char.toUpper
  List.replicate (width - digits.length) '0' ++ digits

/-- The letters of the escapes that have one. -/
def escapeLetters : List (Char × Char) :=
  [('\x00', '0'), ('\x07', 'a'), ('\x08', 'b'), ('\t', 't'), ('\n', 'n'), ('\x0b', 'v'),
    ('\x0c', 'f'), ('\r', 'r'), ('\x1b', 'e'), ('"', '"'), ('\\', '\\'), ('\u0085', 'N'),
    ('\u00a0', '_'), ('\u2028', 'L'), ('\u2029', 'P')]

/-- One character between double quotes. -/
def escapeChar (c : Char) : List Char :=
  if isPrintable c && !isBreak c && c != '"' && c != '\\' then [c]
  else
    match escapeLetters.lookup c with
    | some letter => ['\\', letter]
    | none =>
      let n := c.toNat
      if n ≤ 0xff then '\\' :: 'x' :: hexPadded 2 n
      else if n ≤ 0xffff then '\\' :: 'u' :: hexPadded 4 n
      else '\\' :: 'U' :: hexPadded 8 n

/-- Spaces. -/
def spaces (n : Nat) : List Char := List.replicate n ' '

/-- The characters between single quotes. A line break other than a newline
stays, and the text goes on after the indentation; `broken` tells that a line
has just ended. -/
def singleChars (indent : Nat) : Bool → List Char → List Char
  | broken, [] => if broken then spaces indent else []
  | broken, c :: cs =>
    if isBreak c then c :: singleChars indent true cs
    else
      (if broken then spaces indent else [])
        ++ (if c == '\x27' then ['\x27', '\x27'] else [c]) ++ singleChars indent false cs

/-- The lines of a literal block, each after the indentation unless it is
empty. -/
def literalChars (indent : Nat) : Bool → List Char → List Char
  | _, [] => []
  | broken, c :: cs =>
    if isBreak c then c :: literalChars indent true cs
    else (if broken then spaces indent else []) ++ c :: literalChars indent false cs

/-- The columns of one level. -/
def indentStep : Nat := 2

/-- What stands after the mark of a literal block: its indentation if the text
does not show it, and what happens to the line breaks at its end. -/
def literalHints (cs : List Char) : List Char :=
  let indentation := match cs with
    | c :: _ => if c == ' ' || isBreak c then Nat.toDigits 10 indentStep else []
    | [] => []
  let chomping := match cs.reverse with
    | a :: b :: _ => if !isBreak a then ['-'] else if isBreak b then ['+'] else []
    | [a] => if isBreak a then ['+'] else ['-']
    | [] => ['-']
  indentation ++ chomping

/-- The characters of a text in the given style; further lines are indented by
`indent`. -/
def styled (style : Style) (indent : Nat) (cs : List Char) : List Char :=
  match style with
  | .plain => cs
  | .single => '\x27' :: singleChars indent false cs ++ ['\x27']
  | .double => '"' :: cs.flatMap escapeChar ++ ['"']
  | .literal => '|' :: literalHints cs ++ '\n' :: literalChars indent true cs

/-- The text of a floating-point number. -/
def realText (x : Binary64) : String :=
  match x with
  | .nan => ".nan"
  | .infinite true => "-.inf"
  | .infinite false => ".inf"
  | x => x.text.getD ""

/-- The text of a value that is no collection, and of an empty collection. -/
def scalarText? (indent : Nat) : Yaml → Option String
  | .null => some "null"
  | .bool b => some (if b then "true" else "false")
  | .int n => some (toString n)
  | .real x => some (realText x)
  | .str s => some (String.ofList (styled (styleOf s) indent s.toList))
  | .seq [] => some "[]"
  | .map [] => some "\x7b\x7d"
  | _ => none

/-! ### Tags -/

/-- The characters of a tag that are written as they are. -/
def isPlainInTag (c : Char) : Bool :=
  isNameChar c || c ∈ [';', '/', '?', ':', '@', '&', '=', '+', '$', ',', '.', '~', '*', '\x27',
    '(', ')', '[', ']']

/-- The characters of a tag, with those that have a meaning of their own
written by the numbers of their bytes. -/
def tagChars (cs : List Char) : List Char :=
  let byte (b : UInt8) : List Char := '%' :: hexPadded 2 b.toNat
  cs.flatMap fun c => if isPlainInTag c then [c] else c.toString.toUTF8.toList.flatMap byte

/-- A tag with the given name. The tag that is an exclamation mark alone is
written in full, because it would have another meaning in short. -/
def tagText (name : String) : String :=
  match (Tag.textOf name).toList with
  | '!' :: c :: cs => String.ofList ('!' :: tagChars (c :: cs))
  | cs => String.ofList ('!' :: '<' :: tagChars cs ++ ['>'])

/-! ### Keys -/

/-- The longest key, in bytes, that is written in front of its value. -/
def maxKeyBytes : Nat := 128

/-- The text of a key that fits in front of its value, and its length without
quotes, or nothing. -/
def simpleKey? : Yaml → Option (String × Nat)
  | .tagged name v => do
    let (text, size) ← simpleKey? v
    some (tagText name ++ " " ++ text, (Tag.textOf name).utf8ByteSize + size)
  | .str s =>
    if s.toList.any isBreak then none else (scalarText? 0 (.str s)).map (·, s.utf8ByteSize)
  | .seq [] => some ("[]", 0)
  | .map [] => some ("\x7b\x7d", 0)
  | v => (scalarText? 0 v).map fun text => (text, text.utf8ByteSize)

/-- The text of a key that is written in front of its value. -/
def keyText? (v : Yaml) : Option String :=
  match simpleKey? v with
  | some (text, size) => if size ≤ maxKeyBytes then some text else none
  | none => none

/-! ### Nodes -/

/-- What stands in front of a node on its line. -/
inductive Lead where
  /-- Nothing. -/
  | none
  /-- The mark of an item or of a key or value on a line of its own. -/
  | mark
  /-- A key in front of its value, or a tag. -/
  | text
  deriving Repr, DecidableEq

/-- The start of a new line at a column. -/
def newLine (column : Nat) : String := "\n" ++ String.ofList (spaces column)

/-- What comes between what stands in front of a block and its first line. -/
def blockLead (lead : Lead) (column : Nat) : String :=
  match lead with
  | .none => ""
  | .mark => " "
  | .text => newLine column

/-- What comes between what stands in front and a text on the same line. -/
def textLead : Lead → String
  | .none => ""
  | .mark | .text => " "

/-- A text that ends its line. -/
def endLine (s : String) : String :=
  if s.toList.getLast?.any isBreak then s else s ++ "\n"

/-- The column of a collection inside one at the given column. -/
def innerColumn : Option Nat → Nat
  | Option.none => 0
  | some column => column + indentStep

/-- The column of a sequence inside a collection at the given column; below
the key of a mapping it is the column of that key. -/
def sequenceColumn (outer : Option Nat) (belowKey : Bool) : Nat :=
  match outer with
  | some column => if belowKey then column else column + indentStep
  | Option.none => 0

/-- Texts that end their lines, all of which start at a column where the first
one already is. -/
def joinLines (column : Nat) (parts : List String) : String :=
  String.intercalate (String.ofList (spaces column)) parts

/-- The column of further lines of a scalar inside a collection at the given
column. -/
def scalarColumn : Option Nat → Nat
  | Option.none => indentStep
  | some column => column + indentStep

mutual

/-- A node inside a collection at the column `outer`, up to the end of its
last line. `inMapping` tells that it is a key or a value. -/
def node (outer : Option Nat) (inMapping : Bool) (lead : Lead) : Yaml → String
  | .tagged name v => textLead lead ++ tagText name ++ node outer inMapping .text v
  | .seq (v :: vs) =>
    let column := sequenceColumn outer (inMapping && lead == .text)
    blockLead lead column ++ joinLines column (items column (v :: vs))
  | .map (e :: es) =>
    let column := innerColumn outer
    blockLead lead column ++ joinLines column (entries column (e :: es))
  | v => textLead lead ++ endLine ((scalarText? (scalarColumn outer) v).getD "")

/-- The items of a sequence at a column. -/
def items (column : Nat) : List Yaml → List String
  | [] => []
  | v :: vs => ("-" ++ node (some column) false .mark v) :: items column vs

/-- The entries of a mapping at a column. -/
def entries (column : Nat) : List (Yaml × Yaml) → List String
  | [] => []
  | (k, v) :: rest =>
    (match keyText? k with
      | some text => text ++ ":" ++ node (some column) true .text v
      | Option.none =>
        "?" ++ node (some column) true .mark k ++ String.ofList (spaces column) ++ ":"
          ++ node (some column) true .mark v)
      :: entries column rest

end

end Printer

/-- The text of a value. -/
def render (v : Yaml) : String := Printer.node none false .none v

end BtrfsStore.Yaml
