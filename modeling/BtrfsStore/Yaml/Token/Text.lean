import BtrfsStore.Binary64.Basic
import BtrfsStore.Yaml.Token.Basic
/-!
# BtrfsStore.Yaml.Token.Text

Reading the texts inside tokens: names, tags, directives, and the four kinds
of scalars. A reader starts at the first character of its token and answers
what it read and the place after it, or why the text is malformed.
-/

namespace BtrfsStore.Yaml

/-! ### Names -/

/-- The characters that may follow a name directly. -/
def mayFollowName (c : Option Char) : Bool :=
  isGapAt c || c.any fun c => c ∈ ['?', ':', ',', ']', '\x7d', '%', '@', '\x60']

/-- Reads the name of an anchor or an alias after its mark. -/
def readName (c : Cursor) : Except String (String × Cursor) :=
  let name := c.rest.takeWhile isNameChar
  let after := c.skip name.length
  if name.isEmpty || !mayFollowName after.peek then
    .error "did not find expected alphabetic or numeric character"
  else .ok (String.ofList name, after)

/-! ### Numbers of characters -/

/-- The value of a hexadecimal digit. -/
def hexValue? (c : Char) : Option Nat :=
  if c.isDigit then some (c.toNat - 48)
  else if 'a' ≤ c ∧ c ≤ 'f' then some (c.toNat - 87)
  else if 'A' ≤ c ∧ c ≤ 'F' then some (c.toNat - 55)
  else none

/-- The number that hexadecimal digits denote. -/
def hexNumber? (cs : List Char) : Option Nat :=
  cs.foldlM (fun n c => (hexValue? c).map (n * 16 + ·)) 0

/-! ### Tags -/

/-- The characters of a tag that stand for themselves. -/
def isTagChar (verbatim : Bool) (c : Char) : Bool :=
  isNameChar c || c ∈ [';', '/', '?', ':', '@', '&', '=', '+', '$', '.', '!', '~', '*', '\x27',
    '(', ')']
    || (verbatim && c ∈ [',', '[', ']'])

/-- The length of the UTF-8 form of a character by its first byte. -/
def utf8Length (lead : Nat) : Nat :=
  if lead < 0x80 then 1
  else if 0xc0 ≤ lead ∧ lead < 0xe0 then 2
  else if 0xe0 ≤ lead ∧ lead < 0xf0 then 3
  else if 0xf0 ≤ lead ∧ lead < 0xf8 then 4
  else 0

/-- The byte that an escape such as `%41` stands for. -/
def escapedByte? (cs : List Char) : Option Nat :=
  match cs with
  | '%' :: a :: b :: _ => hexNumber? [a, b]
  | _ => none

/-- Reads `n` further bytes of an escaped character. -/
def readTail : Nat → List Char → Option Tag
  | 0, _ => some []
  | n + 1, cs => do
    let b ← escapedByte? cs
    if b / 64 = 2 then
      let rest ← readTail n (cs.drop 3)
      some (b.toUInt8 :: rest)
    else none

/-- Reads one escaped character of a tag. -/
def readTagEscape (cs : List Char) : Option Tag := do
  let lead ← escapedByte? cs
  let size := utf8Length lead
  if size = 0 then none
  let rest ← readTail (size - 1) (cs.drop 3)
  some (lead.toUInt8 :: rest)

/-- Reads the characters of a tag after `acc`, the last byte first. -/
def readTagChars (verbatim : Bool) : Nat → Tag → Cursor → Except String (Tag × Cursor)
  | 0, _, _ => .error "did not find expected tag URI"
  | fuel + 1, acc, c =>
    match c.peek with
    | some '%' =>
      match readTagEscape c.rest with
      | some bytes => readTagChars verbatim fuel (bytes.reverse ++ acc) (c.skip (3 * bytes.length))
      | none => .error "did not find URI escaped octet"
    | some d =>
      if isTagChar verbatim d then
        readTagChars verbatim fuel (d.toNat.toUInt8 :: acc) (c.skip 1)
      else .ok (acc.reverse, c)
    | none => .ok (acc.reverse, c)

/-- Reads the part of a tag after its handle, which must not be empty. -/
def readSuffix (verbatim : Bool) (c : Cursor) : Except String (Tag × Cursor) := do
  let (bytes, after) ← readTagChars verbatim c.steps [] c
  if bytes.isEmpty then .error "did not find expected tag URI" else .ok (bytes.upToNul, after)

/-- The handle that a text begins with: `!`, `!!` or `!name!`. Without the
closing mark the name is no part of it. -/
def readHandle (c : Cursor) : String × Cursor :=
  let name := (c.rest.drop 1).takeWhile isNameChar
  let after := c.skip (1 + name.length)
  if after.peek == some '!' then ("!" ++ String.ofList name ++ "!", after.skip 1)
  else ("!", c.skip 1)

/-- Reads a tag. -/
def readTag (flow : Bool) (c : Cursor) : Except String (Token × Cursor) := do
  let (token, after) ←
    if c.peekAt 1 == some '<' then do
      let (tag, after) ← readSuffix true (c.skip 2)
      if after.peek == some '>' then pure (Token.tag "" tag, after.skip 1)
      else .error "did not find the expected '>'"
    else
      let (handle, after) := readHandle c
      if handle = "!" then do
        let (bytes, after) ← readTagChars false after.steps [] after
        let suffix := bytes.upToNul
        pure (if suffix.isEmpty then Token.tag "" (.ofString "!") else Token.tag "!" suffix, after)
      else do
        let (suffix, after) ← readSuffix false after
        pure (Token.tag handle suffix, after)
  if isGapAt after.peek || (flow && after.peek == some ',') then pure (token, after)
  else .error "did not find expected whitespace or line break"

/-! ### Directives -/

/-- The most digits of a version number. -/
def maxVersionDigits : Nat := 9

/-- Reads one number of a version. -/
def readVersionNumber (c : Cursor) : Except String (Nat × Cursor) :=
  let digits := c.rest.takeWhile Char.isDigit
  if digits.isEmpty || maxVersionDigits < digits.length then
    .error "did not find expected version number"
  else .ok (DecimalLiteral.valueOf digits, c.skip digits.length)

/-- Reads a directive. -/
def readDirective (c : Cursor) : Except String (Token × Cursor) := do
  let c := c.skip 1
  let name := c.rest.takeWhile isNameChar
  let c := c.skip name.length
  if name.isEmpty || !isGapAt c.peek then
    .error "could not find expected directive name"
  let c := c.skipWhile isSpaceOrTab
  let (token, c) ←
    if String.ofList name = "YAML" then do
      let (major, c) ← readVersionNumber c
      if c.peek != some '.' then .error "did not find expected digit or '.' character"
      let (minor, c) ← readVersionNumber (c.skip 1)
      pure (Token.versionDirective major minor, c)
    else if String.ofList name = "TAG" then do
      if c.peek != some '!' then .error "did not find expected '!'"
      let (handle, after) := readHandle c
      if handle = "!" && !isGapAt after.peek then .error "did not find expected '!'"
      if !after.peek.any isSpaceOrTab then .error "did not find expected whitespace"
      let (expansion, c) ← readSuffix true (after.skipWhile isSpaceOrTab)
      if !isGapAt c.peek then .error "did not find expected whitespace or line break"
      pure (Token.tagDirective handle expansion, c)
    else .error "found unknown directive name"
  let c := c.skipWhile isSpaceOrTab
  let c := if c.peek == some '#' then c.skipWhile (!isBreak ·) else c
  if isLineEnd c.peek then pure (token, c.skipBreak)
  else .error "did not find expected comment or line break"

/-! ### Gaps inside scalars -/

/-- Blanks and line breaks between two pieces of a scalar. -/
structure Gap where
  /-- The blanks before any line break. -/
  spaces : List Char := []
  /-- There was a line break; the blanks before it do not count. -/
  broken : Bool := false
  /-- The first line break. -/
  first : List Char := []
  /-- The line breaks after the first one. -/
  further : List Char := []

/-- What a gap means: a single line break becomes a space, and of several the
first one is dropped. -/
def Gap.text (g : Gap) : List Char :=
  if !g.broken then g.spaces
  else if g.first == ['\n'] then (if g.further.isEmpty then [' '] else g.further)
  else g.first ++ g.further

/-- Reads a gap after what was read of it. In block context, a tab may not
stand where the indentation `minColumn` is expected. -/
def readGap (minColumn : Int) : Nat → Gap → Cursor → Except String (Gap × Cursor)
  | 0, g, c => .ok (g, c)
  | fuel + 1, g, c =>
    match c.peek with
    | some d =>
      if isSpaceOrTab d then
        if g.broken && decide ((c.column : Int) < minColumn) && d == '\t' then
          .error "found a tab character that violates indentation"
        else if g.broken then readGap minColumn fuel g (c.skip 1)
        else readGap minColumn fuel { g with spaces := g.spaces ++ [d] } (c.skip 1)
      else if isBreak d then
        let (b, after) := c.takeBreak
        if g.broken then readGap minColumn fuel { g with further := g.further ++ b } after
        else readGap minColumn fuel { broken := true, first := b } after
      else .ok (g, c)
    | none => .ok (g, c)

/-! ### Plain scalars -/

/-- The characters that end a plain scalar within a flow collection. -/
def isFlowIndicator (c : Char) : Bool := c ∈ [',', '[', ']', '\x7b', '\x7d']

/-- Whether a plain scalar ends before `c`, with `next` after it. -/
def endsPlain (flow : Bool) (c : Char) (next : Option Char) : Bool :=
  isSpaceOrTab c || isBreak c || (c == ':' && isGapAt next) || (flow && isFlowIndicator c)

/-- Reads characters of a plain scalar without gaps. -/
def readPlainRun (flow : Bool) : Nat → List Char → Cursor → Except String (List Char × Cursor)
  | 0, acc, c => .ok (acc, c)
  | fuel + 1, acc, c =>
    match c.peek with
    | none => .ok (acc, c)
    | some d =>
      let next := c.peekAt 1
      if flow && d == ':' && next.any (fun n => n == '?' || isFlowIndicator n) then
        .error "found unexpected ':'"
      else if endsPlain flow d next then .ok (acc, c)
      else readPlainRun flow fuel (d :: acc) (c.skip 1)

/-- Reads a plain scalar after `acc` (the last character first) and a gap. The
answer tells also whether the scalar was followed by a line break. -/
def readPlainFrom (flow : Bool) (minColumn : Int) :
    Nat → List Char → Gap → Cursor → Except String ((List Char × Bool) × Cursor)
  | 0, acc, g, c => .ok ((acc, g.broken), c)
  | fuel + 1, acc, g, c => do
    if c.atDocumentMark || c.peek == some '#' then return ((acc, g.broken), c)
    let (run, after) ← readPlainRun flow c.steps [] c
    let (acc, g) := if run.isEmpty then (acc, g) else (run ++ g.text.reverse ++ acc, {})
    if !after.peek.any (fun d => isSpaceOrTab d || isBreak d) then return ((acc, g.broken), after)
    let (g, after) ← readGap minColumn after.steps {} after
    if !flow && decide ((after.column : Int) < minColumn) then return ((acc, g.broken), after)
    readPlainFrom flow minColumn fuel acc g after

/-- Reads a plain scalar, whose further lines have to be indented beyond
`indent` in block context. -/
def readPlain (flow : Bool) (indent : Int) (c : Cursor) :
    Except String ((String × Bool) × Cursor) := do
  let ((acc, broken), after) ← readPlainFrom flow (indent + 1) c.steps [] {} c
  pure ((String.ofList acc.reverse, broken), after)

/-! ### Quoted scalars -/

/-- The character that an escape of one letter stands for. -/
def plainEscape? (c : Char) : Option Char :=
  [('0', '\x00'), ('a', '\x07'), ('b', '\x08'), ('t', '\t'), ('\t', '\t'), ('n', '\n'),
    ('v', '\x0b'), ('f', '\x0c'), ('r', '\r'), ('e', '\x1b'), (' ', ' '), ('"', '"'), ('/', '/'),
    ('\\', '\\'), ('N', '\u0085'), ('_', '\u00a0'), ('L', '\u2028'), ('P', '\u2029')].lookup c

/-- The number of digits after a letter that begins a numbered escape. -/
def escapeDigits? (c : Char) : Option Nat := [('x', 2), ('u', 4), ('U', 8)].lookup c

/-- Reads an escape after its backslash. -/
def readEscape (c : Cursor) : Except String (Char × Cursor) :=
  match c.peek with
  | none => .error "found unknown escape character"
  | some e =>
    match plainEscape? e with
    | some d => .ok (d, c.skip 1)
    | none =>
      match escapeDigits? e with
      | none => .error "found unknown escape character"
      | some n =>
        let digits := (c.rest.drop 1).take n
        match if digits.length = n then hexNumber? digits else none with
        | none => .error "did not find expected hexdecimal number"
        | some v =>
          if (0xd800 ≤ v ∧ v ≤ 0xdfff) ∨ 0x10ffff < v then
            .error "found invalid Unicode character escape code"
          else .ok (Char.ofNat v, c.skip (1 + n))

/-- Reads characters of a quoted scalar without gaps, the last one first. The
flag tells that an escaped line break ended them. -/
def readQuotedRun (single : Bool) :
    Nat → List Char → Cursor → Except String ((List Char × Bool) × Cursor)
  | 0, acc, c => .ok ((acc, false), c)
  | fuel + 1, acc, c =>
    match c.peek with
    | none => .ok ((acc, false), c)
    | some d =>
      if isSpaceOrTab d || isBreak d then .ok ((acc, false), c)
      else if single then
        if d != '\x27' then readQuotedRun single fuel (d :: acc) (c.skip 1)
        else if c.peekAt 1 == some '\x27' then readQuotedRun single fuel (d :: acc) (c.skip 2)
        else .ok ((acc, false), c)
      else if d == '"' then .ok ((acc, false), c)
      else if d == '\\' then
        if (c.peekAt 1).any isBreak then .ok ((acc, true), (c.skip 1).skipBreak)
        else
          match readEscape (c.skip 1) with
          | .ok (e, after) => readQuotedRun single fuel (e :: acc) after
          | .error e => .error e
      else readQuotedRun single fuel (d :: acc) (c.skip 1)

/-- Reads a quoted scalar after its opening quote and `acc`, the last character
first. -/
def readQuotedFrom (single : Bool) : Nat → List Char → Cursor → Except String (List Char × Cursor)
  | 0, _, _ => .error "found unexpected end of stream"
  | fuel + 1, acc, c => do
    if c.atDocumentMark then .error "found unexpected document indicator"
    if c.peek.isNone then .error "found unexpected end of stream"
    let ((acc, escaped), after) ← readQuotedRun single c.steps acc c
    let quote := if single then '\x27' else '"'
    if after.peek == some quote then return (acc, after.skip 1)
    let (g, after) ← readGap (-1) after.steps { broken := escaped } after
    readQuotedFrom single fuel (g.text.reverse ++ acc) after

/-- Reads a quoted scalar. -/
def readQuoted (single : Bool) (c : Cursor) : Except String (String × Cursor) := do
  let (acc, after) ← readQuotedFrom single c.steps [] (c.skip 1)
  pure (String.ofList acc.reverse, after)

/-! ### Block scalars -/

/-- What happens to the line breaks at the end of a block scalar. -/
inductive Chomping where
  /-- All are dropped. -/
  | strip
  /-- One is kept. -/
  | clip
  /-- All are kept. -/
  | keep
  deriving Repr, DecidableEq

/-- The chomping that a character asks for. -/
def chomping? : Option Char → Option Chomping
  | some '-' => some .strip
  | some '+' => some .keep
  | _ => none

/-- The header of a block scalar: its chomping, and its indentation if it is
given. -/
def readBlockHeader (c : Cursor) : Except String ((Chomping × Option Nat) × Cursor) := do
  let digit? (c : Cursor) : Option Nat :=
    (c.peek.filter Char.isDigit).map fun d => d.toNat - 48
  let (chomping, increment, c) := match chomping? c.peek with
    | some chomping =>
      let c := c.skip 1
      match digit? c with
      | some d => (chomping, some d, c.skip 1)
      | none => (chomping, none, c)
    | none =>
      match digit? c with
      | some d =>
        let c := c.skip 1
        match chomping? c.peek with
        | some chomping => (chomping, some d, c.skip 1)
        | none => (.clip, some d, c)
      | none => (.clip, none, c)
  if increment = some 0 then .error "found an indentation indicator equal to 0"
  let c := c.skipWhile isSpaceOrTab
  let c := if c.peek == some '#' then c.skipWhile (!isBreak ·) else c
  if isLineEnd c.peek then pure ((chomping, increment), c.skipBreak)
  else .error "did not find expected comment or line break"

/-- Skips empty lines and indentation up to the column `indent`, or any
indentation if it is zero; the breaks of the lines and the deepest indentation
are kept. -/
def readBlockBreaks (indent : Nat) :
    Nat → List Char → Nat → Cursor → Except String ((List Char × Nat) × Cursor)
  | 0, breaks, deepest, c => .ok ((breaks, deepest), c)
  | fuel + 1, breaks, deepest, c =>
    let spaces := (c.rest.takeWhile (· == ' ')).length
    let c := c.skip (if indent = 0 then spaces else min spaces (indent - c.column))
    let deepest := max deepest c.column
    if (indent = 0 ∨ c.column < indent) ∧ c.peek = some '\t' then
      .error "found a tab character where an indentation space is expected"
    else if c.peek.any isBreak then
      let (b, after) := c.takeBreak
      readBlockBreaks indent fuel (breaks ++ b) deepest after
    else .ok ((breaks, deepest), c)

/-- The parts of a block scalar so far. -/
structure BlockText where
  /-- The text, the last character first. -/
  acc : List Char := []
  /-- The break of the last line. -/
  lineBreak : List Char := []
  /-- The breaks of the empty lines after it. -/
  emptyLines : List Char := []
  /-- The last line began with a blank. -/
  blankLine : Bool := false

/-- What stands between the last line and a line that begins with a blank or
not: in folded text a single break between plain lines becomes a space. -/
def BlockText.separator (t : BlockText) (literal blank : Bool) : List Char :=
  if !literal && t.lineBreak == ['\n'] && !t.blankLine && !blank then
    if t.emptyLines.isEmpty then [' '] else t.emptyLines
  else t.lineBreak ++ t.emptyLines

/-- Reads the lines of a block scalar. -/
def readBlockLines (literal : Bool) (indent : Nat) :
    Nat → BlockText → Cursor → Except String (BlockText × Cursor)
  | 0, t, c => .ok (t, c)
  | fuel + 1, t, c => do
    if c.column != indent || c.peek.isNone then return (t, c)
    let blank := c.peek.any isSpaceOrTab
    let line := c.rest.takeWhile (!isBreak ·)
    let (lineBreak, after) := (c.skip line.length).takeBreak
    let ((emptyLines, _), after) ← readBlockBreaks indent after.steps [] 0 after
    let acc := line.reverse ++ (t.separator literal blank).reverse ++ t.acc
    readBlockLines literal indent fuel { acc, lineBreak, emptyLines, blankLine := blank } after

/-- Reads a block scalar in a block with the given indentation. -/
def readBlock (literal : Bool) (blockIndent : Int) (c : Cursor) :
    Except String (String × Cursor) := do
  let ((chomping, increment), c) ← readBlockHeader (c.skip 1)
  let base := blockIndent.toNat
  let given := (increment.map (base + ·)).getD 0
  let ((emptyLines, deepest), c) ← readBlockBreaks given c.steps [] 0 c
  let indent := if given = 0 then max deepest (max (blockIndent + 1).toNat 1) else given
  let (t, after) ← readBlockLines literal indent c.steps { emptyLines } c
  let tail := match chomping with
    | .strip => []
    | .clip => t.lineBreak
    | .keep => t.lineBreak ++ t.emptyLines
  pure (String.ofList (t.acc.reverse ++ tail), after)

end BtrfsStore.Yaml
