import BtrfsStore.Yaml.Token.Text
/-!
# BtrfsStore.Yaml.Token.Scan

Splitting a text into tokens.

Two things make this more than reading one token after the other. The
indentation of a line opens and closes block collections. And a key of a
mapping without a mark of its own is recognised only at the `:` after it, so
that each place where a key might have begun is remembered as a *candidate*
until then; the marks for the key, and for a mapping that begins with it, are
put in front of its tokens afterwards.
-/

namespace BtrfsStore.Yaml

/-- A place where a key may have begun. -/
structure KeyCandidate where
  /-- The number of tokens before it. -/
  tokens : Nat
  index : Nat
  line : Nat
  column : Nat
  /-- It stands where nothing but a key can stand. -/
  required : Bool
  deriving Repr

/-- The most bytes that a key without a mark may have. -/
def maxKeyLength : Nat := 1024

/-- The state of the scanner. -/
structure Scanner where
  cursor : Cursor
  tokens : Array Token := #[]
  /-- A key without a mark may begin here. -/
  keyAllowed : Bool := true
  /-- The candidate of each open flow collection, the innermost first, and of
  the block context as the last one. -/
  candidates : List (Option KeyCandidate) := [none]
  /-- The column of the innermost block collection. -/
  indent : Int := -1
  /-- The columns of the block collections around it. -/
  outer : List Int := []
  deriving Repr

namespace Scanner

/-- Whether the place is inside a flow collection. -/
def inFlow (s : Scanner) : Bool := 1 < s.candidates.length

/-- Adds a token. -/
def push (s : Scanner) (t : Token) : Scanner := { s with tokens := s.tokens.push t }

/-- Puts a token in front of those after the first `i`. -/
def insertAt (s : Scanner) (i : Nat) (t : Token) : Scanner :=
  { s with tokens := s.tokens.extract 0 i ++ #[t] ++ s.tokens.extract i s.tokens.size }

/-- Adds a token and moves on by `n` characters. -/
def pushOver (s : Scanner) (n : Nat) (t : Token) : Scanner :=
  { s.push t with cursor := s.cursor.skip n }

/-! ### Indentation -/

/-- Opens a block collection at a column if it is deeper than the innermost
one; its token goes in front of those after the first `i`. -/
def openBlock (s : Scanner) (column i : Nat) (t : Token) : Scanner :=
  if !s.inFlow && decide (s.indent < column) then
    { s.insertAt i t with indent := column, outer := s.indent :: s.outer }
  else s

/-- The same at the end of the tokens. -/
def openBlockHere (s : Scanner) (t : Token) : Scanner :=
  s.openBlock s.cursor.column s.tokens.size t

/-- Closes the block collections that are deeper than a column. -/
def closeDeeper (column : Int) : List Int → Scanner → Scanner
  | [], s => s
  | o :: rest, s =>
    if column < s.indent then
      closeDeeper column rest { s.push .blockEnd with indent := o, outer := rest }
    else s

/-- Closes the block collections that do not go on at a column. -/
def closeBlocks (s : Scanner) (column : Int) : Scanner :=
  if s.inFlow then s else closeDeeper column s.outer s

/-! ### Candidates -/

/-- The complaint about a place where a key had to be. -/
def missingColon : String := "could not find expected ':'"

/-- A candidate unless it can no longer be a key, because its line has ended
or too much stands in between. -/
def refresh (c : Cursor) : Option KeyCandidate → Except String (Option KeyCandidate)
  | none => .ok none
  | some k =>
    if k.line < c.line || k.index + maxKeyLength < c.index then
      if k.required then .error missingColon else .ok none
    else .ok (some k)

/-- Drops the candidates that can no longer be keys. -/
def dropStale (s : Scanner) : Except String Scanner := do
  let candidates ← s.candidates.mapM (refresh s.cursor)
  pure { s with candidates }

/-- Drops the innermost candidate. -/
def dropCandidate (s : Scanner) : Except String Scanner :=
  match s.candidates with
  | some k :: rest =>
    if k.required then .error missingColon else .ok { s with candidates := none :: rest }
  | _ => .ok s

/-- Remembers that a key may begin here. -/
def noteCandidate (s : Scanner) : Except String Scanner :=
  if s.keyAllowed then do
    let c := s.cursor
    let k : KeyCandidate :=
      { tokens := s.tokens.size, index := c.index, line := c.line, column := c.column
        required := !s.inFlow && s.indent == c.column }
    let s ← s.dropCandidate
    pure { s with candidates := some k :: s.candidates.drop 1 }
  else pure s

/-! ### Between tokens -/

/-- Skips blanks, comments and line breaks, and a byte order mark at the start
of each line. A tab counts as a blank only where no key can begin. -/
def skipGap : Nat → Scanner → Scanner
  | 0, s => s
  | fuel + 1, s =>
    let c := if s.cursor.column == 0 && s.cursor.peek == some '\ufeff' then s.cursor.skip 1
      else s.cursor
    let c := c.skipWhile fun d => d == ' ' || (d == '\t' && (s.inFlow || !s.keyAllowed))
    let c := if c.peek == some '#' then c.skipWhile (!isBreak ·) else c
    if c.peek.any isBreak then
      skipGap fuel { s with cursor := c.skipBreak, keyAllowed := s.keyAllowed || !s.inFlow }
    else { s with cursor := c }

/-! ### Single tokens -/

/-- Ends all that is open at the end of the text. -/
def endStream (s : Scanner) : Except String Scanner := do
  let s ← (s.closeBlocks (-1)).dropCandidate
  pure { s.push .streamEnd with keyAllowed := false }

/-- A token that ends all block collections: a directive or a mark of a
document. -/
def outermost (s : Scanner) : Except String Scanner := do
  let s ← (s.closeBlocks (-1)).dropCandidate
  pure { s with keyAllowed := false }

/-- The start of a flow collection. -/
def openFlow (s : Scanner) (t : Token) : Except String Scanner := do
  let s ← s.noteCandidate
  pure { s.pushOver 1 t with candidates := none :: s.candidates, keyAllowed := true }

/-- The end of a flow collection. -/
def closeFlow (s : Scanner) (t : Token) : Except String Scanner := do
  let s ← s.dropCandidate
  let candidates := if s.inFlow then s.candidates.drop 1 else s.candidates
  pure { s.pushOver 1 t with candidates, keyAllowed := false }

/-- The comma between entries of a flow collection. -/
def flowEntry (s : Scanner) : Except String Scanner := do
  let s ← s.dropCandidate
  pure { s.pushOver 1 .flowEntry with keyAllowed := true }

/-- The mark of an entry of a block sequence. -/
def blockEntry (s : Scanner) : Except String Scanner := do
  if !s.inFlow && !s.keyAllowed then
    .error "block sequence entries are not allowed in this context"
  let s ← (s.openBlockHere .blockSequenceStart).dropCandidate
  pure { s.pushOver 1 .blockEntry with keyAllowed := true }

/-- The mark of a key. -/
def markedKey (s : Scanner) : Except String Scanner := do
  if !s.inFlow && !s.keyAllowed then
    .error "mapping keys are not allowed in this context"
  let s ← (s.openBlockHere .blockMappingStart).dropCandidate
  pure { s.pushOver 1 .key with keyAllowed := !s.inFlow }

/-- The mark of a value. A candidate before it turns out to be a key. -/
def markedValue (s : Scanner) : Except String Scanner :=
  match s.candidates with
  | some k :: rest =>
    let s := (s.insertAt k.tokens .key).openBlock k.column k.tokens .blockMappingStart
    .ok { s.pushOver 1 .value with candidates := none :: rest, keyAllowed := false }
  | _ =>
    if !s.inFlow && !s.keyAllowed then
      .error "mapping values are not allowed in this context"
    else
      let s := s.openBlockHere .blockMappingStart
      .ok { s.pushOver 1 .value with keyAllowed := !s.inFlow }

/-- A token that may begin a key, after which none can begin. -/
def readToken (s : Scanner) (read : Cursor → Except String (Token × Cursor)) :
    Except String Scanner := do
  let s ← s.noteCandidate
  let (t, cursor) ← read s.cursor
  pure { s.push t with cursor, keyAllowed := false }

/-- A plain scalar. After a line break a key can begin again. -/
def plainScalar (s : Scanner) : Except String Scanner := do
  let s ← s.noteCandidate
  let ((text, broken), cursor) ← readPlain s.inFlow s.indent s.cursor
  pure { s.push (.scalar text true) with cursor, keyAllowed := broken }

/-- A block scalar. -/
def blockScalar (s : Scanner) (literal : Bool) : Except String Scanner := do
  let s ← s.dropCandidate
  let (text, cursor) ← readBlock literal s.indent s.cursor
  pure { s.push (.scalar text false) with cursor, keyAllowed := true }

/-- The characters that have a meaning of their own at the start of a
token. -/
def isIndicator (c : Char) : Bool :=
  c ∈ ['-', '?', ':', ',', '[', ']', '\x7b', '\x7d', '#', '&', '*', '!', '|', '>', '\x27', '"',
    '%', '@', '\x60']

/-- Whether a plain scalar begins with `c`, with `next` after it. -/
def beginsPlain (flow : Bool) (c : Char) (next : Option Char) : Bool :=
  (!isIndicator c && !isSpaceOrTab c) || (c == '-' && !next.any isSpaceOrTab)
    || (!flow && (c == '?' || c == ':') && !isGapAt next)

/-- Reads the token that begins with the character `c`. -/
def tokenAt (s : Scanner) (c : Char) : Except String Scanner :=
  let next := s.cursor.peekAt 1
  let marks := s.inFlow || isGapAt next
  if s.cursor.column == 0 && c == '%' then do
    let s ← s.outermost
    let (t, cursor) ← readDirective s.cursor
    pure { s.push t with cursor }
  else if s.cursor.atMark '-' then do pure ((← s.outermost).pushOver 3 .documentStart)
  else if s.cursor.atMark '.' then do pure ((← s.outermost).pushOver 3 .documentEnd)
  else if c == '[' then s.openFlow .flowSequenceStart
  else if c == '\x7b' then s.openFlow .flowMappingStart
  else if c == ']' then s.closeFlow .flowSequenceEnd
  else if c == '\x7d' then s.closeFlow .flowMappingEnd
  else if c == ',' then s.flowEntry
  else if c == '-' && isGapAt next then s.blockEntry
  else if c == '?' && marks then s.markedKey
  else if c == ':' && marks then s.markedValue
  else if c == '*' then
    s.readToken fun c => (readName (c.skip 1)).map fun r => (.alias r.1, r.2)
  else if c == '&' then
    s.readToken fun c => (readName (c.skip 1)).map fun r => (.anchor r.1, r.2)
  else if c == '!' then s.readToken (readTag s.inFlow)
  else if c == '|' && !s.inFlow then s.blockScalar true
  else if c == '>' && !s.inFlow then s.blockScalar false
  else if c == '\x27' then
    s.readToken fun c => (readQuoted true c).map fun r => (.scalar r.1 false, r.2)
  else if c == '"' then
    s.readToken fun c => (readQuoted false c).map fun r => (.scalar r.1 false, r.2)
  else if beginsPlain s.inFlow c next then s.plainScalar
  else .error "found character that cannot start any token"

/-- Moves on to the next token and reads it. -/
def next (s : Scanner) : Except String Scanner := do
  let s ← (skipGap s.cursor.steps s).dropStale
  let s := s.closeBlocks s.cursor.column
  match s.cursor.peek with
  | none => s.endStream
  | some c => s.tokenAt c

/-- Reads tokens up to the end of the text. -/
def toEnd : Nat → Scanner → Except String Scanner
  | 0, _ => .error "did not reach the end of the text"
  | fuel + 1, s => do
    let s ← s.next
    if s.tokens.back? == some .streamEnd then pure s else toEnd fuel s

end Scanner

/-- The tokens of a text. -/
def tokensOf (text : String) : Except String (List Token) := do
  let cs := text.toList
  if !cs.all isAllowed then .error "control characters are not allowed"
  let s ← Scanner.toEnd (cs.length + 2) { cursor := { rest := cs } }
  pure s.tokens.toList

end BtrfsStore.Yaml
