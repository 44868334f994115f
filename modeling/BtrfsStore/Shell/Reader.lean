import BtrfsStore.Shell.Token
import BtrfsStore.Text.Decimal
/-!
# BtrfsStore.Shell.Reader

Reading scripts. A script is read one command line at a time, because the
lines before a malformed one still run.

All readers carry fuel, which bounds their nesting and the length of what they
read; `Script.next?` hands out more than any text of the given length can use.
-/

namespace BtrfsStore.Shell

/-- Why a script is malformed, and the number of the line. -/
structure SyntaxFault where
  line : Nat
  reason : String
  deriving Repr, DecidableEq

namespace Reader

/-! ### The state -/

/-- A document that has to be read after the end of the line. -/
structure Request where
  number : Nat
  /-- The line that ends the document. -/
  delimiter : List Char
  /-- Nothing is expanded in the document. -/
  isLiteral : Bool
  /-- The tabs at the start of its lines are dropped. -/
  dropTabs : Bool

/-- The state of reading a script. -/
structure State where
  rest : List Char
  line : Nat := 1
  /-- A token that has been put back. -/
  pushed : Option Token := none
  pending : List Request := []
  /-- The documents by their numbers. -/
  documents : Array Word := #[]
  aliases : List (String × String) := []
  /-- The aliases that are being read, with the length of what follows them. -/
  replaced : List (String × Nat) := []

/-- Reads something. -/
abbrev Read := StateT State (Except SyntaxFault)

/-- Reports a malformed script. -/
def fail {α : Type} (reason : String) : Read α := do
  throw ⟨(← get).line, reason⟩

/-- Reports a token that cannot stand where it does. -/
def unexpected {α : Type} (t : Token) (expected : Option Token := none) : Read α :=
  fail (t.description ++ " unexpected" ++
    match expected with
    | some e => " (expecting " ++ e.description ++ ")"
    | none => "")

/-- The complaint about a script that is beyond the reach of the reader. -/
def tooLong : String := "too long"

/-! ### Characters -/

/-- A text without the continuations of its line in front, and their number. -/
def dropContinuations : List Char → Nat × List Char
  | '\\' :: '\n' :: rest =>
    let (n, rest) := dropContinuations rest
    (n + 1, rest)
  | cs => (0, cs)

/-- The next character, after continuations of the line. -/
def peek : Read (Option Char) :=
  modifyGet fun s =>
    let (n, rest) := dropContinuations s.rest
    (rest.head?, { s with rest, line := s.line + n })

/-- Takes the next character as it is. -/
def takeChar : Read (Option Char) :=
  modifyGet fun s =>
    match s.rest with
    | [] => (none, s)
    | c :: rest => (some c, { s with rest, line := if c == '\n' then s.line + 1 else s.line })

/-- Moves past the next character. -/
def advance : Read Unit := discard takeChar

/-- Takes characters that satisfy `p`. -/
def takeWhile (p : Char → Bool) : Nat → Read (List Char)
  | 0 => fail tooLong
  | fuel + 1 => do
    match ← peek with
    | some c =>
      if p c then
        advance
        return c :: (← takeWhile p fuel)
      else pure []
    | none => pure []

/-- A blank between words. -/
def isBlank (c : Char) : Bool := c == ' ' || c == '\t'

/-- A character that ends a word. -/
def endsWord (c : Char) : Bool :=
  isBlank c || c ∈ ['\n', ';', '&', '|', '<', '>', '(', ')']

/-- Skips blanks and comments; the next character after them. -/
def skipGap : Nat → Read (Option Char)
  | 0 => peek
  | fuel + 1 => do
    match ← peek with
    | some ' ' | some '\t' =>
      advance
      skipGap fuel
    | some '#' =>
      modify fun s => { s with rest := s.rest.dropWhile (· != '\n') }
      skipGap fuel
    | c => pure c

/-- Moves past the next character if it is `c`. -/
def accept (c : Char) : Read Bool := do
  if (← peek) == some c then
    advance
    pure true
  else pure false

/-! ### Pieces -/

/-- What surrounds the pieces that are being read. -/
inductive Surroundings where
  /-- A word. -/
  | word
  /-- Double quotes. -/
  | quotes
  /-- The parentheses of an arithmetic expression. -/
  | arithmetic
  /-- A document. -/
  | document
  deriving Repr, DecidableEq

/-- Where pieces are read. -/
structure Place where
  around : Surroundings
  /-- They stand in the braces of an expansion. -/
  inBraces : Bool := false
  /-- They make up the delimiter of a document, where nothing is expanded. -/
  isDelimiter : Bool := false

/-- Whether text counts as quoted. -/
def Place.quoted (p : Place) : Bool := p.around != .word

/-- Adds a character to pieces, the last one in front and the characters of a
text in reverse. -/
def addChar (quoted : Bool) (c : Char) : Word → Word
  | .text q cs :: rest =>
    if q = quoted then .text q (c :: cs) :: rest else .text quoted [c] :: .text q cs :: rest
  | rest => .text quoted [c] :: rest

/-- Pieces in their order. -/
def inOrder (draft : Word) : Word :=
  draft.foldl
    (fun word piece =>
      match piece with
      | .text q cs => .text q cs.reverse :: word
      | piece => piece :: word) []

/-- The parameter that a special character names. -/
def specialParameter? (c : Char) : Option Parameter :=
  match c with
  | '@' => some .arguments
  | '*' => some .argumentsJoined
  | '#' => some .argumentCount
  | '?' => some .status
  | '$' => some .processId
  | '!' => some .backgroundId
  | '-' => some .optionLetters
  | c => if c.isDigit then some (.argument (c.toNat - 48)) else none

/-- What the characters after a name stand for in an expansion. -/
def fallback? (c : Char) : Option Fallback :=
  match c with
  | '-' => some .use
  | '=' => some .assign
  | '?' => some .complain
  | '+' => some .replace
  | _ => none

/-- Undoes the escapes of a script in backquotes, up to the closing one; what
follows it, unless there is none. -/
def backquoted (quoted : Bool) : List Char → List Char → Option (List Char × List Char)
  | _, [] => none
  | acc, '\x60' :: rest => some (acc.reverse, rest)
  | acc, '\\' :: '\n' :: rest => backquoted quoted acc rest
  | acc, '\\' :: c :: rest =>
    if c ∈ ['\\', '\x60', '$'] ∨ (quoted ∧ c = '"') then backquoted quoted (c :: acc) rest
    else backquoted quoted (c :: '\\' :: acc) rest
  | acc, c :: rest => backquoted quoted (c :: acc) rest

/-! ### Documents -/

/-- The lines of a document up to its delimiter, and what follows. A line that
continues the one before it cannot be the delimiter. -/
def documentLines (request : Request) :
    Nat → Bool → List Char → List (List Char) × List Char
  | 0, _, cs => ([], cs)
  | fuel + 1, continued, cs =>
    if cs.isEmpty then ([], [])
    else
      let line := cs.takeWhile (· != '\n')
      let rest := cs.drop line.length
      let line := if request.dropTabs then line.dropWhile (· == '\t') else line
      if !continued && line == request.delimiter then ([], rest.drop 1)
      else
        let continues := !request.isLiteral
          && (line.reverse.takeWhile (· == '\\')).length % 2 == 1
        let (lines, after) := documentLines request fuel continues (rest.drop 1)
        ((line ++ rest.take 1) :: lines, after)

/-! ### Tokens and commands -/

/-- What a token may be taken for. -/
structure Look where
  /-- Line breaks in front of it are skipped. -/
  newlines : Bool := false
  keywords : Bool := false
  aliases : Bool := false

/-- Where a command may start. -/
def Look.command : Look := { keywords := true, aliases := true }

/-- Where a command may start on a later line. -/
def Look.anyLine : Look := { newlines := true, keywords := true, aliases := true }

/-- Puts a token back. -/
def putBack (t : Token) : Read Unit := modify fun s => { s with pushed := some t }

/-- The text that replaces an alias, unless it is being read already. -/
def aliasText? (s : State) (t : Token) : Option (String × String) :=
  match t with
  | .word w => do
    let name ← w.literal?
    let text ← s.aliases.lookup name
    if s.replaced.any fun e => e.1 == name && e.2 ≤ s.rest.length then none
    else some (name, text)
  | _ => none

/-- Whether the next word stands behind an alias whose text ends with a blank: then
it can be an alias as well. -/
def isBehindAlias (s : State) : Bool :=
  s.pushed.isNone && s.replaced.any fun (name, length) =>
    let endsWithBlank := (((s.aliases.lookup name).getD "").toList.getLast?).any isBlank
    endsWithBlank && length < s.rest.length && (s.rest.dropWhile isBlank).length ≤ length

/-- Two scripts one after the other. -/
def joined : Option Script → Script → Script
  | none, right => right
  | some left, right => .sequence left right

/-- The name and value of an assignment. -/
def assignment? : Word → Option (String × Word)
  | .text false cs :: rest =>
    let name := cs.takeWhile isNameChar
    match name, cs.dropWhile isNameChar with
    | first :: _, '=' :: value =>
      if startsName first then
        some (String.ofList name, if value.isEmpty then rest else .text false value :: rest)
      else none
    | _, _ => none
  | _ => none

/-- The built-in commands of which there can be no functions. -/
def specialNames : List String :=
  [".", ":", "break", "continue", "eval", "exec", "exit", "export", "local", "readonly", "return",
    "set", "shift", "times", "trap", "unset"]

/-- All arguments, as the words of a loop that names none. -/
def allArguments : Word := [.mark, .expansion true .arguments .plain, .mark]

/-- The parts of a simple command. -/
structure Simple where
  assignments : List (String × Word) := []
  words : List Word := []
  redirects : List Redirect := []

mutual

/-- Reads pieces up to the end that their place asks for. `inner` tells that a
quotation inside quoted braces is open, and `depth` counts open parentheses. -/
def readPieces : Nat → Place → Bool → Nat → Word → Read Word
  | 0, _, _, _, _ => fail tooLong
  | fuel + 1, place, inner, depth, draft => do
    let quoted := place.quoted
    let continueWith (draft : Word) : Read Word := readPieces fuel place inner depth draft
    match ← peek with
    | none =>
      if place.around = .arithmetic then fail "Missing \x27))\x27"
      else if place.around = .quotes then fail "Unterminated quoted string"
      else if place.inBraces then fail "Missing \x27\x7d\x27"
      else pure (inOrder draft)
    | some c =>
      if place.around = .word ∧ !place.inBraces ∧ endsWord c then return inOrder draft
      advance
      if c = '\\' then
        match ← takeChar with
        | none => continueWith (addChar true '\\' draft)
        | some d =>
          let escapable := d ∈ ['\\', '\x60', '$']
            || (d == '"' && (place.around != .document || place.inBraces))
            || (d == '\x7d' && place.inBraces)
          if quoted && !escapable then continueWith (addChar true d (addChar true '\\' draft))
          else continueWith (addChar true d draft)
      else if c = '\x27' ∧ place.around = .word then
        let s ← get
        let inside := s.rest.takeWhile (· != '\x27')
        if inside.length = s.rest.length then
          fail "Unterminated quoted string"
        set { s with rest := s.rest.drop (inside.length + 1), line := s.line + inside.count '\n' }
        let draft := inside.foldl (fun draft c => addChar true c draft) (.mark :: draft)
        continueWith (.mark :: draft)
      else if c = '"' ∧ place.around = .word then
        let pieces ← readPieces fuel { place with around := .quotes, inBraces := false } false 0 []
        let reversed := pieces.foldl
          (fun draft piece =>
            match piece with
            | .text q cs => .text q cs.reverse :: draft
            | piece => piece :: draft) (.mark :: draft)
        continueWith (.mark :: reversed)
      else if c = '"' ∧ place.around = .quotes ∧ !place.inBraces then pure (inOrder draft)
      else if c = '"' ∧ place.inBraces then
        readPieces fuel place (!inner) depth (.mark :: draft)
      else if c = '$' ∧ !place.isDelimiter then
        match ← readDollar fuel place with
        | some piece => continueWith (piece :: draft)
        | none => continueWith (addChar quoted '$' draft)
      else if c = '\x60' ∧ !place.isDelimiter then
        continueWith ((← readBackquoted fuel quoted) :: draft)
      else if c = '\x7d' ∧ place.inBraces ∧ !inner then pure (inOrder draft)
      else if c = '(' ∧ place.around = .arithmetic then
        readPieces fuel place inner (depth + 1) (addChar true c draft)
      else if c = ')' ∧ place.around = .arithmetic then
        if depth = 0 then
          if ← accept ')' then pure (inOrder draft)
          else continueWith (addChar true c draft)
        else readPieces fuel place inner (depth - 1) (addChar true c draft)
      else continueWith (addChar quoted c draft)

/-- Reads what follows a dollar sign; nothing if it stands for itself. -/
def readDollar : Nat → Place → Read (Option Piece)
  | 0, _ => fail tooLong
  | fuel + 1, place => do
    let quoted := place.quoted
    match ← peek with
    | some '(' =>
      advance
      if ← accept '(' then
        let inside ← readPieces fuel { around := .arithmetic } false 0 []
        pure (some (.arithmetic quoted inside))
      else
        let saved := (← get).pending
        modify fun s => { s with pending := [] }
        let (script, _) ← readList fuel false true none
        match ← readToken fuel {} with
        | .closeParen => pure ()
        | t => unexpected t (some .closeParen)
        modify fun s => { s with pending := saved }
        pure (some (.substitution quoted (script.getD .empty)))
    | some '\x7b' =>
      advance
      return some (← readBraced fuel place)
    | some c =>
      if startsName c then
        let name ← takeWhile isNameChar fuel
        pure (some (.expansion quoted (.named (String.ofList name)) .plain))
      else
        match specialParameter? c with
        | some parameter =>
          advance
          pure (some (.expansion quoted parameter .plain))
        | none => pure none
    | none => pure none

/-- Reads an expansion after its opening brace. -/
def readBraced : Nat → Place → Read Piece
  | 0, _ => fail tooLong
  | fuel + 1, place => do
    let quoted := place.quoted
    let inside : Place :=
      { around := if place.around = .arithmetic then .quotes else place.around, inBraces := true }
    let malformed : Read Piece := do
      discard (readPieces fuel inside false 0 [])
      pure (.expansion quoted .status .malformed)
    let named? : Read (Option Parameter) := do
      match ← peek with
      | some c =>
        if startsName c then
          let name ← takeWhile isNameChar fuel
          pure (some (.named (String.ofList name)))
        else if c.isDigit then
          let digits ← takeWhile Char.isDigit fuel
          pure (some (.argument (Text.valueOfDigits digits)))
        else pure none
      | none => pure none
    let rest (parameter : Parameter) : Read Piece := do
      let emptyCounts ← accept ':'
      match ← peek with
      | none => malformed
      | some c =>
        if (c = '%' ∨ c = '#') ∧ !emptyCounts then
          advance
          let longest ← accept c
          let pattern ← readPieces fuel { around := .word, inBraces := true } false 0 []
          pure (.expansion quoted parameter (.trim (c == '%') longest pattern))
        else if c = '\x7d' then
          advance
          if emptyCounts then malformed else pure (.expansion quoted parameter .plain)
        else
          match fallback? c with
          | some kind =>
            advance
            let word ← readPieces fuel inside false 0 []
            pure (.expansion quoted parameter (.fallback kind emptyCounts word))
          | none => malformed
    match ← named? with
    | some parameter => rest parameter
    | none =>
      match ← peek with
      | none | some '\x7d' => malformed
      | some '#' =>
        advance
        match ← named? with
        | some parameter =>
          if ← accept '\x7d' then pure (.expansion quoted parameter .length) else malformed
        | none =>
          let s ← get
          match ← peek, (dropContinuations (s.rest.drop 1)).2.head? with
          | some '\x7d', _ => rest .argumentCount
          | some c, some '\x7d' =>
            advance
            match specialParameter? c with
            | some parameter =>
              discard (accept '\x7d')
              pure (.expansion quoted parameter .length)
            | none => malformed
          | _, _ => rest .argumentCount
      | some c =>
        match specialParameter? c with
        | some parameter =>
          advance
          rest parameter
        | none => malformed

/-- Reads a script in backquotes after the opening one. -/
def readBackquoted : Nat → Bool → Read Piece
  | 0, _ => fail tooLong
  | fuel + 1, quoted => do
    let s ← get
    match backquoted quoted [] s.rest with
    | none =>
      set { s with line := s.line + s.rest.count '\n' }
      fail "EOF in backquote substitution"
    | some (text, after) =>
      set { s with rest := text, pending := [], pushed := none }
      let (script, _) ← readList fuel false true none
      modify fun inner =>
        { inner with
          rest := after
          line := s.line + (s.rest.take (s.rest.length - after.length)).count '\n'
          pending := s.pending, pushed := none }
      pure (.substitution quoted (script.getD .empty))

/-- Reads the documents that are due. -/
def readDocuments : Nat → Read Unit
  | 0 => fail tooLong
  | fuel + 1 => do
    let s ← get
    match s.pending with
    | [] => pure ()
    | request :: pending =>
      let (lines, after) := documentLines request (s.rest.length + 1) false s.rest
      let text := lines.flatten
      let body ←
        if request.isLiteral then pure [Piece.text true text]
        else do
          set { s with rest := text, pending := [], pushed := none }
          readPieces fuel { around := .document } false 0 []
      modify fun inner =>
        { inner with
          rest := after
          line := s.line + (s.rest.take (s.rest.length - after.length)).count '\n'
          pending, pushed := s.pushed
          documents := inner.documents.setIfInBounds request.number body }
      readDocuments fuel

/-- Reads a word, or a redirection operator after at most one digit. -/
def readWord : Nat → Bool → Read Token
  | 0, _ => fail tooLong
  | fuel + 1, isDelimiter => do
    let word ← readPieces fuel { around := .word, isDelimiter } false 0 []
    let next ← peek
    let number? : Option (Option Nat) := match word with
      | [] => some none
      | [.text false [d]] => if d.isDigit then some (some (d.toNat - 48)) else none
      | _ => none
    match next, number? with
    | some '>', some number =>
      advance
      let descriptor := number.getD 1
      if ← accept '>' then pure (.redirect (.file descriptor .append))
      else if ← accept '|' then pure (.redirect (.file descriptor .overwrite))
      else if ← accept '&' then pure (.redirect (.copy descriptor))
      else pure (.redirect (.file descriptor .write))
    | some '<', some number =>
      advance
      let descriptor := number.getD 0
      if ← accept '<' then
        let dropTabs ← accept '-'
        pure (.redirect (.document descriptor dropTabs))
      else if ← accept '&' then pure (.redirect (.copy descriptor))
      else if ← accept '>' then pure (.redirect (.file descriptor .readWrite))
      else pure (.redirect (.file descriptor .read))
    | _, _ => pure (.word word)

/-- Reads a token as it is spelled. -/
def readSpelled : Nat → Bool → Read Token
  | 0, _ => fail tooLong
  | fuel + 1, isDelimiter => do
    let s ← get
    if let some t := s.pushed then
      set { s with pushed := none }
      return t
    match ← skipGap fuel with
    | none => pure .endOfText
    | some '\n' =>
      advance
      pure .newline
    | some '&' =>
      advance
      return if ← accept '&' then .andIf else .ampersand
    | some '|' =>
      advance
      return if ← accept '|' then .orIf else .bar
    | some ';' =>
      advance
      return if ← accept ';' then .doubleSemicolon else .semicolon
    | some '(' =>
      advance
      pure .openParen
    | some ')' =>
      advance
      pure .closeParen
    | some _ => readWord fuel isDelimiter

/-- Reads a token. -/
def readToken : Nat → Look → Read Token
  | 0, _ => fail tooLong
  | fuel + 1, look => do
    let isBehindAlias := isBehindAlias (← get)
    let t ← readSpelled fuel false
    match t with
    | .newline =>
      if look.newlines then
        readDocuments fuel
        readToken fuel look
      else pure t
    | .word _ =>
      let t' := if look.keywords then t.asKeyword else t
      let s ← get
      match if look.aliases || isBehindAlias then aliasText? s t' else none with
      | some (name, text) =>
        set { s with
          rest := text.toList ++ s.rest, replaced := (name, s.rest.length) :: s.replaced }
        readToken fuel look
      | none => pure t'
    | t => pure t

/-- Reads a list of commands after those in `done`. The list of a whole line
(`isLine`) ends with the line, and any other one before a token that ends it,
unless it has to hold a command yet. The flag tells that there was nothing left
to read. -/
def readList : Nat → Bool → Bool → Option Script → Read (Option Script × Bool)
  | 0, _, _, _ => fail tooLong
  | fuel + 1, isLine, mayEnd, done => do
    let t ← readToken fuel (if isLine then .command else .anyLine)
    match t with
    | .newline =>
      readDocuments fuel
      return (done, false)
    | .endOfText =>
      readDocuments fuel
      putBack t
      return (done, done.isNone)
    | _ => pure ()
    putBack t
    if !isLine && mayEnd && t.endsList then return (done, false)
    let left ← readAndOr fuel none
    let next ← readToken fuel {}
    let left := match next with
      | .ampersand => .background left
      | _ => left
    let done := joined done left
    match next with
    | .endOfText =>
      readDocuments fuel
      putBack next
      pure (some done, false)
    | .newline =>
      putBack next
      readList fuel isLine true (some done)
    | .ampersand | .semicolon => readList fuel isLine true (some done)
    | _ =>
      if isLine then unexpected next
      else
        putBack next
        pure (some done, false)

/-- Reads pipelines with `&&` and `||` between them. -/
def readAndOr : Nat → Option (Bool × Script) → Read Script
  | 0, _ => fail tooLong
  | fuel + 1, left => do
    let right ← readPipeline fuel (if left.isSome then .anyLine else {})
    let script := match left with
      | none => right
      | some (true, left) => .both left right
      | some (false, left) => .either left right
    match ← readToken fuel {} with
    | .andIf => readAndOr fuel (some (true, script))
    | .orIf => readAndOr fuel (some (false, script))
    | t =>
      putBack t
      pure script

/-- Reads a pipeline. -/
def readPipeline : Nat → Look → Read Script
  | 0, _ => fail tooLong
  | fuel + 1, look => do
    let t ← readToken fuel look
    let negated := t.isKeyword .not
    if !negated then
      putBack t
    let first ← readCommand fuel (if negated then .command else {})
    let script ← match ← readToken fuel {} with
      | .bar => .pipeline <$> readPiped fuel [first]
      | t => do
        putBack t
        pure first
    pure (if negated then .negation script else script)

/-- Reads the further commands of a pipeline; those before are given with the
last one in front. -/
def readPiped : Nat → List Script → Read (List Script)
  | 0, _ => fail tooLong
  | fuel + 1, before => do
    let before := (← readCommand fuel .anyLine) :: before
    match ← readToken fuel {} with
    | .bar => readPiped fuel before
    | t =>
      putBack t
      pure before.reverse

/-- Reads a list inside another command, which has to hold a command. -/
def readBody : Nat → Read Script
  | 0 => fail tooLong
  | fuel + 1 => do
    let (script, _) ← readList fuel false false none
    pure (script.getD .empty)

/-- Reads a reserved word. -/
def expect : Nat → Look → Keyword → Read Unit
  | 0, _, _ => fail tooLong
  | fuel + 1, look, k => do
    let t ← readToken fuel look
    if !t.isKeyword k then unexpected t (some (.keyword k))

/-- Reads one command. -/
def readCommand : Nat → Look → Read Script
  | 0, _ => fail tooLong
  | fuel + 1, look => do
    let line := (← get).line
    let t ← readToken fuel look
    let withRedirects (wrap : List Redirect → Script) : Read Script := do
      let redirects ← readRedirects fuel
      pure (wrap redirects)
    let compound (body : Script) : Read Script :=
      withRedirects fun redirects =>
        if redirects.isEmpty then body else .redirected line body redirects
    match t with
    | .keyword .if =>
      let body ← readConditional fuel
      compound body
    | .keyword .while | .keyword .until =>
      let condition ← readBody fuel
      expect fuel {} .do
      let body ← readBody fuel
      expect fuel {} .done
      compound (.loop (t.isKeyword .until) condition body)
    | .keyword .for =>
      let name ← match ← readToken fuel {} with
        | .word w =>
          match w.literal? with
          | some name => if isName name then pure name else fail "Bad for loop variable"
          | none => fail "Bad for loop variable"
        | _ => fail "Bad for loop variable"
      let next ← readToken fuel .anyLine
      let words ←
        if next.isKeyword .in then readWords fuel []
        else do
          match next with
          | .semicolon => pure ()
          | _ => putBack next
          pure [allArguments]
      expect fuel .anyLine .do
      let body ← readBody fuel
      expect fuel {} .done
      compound (.each line name words body)
    | .keyword .case =>
      let word ← match ← readToken fuel {} with
        | .word w => pure w
        | t => unexpected t (some (.word []))
      expect fuel .anyLine .in
      let cases ← readCases fuel []
      compound (.choice line word cases)
    | .openParen =>
      let body ← readBody fuel
      match ← readToken fuel {} with
      | .closeParen => withRedirects (.subshell line body)
      | t => unexpected t (some .closeParen)
    | .keyword .openBrace =>
      let body ← readBody fuel
      expect fuel {} .closeBrace
      compound body
    | .word _ | .redirect _ =>
      putBack t
      readSimple fuel (← get).line true {}
    | t => unexpected t

/-- Reads the words of a loop, up to the end of the line or a semicolon. -/
def readWords : Nat → List Word → Read (List Word)
  | 0, _ => fail tooLong
  | fuel + 1, before => do
    match ← readToken fuel {} with
    | .word w => readWords fuel (w :: before)
    | .newline | .semicolon => pure before.reverse
    | t => unexpected t

/-- Reads a conditional after `if` or `elif`. -/
def readConditional : Nat → Read Script
  | 0 => fail tooLong
  | fuel + 1 => do
    let condition ← readBody fuel
    expect fuel {} .then
    let consequent ← readBody fuel
    let t ← readToken fuel {}
    if t.isKeyword .elif then
      return .conditional condition consequent (← readConditional fuel)
    if t.isKeyword .else then
      let alternative ← readBody fuel
      expect fuel {} .fi
      return .conditional condition consequent alternative
    if !t.isKeyword .fi then unexpected t (some (.keyword .fi))
    pure (.conditional condition consequent .empty)

/-- Reads the cases of a choice. -/
def readCases : Nat → List (List Word × Script) → Read (List (List Word × Script))
  | 0, _ => fail tooLong
  | fuel + 1, before => do
    let t ← readToken fuel { newlines := true, keywords := true }
    if t.isKeyword .esac then return before.reverse
    let t ← match t with
      | .openParen => readToken fuel {}
      | t => pure t
    let patterns ← readPatterns fuel t []
    let (body, _) ← readList fuel false true none
    let before := (patterns, body.getD .empty) :: before
    match ← readToken fuel { newlines := true, keywords := true } with
    | .doubleSemicolon => readCases fuel before
    | t =>
      if t.isKeyword .esac then pure before.reverse
      else unexpected t (some .doubleSemicolon)

/-- Reads the patterns of a case, the first of which has been read, up to the
closing parenthesis. -/
def readPatterns : Nat → Token → List Word → Read (List Word)
  | 0, _, _ => fail tooLong
  | fuel + 1, t, before => do
    let pattern : Word := match t with
      | .word w => w
      | .keyword k => [.text false k.spelling.toList]
      | _ => []
    let before := pattern :: before
    match ← readToken fuel {} with
    | .bar => readPatterns fuel (← readToken fuel {}) before
    | .closeParen => pure before.reverse
    | t => unexpected t (some .closeParen)

/-- Reads redirections. -/
def readRedirects : Nat → Read (List Redirect)
  | 0 => fail tooLong
  | fuel + 1 => do
    match ← readToken fuel .command with
    | .redirect operator =>
      let redirect ← readTarget fuel operator
      return redirect :: (← readRedirects fuel)
    | t =>
      putBack t
      pure []

/-- Reads the word after a redirection operator. -/
def readTarget : Nat → RedirectOperator → Read Redirect
  | 0, _ => fail tooLong
  | fuel + 1, operator => do
    let isDocument := match operator with
      | .document _ _ => true
      | _ => false
    match ← readSpelled fuel isDocument with
    | .word w =>
      match operator with
      | .file descriptor mode => pure (.file descriptor mode w)
      | .copy descriptor =>
        match w.literal?.map String.toList with
        | some ['-'] => pure (.copy descriptor none)
        | some [d] =>
          if d.isDigit then pure (.copy descriptor (some (d.toNat - 48)))
          else pure (.copyNamed descriptor w)
        | _ => pure (.copyNamed descriptor w)
      | .document descriptor dropTabs =>
        let delimiter := w.flatMap fun
          | .text _ cs => cs
          | _ => []
        let isLiteral := w.any fun
          | .mark | .text true _ => true
          | _ => false
        modifyGet fun s =>
          let number := s.documents.size
          let request : Request := { number, delimiter, isLiteral, dropTabs }
          (.document descriptor number,
            { s with documents := s.documents.push [], pending := s.pending ++ [request] })
    | t => unexpected t

/-- Reads the rest of a simple command, or the definition of a function.
`isStart` tells that nothing but assignments has been read. -/
def readSimple : Nat → Nat → Bool → Simple → Read Script
  | 0, _, _, _ => fail tooLong
  | fuel + 1, line, isStart, command => do
    let t ← readToken fuel { aliases := isStart }
    let finish : Read Script := do
      putBack t
      pure (.simple line command.assignments.reverse command.words.reverse
        command.redirects.reverse)
    match t with
    | .word w =>
      match if isStart then assignment? w else none with
      | some assignment =>
        readSimple fuel line true
          { command with assignments := assignment :: command.assignments }
      | none => readSimple fuel line false { command with words := w :: command.words }
    | .redirect operator =>
      let redirect ← readTarget fuel operator
      readSimple fuel line isStart { command with redirects := redirect :: command.redirects }
    | .openParen =>
      match command with
      | { assignments := [], words := [name], redirects := [] } =>
        match ← readToken fuel {} with
        | .closeParen => pure ()
        | t => unexpected t (some .closeParen)
        let name := (name.literal?).getD ""
        if !isName name || specialNames.contains name then
          fail "Bad function name"
        return .function name (← readCommand fuel .anyLine)
      | _ => finish
    | _ => finish

end

/-- Reads a text as a document in which parameters are expanded. -/
def readText (text : String) : Except SyntaxFault Word :=
  let pieces := readPieces (8 * text.length + 64) { around := .document } false 0 []
  pieces.run' { rest := text.toList }

end Reader

/-- Reads the next line of commands of a script: the commands, unless there
are none, and what is left, or nothing at the end of the text. -/
def Script.next? (s : Reader.State) : Except SyntaxFault (Option (Option Script × Reader.State)) :=
  let s := { s with pushed := none, pending := [] }
  match (Reader.readList (8 * s.rest.length + 64) true true none).run s with
  | .error fault => .error fault
  | .ok ((script, atEnd), rest) => .ok (if atEnd then none else some (script, rest))

end BtrfsStore.Shell
