import BtrfsStore.Shell.Arithmetic
import BtrfsStore.Shell.Machine
import BtrfsStore.Shell.Pattern
/-!
# BtrfsStore.Shell.Expansion

What the words of a command stand for. Expansions outside of quotes are split
into fields; the arguments in quotes become one field each, and no field at all
if there are none. A field with unquoted characters that are special in patterns
stands for the files that it matches.
-/

namespace BtrfsStore.Shell

/-! ### Expanded words -/

/-- A part of an expanded word. -/
inductive Atom where
  /-- A character, which may stand only for itself in a pattern (`literal`) and
  may split fields (`splits`). -/
  | char (c : Char) (literal splits : Bool)
  /-- A quotation mark: there is a field even if there is nothing in it. -/
  | mark
  /-- The end of an argument; `kept` if an empty one is a field as well. -/
  | boundary (kept : Bool)
  deriving Repr, DecidableEq

/-- A text as the value of an expansion. -/
def atomsOf (quoted : Bool) (s : String) : List Atom :=
  s.toList.map fun c => .char c quoted (!quoted)

/-- A text that is taken as it is. -/
def literalAtoms (s : String) : List Atom := s.toList.map fun c => .char c true false

/-- The characters of an expanded word. -/
def textOf (atoms : List Atom) : String :=
  String.ofList (atoms.filterMap fun
    | .char c _ _ => some c
    | _ => none)

/-- The characters of an expanded word with their quoting. -/
def quotedChars (atoms : List Atom) : List QuotedChar :=
  atoms.filterMap fun
    | .char c literal _ => some (literal, c)
    | _ => none

/-! ### Parameters -/

/-- How the text of a parameter is named in complaints. -/
def Parameter.spelling : Parameter → String
  | .named name => name
  | .argument n => toString n
  | .arguments => "@"
  | .argumentsJoined => "*"
  | .argumentCount => "#"
  | .status => "?"
  | .processId => "$"
  | .backgroundId => "!"
  | .optionLetters => "-"

/-- What stands between joined arguments: the first separator of fields. -/
def separator (s : Session) : String :=
  match s.valueOf? "IFS" with
  | none => " "
  | some ifs => String.ofList (ifs.toList.take 1)

/-- The value of a parameter as a single text. All arguments together are set
even if there is none. -/
def Session.parameter? (s : Session) : Parameter → Option String
  | .named name => s.valueOf? name
  | .argument 0 => some s.name
  | .argument (n + 1) => s.arguments[n]?
  | .arguments | .argumentsJoined => some ((separator s).intercalate s.arguments)
  | .argumentCount => some (toString s.arguments.length)
  | .status => some (toString s.status)
  | .processId => some (toString s.processId)
  | .backgroundId => s.backgroundId.map toString
  | .optionLetters => some s.optionLetters

/-- The boundaries between texts, each of which is given by its atoms. -/
def bounded (kept : Bool) : List (List Atom) → List Atom
  | [] => []
  | [atoms] => atoms
  | atoms :: rest => atoms ++ .boundary kept :: bounded kept rest

/-- The atoms of arguments that become fields of their own. -/
def argumentAtoms (quoted : Bool) (arguments : List String) : List Atom :=
  if quoted then bounded true (arguments.map fun a => .mark :: atomsOf true a)
  else bounded false (arguments.map fun a => atomsOf false a)

/-- Whether a parameter stands for arguments that become fields of their own;
`toFields` tells that the word becomes fields. -/
def keepsApart (toFields quoted : Bool) (parameter : Parameter) : Bool :=
  toFields && (parameter == .arguments || (parameter == .argumentsJoined && !quoted))

/-- The atoms of a value. -/
def valueAtoms (s : Session) (toFields quoted : Bool) (parameter : Parameter) : List Atom :=
  if keepsApart toFields quoted parameter then argumentAtoms quoted s.arguments
  else atomsOf quoted ((s.parameter? parameter).getD "")

/-! ### Tildes -/

/-- The directory that a tilde with a name after it stands for. -/
def homeOf? (s : Session) (name : String) : Option String :=
  if name.isEmpty then s.valueOf? "HOME" else if name = "root" then some "/root" else none

/-- The atoms of unquoted text, in which a tilde at the start stands for a
directory, and one after a colon if `inAssignment`. `isLast` tells that nothing
follows the text. -/
def unquotedAtoms (s : Session) (splits inAssignment isLast : Bool) :
    Nat → Bool → List Char → List Atom
  | 0, _, _ => []
  | _, _, [] => []
  | fuel + 1, atStart, c :: cs =>
    let continueWith := unquotedAtoms s splits inAssignment isLast fuel
    let plain := Atom.char c false splits :: continueWith (inAssignment && c == ':') cs
    if atStart ∧ c = '~' then
      let endsName (c : Char) : Bool := c == '/' || (inAssignment && c == ':')
      let name := cs.takeWhile (!endsName ·)
      let rest := cs.drop name.length
      if rest.isEmpty ∧ !isLast then plain
      else
        match homeOf? s (String.ofList name) with
        | some home => literalAtoms home ++ continueWith false rest
        | none => plain
    else plain

/-! ### Expanding -/

/-- How a word is expanded. -/
structure Manner where
  /-- The word becomes fields. -/
  toFields : Bool := false
  /-- A tilde at the start of the word stands for a directory. -/
  tilde : Bool := false
  /-- The word is the value of an assignment. -/
  inAssignment : Bool := false
  /-- Unquoted text is split. -/
  splitsText : Bool := false

/-- The output of a script as the value of a substitution: NUL characters and
line breaks at its end do not belong to it. -/
def substituted (output : List UInt8) : String :=
  let bytes := output.filter (· != 0)
  ByteText.ofBytes (bytes.reverse.dropWhile (· == 10)).reverse

/-- How deep words may be nested. -/
def maxNesting : Nat := 1000

section

variable (substitute : Script → Run String)

mutual

/-- Expands the pieces of a word. -/
def expandPieces : Nat → Manner → List Piece → Run (List Atom)
  | 0, _, _ => throw .overran
  | _, _, [] => pure []
  | fuel + 1, manner, .mark :: .expansion true .arguments .plain :: .mark :: rest => do
    let s := (← get).session
    let atoms := valueAtoms s manner.toFields true .arguments
    return atoms ++ (← expandPieces fuel { manner with tilde := false } rest)
  | fuel + 1, manner, piece :: rest => do
    let atoms ← match piece with
      | .text true cs => pure (literalAtoms (String.ofList cs))
      | .text false cs => do
        let s := (← get).session
        pure (unquotedAtoms s manner.splitsText manner.inAssignment rest.isEmpty
          (cs.length + 1) manner.tilde cs)
      | .mark => pure [.mark]
      | .expansion quoted parameter form => expandParameter fuel manner quoted parameter form
      | .substitution quoted script => do
        pure (atomsOf quoted (← substitute script))
      | .arithmetic quoted expression => do
        let text := textOf (← expandPieces fuel {} expression)
        match Arithmetic.eval (← get).session text with
        | .ok (value, session) =>
          modify fun m => { m with session }
          pure (atomsOf quoted (toString value))
        | .error fault => Machine.fail (fault.message text)
    let tilde := match piece with
      | .text false cs => manner.inAssignment && cs.getLast? == some ':'
      | _ => false
    return atoms ++ (← expandPieces fuel { manner with tilde } rest)

/-- Expands a parameter. -/
def expandParameter : Nat → Manner → Bool → Parameter → Form → Run (List Atom)
  | 0, _, _, _, _ => throw .overran
  | fuel + 1, manner, quoted, parameter, form => do
    let s := (← get).session
    let value? := s.parameter? parameter
    let whole : Run (List Atom) := do
      pure (valueAtoms (← get).session manner.toFields quoted parameter)
    let demand : Run Unit := do
      if value?.isNone && s.hasOption 'u' then
        Machine.fail (parameter.spelling ++ ": parameter not set")
    match form with
    | .malformed => Machine.fail "Bad substitution"
    | .plain => do
      demand
      whole
    | .length => do
      demand
      pure (atomsOf quoted (toString (value?.getD "").length))
    | .fallback kind emptyCounts word => do
      let isMissing := value?.isNone || (emptyCounts && value? == some "")
      let expandWord : Run (List Atom) :=
        expandPieces fuel { manner with tilde := !quoted, splitsText := !quoted } word
      match kind with
      | .use => if isMissing then expandWord else whole
      | .replace => if isMissing then pure [] else expandWord
      | .assign => do
        if isMissing then
          let text := textOf (← expandPieces fuel { tilde := true } word)
          match parameter with
          | .named name => Machine.assign name text
          | _ => Machine.fail (parameter.spelling ++ ": bad variable name")
        whole
      | .complain => do
        if isMissing then
          let text ←
            if word.isEmpty then
              pure ("parameter not set" ++ if emptyCounts then " or null" else "")
            else textOf <$> expandPieces fuel { tilde := true } word
          Machine.fail (parameter.spelling ++ ": " ++ text)
        whole
    | .trim atEnd longest pattern => do
      demand
      if value?.isNone then
        return []
      let items := Pattern.ofWord (quotedChars (← expandPieces fuel { tilde := true } pattern))
      let trimmed (texts : List String) : List String :=
        let trim := if atEnd then Pattern.trimEnds else Pattern.trimStarts
        (trim longest items (texts.map String.toList)).map String.ofList
      if keepsApart manner.toFields quoted parameter then
        let s := (← get).session
        pure (argumentAtoms quoted (trimmed s.arguments))
      else pure (atomsOf quoted (String.join (trimmed [value?.getD ""])))

end

/-- Expands a word to a single text. -/
def expandText (manner : Manner) (w : Word) : Run String :=
  textOf <$> expandPieces substitute maxNesting manner w

/-- Expands a word to a pattern. -/
def expandPattern (w : Word) : Run (List PatternItem) := do
  let atoms ← expandPieces substitute maxNesting { tilde := true } w
  pure (Pattern.ofWord (quotedChars atoms))

end

/-! ### Fields -/

/-- The fields that end so far, the last one in front, and the field that has
begun, its last atom in front. -/
structure Splitting where
  done : List (List Atom) := []
  current : List Atom := []
  /-- A blank has just ended a field. -/
  afterBlank : Bool := false

/-- Ends the current field. -/
def Splitting.cut (s : Splitting) : Splitting :=
  { s with done := s.current.reverse :: s.done, current := [] }

/-- Adds an atom to the current field. -/
def Splitting.add (s : Splitting) (a : Atom) : Splitting :=
  { s with current := a :: s.current, afterBlank := false }

/-- A separator that counts as a blank. -/
def isBlankSeparator (c : Char) : Bool := c == ' ' || c == '\t' || c == '\n'

/-- Goes on with the next atom. Several blanks count as one separator, which
may have one other separator among them. -/
def Splitting.step (separators : List Char) (s : Splitting) (a : Atom) : Splitting :=
  match a with
  | .boundary kept =>
    let s := { s with afterBlank := false }
    if kept || !s.current.isEmpty then s.cut else s
  | .char c _ true =>
    if !separators.contains c then s.add a
    else if isBlankSeparator c then
      if s.afterBlank || s.current.isEmpty then s else { s.cut with afterBlank := true }
    else if s.afterBlank then { s with afterBlank := false }
    else s.cut
  | a => s.add a

/-- The fields of an expanded word. -/
def fieldsOf (separators : List Char) (atoms : List Atom) : List (List Atom) :=
  let s := atoms.foldl (Splitting.step separators) {}
  (if s.current.isEmpty then s else s.cut).done.reverse

/-! ### Files -/

/-- The parts of a path between its slashes. -/
def segments : List QuotedChar → List (List QuotedChar)
  | [] => [[]]
  | c :: rest =>
    match segments rest with
    | [] => [[c]]
    | first :: others => if c.2 = '/' then [] :: first :: others else (c :: first) :: others

/-- The names in a directory that a pattern matches. A dot at the start of a
name has to be spelled out. -/
def namesMatching (files : FileTree) (directory : String) (pattern : List QuotedChar) :
    List String :=
  let items := Pattern.ofWord pattern
  let showsHidden := match items with
    | .char '.' :: _ => true
    | _ => false
  let path := ByteText.decode (if directory.isEmpty then "." else directory)
  let names := (files.children ⟨path⟩).map ByteText.encode
  ((if showsHidden then [".", ".."] else []) ++ names).filter fun name =>
    (showsHidden || !name.startsWith ".") && Pattern.accepts items name.toList

/-- The text of a segment without its escapes. -/
def segmentText (segment : List QuotedChar) : String :=
  String.ofList ((Pattern.ofWord segment).filterMap fun
    | .char c => some c
    | _ => none)

/-- The paths of files that begin with `before` and go on with segments of a
pattern. -/
def pathsMatching (files : FileTree) (before : String) : List (List QuotedChar) → List String
  | [] => []
  | [last] =>
    if Pattern.isProper (Pattern.ofWord last) then
      (namesMatching files before last).map (before ++ ·)
    else
      let path := before ++ segmentText last
      if files.pathExists ⟨ByteText.decode path⟩ then [path] else []
  | segment :: rest =>
    if Pattern.isProper (Pattern.ofWord segment) then
      (namesMatching files before segment).flatMap fun name =>
        pathsMatching files (before ++ name ++ "/") rest
    else pathsMatching files (before ++ segmentText segment ++ "/") rest

/-- The texts that a field stands for. -/
def filesOf (files : FileTree) (field : List Atom) : List String :=
  let chars := quotedChars field
  if Pattern.isProper (Pattern.ofWord chars) then
    match (pathsMatching files "" (segments chars)).mergeSort fun a b => decide (a ≤ b) with
    | [] => [textOf field]
    | paths => paths
  else [textOf field]

/-- The fields of words. -/
def expandFields (substitute : Script → Run String) (words : List Word) :
    Run (List String) := do
  let mut fields := []
  for w in words do
    let atoms ← expandPieces substitute maxNesting { toFields := true, tilde := true } w
    let m ← get
    let separators := ((m.session.valueOf? "IFS").getD " \t\n").toList
    let separated := fieldsOf separators atoms
    fields := fields ++
      if m.session.hasOption 'f' then separated.map textOf
      else separated.flatMap (filesOf m.files)
  return fields

end BtrfsStore.Shell
