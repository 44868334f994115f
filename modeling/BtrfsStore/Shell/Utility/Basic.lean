import BtrfsStore.Shell.Opening
/-!
# BtrfsStore.Shell.Utility.Basic

What utilities have in common: how they quote texts in their complaints, and
how they read their options, which may stand between the operands.
-/

namespace BtrfsStore.Shell

namespace Utility

/-! ### Quoting -/

/-- A character that is shown as it is. -/
def isPrintable (c : Char) : Bool := 0x20 ≤ c.toNat && c.toNat < 0x7f

/-- The letter that stands for a control character in an escape. -/
def escapeLetter? (c : Char) : Option Char :=
  [('\x07', 'a'), ('\x08', 'b'), ('\x0c', 'f'), ('\n', 'n'), ('\r', 'r'), ('\t', 't'),
    ('\x0b', 'v')].lookup c

/-- The escape of a character that cannot be shown. -/
def escapeOf (c : Char) : List Char :=
  match escapeLetter? c with
  | some letter => ['\\', letter]
  | none =>
    let digits := Nat.toDigits 8 (c.toNat % 256)
    '\\' :: List.replicate (3 - digits.length) '0' ++ digits

/-- A text in quotation marks. -/
def quote (s : String) : String :=
  let cs := s.toList.flatMap fun c =>
    if c == '\x27' || c == '\\' then ['\\', c]
    else if isPrintable c then [c]
    else escapeOf c
  String.ofList ('\x27' :: cs ++ ['\x27'])

/-- The characters with which a text has to be quoted for a shell, apart from
those that count only in front. -/
def shellSpecials : List Char :=
  [' ', '!', '"', '$', '&', '(', ')', '*', ';', '<', '=', '>', '[', '\x5e', '\x60', '|', '\\', '?',
    '\x27']

/-- Whether a text has to be quoted for a shell. -/
def needsQuotes (alsoColon : Bool) (cs : List Char) : Bool :=
  cs.isEmpty || cs == ['\x7b'] || cs == ['\x7d']
    || cs.head?.any (fun c => c == '#' || c == '~')
    || cs.any fun c => shellSpecials.contains c || !isPrintable c || (alsoColon && c == ':')

/-- The characters of a quoted text; `inEscape` tells that an escape is open. -/
def quotedForShell : Bool → List Char → List Char
  | _, [] => []
  | inEscape, c :: cs =>
    if isPrintable c then
      let front := if inEscape then ['\x27', '\x27'] else []
      let shown := if c == '\x27' then ['\x27', '\\', '\x27', '\x27'] else [c]
      front ++ shown ++ quotedForShell false cs
    else
      let front := if inEscape then [] else ['\x27', '$', '\x27']
      front ++ escapeOf c ++ quotedForShell true cs

/-- A text as a shell reads it, in quotation marks only if it needs them. -/
def quoteForShell (alsoColon : Bool) (s : String) : String :=
  let cs := s.toList
  if !needsQuotes alsoColon cs then s
  else
    let fitsDouble (c : Char) : Bool :=
      c.isAlphanum || [' ', '\x27', '%', '+', ',', '-', '.', '/', ':', ']', '_', '#', '~', '\x7b',
        '\x7d'].contains c
    if cs.contains '\x27' && cs.all fitsDouble then "\"" ++ s ++ "\""
    else String.ofList ('\x27' :: quotedForShell false cs ++ ['\x27'])

/-- The name of a file in a complaint. -/
def quoteFile (s : String) : String := quoteForShell true s

/-- The name of a file in a complaint, in quotation marks in any case. -/
def quoteFileAlways (s : String) : String :=
  let quoted := quoteForShell false s
  if quoted == s then "\x27" ++ s ++ "\x27" else quoted

/-! ### Complaints -/

/-- Complains in the name of a utility. -/
def complain (name text : String) : Run Unit := Machine.write 2 (name ++ ": " ++ text ++ "\n")

/-- Complains about a fault of a file. -/
def complainOf (name file : String) (fault : FileFault) : Run Unit :=
  complain name (quoteFile file ++ ": " ++ reasonOf fault)

/-- Writes the output of a utility; a failure ends it. -/
def emit (name : String) (bytes : List UInt8) (closedText : String := "write error") :
    Run Unit := do
  if !bytes.isEmpty && !(← Machine.writeBytes 1 bytes) then
    let isOpen := ((← Machine.currentSession).stream? 1).isSome
    complain name
      (if isOpen then "write error: No space left on device"
      else closedText ++ ": Bad file descriptor")
    throw (.exited 1)

/-- Writes a text as the output of a utility. -/
def emitText (name text : String) : Run Unit := emit name (ByteText.toBytes text)

/-- Tells where help is. -/
def hint (name : String) : Run Unit :=
  Machine.write 2 ("Try \x27" ++ name ++ " --help\x27 for more information.\n")

/-- Complains about the way in which a utility is used, and ends it. -/
def misuse {α : Type} (name text : String) (status : Nat := 1) : Run α := do
  complain name text
  hint name
  throw (.exited status)

/-! ### Options -/

/-- The options of a utility. -/
structure Options where
  /-- The letters, with a colon after each one that takes a text. -/
  letters : String
  /-- The long names with their letters. -/
  names : List (String × Char) := []
  /-- No option stands after an operand. -/
  inFront : Bool := false

/-- Whether an option takes a text. -/
def Options.takesText (o : Options) (letter : Char) : Bool :=
  ((o.letters.toList.dropWhile (· != letter)).drop 1).head? == some ':'

/-- Whether there is an option with a letter. -/
def Options.has (o : Options) (letter : Char) : Bool :=
  letter != ':' && o.letters.toList.contains letter

/-- The options of a command with their texts, and its operands. -/
abbrev Read := List (Char × String) × List String

/-- Reads the letters of an argument; answers also what is left of the
arguments. -/
def Options.readLetters (o : Options) (rest : List String) :
    List Char → Except String (List (Char × String) × List String)
  | [] => .ok ([], rest)
  | c :: cs =>
    let letter := String.ofList [c]
    if !o.has c then .error ("invalid option -- \x27" ++ letter ++ "\x27")
    else if o.takesText c then
      match cs, rest with
      | [], [] => .error ("option requires an argument -- \x27" ++ letter ++ "\x27")
      | [], text :: rest => .ok ([(c, text)], rest)
      | cs, rest => .ok ([(c, String.ofList cs)], rest)
    else do
      let (others, rest) ← o.readLetters rest cs
      pure ((c, "") :: others, rest)

/-- Reads a long option without its hyphens. -/
def Options.readLong (o : Options) (text : String) (rest : List String) :
    Except String ((Char × String) × List String) :=
  let name := String.ofList (text.toList.takeWhile (· != '='))
  let value? :=
    if text.toList.contains '=' then some (String.ofList (text.toList.drop (name.length + 1)))
    else none
  let mark (s : String) : String := "\x27--" ++ s ++ "\x27"
  let exact := o.names.filter fun e => e.1 == name
  let candidates : List (String × Char) :=
    if exact.isEmpty then o.names.filter fun e => e.1.startsWith name else exact
  match candidates with
  | [] => .error ("unrecognized option " ++ mark text)
  | [(full, letter)] =>
    if o.takesText letter then
      match value?, rest with
      | some value, rest => .ok ((letter, value), rest)
      | none, value :: rest => .ok ((letter, value), rest)
      | none, [] => .error ("option " ++ mark full ++ " requires an argument")
    else if value?.isSome then .error ("option " ++ mark full ++ " doesn\x27t allow an argument")
    else .ok ((letter, ""), rest)
  | several =>
    .error ("option " ++ mark text ++ " is ambiguous; possibilities: "
      ++ " ".intercalate (several.map fun e => mark e.1))

/-- Reads arguments. -/
def Options.readFrom (o : Options) : Nat → List String → Except String Read
  | 0, args => .ok ([], args)
  | fuel + 1, args =>
    match args with
    | [] => .ok ([], [])
    | arg :: rest =>
      match arg.toList with
      | ['-', '-'] => .ok ([], rest)
      | '-' :: '-' :: cs => do
        let (option, rest) ← o.readLong (String.ofList cs) rest
        let (options, operands) ← o.readFrom fuel rest
        pure (option :: options, operands)
      | '-' :: c :: cs => do
        let (first, rest) ← o.readLetters rest (c :: cs)
        let (options, operands) ← o.readFrom fuel rest
        pure (first ++ options, operands)
      | _ =>
        if o.inFront then .ok ([], args)
        else do
          let (options, operands) ← o.readFrom fuel rest
          pure (options, arg :: operands)

/-- The options and the operands of a command. -/
def Options.read (o : Options) (name : String) (args : List String) (status : Nat := 1) :
    Run Read :=
  match o.readFrom (args.length + 1) args with
  | .ok read => pure read
  | .error text => misuse name text status

end Utility

end BtrfsStore.Shell
