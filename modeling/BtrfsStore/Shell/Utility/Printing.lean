import BtrfsStore.Shell.Format
import BtrfsStore.Shell.Utility.Basic
/-!
# BtrfsStore.Shell.Utility.Printing

The utilities that write their arguments. They know more escapes than the
commands of the shell with the same names, and read numbers more closely.
-/

namespace BtrfsStore.Shell

namespace Utility

open Format

/-! ### Escapes -/

/-- What an escape in a format stands for. -/
inductive Escape where
  | chars (cs : List Char)
  /-- The end of all output. -/
  | ending
  | fault (text : String)

/-- A character by its number, as its bytes if it is one that every system
knows, and otherwise by its number in digits. -/
def numberedChar (n : Nat) : List Char :=
  if n < 128 then [Char.ofNat n]
  else
    let digits := (Nat.toDigits 16 n).map Char.toUpper
    let (letter, width) := if n < 0x10000 then ('u', 4) else ('U', 8)
    '\\' :: letter :: List.replicate (width - digits.length) '0' ++ digits

/-- Reads the digits of a numbered character. -/
def readNumbered (letter : Char) (cs : List Char) : Escape × List Char :=
  let width := if letter == 'u' then 4 else 8
  let digits := (cs.take width).takeWhile (Number.isDigitOf 16)
  if digits.length < width then (.fault "missing hexadecimal number in escape", [])
  else
    let n := Number.valueOf 16 digits
    if 0xd800 ≤ n && n ≤ 0xdfff then
      let shown := digits.map Char.toLower
      (.fault ("invalid universal character name \\" ++ String.ofList (letter :: shown)), [])
    else (.chars (numberedChar n), cs.drop width)

/-- Reads an escape after its backslash. A zero in front of octal digits does not
count as one of them if `afterZero`. -/
def readWideEscape (afterZero : Bool) (cs : List Char) : Escape × List Char :=
  match cs with
  | 'x' :: rest =>
    let digits := (rest.take 2).takeWhile (Number.isDigitOf 16)
    if digits.isEmpty then (.fault "missing hexadecimal number in escape", [])
    else (.chars [Char.ofNat (Number.valueOf 16 digits)], rest.drop digits.length)
  | 'c' :: rest => (.ending, rest)
  | '"' :: rest => (.chars ['"'], rest)
  | c :: rest =>
    if isOctal c then
      let cs := if afterZero && c == '0' then rest else cs
      let digits := (cs.take 3).takeWhile isOctal
      (.chars [octalByte digits], cs.drop digits.length)
    else if c == 'u' || c == 'U' then readNumbered c rest
    else
      match letterEscapes.lookup c with
      | some d => (.chars [d], rest)
      | none => (.chars ['\\', c], rest)
  | [] => (.chars ['\\'], [])

/-! ### Printing formats -/

/-- What has been printed so far. -/
structure Print where
  /-- The output since the last complaint, its last character in front. -/
  output : List Char := []
  /-- The arguments that are left. -/
  args : List String
  /-- The complaints with the output before them, the last one in front. -/
  complaints : List (List Char × String) := []
  status : Nat := 0
  /-- Nothing is printed any more. -/
  ended : Bool := false

namespace Print

/-- Adds output. -/
def add (p : Print) (cs : List Char) : Print := { p with output := cs.reverse ++ p.output }

/-- Adds a complaint. -/
def warn (p : Print) (text : String) : Print :=
  { p with complaints := (p.output, text) :: p.complaints, output := [] }

/-- Adds a complaint that changes the status. -/
def blame (p : Print) (text : String) : Print := { p.warn text with status := 1 }

/-- Ends with a complaint. -/
def giveUp (p : Print) (text : String) : Print := { p.blame text with ended := true }

/-- Prints what an escape stands for. The escape that ends all printing makes
good every fault before it. -/
def escape (p : Print) : Escape → Print
  | .chars cs => p.add cs
  | .ending => { p with ended := true, status := 0 }
  | .fault text => p.giveUp text

/-- Takes the next argument; a missing one is empty. -/
def next (p : Print) : String × Print := (p.args.headD "", { p with args := p.args.drop 1 })

/-- Checks that a number takes up its whole argument. -/
def check (p : Print) (arg : String) (rest : Option (List Char)) (inRange : Bool) : Print :=
  match rest with
  | none =>
    if arg.isEmpty then p else p.blame (quote arg ++ ": expected a numeric value")
  | some rest =>
    if !inRange then p.blame (quote arg ++ ": Numerical result out of range")
    else if rest.isEmpty then p
    else p.blame (quote arg ++ ": value not completely converted")

/-- The number of a quoted character in an argument. -/
def quotedChar? (p : Print) (arg : String) : Option (Nat × Print) :=
  match arg.toList with
  | q :: c :: rest =>
    if q == '"' || q == '\x27' then
      some (c.toNat,
        if rest.isEmpty then p
        else
          p.warn ("warning: " ++ String.ofList rest
            ++ ": character(s) following character constant have been ignored"))
    else none
  | _ => none

/-- The whole number that an argument stands for. -/
def whole (p : Print) (isSigned : Bool) (arg : String) : Int × Print :=
  match p.quotedChar? arg with
  | some (n, p) => (n, p)
  | none =>
    match Number.read? 0 arg.toList with
    | none => (0, p.check arg none true)
    | some (n, rest) =>
      let limit : Int := Nat.pow 2 64 - 1
      let inRange := if isSigned then Number.fits n else -limit ≤ n && n ≤ limit
      let n := if inRange then n else if isSigned then Number.clamp n else limit
      (n, p.check arg (some rest) inRange)

/-- The number with a point that an argument stands for. -/
def fraction (p : Print) (arg : String) : Fraction × Print :=
  match p.quotedChar? arg with
  | some (n, p) => (.finite false n 0, p)
  | none =>
    match Fraction.read? Fraction.extended arg.toList with
    | none => (.finite false 0 0, p.check arg none true)
    | some read => (read.value, p.check arg (some read.rest) read.inRange)

end Print

/-- The greatest width that an argument can ask for. -/
def maxArgument : Int := Nat.pow 2 31 - 1

/-- Reads a width or a precision; an argument for it may have a lower bound. -/
def readSize (p : Print) (what : String) (least : Option Int) (cs : List Char) :
    Int × Print × List Char :=
  match cs with
  | '*' :: rest =>
    if p.args.isEmpty then (0, p, rest)
    else
      let (arg, p) := p.next
      let (n, p) := p.whole true arg
      if maxArgument < n || least.any (n < ·) then
        (0, p.giveUp ("invalid " ++ what ++ ": " ++ quote arg), rest)
      else (n, p, rest)
  | cs =>
    let digits := cs.takeWhile Char.isDigit
    (Number.valueOf 10 digits, p, cs.drop digits.length)

/-- The conversions that a directive with the given flags may have. -/
def conversionsWith (flags : List Char) (hasPrecision : Bool) : List Char :=
  let excluded :=
    (if flags.contains '\x27' || flags.contains 'I' then "aAceEosxX".toList else [])
      ++ (if flags.contains '#' then "cdisu".toList else [])
      ++ (if flags.contains '0' then ['c', 's'] else [])
      ++ (if hasPrecision then ['c'] else [])
  "aAcdeEfFgGiosuxX".toList.filter (!excluded.contains ·)

/-- Prints a text that may have escapes. -/
def printEscapes : Nat → List Char → Print → Print
  | 0, _, p => p
  | _, [], p => p
  | fuel + 1, c :: rest, p =>
    if p.ended then p
    else if c == '\\' then
      let (e, rest) := readWideEscape true rest
      printEscapes fuel rest (p.escape e)
    else printEscapes fuel rest (p.add [c])

/-- Prints a directive after its percent sign. -/
def printDirective (p : Print) (cs : List Char) : Print × List Char :=
  match cs with
  | '%' :: rest => (p.add ['%'], rest)
  | 'b' :: rest =>
    let (arg, p) := p.next
    (printEscapes (arg.length + 1) arg.toList p, rest)
  | 'q' :: rest =>
    if p.args.isEmpty then (p, rest)
    else
      let (arg, p) := p.next
      (p.add (quoteForShell false arg).toList, rest)
  | cs =>
    let flags := cs.takeWhile fun c => c ∈ ['I', '\x27', '-', '+', ' ', '#', '0']
    let (width, p, after) :=
      readSize p "field width" (some (-maxArgument - 1)) (cs.drop flags.length)
    let (precision, p, after) := match after with
      | '.' :: after =>
        let (n, p, after) := readSize p "precision" none after
        (some n, p, after)
      | after => (none, p, after)
    let after := after.dropWhile fun c => c ∈ ['l', 'L', 'h', 'j', 't', 'z']
    if p.ended then (p, [])
    else
      let spelled := '%' :: cs.take (cs.length + 1 - after.length)
      let fault := (p.giveUp (String.ofList spelled ++ ": invalid conversion specification"), [])
      match after with
      | [] => fault
      | conversion :: after =>
        if !(conversionsWith flags precision.isSome).contains conversion then fault
        else
          let d : Directive :=
            { flags, width := width.natAbs, leftAligned := flags.contains '-' || width < 0
              precision := precision.bind fun n => if n < 0 then none else some n.toNat
              conversion }
          let (arg, p) := p.next
          let p :=
            if d.isTooWide then p.giveUp "write error"
            else if conversion == 's' then p.add (d.text arg.toList)
            else if conversion == 'c' then p.add (d.fill [(arg.toList.head?).getD '\x00'])
            else if conversion ∈ ['d', 'i', 'o', 'u', 'x', 'X'] then
              let (n, p) := p.whole (conversion == 'd' || conversion == 'i') arg
              p.add (d.whole n)
            else
              let (x, p) := p.fraction arg
              p.add (d.fraction Fraction.extended 4 x)
          (p, after)

/-- Prints a format once. -/
def printFormat : Nat → List Char → Print → Print
  | 0, _, p => p
  | _, [], p => p
  | fuel + 1, c :: rest, p =>
    if p.ended then p
    else if c == '\\' then
      let (e, rest) := readWideEscape false rest
      printFormat fuel rest (p.escape e)
    else if c == '%' then
      let (p, rest) := printDirective p rest
      printFormat fuel rest p
    else printFormat fuel rest (p.add [c])

/-- Prints a format as long as it uses arguments. -/
def printFormats (format : List Char) : Nat → Print → Print
  | 0, p => p
  | fuel + 1, p =>
    let q := printFormat (format.length + 1) format p
    if q.ended || q.args.isEmpty || q.args.length == p.args.length then q
    else printFormats format fuel q

/-- Writes a format with arguments. -/
def printf (name : String) (args : List String) : Run Nat := do
  let args := match args with
    | "--" :: rest => rest
    | args => args
  match args with
  | [] => misuse name "missing operand"
  | format :: args =>
    let p := printFormats format.toList (args.length + 1) { args }
    let p :=
      match p.args with
      | arg :: _ =>
        if p.ended then p
        else p.warn ("warning: ignoring excess arguments, starting with " ++ quote arg)
      | [] => p
    for (before, text) in p.complaints.reverse do
      emitText name (String.ofList before.reverse)
      complain name text
    emitText name (String.ofList p.output.reverse)
    pure p.status

/-! ### Echoing -/

/-- The letters of the options that an argument of `echo` stands for. -/
def echoOptions? (arg : String) : Option (List Char) :=
  match arg.toList with
  | '-' :: c :: cs =>
    if (c :: cs).all fun c => c ∈ ['n', 'e', 'E'] then some (c :: cs) else none
  | _ => none

/-- A text without the escapes of `echo`, and whether one of them has ended it. -/
def echoText : Nat → List Char → List Char × Bool
  | 0, _ => ([], false)
  | _, [] => ([], false)
  | fuel + 1, c :: rest =>
    let andThen (cs : List Char) (rest : List Char) : List Char × Bool :=
      let (others, ended) := echoText fuel rest
      (cs ++ others, ended)
    if c != '\\' then andThen [c] rest
    else
      match rest with
      | 'c' :: _ => ([], true)
      | 'x' :: after =>
        let digits := (after.take 2).takeWhile (Number.isDigitOf 16)
        if digits.isEmpty then andThen ['\\', 'x'] after
        else andThen [Char.ofNat (Number.valueOf 16 digits)] (after.drop digits.length)
      | d :: after =>
        if isOctal d then
          let digits := ((if d == '0' then after else rest).take 3).takeWhile isOctal
          let used := digits.length + if d == '0' then 1 else 0
          andThen [octalByte digits] (rest.drop used)
        else
          match letterEscapes.lookup d with
          | some shown => andThen [shown] after
          | none => andThen ['\\', d] after
      | [] => (['\\'], false)

/-- Writes its arguments. -/
def echo (name : String) (args : List String) : Run Nat := do
  let options := (args.takeWhile fun a => (echoOptions? a).isSome)
  let letters := (options.filterMap echoOptions?).flatten
  let text := (" ".intercalate (args.drop options.length)).toList
  let expands := (letters.filter (· != 'n')).getLast? == some 'e'
  let (cs, ended) := if expands then echoText (text.length + 1) text else (text, false)
  let lineEnd := if letters.contains 'n' || ended then [] else ['\n']
  emitText name (String.ofList (cs ++ lineEnd))
  pure 0

end Utility

end BtrfsStore.Shell
