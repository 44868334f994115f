import BtrfsStore.Shell.ByteText
import BtrfsStore.Shell.Fraction
/-!
# BtrfsStore.Shell.Format

What `echo` and `printf` write, as texts of bytes. Both know escapes that start
with a backslash. `printf` uses its format again as long as arguments are left.
-/

namespace BtrfsStore.Shell

namespace Format

/-! ### Escapes -/

/-- Whether a character is an octal digit. -/
def isOctal (c : Char) : Bool := '0' ≤ c && c ≤ '7'

/-- The byte that octal digits stand for. -/
def octalByte (digits : List Char) : Char := Char.ofNat (Number.valueOf 8 digits % 256)

/-- The characters that one-letter escapes stand for. -/
def letterEscapes : List (Char × Char) :=
  [('a', '\x07'), ('b', '\x08'), ('e', '\x1b'), ('f', '\x0c'), ('n', '\n'), ('r', '\r'),
    ('t', '\t'), ('v', '\x0b'), ('\\', '\\')]

/-- Reads an escape after its backslash; one that means nothing is a
backslash. -/
def readEscape (cs : List Char) : Char × List Char :=
  match (cs.take 3).takeWhile isOctal with
  | [] =>
    match cs with
    | c :: rest =>
      match letterEscapes.lookup c with
      | some d => (d, rest)
      | none => ('\\', cs)
    | [] => ('\\', [])
  | digits => (octalByte digits, cs.drop digits.length)

/-- A text without its escapes, and whether `\c` has ended all output. A zero in
front of octal digits does not count as one of them. -/
def unescape : Nat → List Char → List Char × Bool
  | 0, _ => ([], false)
  | _, [] => ([], false)
  | fuel + 1, c :: rest =>
    let andThen (d : Char) (after : List Char) : List Char × Bool :=
      let (cs, ended) := unescape fuel after
      (d :: cs, ended)
    if c ≠ '\\' then andThen c rest
    else
      match rest with
      | 'c' :: _ => ([], true)
      | '0' :: d :: after =>
        let (d, after) := readEscape (if isOctal d then d :: after else '0' :: d :: after)
        andThen d after
      | _ =>
        let (d, after) := readEscape rest
        andThen d after

/-- A whole text without its escapes. -/
def unescapeText (cs : List Char) : List Char × Bool := unescape (cs.length + 1) cs

/-- What `echo` writes. -/
def echo (args : List String) : String :=
  let (args, lineBreak) := match args with
    | "-n" :: rest => (rest, false)
    | args => (args, true)
  let (cs, ended) := unescapeText (" ".intercalate args).toList
  String.ofList (if lineBreak && !ended then cs ++ ['\n'] else cs)

/-! ### Directives -/

/-- A directive of a format. -/
structure Directive where
  flags : List Char := []
  width : Nat := 0
  /-- The text is filled up on the right. -/
  leftAligned : Bool := false
  precision : Option Nat := none
  conversion : Char
  deriving Repr, DecidableEq

/-- A text filled up with spaces. -/
def Directive.fill (d : Directive) (cs : List Char) : List Char :=
  let missing := List.replicate (d.width - cs.length) ' '
  if d.leftAligned then cs ++ missing else missing ++ cs

/-- A number filled up with spaces, or with zeros after its sign and mark. -/
def Directive.fillNumber (d : Directive) (zeros : Bool) (front digits : List Char) : List Char :=
  if zeros && !d.leftAligned then
    front ++ List.replicate (d.width - front.length - digits.length) '0' ++ digits
  else d.fill (front ++ digits)

/-- The sign of a number. -/
def Directive.sign (d : Directive) (negative : Bool) : List Char :=
  if negative then ['-']
  else if d.flags.contains '+' then ['+']
  else if d.flags.contains ' ' then [' ']
  else []

/-- A text as a directive asks for it. -/
def Directive.text (d : Directive) (cs : List Char) : List Char :=
  d.fill (cs.take (d.precision.getD cs.length))

/-- A whole number as a directive asks for it; without a sign it counts as one
of 64 bits. -/
def Directive.whole (d : Directive) (n : Int) : List Char :=
  let word : Nat := (n % (Nat.pow 2 64 : Int)).toNat
  let isSigned := d.conversion == 'd' || d.conversion == 'i'
  let magnitude := if isSigned then n.natAbs else word
  let base := match d.conversion with
    | 'o' => 8
    | 'x' | 'X' => 16
    | _ => 10
  let digits := if magnitude = 0 ∧ d.precision = some 0 then [] else Nat.toDigits base magnitude
  let digits := if d.conversion = 'X' then digits.map Char.toUpper else digits
  let digits := List.replicate (d.precision.getD 0 - digits.length) '0' ++ digits
  let isMarked := d.flags.contains '#'
  let digits :=
    if isMarked ∧ d.conversion = 'o' ∧ digits.head? ≠ some '0' then '0' :: digits else digits
  let mark :=
    if isMarked ∧ base = 16 ∧ magnitude ≠ 0 then ['0', d.conversion] else []
  let front := if isSigned then d.sign (n < 0) else mark
  d.fillNumber (d.flags.contains '0' && d.precision.isNone) front digits

/-- A number with a point as a directive asks for it. -/
def Directive.fraction (d : Directive) (p : Fraction.Precision) (lead : Nat) (x : Fraction) :
    List Char :=
  let cs := Fraction.magnitudeText p lead d.conversion (d.flags.contains '#') d.precision x
  let isFinite := match x with
    | .finite _ _ _ => true
    | _ => false
  let (front, digits) :=
    if isFinite && d.conversion.toLower == 'a' then (cs.take 2, cs.drop 2) else ([], cs)
  d.fillNumber (d.flags.contains '0' && isFinite) (d.sign x.isNegative ++ front) digits

/-! ### Printing -/

/-- What `printf` has written so far. -/
structure Printed where
  /-- The output, the last character in front. -/
  output : List Char := []
  /-- The arguments that are left. -/
  args : List String
  /-- The complaints, the last one in front. -/
  complaints : List String := []
  /-- All output has ended. -/
  ended : Bool := false
  /-- Why the format cannot be used any further. -/
  fault : Option String := none

/-- Adds output. -/
def Printed.add (p : Printed) (cs : List Char) : Printed :=
  { p with output := cs.reverse ++ p.output }

/-- Takes the next argument. -/
def Printed.next (p : Printed) : Option String × Printed :=
  (p.args.head?, { p with args := p.args.drop 1 })

/-- Adds a complaint if an argument goes on after the number in it. -/
def Printed.check (p : Printed) (arg : String) (rest : Option (List Char)) (inRange : Bool) :
    Printed :=
  match rest with
  | none =>
    if arg.isEmpty then p
    else { p with complaints := (arg ++ ": expected numeric value") :: p.complaints }
  | some [] =>
    if inRange then p
    else { p with complaints := (arg ++ ": Numerical result out of range") :: p.complaints }
  | some _ => { p with complaints := (arg ++ ": not completely converted") :: p.complaints }

/-- Takes the next argument as a whole number. A quotation mark stands for the
number of the character after it. -/
def Printed.nextWhole (p : Printed) (isSigned : Bool) : Int × Printed :=
  match p.next with
  | (none, p) => (0, p)
  | (some arg, p) =>
    match arg.toList with
    | '\x27' :: cs | '"' :: cs => ((cs.head?.map (·.toNat)).getD 0, p)
    | cs =>
      match Number.read? 0 cs with
      | none => (0, p.check arg none true)
      | some (n, rest) =>
        let limit : Int := Nat.pow 2 64 - 1
        let inRange := if isSigned then Number.fits n else -limit ≤ n && n ≤ limit
        let n := if inRange then n else if isSigned then Number.clamp n else limit
        (n, p.check arg (some rest) inRange)

/-- Takes the next argument as a number with a point. -/
def Printed.nextFraction (p : Printed) : Fraction × Printed :=
  match p.next with
  | (none, p) => (.finite false 0 0, p)
  | (some arg, p) =>
    match arg.toList with
    | '\x27' :: cs | '"' :: cs =>
      (.finite false ((cs.head?.map (·.toNat)).getD 0) 0, p)
    | cs =>
      match Fraction.read? Fraction.double cs with
      | none => (.finite false 0 0, p.check arg none true)
      | some read => (read.value, p.check arg (some read.rest) read.inRange)

/-- Reads a width or a precision: digits, or an asterisk for the next argument,
of which the lower 32 bits count. -/
def readCount (p : Printed) (cs : List Char) : Int × Printed × List Char :=
  match cs with
  | '*' :: rest =>
    let (n, p) := p.nextWhole true
    (n.bmod (Nat.pow 2 32), p, rest)
  | cs =>
    let digits := cs.takeWhile Char.isDigit
    (Number.valueOf 10 digits, p, cs.drop digits.length)

/-- Reads a directive after its percent sign; without a conversion there is
none. -/
def readDirective (p : Printed) (cs : List Char) :
    Option Directive × Printed × List Char :=
  let flags := cs.takeWhile fun c => c ∈ ['#', '\x27', '-', '+', ' ', '0']
  let (width, p, cs) := readCount p (cs.drop flags.length)
  let (precision, p, cs) := match cs with
    | '.' :: rest =>
      let (n, p, rest) := readCount p rest
      (if n < 0 then none else some n.toNat, p, rest)
    | cs => (none, p, cs)
  match cs with
  | [] => (none, p, [])
  | conversion :: rest =>
    (some
      { flags, width := width.natAbs, leftAligned := flags.contains '-' || width < 0, precision,
        conversion }, p, rest)

/-- The greatest width of a directive. -/
def maxWidth : Nat := Nat.pow 2 31 - 2

/-- Whether a directive asks for more than can be printed. -/
def Directive.isTooWide (d : Directive) : Bool :=
  maxWidth < d.width || d.precision.any (maxWidth < ·)

/-- Prints the next argument as a directive asks for it; `spelled` is the text
of the directive. -/
def Printed.convert (p : Printed) (d : Directive) (spelled : List Char) : Printed :=
  match d.conversion with
  | 's' =>
    let (arg, p) := p.next
    p.add (d.text (arg.getD "").toList)
  | 'b' =>
    let (arg, p) := p.next
    let (cs, ended) := unescapeText (arg.getD "").toList
    { p.add (d.text cs) with ended }
  | 'c' =>
    let (arg, p) := p.next
    p.add (d.fill [((arg.getD "").toList.head?).getD '\x00'])
  | 'd' | 'i' =>
    let (n, p) := p.nextWhole true
    p.add (d.whole n)
  | 'o' | 'u' | 'x' | 'X' =>
    let (n, p) := p.nextWhole false
    p.add (d.whole n)
  | 'a' | 'A' | 'e' | 'E' | 'f' | 'F' | 'g' | 'G' =>
    let (x, p) := p.nextFraction
    p.add (d.fraction Fraction.double 1 x)
  | _ => { p with fault := some (String.ofList spelled ++ ": invalid directive") }

/-- Prints a format once. -/
def printOnce : Nat → List Char → Printed → Printed
  | 0, _, p => p
  | _, [], p => p
  | fuel + 1, c :: rest, p =>
    if c = '\\' then
      let (d, after) := readEscape rest
      printOnce fuel after (p.add [d])
    else if c ≠ '%' then printOnce fuel rest (p.add [c])
    else
      match rest with
      | '%' :: after => printOnce fuel after (p.add ['%'])
      | _ =>
        match readDirective p rest with
        | (none, p, _) => { p with fault := some "missing format character" }
        | (some d, p, after) =>
          let spelled := (c :: rest).take (rest.length + 1 - after.length)
          let p :=
            if d.isTooWide then { p with fault := some "xvsnprintf failed" }
            else p.convert d spelled
          if p.ended || p.fault.isSome then p else printOnce fuel after p

/-- Uses a format again as long as arguments are left. -/
def printAll (format : List Char) : Nat → Printed → Printed
  | 0, p => p
  | fuel + 1, p =>
    let q := printOnce (format.length + 1) format p
    if q.ended || q.fault.isSome || q.args.isEmpty || q.args.length = p.args.length then q
    else printAll format fuel q

/-- What `printf` writes. -/
def printf (format : String) (args : List String) : Printed :=
  printAll format.toList (args.length + 1) { args }

end Format

end BtrfsStore.Shell
