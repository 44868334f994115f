import BtrfsStore.Shell.Utility.Basic
/-!
# BtrfsStore.Shell.Utility.Cat

Showing files one after the other, with numbers in front of their lines and with
signs for what cannot be seen, if asked for.
-/

namespace BtrfsStore.Shell

namespace Utility

/-! ### What is shown -/

/-- How files are shown. -/
structure View where
  /-- Lines have numbers. -/
  numbers : Bool := false
  /-- Only lines that are not empty have numbers. -/
  skipsEmpty : Bool := false
  /-- Of several empty lines only one is shown. -/
  squeezes : Bool := false
  /-- There are signs for control characters. -/
  showsControls : Bool := false
  showsEnds : Bool := false
  showsTabs : Bool := false
  deriving Repr, DecidableEq

/-- How files are shown with an option. -/
def View.with (v : View) (letter : Char) : View :=
  match letter with
  | 'A' => { v with showsControls := true, showsEnds := true, showsTabs := true }
  | 'b' => { v with numbers := true, skipsEmpty := true }
  | 'e' => { v with showsControls := true, showsEnds := true }
  | 'E' => { v with showsEnds := true }
  | 'n' => { v with numbers := true }
  | 's' => { v with squeezes := true }
  | 't' => { v with showsControls := true, showsTabs := true }
  | 'T' => { v with showsTabs := true }
  | 'v' => { v with showsControls := true }
  | _ => v

/-! ### Showing -/

/-- Where in a line the next byte stands. -/
inductive Position where
  | inLine
  | lineStart
  /-- After an empty line. -/
  | afterEmpty
  deriving Repr, DecidableEq

/-- What has been shown so far. -/
structure Shown where
  /-- The bytes, the last one in front. -/
  output : List UInt8 := []
  line : Nat := 0
  position : Position := .lineStart

/-- The bytes of a text. -/
def bytesOf (s : String) : List UInt8 := ByteText.toBytes s

/-- The number of a line in its column. -/
def lineNumber (n : Nat) : List UInt8 :=
  let digits := toString n
  bytesOf (String.ofList (List.replicate (6 - digits.length) ' ') ++ digits ++ "\t")

/-- The sign of a byte below 128. -/
def lowSign (v : View) (b : UInt8) (isHigh : Bool) : List UInt8 :=
  if b == 9 && !v.showsTabs && !isHigh then [b]
  else if b < 32 then [94, b + 64]
  else if b == 127 then [94, 63]
  else [b]

/-- The sign of a byte. -/
def signOf (v : View) (b : UInt8) : List UInt8 :=
  if v.showsControls then
    if b < 128 then lowSign v b false else [77, 45] ++ lowSign v (b - 128) true
  else if b == 9 && v.showsTabs then [94, 73]
  else [b]

/-- Adds bytes. -/
def Shown.add (s : Shown) (bytes : List UInt8) : Shown :=
  { s with output := bytes.reverse ++ s.output }

/-- Adds the number of the next line. -/
def Shown.number (s : Shown) : Shown :=
  ({ s with line := s.line + 1 }).add (lineNumber (s.line + 1))

/-- Shows the next byte; `next` is the one after it. -/
def Shown.step (v : View) (s : Shown) (b : UInt8) (next : Option UInt8) : Shown :=
  if b == 10 then
    let isEmpty := s.position != .inLine
    if s.position == .afterEmpty && v.squeezes then s
    else
      let s := if isEmpty && v.numbers && !v.skipsEmpty then s.number else s
      let s := s.add (if v.showsEnds then [36, 10] else [10])
      { s with position := if isEmpty then .afterEmpty else .lineStart }
  else
    let s := if s.position != .inLine && v.numbers then s.number else s
    let endsWithReturn := b == 13 && next == some 10 && v.showsEnds && !v.showsControls
    let s := s.add (if endsWithReturn then [94, 77] else signOf v b)
    { s with position := .inLine }

/-- Shows bytes. -/
def Shown.go (v : View) : Shown → List UInt8 → Shown
  | s, [] => s
  | s, b :: rest => Shown.go v (s.step v b rest.head?) rest

/-! ### The utility -/

/-- The options of `cat`. -/
def catOptions : Options where
  letters := "bensutvAET"
  names :=
    [("number-nonblank", 'b'), ("number", 'n'), ("squeeze-blank", 's'), ("show-nonprinting", 'v'),
      ("show-ends", 'E'), ("show-tabs", 'T'), ("show-all", 'A')]

/-- Shows files. -/
def cat (name : String) (args : List String) : Run Nat := do
  let (options, files) ← catOptions.read name args
  let view := options.foldl (fun v o => v.with o.1) ({} : View)
  let isPlain := view == {}
  let mut shown : Shown := {}
  let mut status := 0
  for file in if files.isEmpty then ["-"] else files do
    match ← Machine.readFile file with
    | .error fault =>
      complainOf name file fault
      status := 1
    | .ok bytes =>
      if !isPlain then shown := Shown.go view { shown with output := [] } bytes
      emit name (if isPlain then bytes else shown.output.reverse) "standard output"
  pure status

end Utility

end BtrfsStore.Shell
