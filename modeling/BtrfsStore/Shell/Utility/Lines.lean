import BtrfsStore.Shell.Format
import BtrfsStore.Shell.Pattern
import BtrfsStore.Shell.Utility.Cat
/-!
# BtrfsStore.Shell.Utility.Lines

The utilities that pass on parts of the lines and characters of files.
-/

namespace BtrfsStore.Shell

namespace Utility

/-! ### Lines -/

/-- The lines of a text, each one with its line break if it has one. -/
def splitLines : List UInt8 → List UInt8 → List (List UInt8)
  | line, [] => if line.isEmpty then [] else [line.reverse]
  | line, b :: rest =>
    if b == 10 then (b :: line).reverse :: splitLines [] rest else splitLines (b :: line) rest

/-- The lines of a text, each one with its line break if it has one. -/
def linesOf (bytes : List UInt8) : List (List UInt8) := splitLines [] bytes

/-- A line without its line break. -/
def chomp (line : List UInt8) : List UInt8 := line.filter (· != 10)

/-- Reads each file; `onFault` complains about those that cannot be read. -/
def readEach (files : List String) (onFault : String → FileFault → Run Unit)
    (use : String → List UInt8 → Run Unit) : Run Nat := do
  let mut status := 0
  for file in if files.isEmpty then ["-"] else files do
    match ← Machine.readFile file with
    | .ok bytes => use file bytes
    | .error fault =>
      onFault file fault
      status := 1
  pure status

/-! ### The start and the end -/

/-- Which part of a text is shown. -/
structure Part where
  /-- The units are bytes. -/
  ofBytes : Bool := false
  count : Nat := 10
  /-- The sign in front of the count. -/
  sign : Option Char := none

/-- The part that options ask for. -/
def partOf (name : String) (options : List (Char × String)) : Run Part := do
  let mut part : Part := {}
  for (letter, text) in options do
    if letter == 'n' || letter == 'c' then
      let ofBytes := letter == 'c'
      let sign := text.toList.head?.filter fun c => c == '-' || c == '+'
      let digits := if sign.isSome then text.toList.drop 1 else text.toList
      if digits.isEmpty || !(digits.all Char.isDigit) then
        complain name ("invalid number of " ++ (if ofBytes then "bytes" else "lines") ++ ": "
          ++ quote text)
        throw (.exited 1)
      part := { ofBytes, count := Number.valueOf 10 digits, sign }
  pure part

/-- The units of a text. -/
def Part.units (p : Part) (bytes : List UInt8) : List (List UInt8) :=
  if p.ofBytes then bytes.map fun b => [b] else linesOf bytes

/-- The part of a text at its start; with a minus sign the count is what stays
away. -/
def Part.start (p : Part) (bytes : List UInt8) : List UInt8 :=
  let units := p.units bytes
  (units.take (if p.sign == some '-' then units.length - p.count else p.count)).flatten

/-- The part of a text at its end; with a plus sign the count is where it
begins. -/
def Part.end (p : Part) (bytes : List UInt8) : List UInt8 :=
  let units := p.units bytes
  (units.drop (if p.sign == some '+' then p.count - 1 else units.length - p.count)).flatten

/-- Shows a part of each file. -/
def showParts (take : Part → List UInt8 → List UInt8) (name : String) (args : List String) :
    Run Nat := do
  let args := match args with
    | first :: rest =>
      match first.toList with
      | '-' :: d :: ds => if (d :: ds).all Char.isDigit then
          "-n" :: String.ofList (d :: ds) :: rest else args
      | _ => args
    | [] => []
  let known : Options :=
    { letters := "n:c:qv"
      names := [("lines", 'n'), ("bytes", 'c'), ("quiet", 'q'), ("verbose", 'v')] }
  let (options, files) ← known.read name args
  let part ← partOf name options
  let hasHeads := options.any (·.1 == 'v') || (1 < files.length && !(options.any (·.1 == 'q')))
  let onFault (file : String) (fault : FileFault) : Run Unit :=
    if fault == .isADirectory then
      complain name ("error reading " ++ quoteFileAlways file ++ ": " ++ reasonOf fault)
    else complain name ("cannot open " ++ quoteFileAlways file ++ " for reading: "
      ++ reasonOf fault)
  readEach files onFault fun file bytes => do
    if hasHeads then
      let title := if file == "-" then "standard input" else file
      let gap := if files.head? == some file then "" else "\n"
      emitText name (gap ++ "==> " ++ title ++ " <==\n")
    emit name (take part bytes)

/-- Shows the start of files. -/
def head : String → List String → Run Nat := showParts Part.start

/-- Shows the end of files. -/
def tail : String → List String → Run Nat := showParts Part.end

/-! ### Counting -/

/-- How many words there are in a text. -/
def wordCount (bytes : List UInt8) : Nat :=
  let isBlank (b : UInt8) : Bool := b == 32 || (9 ≤ b && b ≤ 13)
  (bytes.foldl (fun (count, inWord) b =>
    if isBlank b then (count, false) else (if inWord then count else count + 1, true))
    (0, false)).1

/-- What is counted in a text, by the letters of the options. -/
def countsOf (bytes : List UInt8) : List (Char × Nat) :=
  [('l', bytes.count 10), ('w', wordCount bytes), ('m', bytes.length), ('c', bytes.length),
    ('L', ((linesOf bytes).map fun l => (chomp l).length).foldl max 0)]

/-- A number in a column. -/
def column (width n : Nat) : String :=
  let digits := toString n
  String.ofList (List.replicate (width - digits.length) ' ') ++ digits

/-- Counts lines, words and bytes. -/
def wc (name : String) (args : List String) : Run Nat := do
  let known : Options :=
    { letters := "lwcmL"
      names := [("lines", 'l'), ("words", 'w'), ("bytes", 'c'), ("chars", 'm'),
        ("max-line-length", 'L')] }
  let (options, files) ← known.read name args
  let isAsked (letter : Char) : Bool :=
    if options.isEmpty then letter ∈ ['l', 'w', 'c'] else options.any (·.1 == letter)
  let mut texts : List (String × Except FileFault (List UInt8)) := []
  for file in if files.isEmpty then ["-"] else files do
    texts := texts ++ [(file, ← Machine.readFile file)]
  let letters := ['l', 'w', 'm', 'c', 'L'].filter isAsked
  let sizes := texts.filterMap fun e => e.2.toOption.map List.length
  let total := sizes.foldl (· + ·) 0
  let m ← get
  let isFile := match (m.session.stream? 0).bind (m.streams[·]?) with
    | some (.file ..) => true
    | _ => false
  let isStream := (!isFile && (files.isEmpty || files.contains "-"))
    || texts.any fun (_, text) => match text with
      | .error .isADirectory => true
      | _ => false
  let width :=
    if texts.length == 1 && letters.length == 1 then 1
    else max (Nat.toDigits 10 total).length (if isStream then 7 else 1)
  let line (counts : List (Char × Nat)) (title : String) : String :=
    let columns := letters.map fun letter => column width ((counts.lookup letter).getD 0)
    " ".intercalate columns ++ (if title.isEmpty then "" else " " ++ title) ++ "\n"
  let mut sum := countsOf []
  let mut status := 0
  for (file, text) in texts do
    let title := if files.isEmpty then "" else file
    match text with
    | .ok bytes =>
      let counts := countsOf bytes
      sum := (sum.zip counts).map fun (a, b) =>
        (a.1, if a.1 == 'L' then max a.2 b.2 else a.2 + b.2)
      emitText name (line counts title)
    | .error fault =>
      complainOf name file fault
      status := 1
      if fault == .isADirectory then emitText name (line [] title)
  if 1 < texts.length then emitText name (line sum "total")
  pure status

/-! ### Sorting and repeating lines -/

/-- The number at the start of a line, in a form that can be compared. -/
def leadingNumber (line : List UInt8) : Int :=
  let cs := (ByteText.ofBytes line).toList.dropWhile fun c => c == ' ' || c == '\t'
  let (negative, cs) := match cs with
    | '-' :: cs => (true, cs)
    | cs => (false, cs)
  let whole := cs.takeWhile Char.isDigit
  let part := match cs.drop whole.length with
    | '.' :: cs => cs.takeWhile Char.isDigit
    | _ => []
  let places := 9
  let digits := whole ++ (part ++ List.replicate places '0').take places
  let n : Int := Number.valueOf 10 digits
  if negative then -n else n

/-- Sorts lines. -/
def sort (name : String) (args : List String) : Run Nat := do
  let known : Options :=
    { letters := "rnufsb"
      names := [("reverse", 'r'), ("numeric-sort", 'n'), ("unique", 'u'), ("ignore-case", 'f'),
        ("stable", 's'), ("ignore-leading-blanks", 'b')] }
  let (options, files) ← known.read name args 2
  let has (letter : Char) : Bool := options.any (·.1 == letter)
  let mut lines : List (List UInt8) := []
  for file in if files.isEmpty then ["-"] else files do
    match ← Machine.readFile file with
    | .ok bytes => lines := lines ++ (linesOf bytes).map chomp
    | .error fault =>
      complain name ("cannot read: " ++ quoteFile file ++ ": " ++ reasonOf fault)
      return 2
  let fold (line : List UInt8) : List UInt8 :=
    if has 'f' then line.map fun b => if 97 ≤ b && b ≤ 122 then b - 32 else b else line
  let byText (a b : List UInt8) : Bool := decide (fold a ≤ fold b)
  let atMost (a b : List UInt8) : Bool :=
    if has 'n' then
      let x := leadingNumber a
      let y := leadingNumber b
      if x == y then has 's' || has 'u' || decide (a ≤ b) else decide (x ≤ y)
    else if fold a == fold b then has 's' || has 'u' || decide (a ≤ b)
    else byText a b
  let inOrder := lines.mergeSort fun a b => if has 'r' then atMost b a else atMost a b
  let isSame (a b : List UInt8) : Bool :=
    if has 'n' then leadingNumber a == leadingNumber b else fold a == fold b
  let kept := if has 'u' then inOrder.eraseDupsBy isSame else inOrder
  emit name (kept.flatMap fun line => line ++ [10])
  pure 0

/-- Runs of equal lines with their lengths. -/
def runsOf : List (List UInt8) → List (Nat × List UInt8)
  | [] => []
  | line :: rest =>
    match runsOf rest with
    | (count, next) :: runs =>
      if line == next then (count + 1, line) :: runs else (1, line) :: (count, next) :: runs
    | [] => [(1, line)]

/-- Shows equal lines that follow each other once. -/
def uniq (name : String) (args : List String) : Run Nat := do
  let known : Options :=
    { letters := "cdu", names := [("count", 'c'), ("repeated", 'd'), ("unique", 'u')] }
  let (options, files) ← known.read name args
  let has (letter : Char) : Bool := options.any (·.1 == letter)
  readEach (files.take 1) (complainOf name) fun _ bytes => do
    for (count, line) in runsOf ((linesOf bytes).map chomp) do
      let isShown := (!has 'd' || 1 < count) && (!has 'u' || count == 1)
      if isShown then
        let front := if has 'c' then bytesOf (column 7 count ++ " ") else []
        emit name (front ++ line ++ [10])

/-- Shows each line from its end to its start. -/
def rev (name : String) (args : List String) : Run Nat :=
  readEach args (fun file fault => complain name ("cannot open " ++ file ++ ": " ++ reasonOf fault))
    fun _ bytes => emit name ((linesOf bytes).flatMap fun line =>
      (chomp line).reverse ++ if line.getLast? == some 10 then [10] else [])

/-- Shows the lines of files from the last one to the first one. -/
def tac (name : String) (args : List String) : Run Nat :=
  let onFault (file : String) (fault : FileFault) : Run Unit :=
    complain name ("failed to open " ++ quoteFileAlways file ++ " for reading: " ++ reasonOf fault)
  readEach args onFault fun _ bytes => emit name (linesOf bytes).reverse.flatten

/-! ### Fields -/

/-- The ranges of a list of positions. -/
def positions? (text : String) : Option (List (Nat × Option Nat)) :=
  (text.splitOn ",").mapM fun item =>
    match (item.splitOn "-").map fun s => if s.isEmpty then some none else s.toNat?.map some with
    | [some (some n)] => some (n, some n)
    | [some (some n), some none] => some (n, none)
    | [some none, some (some n)] => some (1, some n)
    | [some (some m), some (some n)] => some (m, some n)
    | _ => none

/-- The items at the given positions. -/
def selectItems {α : Type} (ranges : List (Nat × Option Nat)) (items : List α) : List α :=
  (items.zipIdx.filter fun (_, i) =>
    ranges.any fun (first, last?) => first ≤ i + 1 && last?.all (i + 1 ≤ ·)).map (·.1)

/-- The fields of a line. -/
def fieldsAt (delimiter : UInt8) : List UInt8 → List (List UInt8)
  | [] => [[]]
  | b :: rest =>
    match fieldsAt delimiter rest with
    | first :: others => if b == delimiter then [] :: first :: others else (b :: first) :: others
    | [] => [[b]]

/-- Shows some of the fields or characters of each line. -/
def cut (name : String) (args : List String) : Run Nat := do
  let known : Options :=
    { letters := "b:c:f:d:s"
      names := [("bytes", 'b'), ("characters", 'c'), ("fields", 'f'), ("delimiter", 'd'),
        ("only-delimited", 's')] }
  let (options, files) ← known.read name args
  match options.find? fun o => o.1 ∈ ['b', 'c', 'f'] with
  | none => misuse name "you must specify a list of bytes, characters, or fields"
  | some (letter, text) =>
    match positions? text with
    | none => misuse name ("invalid field value " ++ quote text)
    | some ranges =>
      if ranges.any (·.1 == 0) then misuse name "fields are numbered from 1"
      let delimiter := ((bytesOf ((options.lookup 'd').getD "\t")).head?).getD 9
      let skips := options.any (·.1 == 's')
      readEach files (complainOf name) fun _ bytes => do
        for line in (linesOf bytes).map chomp do
          if letter != 'f' then emit name (selectItems ranges line ++ [10])
          else if !line.contains delimiter then
            if !skips then emit name (line ++ [10])
          else
            emit name ([delimiter].intercalate (selectItems ranges (fieldsAt delimiter line))
              ++ [10])

/-! ### Characters -/

/-- The bytes of a class of characters. -/
def classBytes (name : String) : List UInt8 :=
  match Pattern.classes.lookup name with
  | some isIn => ((List.range 256).filter fun n => isIn (Char.ofNat n)).map UInt8.ofNat
  | none => []

/-- An item of a set of characters. -/
inductive SetPart where
  | bytes (bs : List UInt8)
  /-- A byte as often as it takes. -/
  | filling (b : UInt8)

/-- The parts of a set of characters. -/
def setParts : Nat → List Char → List SetPart
  | 0, _ => []
  | _, [] => []
  | fuel + 1, '[' :: ':' :: rest =>
    let word := rest.takeWhile Char.isAlpha
    match rest.drop word.length with
    | ':' :: ']' :: after => .bytes (classBytes (String.ofList word)) :: setParts fuel after
    | _ => .bytes [91] :: setParts fuel (':' :: rest)
  | fuel + 1, '[' :: c :: '*' :: ']' :: rest =>
    .filling (UInt8.ofNat c.toNat) :: setParts fuel rest
  | fuel + 1, c :: rest =>
    let (c, rest) :=
      if c == '\\' then
        match rest with
        | [] => ('\\', [])
        | d :: after =>
          if Format.isOctal d || (Format.letterEscapes.lookup d).isSome then Format.readEscape rest
          else (d, after)
      else (c, rest)
    match rest with
    | '-' :: d :: after =>
      let range := (List.range (d.toNat + 1)).drop c.toNat
      .bytes (range.map UInt8.ofNat) :: setParts fuel after
    | _ => .bytes [UInt8.ofNat c.toNat] :: setParts fuel rest

/-- The bytes of a set; a part that fills takes it up to `size`. -/
def setBytes (size : Nat) (text : String) : List UInt8 :=
  let parts := setParts (text.length + 1) text.toList
  let fixed := parts.foldl (fun n p => match p with
    | .bytes bs => n + bs.length
    | .filling _ => n) 0
  parts.flatMap fun
    | .bytes bs => bs
    | .filling b => List.replicate (size - fixed) b

/-- A text in which repeated bytes of a set stand only once. -/
def squeezed (set : List UInt8) : Option UInt8 → List UInt8 → List UInt8
  | _, [] => []
  | last, b :: rest =>
    if last == some b && set.contains b then squeezed set last rest
    else b :: squeezed set (some b) rest

/-- Replaces, removes or squeezes characters. -/
def tr (name : String) (args : List String) : Run Nat := do
  let known : Options :=
    { letters := "cCdst"
      names := [("complement", 'c'), ("delete", 'd'), ("squeeze-repeats", 's'),
        ("truncate-set1", 't')]
      inFront := true }
  let (options, sets) ← known.read name args
  let has (letter : Char) : Bool := options.any (·.1 == letter)
  let fault {α : Type} (texts : List String) : Run α := do
    let text := "\n".intercalate texts
    misuse name text
  let complement (set : List UInt8) : List UInt8 :=
    if has 'c' || has 'C' then
      ((List.range 256).map UInt8.ofNat).filter (!set.contains ·)
    else set
  let input ← Machine.readFile "-"
  let bytes := input.toOption.getD []
  match sets with
  | [] => fault ["missing operand"]
  | [only] =>
    let set := complement (setBytes 0 only)
    if has 'd' && !has 's' then emit name (bytes.filter (!set.contains ·))
    else if has 's' && !has 'd' then emit name (squeezed set none bytes)
    else
      fault ["missing operand after " ++ quote only,
        if has 'd' then "Two strings must be given when both deleting and squeezing repeats."
        else "Two strings must be given when translating."]
  | [first, second] =>
    if has 'd' && !has 's' then
      fault ["extra operand " ++ quote second,
        "Only one string may be given when deleting without squeezing repeats."]
    let set := complement (setBytes 0 first)
    let target := setBytes set.length second
    if has 'd' then
      emit name (squeezed target none (bytes.filter (!set.contains ·)))
    else
      let last := (target.getLast?).getD 0
      let pairs := set.zip (target ++ List.replicate (set.length - target.length) last)
      let replace (b : UInt8) : UInt8 := ((pairs.reverse.lookup b)).getD b
      let replaced := bytes.map replace
      emit name (if has 's' then squeezed target none replaced else replaced)
  | _ :: _ :: third :: _ => fault ["extra operand " ++ quote third]
  pure 0

/-- Writes its input to files as well. -/
def tee (name : String) (args : List String) : Run Nat := do
  let known : Options := { letters := "ai", names := [("append", 'a')] }
  let (options, files) ← known.read name args
  let bytes := (← Machine.readFile "-").toOption.getD []
  let mode : OpenMode := if options.any (·.1 == 'a') then .append else .write
  let mut status := 0
  for file in files do
    match ← Machine.openFile mode false file with
    | .ok index => discard (Machine.writeStream index bytes)
    | .error fault =>
      complainOf name file fault
      status := 1
  emit name bytes
  pure status

/-- How often `yes` writes its line before it is taken to go on forever. -/
def yesRounds : Nat := 2000

/-- Writes a line over and over, until nobody reads it. -/
def yes (name : String) (args : List String) : Run Nat := do
  let line := (if args.isEmpty then "y" else " ".intercalate args) ++ "\n"
  let many := (List.replicate 1000 (ByteText.toBytes line)).flatten
  for _ in List.range yesRounds do
    emit name many
  throw .overran

end Utility

end BtrfsStore.Shell
