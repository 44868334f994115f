import BtrfsStore.Shell.Argument
/-!
# BtrfsStore.Shell.Builtin.Variables

The built-in commands that show and change variables, arguments, options and
aliases.
-/

namespace BtrfsStore.Shell

namespace Builtin

open Argument

/-! ### Variables -/

/-- Marks variables, after assigning those that have a value. -/
def markVariables (name : String) (isMarked : Variable → Bool) (mark : Variable → Variable)
    (args : List String) : Run Nat := do
  let (chosen, args) ← options "p" args
  if !chosen.isEmpty || args.isEmpty then
    showVariables (name ++ " ") isMarked
  else
    for arg in args do
      let (name, value) := assignment arg
      let known := (← Machine.currentSession).find? name
      if value.isSome || known.isNone then demandName name
      match value with
      | some text => Machine.assign name text
      | none => pure ()
      Machine.modifySession fun s => s.put name (mark ((s.find? name).getD {}))
  pure 0

/-- Makes started programs see variables. -/
def exportVariables : List String → Run Nat :=
  markVariables "export" (·.isExported) fun v => { v with isExported := true }

/-- Keeps variables from being changed. -/
def protectVariables : List String → Run Nat :=
  markVariables "readonly" (·.isReadOnly) fun v => { v with isReadOnly := true }

/-- Removes variables or functions. -/
def unset (args : List String) : Run Nat := do
  let (chosen, args) ← options "vf" args
  let isFunction := (chosen.getLast?.map (·.1)) == some 'f'
  for name in args do
    if isFunction then
      Machine.modifySession fun s => { s with functions := s.functions.filter (·.1 != name) }
    else
      demandName name
      if (← Machine.currentSession).isReadOnly name then Machine.fail (name ++ ": is read only")
      Machine.modifySession fun s => s.drop name
  pure 0

/-- Keeps the value of a variable for the time after the function. -/
def hide (name : String) : Run Unit :=
  Machine.modifySession fun s =>
    match s.hidden with
    | frame :: frames =>
      if frame.any (·.1 == name) then s
      else
        let kept : Option Variable :=
          if name = "-" then some { value := some (String.ofList s.options) } else s.find? name
        { s with hidden := ((name, kept) :: frame) :: frames }
    | [] => s

/-- Makes variables belong to the function that runs. -/
def makeLocal (args : List String) : Run Nat := do
  if (← Machine.currentSession).hidden.isEmpty then Machine.fail "not in a function"
  for arg in args do
    let (name, value) := assignment arg
    if arg = "-" then hide arg
    else
      demandName name
      hide name
      match value with
      | some text => Machine.assign name text
      | none =>
        Machine.modifySession fun s => s.put name ((s.find? name).getD {})
  pure 0

/-! ### Arguments and options -/

/-- Drops the first arguments. -/
def shift (args : List String) : Run Nat := do
  let count ← match args with
    | [] => pure 1
    | arg :: _ => number arg
  let s ← Machine.currentSession
  if s.arguments.length < count then Machine.fail "can\x27t shift that many"
  Machine.modifySession fun s =>
    { s with arguments := s.arguments.drop count, optionIndex := 1, optionOffset := 0 }
  pure 0

/-- The names of options that have no letter and no effect. -/
def idleOptions : List String := ["nolog", "debug"]

/-- Shows the options: as a table, or as commands that set them. -/
def showOptions (asTable : Bool) : Run Unit := do
  let s ← Machine.currentSession
  if asTable then Machine.output "Current option settings\n"
  let all := optionNames.map (fun e => (e.1, s.hasOption e.2)) ++ idleOptions.map ((·, false))
  for (name, isSet) in all do
    let line :=
      if asTable then
        name ++ String.ofList (List.replicate (16 - name.length) ' ')
          ++ (if isSet then "on" else "off")
      else "set " ++ (if isSet then "-o " else "+o ") ++ name
    Machine.output (line ++ "\n")

/-- Sets an option or not. -/
def setOption (isOn : Bool) (letter : Char) : Run Unit := do
  if !(optionNames.any (·.2 == letter)) then
    Machine.fail ("Illegal option -" ++ String.ofList [letter])
  Machine.modifySession fun s =>
    let others := s.options.filter (· != letter)
    { s with options := if isOn then letter :: others else others }

/-- Sets an option by its name, or not. -/
def setNamedOption (isOn : Bool) (name : String) : Run Unit :=
  match optionNames.lookup name with
  | some letter => setOption isOn letter
  | none =>
    if idleOptions.contains name then pure ()
    else Machine.fail ("Illegal option -o " ++ name)

/-- What options in front of arguments leave. -/
structure OptionsRead where
  args : List String
  /-- There is the option for a script in the arguments. -/
  givesScript : Bool := false
  /-- There is an end of the options. -/
  hasEnd : Bool := false

/-- Sets options letter by letter; `atStart` tells that they are those of a
shell that starts. Answers the arguments after those that name options, and
whether the arguments hold the script. -/
def setLetters (atStart isOn : Bool) (args : List String) : List Char → Run (List String × Bool)
  | [] => pure (args, false)
  | c :: cs => do
    if atStart && c == 'c' then
      let (args, _) ← setLetters atStart isOn args cs
      pure (args, true)
    else if atStart && c == 'l' then setLetters atStart isOn args cs
    else if c == 'o' then
      match args with
      | [] =>
        showOptions isOn
        setLetters atStart isOn [] cs
      | name :: rest =>
        setNamedOption isOn name
        setLetters atStart isOn rest cs
    else
      setOption isOn c
      setLetters atStart isOn args cs

/-- Sets the options in front of arguments. -/
def setOptions (atStart : Bool) : Nat → List String → Run OptionsRead
  | 0, args => pure { args }
  | fuel + 1, args =>
    let letters (isOn : Bool) (cs : List Char) (rest : List String) : Run OptionsRead := do
      let (rest, givesScript) ← setLetters atStart isOn rest cs
      let read ← setOptions atStart fuel rest
      pure { read with givesScript := givesScript || read.givesScript }
    match args with
    | [] => pure { args }
    | arg :: rest =>
      match arg.toList with
      | ['-'] => do
        if !atStart then
          setOption false 'x'
          setOption false 'v'
        pure { args := rest }
      | ['-', '-'] => pure { args := rest, hasEnd := true }
      | '-' :: cs => letters true cs rest
      | '+' :: cs => letters false cs rest
      | _ => pure { args }

/-- Sets options and arguments, or shows all variables. -/
def changeSettings (args : List String) : Run Nat := do
  if args.isEmpty then showVariables "" (·.value.isSome)
  else
    let read ← setOptions false (args.length + 1) args
    if !read.args.isEmpty || read.hasEnd then
      Machine.modifySession fun s =>
        { s with arguments := read.args, optionIndex := 1, optionOffset := 0 }
  pure 0

/-! ### Reading -/

/-- The characters of a line, each with a mark that protects it from splitting
fields, the last one in front, and the rest of the text; no rest tells that the
text has ended before the line. -/
def readLine (escapes : Bool) :
    Bool → List UInt8 → List (Bool × Char) → List (Bool × Char) × Option (List UInt8)
  | _, [], read => (read, none)
  | escaped, b :: rest, read =>
    let c := Char.ofNat b.toNat
    if b == 0 then readLine escapes escaped rest read
    else if escaped then
      readLine escapes false rest (if c == '\n' then read else (true, c) :: read)
    else if escapes && c == '\\' then readLine escapes true rest read
    else if c == '\n' then (read, some rest)
    else readLine escapes false rest ((false, c) :: read)

/-- A line that is being split into a number of fields. -/
structure LineFields where
  /-- The fields that end, the last one in front. -/
  done : List (List Char) := []
  /-- The field that has begun, its last character in front. -/
  current : List Char := []
  /-- How many characters stay if all others are separators at its end. -/
  kept : Option Nat := none
  /-- How many fields may still be begun. -/
  left : Nat
  /-- Blanks have just ended a field. -/
  afterBlank : Bool := false

/-- Goes on with the next character of the line. -/
def LineFields.step (separators : List Char) (f : LineFields) (item : Bool × Char) : LineFields :=
  let c := item.2
  let added := c :: f.current
  let isBlank := separators.contains c && (c == ' ' || c == '\t' || c == '\n')
  if item.1 then { f with current := added, afterBlank := false }
  else if f.left = 0 then
    if isBlank then { f with current := added, kept := f.kept.or (some f.current.length) }
    else
      let stays := separators.contains c && f.afterBlank
      { f with current := added, kept := if stays then f.kept else none, afterBlank := false }
  else if !separators.contains c then { f with current := added, afterBlank := false }
  else if f.afterBlank then { f with afterBlank := isBlank }
  else if isBlank && f.current.isEmpty then f
  else if f.left = 1 then
    { f with current := added, kept := some f.current.length, left := 0, afterBlank := isBlank }
  else
    { f with
      done := f.current.reverse :: f.done, current := [], left := f.left - 1
      afterBlank := isBlank }

/-- The fields of a line, at most as many as asked for. -/
def lineFields (separators : List Char) (count : Nat) (line : List (Bool × Char)) : List String :=
  let f := line.foldl (LineFields.step separators) { left := count }
  let last := f.current.reverse.take (f.kept.getD f.current.length)
  let fields := if last.isEmpty then f.done else last :: f.done
  fields.reverse.map String.ofList

/-- Reads a line into variables; the last one takes all that is left. -/
def read (args : List String) : Run Nat := do
  let (chosen, names) ← options "p:r" args
  if names.isEmpty then Machine.fail "arg count"
  let escapes := !(chosen.any (·.1 == 'r'))
  let lineOf (bytes : List UInt8) := readLine escapes false bytes []
  let taken ← Machine.takeBytes 0 fun bytes =>
    bytes.take (bytes.length - ((lineOf bytes).2.getD []).length)
  let bytes := match taken with
    | some (.ok bytes) => bytes
    | _ => []
  let (line, rest) := lineOf bytes
  let separators := (((← Machine.currentSession).valueOf? "IFS").getD " \t\n").toList
  let fields := lineFields separators names.length line.reverse
  for (name, i) in names.zipIdx do
    assignNamed name (fields[i]?.getD "")
  pure (if rest.isSome then 0 else 1)

/-! ### Options of scripts -/

/-- What the next step of reading options finds. -/
inductive NextOption where
  /-- There are no more options. -/
  | finished
  /-- An option with its text if it has one. -/
  | found (letter : Char) (text : Option String)
  /-- A letter that is no option. -/
  | unknown (letter : Char)
  /-- An option that lacks its text. -/
  | lacking (letter : Char)

/-- Takes the next option from `args`, where `index` is the number of the next
argument and `offset` the number of characters that are used of the one before.
Answers the option, the new number and the new offset. -/
def nextOption (known : List Char) (args : List String) (index offset : Nat) :
    NextOption × Nat × Nat :=
  let before := ((args[index - 2]?).getD "").toList
  let current := (args[index - 1]?.getD "").toList
  let goesOn := 2 ≤ index && 0 < offset && offset < before.length
  let start : Option (List Char × Nat) :=
    if goesOn then some (before.drop offset, index)
    else
      match current with
      | '-' :: c :: cs => some (c :: cs, index + 1)
      | _ => none
  match start with
  | none => (.finished, index, 0)
  | some ([], index) => (.finished, index, 0)
  | some (c :: cs, index) =>
    if c == '-' && cs.isEmpty && !goesOn then (.finished, index, 0)
    else
      let word := (args[index - 2]?.getD "").toList
      let offset := word.length - cs.length
      if c == ':' || !known.contains c then (.unknown c, index, offset)
      else if ((known.dropWhile (· != c)).drop 1).head? == some ':' then
        if !cs.isEmpty then (.found c (some (String.ofList cs)), index, 0)
        else
          match args[index - 1]? with
          | some text => (.found c (some text), index + 1, 0)
          | none => (.lacking c, index, offset)
      else (.found c none, index, offset)

/-- Takes the next option from the arguments of the script. -/
def getOptions (args : List String) : Run Nat := do
  match args with
  | known :: name :: given =>
    let s ← Machine.currentSession
    let args := if given.isEmpty then s.arguments else given
    let (index, offset) :=
      if args.length + 1 < s.optionIndex then (1, 0) else (s.optionIndex, s.optionOffset)
    let isSilent := known.startsWith ":"
    let (found, index, offset) := nextOption known.toList args index offset
    let dropText : Run Unit := Machine.modifySession fun s => s.drop "OPTARG"
    let letter (c : Char) : String := String.ofList [c]
    let answer ← match found with
      | .finished => pure "?"
      | .found c text => do
        Machine.assign "OPTARG" (text.getD "")
        pure (letter c)
      | .unknown c => do
        if isSilent then Machine.assign "OPTARG" (letter c)
        else
          Machine.write 2 ("Illegal option -" ++ letter c ++ "\n")
          dropText
        pure "?"
      | .lacking c => do
        if isSilent then
          Machine.assign "OPTARG" (letter c)
          pure ":"
        else
          Machine.write 2 ("No arg for -" ++ letter c ++ " option\n")
          dropText
          pure "?"
    Machine.assign "OPTIND" (toString index)
    Machine.modifySession fun s => { s with optionIndex := index, optionOffset := offset }
    assignNamed name answer
    pure (match found with
      | .finished => 1
      | _ => 0)
  | _ => Machine.fail "Usage: getopts optstring var [arg...]"

/-! ### Aliases -/

/-- How an alias is shown. -/
def aliasText (a : String × String) : String := a.1 ++ "=" ++ quoted a.2 ++ "\n"

/-- Defines and shows aliases. -/
def defineAliases (args : List String) : Run Nat := do
  let s ← Machine.currentSession
  if args.isEmpty then
    for a in byChains Session.chainCount Prod.fst s.aliases do
      Machine.output (aliasText a)
    return 0
  let mut status := 0
  for arg in args do
    let (first, rest) := (arg.toList.take 1, arg.toList.drop 1)
    let name := String.ofList (first ++ rest.takeWhile (· != '='))
    if rest.contains '=' then
      let text := String.ofList ((rest.dropWhile (· != '=')).drop 1)
      Machine.modifySession fun s =>
        if s.aliases.any (·.1 == name) then
          { s with aliases := s.aliases.map fun a => if a.1 == name then (name, text) else a }
        else { s with aliases := s.aliases ++ [(name, text)] }
    else
      match (← Machine.currentSession).aliases.lookup name with
      | some text => Machine.output (aliasText (name, text))
      | none =>
        Machine.write 2 ("alias: " ++ name ++ " not found\n")
        status := 1
  pure status

/-- Removes aliases. -/
def unalias (args : List String) : Run Nat := do
  let (chosen, args) ← options "a" args
  if !chosen.isEmpty then
    Machine.modifySession fun s => { s with aliases := [] }
    return 0
  let mut status := 0
  for name in args do
    if ((← Machine.currentSession).aliases.lookup name).isSome then
      Machine.modifySession fun s => { s with aliases := s.aliases.filter (·.1 != name) }
    else
      Machine.write 2 ("unalias: " ++ name ++ " not found\n")
      status := 1
  pure status

end Builtin

end BtrfsStore.Shell
