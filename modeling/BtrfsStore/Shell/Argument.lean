import BtrfsStore.Shell.Machine
/-!
# BtrfsStore.Shell.Argument

What built-in commands make of their arguments: options in front of them,
numbers, assignments, and values that are shown in a form that can be read
again.
-/

namespace BtrfsStore.Shell

namespace Argument

/-! ### Options -/

/-- An option, with its text if it has one. -/
abbrev Chosen := Char × String

/-- Reads the letters of one argument; `known` holds the letters that there
are, with a colon after each one that takes a text. -/
def readLetters (known : List Char) (rest : List String) :
    List Char → Except String (List Chosen × List String)
  | [] => .ok ([], rest)
  | c :: cs =>
    if c == ':' || !known.contains c then .error ("Illegal option -" ++ String.ofList [c])
    else if (known.dropWhile (· != c)).drop 1 |>.head? |>.any (· == ':') then
      match cs, rest with
      | [], [] => .error ("No arg for -" ++ String.ofList [c] ++ " option")
      | [], text :: rest => .ok ([(c, text)], rest)
      | cs, rest => .ok ([(c, String.ofList cs)], rest)
    else do
      let (chosen, rest) ← readLetters known rest cs
      pure ((c, "") :: chosen, rest)

/-- Reads the options in front of arguments. -/
def readOptions (known : List Char) : Nat → List String → Except String (List Chosen × List String)
  | 0, args => .ok ([], args)
  | fuel + 1, args =>
    match args with
    | [] => .ok ([], [])
    | arg :: rest =>
      match arg.toList with
      | ['-', '-'] => .ok ([], rest)
      | '-' :: c :: cs => do
        let (first, rest) ← readLetters known rest (c :: cs)
        let (others, rest) ← readOptions known fuel rest
        pure (first ++ others, rest)
      | _ => .ok ([], args)

/-- The options in front of arguments, and the arguments. -/
def options (known : String) (args : List String) : Run (List Chosen × List String) :=
  match readOptions known.toList (args.length + 1) args with
  | .ok read => pure read
  | .error reason => Machine.fail reason

/-- The arguments of a command that has no options. -/
def plain (args : List String) : Run (List String) := return (← options "" args).2

/-! ### Numbers and names -/

/-- The number that an argument stands for. -/
def number (arg : String) : Run Nat :=
  match Number.argument? arg with
  | some n => pure n
  | none => Machine.fail ("Illegal number: " ++ arg)

/-- The name in an argument, and the value if the argument assigns one. -/
def assignment (arg : String) : String × Option String :=
  let name := arg.toList.takeWhile (· != '=')
  (String.ofList name,
    if arg.toList.contains '=' then some (String.ofList (arg.toList.drop (name.length + 1)))
    else none)

/-- Complains about a text that is no name. -/
def demandName (name : String) : Run Unit := do
  if !isName name then Machine.fail (name ++ ": bad variable name")

/-- Sets a variable after a look at its name. -/
def assignNamed (name value : String) : Run Unit := do
  demandName name
  Machine.assign name value

/-! ### Values -/

/-- The parts of a quoted text; runs of apostrophes are quoted in their own
way. -/
def quotedParts : Nat → List Char → List Char
  | 0, _ => []
  | fuel + 1, cs =>
    let isApostrophe (c : Char) : Bool := c == '\x27'
    let text := cs.takeWhile (!isApostrophe ·)
    let rest := cs.drop text.length
    let apostrophes := rest.takeWhile isApostrophe
    let rest := rest.drop apostrophes.length
    let first := ['\x27'] ++ text ++ ['\x27']
    if apostrophes.isEmpty then first
    else
      let second := ['"'] ++ apostrophes ++ ['"']
      first ++ second ++ if rest.isEmpty then [] else quotedParts fuel rest

/-- A text in apostrophes. -/
def quoted (s : String) : String := String.ofList (quotedParts (s.length + 1) s.toList)

/-- Texts sorted by their bytes. -/
def sorted (texts : List String) : List String := texts.mergeSort fun a b => decide (a ≤ b)

/-- Shows the variables that are asked for, a word in front of each one. -/
def showVariables (front : String) (isShown : Variable → Bool) : Run Unit := do
  let s ← Machine.currentSession
  let shown := s.bindings.filter fun e => isShown e.2
  let inOrder := shown.mergeSort fun a b => decide (a.1 ≤ b.1)
  for (name, v) in inOrder do
    let value := (v.value.map fun text => "=" ++ quoted text).getD ""
    Machine.output (front ++ name ++ value ++ "\n")

end Argument

end BtrfsStore.Shell
