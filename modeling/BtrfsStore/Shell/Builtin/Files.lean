import BtrfsStore.Shell.Argument
import BtrfsStore.Shell.Condition
/-!
# BtrfsStore.Shell.Builtin.Files

The built-in commands about directories, files and the limits of a process.
-/

namespace BtrfsStore.Shell

namespace Builtin

open Argument

/-! ### Directories -/

/-- The current directory. -/
def directory : Run String := return ByteText.encode (Machine.pathOf (← get).files.current)

/-- Goes to another directory. -/
def changeDirectory (args : List String) : Run Nat := do
  let (_, args) ← options "LP" args
  let s ← Machine.currentSession
  let isBack := args.head? == some "-"
  let target := match args with
    | [] => (s.valueOf? "HOME").getD ""
    | "-" :: _ => (s.valueOf? "OLDPWD").getD ""
    | target :: _ => target
  let m ← get
  let path := ByteText.decode (if target.isEmpty then "." else target)
  match m.files.walk ⟨path⟩ with
  | .ok (.node place .directory) =>
    let old := (s.valueOf? "PWD").getD ""
    set { m with files := { m.files with current := place } }
    let new ← directory
    let isExported := true
    Machine.modifySession fun s =>
      (s.put "OLDPWD" { value := some old, isExported }).put "PWD" { value := some new, isExported }
    if isBack then Machine.output (new ++ "\n")
    pure 0
  | _ => Machine.fail ("can\x27t cd to " ++ target)

/-- Shows the current directory. -/
def showDirectory (args : List String) : Run Nat := do
  discard (options "LP" args)
  Machine.output ((← directory) ++ "\n")
  pure 0

/-! ### Conditions -/

/-- Answers a condition. -/
def test (args : List String) : Run Nat := do
  let m ← get
  let isExecutable (place : Place) : Bool := (m.executables.lookup place).isSome
  match Condition.answer { tree := m.files, isExecutable } args with
  | .ok answer => pure (if answer then 0 else 1)
  | .error reason => Machine.fail reason

/-- Answers a condition in brackets. -/
def bracketTest (args : List String) : Run Nat :=
  if args.getLast? == some "]" then test args.dropLast else Machine.fail "missing ]"

/-! ### Permissions -/

/-- A number in base eight with four digits. -/
def octalText (n : Nat) : String :=
  let digits := Nat.toDigits 8 n
  String.ofList (List.replicate (4 - digits.length) '0' ++ digits)

/-- The permissions that a group of users has, by their letters. -/
def permissionLetters (bits : Nat) : String :=
  let letter (bit : Nat) (c : Char) : List Char := if bits / bit % 2 = 1 then [c] else []
  String.ofList (letter 4 'r' ++ letter 2 'w' ++ letter 1 'x')

/-- The bits that letters stand for. -/
def letterBits (letters : List Char) : Nat :=
  (if letters.contains 'r' then 4 else 0) + (if letters.contains 'w' then 2 else 0)
    + (if letters.contains 'x' then 1 else 0)

/-- Changes permissions as a clause such as `go-w` says. -/
def changeByClause (mode : Nat) (clause : List Char) : Option Nat :=
  let who := clause.takeWhile fun c => c ∈ ['u', 'g', 'o', 'a']
  let who := if who.isEmpty || who.contains 'a' then ['u', 'g', 'o'] else who
  match clause.dropWhile fun c => c ∈ ['u', 'g', 'o', 'a'] with
  | operator :: letters =>
    if !(letters.all fun c => c ∈ ['r', 'w', 'x', 'X', 's', 't']) then none
    else
      let bits := letterBits letters
      let change (factor : Nat) (who? : Char) (mode : Nat) : Nat :=
        if !who.contains who? then mode
        else
          let old := mode / factor % 8
          let new := match operator with
            | '+' => old ||| bits
            | '-' => old - (old &&& bits)
            | _ => bits
          mode - old * factor + new * factor
      if operator ∈ ['+', '-', '='] then
        some (change 1 'o' (change 8 'g' (change 64 'u' mode)))
      else none
  | [] => none

/-- The parts of a text between its commas. -/
def clauses : List Char → List (List Char)
  | [] => [[]]
  | ',' :: rest => [] :: clauses rest
  | c :: rest =>
    match clauses rest with
    | first :: others => (c :: first) :: others
    | [] => [[c]]

/-- The permissions after a change by letters. -/
def changeMode (mode : Nat) (text : String) : Option Nat :=
  (clauses text.toList).foldlM changeByClause mode

/-- Shows or sets the permissions that new files do not get. -/
def mask (args : List String) : Run Nat := do
  let (chosen, args) ← options "S" args
  let s ← Machine.currentSession
  match args with
  | [] =>
    let granted := 0o777 - s.mask % 0o1000
    Machine.output (
      if chosen.isEmpty then octalText s.mask ++ "\n"
      else
        "u=" ++ permissionLetters (granted / 64) ++ ",g=" ++ permissionLetters (granted / 8 % 8)
          ++ ",o=" ++ permissionLetters (granted % 8) ++ "\n")
  | text :: _ =>
    if text.toList.head?.any Char.isDigit then
      if !(text.toList.all fun c => '0' ≤ c && c ≤ '7') then
        Machine.fail ("Illegal number: " ++ text)
      let new := Number.valueOf 8 text.toList % 0o1000
      Machine.modifySession fun s => { s with mask := new }
    else
      match changeMode (0o777 - s.mask) text with
      | some granted => Machine.modifySession fun s => { s with mask := 0o777 - granted }
      | none => Machine.fail ("Illegal mode: " ++ text)
  pure 0

/-- Shows the limits of the process, of which there are none. -/
def limits (args : List String) : Run Nat := do
  let (_, args) ← options "HSatfdscmlpnvwr" args
  match args with
  | [] => Machine.output "unlimited\n"
  | text :: _ =>
    if text != "unlimited" && !(text.toList.all Char.isDigit) then Machine.fail "bad number"
  pure 0

end Builtin

end BtrfsStore.Shell
