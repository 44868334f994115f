import BtrfsStore.Shell.Builtin.Files
import BtrfsStore.Shell.Utility.Basic
/-!
# BtrfsStore.Shell.Utility.Places

The utilities that create, remove, move and list files and directories.
-/

namespace BtrfsStore.Shell

namespace Utility

/-! ### Looking -/

/-- Where a path leads. -/
def targetOf (path : String) : Run (Except FileFault FileTree.Target) := do
  return (← get).files.walk (← Machine.absolute path)

/-- The places below a place, and the place itself. -/
def family (files : FileTree) (place : Place) : List (Place × Node) :=
  files.nodes.filter fun e => place.isPrefixOf e.1

/-- The last part of a path, without slashes at its end. -/
def lastPart (path : String) : String :=
  let cs := (path.toList.reverse.dropWhile (· == '/')).reverse
  if cs.isEmpty then (if path.isEmpty then "" else "/")
  else String.ofList (cs.reverse.takeWhile (· != '/')).reverse

/-- The path without its last part. -/
def parentPath (path : String) : String :=
  let trim (cs : List Char) : List Char := cs.dropWhile (· == '/')
  let cs := trim path.toList.reverse
  let rest := cs.dropWhile (· != '/')
  if cs.isEmpty then (if path.isEmpty then "." else "/")
  else if rest.isEmpty then "."
  else
    let front := trim rest
    if front.isEmpty then "/" else String.ofList front.reverse

/-- A path inside a directory. -/
def inside (directory name : String) : String :=
  if directory.endsWith "/" then directory ++ name else directory ++ "/" ++ name

/-- Changes the file tree. -/
def modifyFiles (f : FileTree → FileTree) : Run Unit :=
  modify fun m => { m with files := f m.files }

/-! ### Names -/

/-- Shows the last parts of paths. -/
def basename (name : String) (args : List String) : Run Nat := do
  let known : Options :=
    { letters := "as:z", names := [("multiple", 'a'), ("suffix", 's'), ("zero", 'z')]
      inFront := true }
  let (options, operands) ← known.read name args
  let stripped (suffix part : String) : String :=
    if part != suffix && part.endsWith suffix then (part.dropEnd suffix.length).toString else part
  let show_ (suffix path : String) : Run Unit :=
    emitText name (stripped suffix (lastPart path) ++ "\n")
  let suffix? := (options.filter (·.1 == 's')).getLast?.map (·.2)
  match operands with
  | [] => misuse name "missing operand"
  | path :: rest =>
    if suffix?.isSome || options.any (·.1 == 'a') then
      operands.forM (show_ (suffix?.getD ""))
    else
      match rest with
      | [] => show_ "" path
      | [suffix] => show_ suffix path
      | _ :: extra :: _ => misuse name ("extra operand " ++ quote extra)
  pure 0

/-- Shows paths without their last parts. -/
def dirname (name : String) (args : List String) : Run Nat := do
  let (_, operands) ← ({ letters := "z", names := [("zero", 'z')] } : Options).read name args
  if operands.isEmpty then misuse name "missing operand"
  for path in operands do
    emitText name (parentPath path ++ "\n")
  pure 0

/-! ### Removing -/

/-- Removes files, and directories if asked for. -/
def rm (name : String) (args : List String) : Run Nat := do
  let known : Options :=
    { letters := "rRfdvi"
      names := [("recursive", 'r'), ("force", 'f'), ("dir", 'd'), ("verbose", 'v')] }
  let (options, operands) ← known.read name args
  let has (letter : Char) : Bool := options.any (·.1 == letter)
  if operands.isEmpty && !has 'f' then misuse name "missing operand"
  let mut status := 0
  for path in operands do
    let fault (reason : String) : Run Nat := do
      complain name ("cannot remove " ++ quoteFileAlways path ++ ": " ++ reason)
      pure 1
    let isSpecial := lastPart path ∈ [".", ".."]
    let one ← match ← targetOf path with
      | .ok (.node [] _) => do
        complain name "it is dangerous to operate recursively on \x27/\x27"
        complain name "use --no-preserve-root to override this failsafe"
        pure 1
      | .ok (.node place .directory) => do
        let files := (← get).files
        let isEmpty := (family files place).length ≤ 1
        if has 'r' || has 'R' then
          if isSpecial then
            complain name ("refusing to remove \x27.\x27 or \x27..\x27 directory: skipping "
              ++ quoteFileAlways path)
            pure 1
          else
            modifyFiles fun files =>
              { files with nodes := files.nodes.filter fun e => !place.isPrefixOf e.1 }
            if has 'v' then emitText name ("removed directory " ++ quoteFileAlways path ++ "\n")
            pure 0
        else if has 'd' && isEmpty then
          modifyFiles fun files => files.erase place
          pure 0
        else fault (if has 'd' then "Directory not empty" else "Is a directory")
      | .ok (.node place (.file _)) => do
        modifyFiles fun files => files.erase place
        if has 'v' then emitText name ("removed " ++ quoteFileAlways path ++ "\n")
        pure 0
      | .ok (.free _ _) => if has 'f' then pure 0 else fault (reasonOf .notFound)
      | .error reason =>
        if has 'f' && isMissing reason then pure 0 else fault (reasonOf reason)
    if one ≠ 0 then status := 1
  pure status

/-- Removes empty directories. -/
def rmdir (name : String) (args : List String) : Run Nat := do
  let known : Options := { letters := "pv", names := [("parents", 'p'), ("verbose", 'v')] }
  let (_, operands) ← known.read name args
  if operands.isEmpty then misuse name "missing operand"
  let mut status := 0
  for path in operands do
    let fault (reason : String) : Run Nat := do
      complain name ("failed to remove " ++ quoteFileAlways path ++ ": " ++ reason)
      pure 1
    let one ← match ← targetOf path with
      | .ok (.node place .directory) => do
        if 1 < (family (← get).files place).length then fault "Directory not empty"
        else
          modifyFiles fun files => files.erase place
          pure 0
      | .ok (.node _ (.file _)) => fault (reasonOf .notADirectory)
      | .ok (.free _ _) => fault (reasonOf .notFound)
      | .error reason => fault (reasonOf reason)
    if one ≠ 0 then status := 1
  pure status

/-! ### Creating -/

/-- Creates directories, and all that is missing on the way if asked for. -/
def mkdir (name : String) (args : List String) : Run Nat := do
  let known : Options :=
    { letters := "pm:v", names := [("parents", 'p'), ("mode", 'm'), ("verbose", 'v')] }
  let (options, operands) ← known.read name args
  let has (letter : Char) : Bool := options.any (·.1 == letter)
  if operands.isEmpty then misuse name "missing operand"
  let mut status := 0
  for path in operands do
    let files := (← get).files
    let target ← Machine.absolute path
    let created : Except FileFault FileTree :=
      if has 'p' then
        match files.makeDirectories target with
        | (files, .ok ()) => .ok files
        | (_, .error fault) => .error fault
      else files.makeDirectory target
    match created with
    | .ok files =>
      modify fun m => { m with files }
      if has 'v' then
        emitText name (name ++ ": created directory " ++ quoteFileAlways path ++ "\n")
    | .error fault =>
      complain name ("cannot create directory " ++ quoteFileAlways path ++ ": " ++ reasonOf fault)
      status := 1
  pure status

/-- Creates empty files where there are none. -/
def touch (name : String) (args : List String) : Run Nat := do
  let known : Options := { letters := "acmr:t:d:", names := [("no-create", 'c')] }
  let (options, operands) ← known.read name args
  if operands.isEmpty then misuse name "missing file operand"
  let mut status := 0
  for path in operands do
    let fault (reason : FileFault) : Run Nat := do
      complain name ("cannot touch " ++ quoteFileAlways path ++ ": " ++ reasonOf reason)
      pure 1
    let one ← match ← targetOf path with
      | .ok (.node _ _) => pure 0
      | .ok (.free place asDirectory) => do
        if options.any (·.1 == 'c') then pure 0
        else if asDirectory then fault .notFound
        else
          modifyFiles fun files => files.put place (.file [])
          pure 0
      | .error reason => fault reason
    if one ≠ 0 then status := 1
  pure status

/-! ### Moving and copying -/

/-- The tree with the family of one place at another one. -/
def transplant (files : FileTree) (source target : Place) (keepsSource : Bool) : FileTree :=
  let moved := family files source
  let rest :=
    if keepsSource then files
    else { files with nodes := files.nodes.filter fun e => !source.isPrefixOf e.1 }
  moved.foldl (fun files e => files.put (target ++ e.1.drop source.length) e.2) rest

/-- How moving and copying differ. -/
structure Transfer where
  /-- The sources stay where they are. -/
  keepsSource : Bool
  /-- Directories are transferred. -/
  takesDirectories : Bool

/-- Transfers what is at one path to another path. -/
def transferOne (name : String) (t : Transfer) (source target : String) : Run Nat := do
  let fault (text : String) : Run Nat := do
    complain name text
    pure 1
  let files := (← get).files
  let refused (reason : String) : Run Nat :=
    if t.keepsSource then
      fault ("cannot create regular file " ++ quoteFileAlways target ++ ": " ++ reason)
    else
      fault ("cannot move " ++ quoteFileAlways source ++ " to " ++ quoteFileAlways target ++ ": "
        ++ reason)
  match ← targetOf source, ← targetOf target with
  | .error reason, _ =>
    fault ("cannot stat " ++ quoteFileAlways source ++ ": " ++ reasonOf reason)
  | .ok (.free _ _), _ =>
    fault ("cannot stat " ++ quoteFileAlways source ++ ": " ++ reasonOf .notFound)
  | .ok (.node _ _), .error reason => refused (reasonOf reason)
  | .ok (.node from_ .directory), .ok found =>
    let to_ := match found with
      | .node place _ | .free place _ => place
    let isFile := match found with
      | .node _ (.file _) => true
      | _ => false
    if !t.takesDirectories then
      fault ("-r not specified; omitting directory " ++ quoteFileAlways source)
    else if isFile then
      fault ("cannot overwrite non-directory " ++ quoteFileAlways target ++ " with directory "
        ++ quoteFileAlways source)
    else if from_.isPrefixOf to_ then
      if t.keepsSource then
        fault ("cannot copy a directory, " ++ quoteFileAlways source ++ ", into itself, "
          ++ quoteFileAlways target)
      else
        fault ("cannot move " ++ quoteFileAlways source ++ " to a subdirectory of itself, "
          ++ quoteFileAlways target)
    else
      modifyFiles fun _ => transplant files from_ to_ t.keepsSource
      pure 0
  | .ok (.node _ (.file _)), .ok (.free _ true) => refused (reasonOf .notADirectory)
  | .ok (.node _ (.file _)), .ok (.node _ .directory) => refused (reasonOf .isADirectory)
  | .ok (.node from_ (.file _)), .ok (.free to_ false) => do
    modifyFiles fun _ => transplant files from_ to_ t.keepsSource
    pure 0
  | .ok (.node from_ (.file _)), .ok (.node to_ (.file _)) =>
    if from_ == to_ then
      fault (quoteFileAlways source ++ " and " ++ quoteFileAlways target ++ " are the same file")
    else
      modifyFiles fun _ => transplant files from_ to_ t.keepsSource
      pure 0

/-- Transfers files to a path or into a directory. -/
def transfer (name : String) (t : Transfer) (operands : List String) : Run Nat := do
  match operands with
  | [] => misuse name "missing file operand"
  | [only] => misuse name ("missing destination file operand after " ++ quoteFileAlways only)
  | operands =>
    let sources := operands.dropLast
    let target := operands.getLast?.getD ""
    let found ← targetOf target
    let isDirectory := match found with
      | .ok (.node _ .directory) => true
      | _ => false
    if isDirectory then
      let mut status := 0
      for source in sources do
        let one ← transferOne name t source (inside target (lastPart source))
        if one ≠ 0 then status := 1
      pure status
    else
      match sources with
      | [source] => transferOne name t source target
      | _ =>
        let reason := match found with
          | .ok (.node _ _) => .notADirectory
          | .ok (.free _ _) => .notFound
          | .error reason => reason
        complain name ("target " ++ quoteFileAlways target ++ ": " ++ reasonOf reason)
        pure 1

/-- Moves files and directories. -/
def mv (name : String) (args : List String) : Run Nat := do
  let known : Options := { letters := "fnvi", names := [("force", 'f'), ("verbose", 'v')] }
  let (_, operands) ← known.read name args
  transfer name { keepsSource := false, takesDirectories := true } operands

/-- Copies files, and directories if asked for. -/
def cp (name : String) (args : List String) : Run Nat := do
  let known : Options :=
    { letters := "rRafpv"
      names := [("recursive", 'r'), ("archive", 'a'), ("force", 'f'), ("verbose", 'v')] }
  let (options, operands) ← known.read name args
  let takesDirectories := options.any fun o => o.1 ∈ ['r', 'R', 'a']
  transfer name { keepsSource := true, takesDirectories } operands

/-! ### Permissions -/

/-- Makes files executable or not. -/
def chmod (name : String) (args : List String) : Run Nat := do
  let isMode (arg : String) : Bool := match arg.toList with
    | '-' :: c :: _ => c ∈ ['r', 'w', 'x', 'X', 's', 't']
    | _ => false
  let operands := args.filter fun arg => isMode arg || !arg.startsWith "-"
  match operands with
  | [] => misuse name "missing operand"
  | [only] => misuse name ("missing operand after " ++ quote only)
  | mode :: paths =>
    let isOctal := mode.toList.all fun c => '0' ≤ c && c ≤ '7'
    if !isOctal && (Builtin.changeMode 0 mode).isNone then
      misuse name ("invalid mode: " ++ quote mode)
    let mut status := 0
    for path in paths do
      match ← targetOf path with
      | .ok (.node place (.file _)) => do
        let m ← get
        let old := if (m.executables.lookup place).isSome then 0o755 else 0o644
        let new :=
          if isOctal then Number.valueOf 8 mode.toList else (Builtin.changeMode old mode).getD old
        let canRun := new &&& 0o111 ≠ 0
        let others := m.executables.filter (·.1 != place)
        let program := (m.executables.lookup place).getD .script
        set { m with executables := if canRun then (place, program) :: others else others }
      | .ok (.node _ .directory) => pure ()
      | .ok (.free _ _) => do
        complain name ("cannot access " ++ quoteFileAlways path ++ ": " ++ reasonOf .notFound)
        status := 1
      | .error reason => do
        complain name ("cannot access " ++ quoteFileAlways path ++ ": " ++ reasonOf reason)
        status := 1
    pure status

/-! ### Listing -/

/-- The mark behind the name of a file. -/
def markOf (m : Machine) (letters : List Char) (place : Place) : String :=
  match m.files.nodeAt place with
  | some .directory => if letters.contains 'F' || letters.contains 'p' then "/" else ""
  | some (.file _) =>
    if letters.contains 'F' && (m.executables.lookup place).isSome then "*" else ""
  | none => ""

/-- Lists files and directories. -/
def ls (name : String) (args : List String) : Run Nat := do
  let known : Options :=
    { letters := "1aAdFpqrUCxltSRhin"
      names := [("all", 'a'), ("almost-all", 'A'), ("directory", 'd'), ("classify", 'F'),
        ("reverse", 'r')] }
  let (options, operands) ← known.read name args 2
  let letters := options.map (·.1)
  let inOrder (names : List String) : List String :=
    let sorted := names.mergeSort fun a b => decide (a ≤ b)
    if letters.contains 'r' then sorted.reverse else sorted
  let m ← get
  let operands := if operands.isEmpty then ["."] else operands
  let mut files : List (String × Place) := []
  let mut directories : List (String × Place) := []
  let mut status := 0
  for path in operands do
    match ← targetOf path with
    | .ok (.node place .directory) =>
      if letters.contains 'd' then files := files ++ [(path, place)]
      else directories := directories ++ [(path, place)]
    | .ok (.node place (.file _)) => files := files ++ [(path, place)]
    | .ok (.free _ _) =>
      complain name ("cannot access " ++ quoteFileAlways path ++ ": " ++ reasonOf .notFound)
      status := 2
    | .error fault =>
      complain name ("cannot access " ++ quoteFileAlways path ++ ": " ++ reasonOf fault)
      status := 2
  for path in inOrder (files.map (·.1)) do
    let place := (files.lookup path).getD []
    emitText name (path ++ markOf m letters place ++ "\n")
  let hasTitles := 1 < operands.length
  let mut isFirst := files.isEmpty
  for path in inOrder (directories.map (·.1)) do
    let place := (directories.lookup path).getD []
    if hasTitles then
      emitText name ((if isFirst then "" else "\n") ++ path ++ ":\n")
    isFirst := false
    let children := (m.files.children ⟨Machine.pathOf place⟩).map ByteText.encode
    let names := if letters.contains 'a' then [".", ".."] ++ children else children
    let shown := names.filter fun n =>
      letters.contains 'a' || letters.contains 'A' || !n.startsWith "."
    for n in inOrder shown do
      emitText name (n ++ markOf m letters (place ++ [ByteText.decode n]) ++ "\n")
  pure status

end Utility

end BtrfsStore.Shell
