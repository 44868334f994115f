import BtrfsStore.Text.Blank
import BtrfsStore.Text.Decimal
import BtrfsStore.Text.Find
import BtrfsStore.Text.Lines
import BtrfsStore.Text.Quoted
/-!
# BtrfsStore.Distro

The distros that WSL lists, and the choice of the one that gets the store.
-/

namespace BtrfsStore

/-- A row of `wsl.exe --list --verbose`. -/
structure Distro where
  name : String
  state : String
  /-- The WSL version that runs the distro. -/
  version : Nat
  isDefault : Bool
  deriving Repr, DecidableEq

namespace Distro

/-- The first version number that a listing cannot show. -/
def versionBound : Nat := 256

/-- Reads one line of a listing; the header and lines that do not have a name,
a state and a version give nothing. -/
def ofLine (line : List Char) : Option Distro :=
  let (isDefault, rest) := match Text.trimChars line with
    | '*' :: rest => (true, rest)
    | rest => (false, rest)
  match (Text.wordsOf rest).map String.ofList with
  | name :: state :: version :: _ =>
    if name = "NAME" then none
    else
      match Text.readNat versionBound version with
      | .ok version => some { name, state, version, isDefault }
      | .error _ => none
  | _ => none

/-- Reads a listing. -/
def ofListing (text : String) : List Distro := (Text.linesOf text.toList).filterMap ofLine

/-- Whether the distro is a helper of Docker Desktop. -/
def isDockerHelper (d : Distro) : Bool := Text.startsWith (Text.foldCase d.name) "docker-desktop"

/-- The distro of the requested name; without a request the default one, or
else the first, helpers of Docker Desktop left aside. -/
def candidate (distros : List Distro) : Option String → Except String Distro
  | some name =>
    match distros.find? fun d => Text.sameAscii d.name name with
    | some d => .ok d
    | none => .error ("WSL distro " ++ Text.quoted name ++ " is not installed")
  | none =>
    match (distros.find? fun d => d.isDefault && !d.isDockerHelper).or
        (distros.find? fun d => !d.isDockerHelper) with
    | some d => .ok d
    | none => .error "no WSL distro installed"

/-- The distro for the store, which must run WSL 2. -/
def select (distros : List Distro) (requested : Option String) : Except String Distro :=
  match candidate distros requested with
  | .error reason => .error reason
  | .ok d =>
    if d.version < 2 then
      .error ("WSL distro " ++ d.name ++ " runs WSL " ++ toString d.version
        ++ "; the btrfs store needs WSL 2 (wsl.exe --set-version " ++ d.name ++ " 2)")
    else .ok d

end Distro

end BtrfsStore
