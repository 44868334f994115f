import BtrfsStore.Path
/-!
# BtrfsStore.StoreRoot

The directory under which stores are kept when the user names no other one,
taken from environment variables.
-/

namespace BtrfsStore.StoreRoot

/-- The variable that overrides the store root everywhere. -/
def overrideVariable : String := "SQLRS_STATE_STORE"

/-- The shell script that prints the state directory of a distro's user. -/
def stateBaseScript : String := "printf %s \"$\x7bXDG_STATE_HOME:-$HOME/.local/state\x7d\""

/-- The directory of the store below a state directory. -/
def storeSubdir : String := "sqlrs/store"

/-- The file name of the virtual disk on Windows. -/
def virtualDiskName : String := "btrfs.vhdx"

/-- The state directory of a Windows user. -/
def windowsBase (lookup : String → Option String) : Option Path :=
  let ofHome (name : String) := (lookup name).map fun home =>
    ((Path.mk home).child "AppData").child "Local"
  ((lookup "LOCALAPPDATA").map Path.mk).or ((ofHome "USERPROFILE").or (ofHome "HOME"))

/-- The state directory of a user elsewhere. -/
def homeBase (lookup : String → Option String) : Option Path :=
  ((lookup "XDG_STATE_HOME").map Path.mk).or
    ((lookup "HOME").map fun home => ((Path.mk home).child ".local").child "state")

/-- The store root for the environment `lookup`. -/
def resolve (lookup : String → Option String) (windows : Bool) : Option Path :=
  match lookup overrideVariable with
  | some root => some ⟨root⟩
  | none =>
    if windows then (windowsBase lookup).map fun base => (base.child "sqlrs").child "store"
    else (homeBase lookup).map fun base => base.child storeSubdir

end BtrfsStore.StoreRoot
