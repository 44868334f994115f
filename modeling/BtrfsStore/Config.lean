import BtrfsStore.Action
import BtrfsStore.InitOutcome
import BtrfsStore.Yaml.Document
import BtrfsStore.Yaml.Printer
/-!
# BtrfsStore.Config

The config file of a workspace. It is kept as a YAML tree of any shape, so that
what other commands wrote survives; only the entries that initializing a
workspace manages are changed.
-/

namespace BtrfsStore

/-! ### Faults -/

/-- Why a config could not be read or written. -/
inductive ConfigFault where
  | unreadable (path : Path) (fault : FileFault)
  | malformed (path : Path) (reason : String)
  | notAMapping (path : Path)
  | directoryNotCreated (path : Path) (fault : FileFault)
  | notWritten (path : Path) (fault : FileFault)
  deriving Repr, DecidableEq

/-- The wording of a fault and of what caused it. -/
def ConfigFault.chain : ConfigFault → List String
  | .unreadable path fault => ["failed to read " ++ path.text, fault.message]
  | .malformed path reason => ["failed to parse " ++ path.text, reason]
  | .notAMapping path => [path.text ++ " must contain a YAML mapping"]
  | .directoryNotCreated path fault => ["failed to create " ++ path.text, fault.message]
  | .notWritten path fault => ["failed to write " ++ path.text, fault.message]

namespace Config

/-! ### The file -/

/-- The config file of a workspace. -/
def pathIn (workspace : Path) : Path := (workspace.child ".sqlrs").child "config.yaml"

/-- The config without any entry. -/
def empty : Yaml := .map []

/-- The config that a text holds; a blank text holds none. -/
def ofText (path : Path) (text : String) : Except ConfigFault Yaml :=
  if Text.isBlankText text then .ok empty
  else
    match Yaml.ofText text with
    | .error reason => .error (.malformed path reason)
    | .ok config => if config.isMapping then .ok config else .error (.notAMapping path)

/-- Reads a config; without a file it is empty. -/
def load (path : Path) : ExceptT ConfigFault Action Yaml := do
  if !(← Action.pathExists path) then
    return empty
  match ← ExceptT.lift (Action.query (.readText path)) with
  | .error fault => throw (.unreadable path fault)
  | .ok text => ExceptT.mk (pure (ofText path text))

/-- Writes a config, creating the directory of its file. -/
def save (path : Path) (config : Yaml) : ExceptT ConfigFault Action Unit := do
  match path.parent with
  | none => pure ()
  | some dir =>
    match ← ExceptT.lift (Action.query (.makeDirectories dir)) with
    | .ok () => pure ()
    | .error fault => throw (.directoryNotCreated dir fault)
  match ← ExceptT.lift (Action.query (.writeText path config.render)) with
  | .ok () => pure ()
  | .error fault => throw (.notWritten path fault)

/-! ### Changing entries -/

/-- A value that can hold entries: anything but a mapping is replaced by an
empty one. -/
def asMapping (v : Yaml) : Yaml := if v.isMapping then v else empty

/-- Sets the entry at the end of a path of names. What stands in the way and is
no mapping is replaced; a mapping with a tag is left alone. -/
def set : List String → Yaml → Yaml → Yaml
  | [], _, config => config
  | [k], value, config =>
    match asMapping config with
    | .map entries => .map (Yaml.Entries.put k value entries)
    | config => config
  | k :: ks, value, config =>
    match asMapping config with
    | .map entries => .map (Yaml.Entries.alter k empty (set ks value) entries)
    | config => config

/-- Changes the value under a name, also inside tags, if it is there. -/
def alterExisting (k : String) (f : Yaml → Yaml) : Yaml → Yaml
  | .tagged name v => .tagged name (alterExisting k f v)
  | .map entries =>
    if (Yaml.Entries.get? k entries).isSome then .map (Yaml.Entries.alter k empty f entries)
    else .map entries
  | v => v

/-- Removes the entry at the end of a path of names, if it is there. -/
def remove : List String → Yaml → Yaml
  | [], config => config
  | [k], config =>
    match config with
    | .map entries => .map (Yaml.Entries.erase k entries)
    | config => config
  | k :: ks, config => alterExisting k (remove ks) config

/-- Sets an entry, or removes it if there is no value. -/
def setOrRemove (path : List String) (value : Option String) (config : Yaml) : Yaml :=
  match value with
  | some s => set path (.str s) config
  | none => remove path config

/-! ### Recording an outcome -/

/-- The entries about WSL, with their values in an outcome. -/
def wslEntries (result : StoreOutcome) : List (List String × Option String) :=
  [(["engine", "wsl", "distro"], result.distro),
    (["engine", "wsl", "stateDir"], result.stateDir),
    (["engine", "wsl", "mount", "device"], result.mountDevice),
    (["engine", "wsl", "mount", "fstype"], result.mountFsType),
    (["engine", "wsl", "mount", "deviceUUID"], result.mountDeviceUuid),
    (["engine", "wsl", "mount", "unit"], result.mountUnit)]

/-- Records the backend and the store, and how the store is mounted while it is
in WSL. -/
def record (outcome : InitOutcome) (config : Yaml) : Yaml :=
  let config := set ["snapshot", "backend"] (.str outcome.backend.name) config
  let config := set ["engine", "storePath"] (.str outcome.storePath) config
  match outcome.wslMode with
  | none => remove ["engine", "wsl"] config
  | some mode =>
    (wslEntries outcome.result).foldl (fun config e => setOrRemove e.1 e.2 config)
      (set ["engine", "wsl", "mode"] (.str mode.name) config)

end Config

end BtrfsStore
