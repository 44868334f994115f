import BtrfsStore.Json.Record
/-!
# BtrfsStore.InitOutcome

What initializing a workspace settled on, and how it is reported.
-/

namespace BtrfsStore

/-- How WSL came to hold the store of a workspace. -/
inductive WslMode where
  /-- The store was made where possible. -/
  | auto
  /-- The user asked for the store. -/
  | required
  deriving Repr, DecidableEq

/-- The name of a mode. -/
def WslMode.name : WslMode → String
  | .auto => "auto"
  | .required => "required"

/-- What initializing a workspace settled on. -/
structure InitOutcome where
  /-- How snapshots are taken. -/
  backend : SnapshotBackend
  storePath : String
  /-- Set while the store is in WSL. -/
  wslMode : Option WslMode
  result : StoreOutcome
  deriving Repr, DecidableEq

namespace InitOutcome

/-! ### Reports -/

/-- The line about the mounted device. -/
def deviceLine (result : StoreOutcome) : Option String :=
  result.mountDevice.map fun device =>
    match result.mountDeviceUuid with
    | some uuid => "Mount device: " ++ device ++ " (UUID " ++ uuid ++ ")"
    | none => "Mount device: " ++ device

/-- The lines of the report for people. -/
def reportLines (o : InitOutcome) (configPath : Path) : List String :=
  [some ("Workspace config: " ++ configPath.text),
    some ("Snapshot backend: " ++ o.backend.name),
    some ("Store path: " ++ o.storePath),
    if o.wslMode.isSome then o.result.distro.map ("WSL distro: " ++ ·) else none,
    o.result.mountUnit.map ("Mount unit: " ++ ·),
    deviceLine o.result].reduceOption

/-- The report for people. -/
def report (o : InitOutcome) (configPath : Path) : String :=
  String.join ((o.reportLines configPath).map (· ++ "\n"))

/-- The report for programs. -/
def reportJson (o : InitOutcome) (configPath : Path) : String :=
  (Json.obj
    [("configPath", .str configPath.text),
      ("snapshotBackend", o.backend.toJson),
      ("storePath", .str o.storePath),
      ("wslMode", Json.ofText? (o.wslMode.map WslMode.name)),
      ("store", o.result.toJson)]).sortMembers.pretty

/-- The warnings as they are shown, one line each. -/
def warningText (result : StoreOutcome) : String :=
  String.join (result.warnings.map fun line => "warning: " ++ line ++ "\n")

end InitOutcome

end BtrfsStore
