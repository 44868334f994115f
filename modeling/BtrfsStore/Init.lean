import BtrfsStore.Config
import BtrfsStore.Platform
/-!
# BtrfsStore.Init

Initializing a workspace: checking the options, choosing the snapshot backend,
making the store and recording the outcome in the config of the workspace.
-/

namespace BtrfsStore

/-- The options of a run. -/
structure InitOptions where
  workspace : Path := ⟨"."⟩
  snapshot : SnapshotBackend := .auto
  storeKind : StoreKind := .dir
  storePath : Option Path := none
  /-- The size of an image in GB. -/
  storeSize : Option Nat := none
  /-- Allow to change a workspace that is initialized. -/
  update : Bool := false
  /-- Destroy the store and create it anew. -/
  reinit : Bool := false
  distro : Option String := none
  noStart : Bool := false
  /-- Report as JSON. -/
  json : Bool := false
  deriving Repr, DecidableEq, Inhabited

/-! ### Faults -/

/-- Why a workspace could not be initialized. -/
inductive InitFault where
  | sizeWithoutImage
  | sizeTooSmall
  | deviceWithoutPath
  | deviceOnWindows
  | overlayOffLinux
  | reinitWithoutUpdate
  | alreadyInitialized
  | noStoreDirectory
  | storeDirectoryNotCreated (path : Path) (fault : FileFault)
  | provisioning (failure : Failure)
  | storeWithoutPath
  | config (fault : ConfigFault)
  deriving Repr, DecidableEq

namespace InitFault

/-- The wording of a fault and of what caused it, the fault itself first. -/
def chain : InitFault → List String
  | .sizeWithoutImage => ["--store-size requires --store image"]
  | .sizeTooSmall => ["--store-size must be at least 1 GB"]
  | .deviceWithoutPath => ["--store device requires --store-path"]
  | .deviceOnWindows => ["device stores are not supported on Windows; use --store image"]
  | .overlayOffLinux => ["the overlay snapshot backend is only available on Linux"]
  | .reinitWithoutUpdate => ["--reinit requires --update"]
  | .alreadyInitialized =>
    ["workspace already initialized; rerun with --update to change it"]
  | .noStoreDirectory =>
    ["cannot determine the store directory; set SQLRS_STATE_STORE or pass --store-path"]
  | .storeDirectoryNotCreated path fault =>
    ["failed to create store directory " ++ path.text, fault.message]
  | .provisioning failure => "btrfs store provisioning failed" :: failure.chain
  | .storeWithoutPath => ["provisioner reported a store without a path"]
  | .config fault => fault.chain

/-- The wording on one line. -/
def message (f : InitFault) : String := Text.joinWith ": " f.chain

/-- A text whose lines after the first are indented. -/
def indented (columns : Nat) (s : String) : String :=
  Text.joinWith ("\n" ++ String.ofList (List.replicate columns ' ')) (s.splitOn "\n")

/-- The causes, each with its number. -/
def numbered : Nat → List String → List String
  | _, [] => []
  | n, s :: rest =>
    let number := toString n
    let column := String.ofList (List.replicate (5 - number.length) ' ') ++ number
    ("\n" ++ column ++ ": " ++ indented 7 s) :: numbered (n + 1) rest

/-- The wording as it is shown at the end of a failed run. -/
def report (f : InitFault) : String :=
  let causes := match f.chain.drop 1 with
    | [] => ""
    | [cause] => "\n\nCaused by:\n    " ++ indented 4 cause
    | many => "\n\nCaused by:" ++ String.join (numbered 0 many)
  "Error: " ++ f.chain.headD "" ++ causes ++ "\n"

end InitFault

namespace Init

/-! ### Options -/

/-- The first fault of the options. -/
def firstFault (o : InitOptions) (platform : Platform) (configExists : Bool) : Option InitFault :=
  if o.storeSize.isSome ∧ o.storeKind ≠ .image then some .sizeWithoutImage
  else if o.storeSize = some 0 then some .sizeTooSmall
  else if o.storeKind = .device ∧ o.storePath.isNone then some .deviceWithoutPath
  else if o.storeKind = .device ∧ platform = .windows then some .deviceOnWindows
  else if o.snapshot = .overlay ∧ platform ≠ .linux then some .overlayOffLinux
  else if o.reinit ∧ !o.update then some .reinitWithoutUpdate
  else if configExists ∧ !o.update then some .alreadyInitialized
  else none

/-- Rejects options that make no sense before anything is touched. -/
def validate (o : InitOptions) (platform : Platform) (configExists : Bool) :
    Except InitFault Unit :=
  match firstFault o platform configExists with
  | some fault => .error fault
  | none => .ok ()

/-- The request to the platform. -/
def request (o : InitOptions) (require verbose : Bool) : StoreRequest :=
  { snapshotBackend := o.snapshot, storeKind := o.storeKind, storePath := o.storePath,
    sizeGb := o.storeSize, reinit := o.reinit, distro := o.distro, noStart := o.noStart,
    verbose, require }

/-! ### Backends -/

/-- How a backend is come by. -/
inductive BackendPlan where
  /-- Make a store; without one, use `fallback` in a plain directory. -/
  | provision (require : Bool) (fallback : SnapshotBackend)
  /-- Use the backend in a plain directory. -/
  | plain (backend : SnapshotBackend)
  deriving Repr, DecidableEq

/-- The backend of a platform without a store. -/
def fallbackBackend : Platform → SnapshotBackend
  | .linux => .overlay
  | _ => .copy

/-- How a platform comes by the backend that the user asks for. -/
def planBackend (snapshot : SnapshotBackend) (platform : Platform) : BackendPlan :=
  match snapshot with
  | .overlay | .copy => .plain snapshot
  | .btrfs => .provision true (fallbackBackend platform)
  | .auto => .provision false (fallbackBackend platform)

/-! ### The outcome -/

/-- An action that ends with a value or a fault. -/
abbrev Run (α : Type) : Type := ExceptT InitFault Action α

/-- The directory of a workspace without a btrfs store, which is created. -/
def plainDirectory (o : InitOptions) (storeRoot : Option Path) : Run Path := do
  let explicit := if o.storeKind = .dir then o.storePath else none
  match explicit.or storeRoot with
  | none => throw .noStoreDirectory
  | some dir =>
    match ← ExceptT.lift (Action.query (.makeDirectories dir)) with
    | .ok () => pure dir
    | .error fault => throw (.storeDirectoryNotCreated dir fault)

/-- The outcome with a plain directory. -/
def plainOutcome (backend : SnapshotBackend) (dir : Path) (result : StoreOutcome) : InitOutcome :=
  { backend, storePath := dir.text, wslMode := none
    result := { result with storePath := some dir.text } }

/-- The outcome with a btrfs store. -/
def storeOutcome (platform : Platform) (require : Bool) (result : StoreOutcome) :
    Except InitFault InitOutcome :=
  match result.storePath with
  | none => .error .storeWithoutPath
  | some storePath =>
    let mode := if require then WslMode.required else .auto
    .ok { backend := .btrfs, storePath, result
          wslMode := if platform = .windows then some mode else none }

/-- Settles on a backend and a store; `provision` makes the store if one is
wanted. -/
def resolve (o : InitOptions) (platform : Platform) (verbose : Bool)
    (provision : StoreRequest → Attempt StoreOutcome) (storeRoot : Option Path) :
    Run InitOutcome := do
  match planBackend o.snapshot platform with
  | .plain backend =>
    let dir ← plainDirectory o storeRoot
    pure (plainOutcome backend dir {})
  | .provision require fallback =>
    match ← ExceptT.lift (provision (request o require verbose)).outcome with
    | .error f => throw (.provisioning f)
    | .ok result =>
      if result.useStore then ExceptT.mk (pure (storeOutcome platform require result))
      else
        let dir ← plainDirectory o storeRoot
        pure (plainOutcome fallback dir result)

/-! ### The whole run -/

/-- A step on the config. -/
def onConfig {α : Type} (x : ExceptT ConfigFault Action α) : Run α :=
  ExceptT.mk ((Except.mapError InitFault.config) <$> x.run)

/-- What a run shows: its report or its fault, and its warnings in any
case. -/
structure Shown where
  report : Except InitFault String
  warnings : String := ""

/-- Records an outcome in the config and reports it. -/
def finish (o : InitOptions) (outcome : InitOutcome) : Run String := do
  let path := Config.pathIn o.workspace
  let config ← onConfig (Config.load path)
  onConfig (Config.save path (Config.record outcome config))
  pure (if o.json then outcome.reportJson path ++ "\n" else outcome.report path)

/-- Checks the options and settles on an outcome. -/
def settle (o : InitOptions) (platform : Platform) (verbose : Bool) (storeRoot : Option Path) :
    Run InitOutcome := do
  let configExists ← ExceptT.lift (Action.pathExists (Config.pathIn o.workspace))
  ExceptT.mk (pure (validate o platform configExists))
  resolve o platform verbose (platform.provision · storeRoot) storeRoot

/-- Initializes a workspace. -/
def run (o : InitOptions) (platform : Platform) (verbose : Bool) (storeRoot : Option Path) :
    Action Shown := do
  match ← (settle o platform verbose storeRoot).run with
  | .error fault => pure { report := .error fault }
  | .ok outcome =>
    let report ← (finish o outcome).run
    pure { report, warnings := InitOutcome.warningText outcome.result }

end Init

end BtrfsStore
