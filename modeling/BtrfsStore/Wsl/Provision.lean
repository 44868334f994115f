import BtrfsStore.Distro
import BtrfsStore.Request
import BtrfsStore.StoreContent
import BtrfsStore.StoreOutcome
import BtrfsStore.Wsl.Readiness
import BtrfsStore.Wsl.StoreDisk
/-!
# BtrfsStore.Wsl.Provision

The store of a Windows host: a virtual disk that is attached to WSL, formatted
as btrfs and mounted by a systemd unit below the state directory of the
distro's user, so that it survives restarts of the distro.

Failures come in three tiers. Without a usable WSL there is no store at all. A
stage that fails after that makes the outcome a fallback which keeps the
warnings so far. Steps that only clean up never fail a run.
-/

namespace BtrfsStore.Wsl

/-- The advice at the end of every run that got as far as a distro. -/
def shutdownHint : String :=
  "If WSL was already running, restart it with \x60wsl.exe --shutdown\x60 so the store mount is "
    ++ "picked up by every session"

/-- The disk file behind the store of a request. -/
def diskPath (request : StoreRequest) (storeRoot : Option Path) : Except Failure Path :=
  match request.storeKind, request.storePath with
  | .image, some path => .ok path
  | _, _ =>
    match storeRoot with
    | some root => .ok (root.child StoreRoot.virtualDiskName)
    | none =>
      .error (.operation "cannot resolve the store root; set LOCALAPPDATA or SQLRS_STATE_STORE")

/-! ### Stages -/

/-- A run whose outcome is filled in stage by stage and kept when a stage
fails. -/
abbrev Stages (α : Type) : Type := ExceptT Failure (StateT StoreOutcome Action) α

/-- An attempt as a stage of a run. -/
def stage {α : Type} (s : Stage) (x : Attempt α) : Stages α :=
  ExceptT.mk (StateT.lift (x.inStage s).outcome)

/-- A step that reports its failures itself. -/
def step {α : Type} (x : Attempt α) : Stages α := ExceptT.mk (StateT.lift x.outcome)

/-- Changes the outcome. -/
def update (f : StoreOutcome → StoreOutcome) : Stages Unit :=
  ExceptT.lift (modify f)

/-- Fails unless the session is elevated. -/
def checkElevation : Attempt Unit := do
  if ← VirtualDisk.isElevated .host then
    return
  throw (.operation "run the terminal as Administrator to create and attach the virtual disk")

/-- Makes the distro ready; whether privileged commands enter the namespace of
the first process. -/
def prepareDistro (request : StoreRequest) (distro : String) : Stages Bool := do
  let user := Target.wsl distro
  let plainRoot := Target.wslRoot distro false
  if !request.noStart then
    discard <| stage .distroStart
      (user.runWithin Limit.start "start WSL distro" "true" [])
  stage .kernelSupport (ensureKernelSupport user plainRoot)
  let nsenter ← stage .toolInstall (ensureTools user plainRoot)
  if !nsenter then
    update (·.warn namespaceWarning)
  update fun o => { o with backendAvailable := true }
  stage .systemd (ensureSystemd user)
  match ← step (ExceptT.lift (dockerHealth .host)) with
  | some warning => update (·.warn warning)
  | none => pure ()
  stage .elevation checkElevation
  pure nsenter

/-- The state directory of the distro's user and the name of the unit that
mounts it. -/
def resolvePlace (distro : String) (root : Target) : Attempt (String × String) := do
  let stateDir ← resolveStateDir (.wsl distro)
  let unitName ← MountSupervision.unitName root stateDir
  pure (stateDir, unitName)

/-- Installs and starts a unit. -/
def mountUnit (root : Target) (verbose : Bool) (unit : MountUnit) : Attempt Unit := do
  MountSupervision.install root unit
  MountSupervision.activate root verbose unit

/-- The stages of a run inside a distro. -/
def runStages (request : StoreRequest) (storeRoot : Option Path) (distro : String) :
    Stages Unit := do
  let nsenter ← prepareDistro request distro
  let user := Target.wsl distro
  let root := Target.wslRoot distro nsenter
  let (stateDir, unitName) ← stage .stateDir (resolvePlace distro root)
  update fun o => { o with stateDir := some stateDir }
  let disk ← stage .virtualDisk (Attempt.ofExcept (diskPath request storeRoot))
  if request.reinit then
    stage .reinit (teardown .host root unitName stateDir disk)
  let attached ← step (attachStoreDisk .host user disk request.bytes)
  let device := attached.partition.path
  discard <| stage .format
    (Filesystem.ensure root device (attached.created || request.reinit))
  let (link, uuid) ← step (ExceptT.lift (findLink root device))
  if link.isNone then
    update (·.warn (linkWarning device))
  let unit : MountUnit :=
    { name := unitName, source := link.getD device, mountPoint := stateDir }
  stage .mount (mountUnit root request.verbose unit)
  discard <| stage .subvolumes (StoreContent.ensureSubvolumes root stateDir)
  discard <| stage .ownership (StoreContent.giveTo root user stateDir)
  update fun o =>
    { o with
      useStore := true
      storePath := some stateDir
      mountDevice := some device
      mountFsType := some btrfsType
      mountUnit := some unitName
      mountDeviceUuid := uuid }

/-! ### The run -/

/-- The outcome without a usable WSL. -/
def unavailable (request : StoreRequest) (reason : String) : Attempt StoreOutcome :=
  let failure := Failure.wslUnavailable reason
  if request.require then throw failure else pure (.fallback failure.message)

/-- The distro for a request, or why there is none. -/
def chooseDistro (request : StoreRequest) : Action (Except String Distro) := do
  if (← Action.locate wslProgram).isNone then
    return .error "wsl.exe not found on PATH"
  let asked := Target.host.runWithin Limit.quick "list WSL distros" wslProgram
    ["--list", "--verbose"]
  match ← asked.outcome with
  | .error f => return .error f.message
  | .ok listing => return Distro.select (Distro.ofListing listing) request.distro

/-- Makes the store of a request ready. If a stage fails, the outcome is a
fallback, unless the request insists on the store. -/
def provision (request : StoreRequest) (storeRoot : Option Path) : Attempt StoreOutcome := do
  match ← ExceptT.lift (chooseDistro request) with
  | .error reason => unavailable request reason
  | .ok distro =>
    let (ended, outcome) ← ExceptT.lift
      (((runStages request storeRoot distro.name).run).run { distro := some distro.name })
    match ended with
    | .ok () => pure (outcome.warn shutdownHint)
    | .error f =>
      if request.require then throw f else pure ((outcome.abandon f).warn shutdownHint)

end BtrfsStore.Wsl
