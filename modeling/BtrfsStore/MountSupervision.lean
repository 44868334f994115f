import BtrfsStore.Filesystem
/-!
# BtrfsStore.MountSupervision

Mount units under systemd: naming, installing, starting and removing the unit
that mounts a store. All commands run on `root`, a target with root rights on
the machine that runs systemd.
-/

namespace BtrfsStore.MountSupervision

/-- How many lines of the journal are shown for a unit that does not start. -/
def journalLines : String := "20"

/-- The name of the unit for a mount point, as systemd escapes it. -/
def unitName (root : Target) (dir : String) : Attempt String := do
  let output ← root.runWithin Limit.quick "escape mount unit name" "systemd-escape"
    ["--path", "--suffix=mount", dir]
  let name := Text.trim output
  if name.isEmpty then
    throw (.invalidMountUnit ("systemd-escape returned nothing for " ++ dir))
  pure name

/-- Fails for a unit that lacks a part. -/
def check (unit : MountUnit) : Attempt Unit :=
  match unit.firstFault with
  | some fault => throw (.invalidMountUnit fault)
  | none => pure ()

/-- Writes the file of a unit, and has systemd read and enable it. -/
def install (root : Target) (unit : MountUnit) : Attempt Unit := do
  check unit
  discard <| root.runWithin Limit.quick "create mount target" "mkdir" ["-p", unit.mountPoint]
  discard <| root.feed "write mount unit" "tee" [unit.unitPath] unit.render
  discard <| root.run "reload systemd units" "systemctl" ["daemon-reload"]
  discard <| root.run "enable mount unit" "systemctl" ["enable", unit.name]

/-- Whether a unit is active. Any exit code other than zero means that it is
not. -/
def isActive (root : Target) (name : String) : Attempt Bool := do
  let asked := root.runWithin Limit.quick "check mount unit state" "systemctl" ["is-active", name]
  match ← asked.observe with
  | .ok output => pure (Text.trim output == "active")
  | .error f => if f.exitCode.isSome then pure false else throw f

/-- The end of the journal of a unit, if there is any. -/
def journal (root : Target) (name : String) : Action (Option String) := do
  let asked := root.runWithin Limit.quick "read mount unit journal" "journalctl"
    ["-u", name, "-n", journalLines, "--no-pager"]
  match ← asked.outcome with
  | .ok output =>
    let text := Text.trim output
    pure (if text.isEmpty then none else some text)
  | .error _ => pure none

/-- Starts a unit. With `verbose`, a failure to start shows the journal. -/
def start (root : Target) (verbose : Bool) (name : String) : Attempt Unit := do
  match ← (root.run "start mount unit" "systemctl" ["start", name]).observe with
  | .ok _ => pure ()
  | .error f =>
    if verbose then
      match ← journal root name with
      | some text =>
        throw (.operation (f.message ++ "\nrecent journal for " ++ name ++ ":\n" ++ text))
      | none => throw f
    else throw f

/-- Looks once whether `dir` shows the filesystem `expected`; the state keeps
the last type that was seen there. -/
def lookForType (root : Target) (dir expected : String) :
    StateT (Option String) Action (Option Unit) := do
  match ← (Filesystem.mountPointType root dir).outcome with
  | .ok seen =>
    if seen = some expected then pure (some ())
    else
      set seen
      pure none
  | .error _ => pure none

/-- Waits until `dir` shows the filesystem `expected`. -/
def awaitType (root : Target) (dir expected : String) : Attempt Unit := do
  let (found, lastSeen) ← (Retry.mountSettle.poll (lookForType root dir expected)).run none
  match found with
  | some () => pure ()
  | none => throw (.mountTypeMismatch dir expected (lastSeen.getD "nothing"))

/-- Starts a unit if it is not active and waits for its mount. -/
def activate (root : Target) (verbose : Bool) (unit : MountUnit) : Attempt Unit := do
  check unit
  if !(← isActive root unit.name) then
    start root verbose unit.name
  awaitType root unit.mountPoint unit.fsType

/-- Stops, disables and removes a unit. Every step is tried, and none has to
succeed, since the unit may be gone already. -/
def teardown (root : Target) (name : String) : Action Unit := do
  let step (description program : String) (args : List String) : Action Unit :=
    (root.runWithin Limit.quick description program args).orIgnore
  step "stop mount unit" "systemctl" ["stop", name]
  step "disable mount unit" "systemctl" ["disable", name]
  step "remove mount unit" "rm" ["-f", MountUnit.pathOf name]
  step "reload systemd units" "systemctl" ["daemon-reload"]

end BtrfsStore.MountSupervision
