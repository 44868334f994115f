import BtrfsStore.Retry
import BtrfsStore.StoreRoot
import BtrfsStore.Text.Lines
import BtrfsStore.Text.Quoted
import BtrfsStore.VirtualDisk
/-!
# BtrfsStore.Wsl.Readiness

What has to be in place before a store is set up inside a distro: btrfs in the
kernel, the tools, systemd, and the directory for the state of the user. Also
the advisory check of the container runtime on the host.
-/

namespace BtrfsStore.Wsl

/-! ### The kernel -/

/-- Whether a listing of filesystems, as in `/proc/filesystems`, names
btrfs. -/
def listsBtrfs (filesystems : String) : Bool :=
  (Text.lines filesystems).any fun line => (Text.words line).getLast? == some "btrfs"

/-- The filesystems that the kernel of the distro knows. -/
def kernelFilesystems (user : Target) : Attempt String :=
  user.runWithin Limit.quick "read kernel filesystems" "cat" ["/proc/filesystems"]

/-- Fails unless the kernel knows btrfs, if need be after loading the
module. -/
def ensureKernelSupport (user root : Target) : Attempt Unit := do
  if listsBtrfs (← kernelFilesystems user) then
    return
  (root.runWithin Limit.quick "load btrfs module" "modprobe" ["btrfs"]).orIgnore
  if listsBtrfs (← kernelFilesystems user) then
    return
  throw (.operation ("btrfs is not listed in /proc/filesystems; update the WSL kernel "
    ++ "(wsl.exe --update)"))

/-! ### Tools -/

/-- The tool that formats. -/
def formatTool : String := "mkfs.btrfs"

/-- The tool that enters the mount namespace of the first process. -/
def namespaceTool : String := "nsenter"

/-- The tools that a distro needs, each with its package. -/
def tools : List (String × String) :=
  [(formatTool, "btrfs-progs"), (namespaceTool, "util-linux")]

/-- Whether the distro has a tool. -/
def hasTool (user : Target) (tool : String) : Attempt Bool := do
  match ← (user.runWithin Limit.quick "locate tool" "which" [tool]).observe with
  | .ok path => pure (!Text.isBlankText path)
  | .error f => if f.exitCode.isSome then pure false else throw f

/-- The tools that the distro does not have. -/
def missingTools (user : Target) : Attempt (List (String × String)) :=
  tools.filterM fun tool => not <$> hasTool user tool.1

/-- Installs missing tools. The answer tells whether `nsenter` is there; it is
the one tool that may stay missing as long as formatting is possible. -/
def ensureTools (user root : Target) : Attempt Bool := do
  let missing ← missingTools user
  if missing.isEmpty then
    return true
  discard <| root.runWithin Limit.install "refresh package index" "apt-get" ["update", "-q"]
  discard <| root.runWithin Limit.install "install packages" "apt-get"
    (["install", "-y", "-q"] ++ missing.map (·.2))
  let missing ← missingTools user
  if missing.any (·.1 == formatTool) then
    throw (.missingTools (missing.map (·.1)))
  return !missing.any (·.1 == namespaceTool)

/-- The warning about a distro without `nsenter`. -/
def namespaceWarning : String :=
  "nsenter unavailable inside WSL; privileged commands run without entering the init mount "
    ++ "namespace"

/-! ### Systemd -/

/-- How to get systemd running in a distro. -/
def systemdHint : String :=
  "enable it with [boot] systemd=true in /etc/wsl.conf, then run wsl.exe --shutdown"

/-- What the state that systemd reports means: whether it is ready, or nothing
while it is starting. -/
def isReadyState (state : String) : Option Bool :=
  if state = "running" ∨ state = "degraded" then some true
  else if state = "starting" ∨ state = "initializing" then none
  else some false

/-- Asks once whether systemd is ready; the monad's state keeps the last state
that was read. -/
def askSystemd (user : Target) : StateT String Action (Option Bool) := do
  let asked := user.runWithin Limit.quick "check systemd" "sh"
    ["-c", "systemctl is-system-running 2>/dev/null || true"]
  match ← asked.outcome with
  | .ok output =>
    let state := Text.trim output
    set state
    pure (isReadyState state)
  | .error _ => pure none

/-- Fails unless systemd is running, if need be after waiting for it. -/
def ensureSystemd (user : Target) : Attempt Unit := do
  let (ready, last) ← (Retry.systemdSettle.poll (askSystemd user)).run ""
  if ready = some true then
    return
  let state := if last.isEmpty then "unknown" else last
  throw (.operation
    ("systemd is not running in the distro (state " ++ state ++ "); " ++ systemdHint))

/-! ### The state directory -/

/-- The directory of the store inside the distro. -/
def resolveStateDir (user : Target) : Attempt String := do
  let output ← user.runWithin Limit.quick "resolve state directory" "sh"
    ["-c", StoreRoot.stateBaseScript]
  let base := Text.dropTrailingSlashes (Text.trim output)
  if !base.startsWith "/" then
    throw (.operation
      ("state directory base " ++ Text.quoted base ++ " is not an absolute path"))
  pure (base ++ "/" ++ StoreRoot.storeSubdir)

/-! ### The container runtime -/

/-- The answer of a script, or nothing if it fails. -/
def askPowershell (outside : Target) (description script : String) : Action (Option String) := do
  let asked := outside.runWithin Limit.quick description VirtualDisk.powershellProgram
    (VirtualDisk.powershellArgs script)
  match ← asked.outcome with
  | .ok output => pure (some (Text.trim output))
  | .error _ => pure none

/-- Whether the command line client of Docker reaches its server. -/
def dockerAnswers (outside : Target) : Action Bool := do
  if (← Action.locate "docker").isNone then
    return false
  let asked := outside.runWithin Limit.quick "check Docker engine" "docker"
    ["version", "--format", "\x7b\x7b.Server.Version\x7d\x7d"]
  match ← asked.outcome with
  | .ok version => return !Text.isBlankText version
  | .error _ => return false

/-- The warning about a container runtime that does not run. -/
def dockerWarning : String :=
  "Docker Desktop does not appear to be running; the engine may fail to start containers "
    ++ "until it is"

/-- A warning unless the container runtime looks healthy. The probes grow
weaker, and the first that succeeds ends the check. -/
def dockerHealth (outside : Target) : Action (Option String) := do
  let service ← askPowershell outside "check Docker Desktop service"
    "(Get-Service -Name com.docker.service -ErrorAction Stop).Status"
  if service = some "Running" then
    return none
  let pipe ← askPowershell outside "check Docker engine pipe"
    "Test-Path '\\\\.\\pipe\\docker_engine'"
  if pipe.any (Text.sameAscii · "true") then
    return none
  if ← dockerAnswers outside then
    return none
  return some dockerWarning

end BtrfsStore.Wsl
