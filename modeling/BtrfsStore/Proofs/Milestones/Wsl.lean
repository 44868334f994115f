import BtrfsStore.Proofs.Creation
import BtrfsStore.Proofs.Milestones
import BtrfsStore.Proofs.Reinit
/-!
# BtrfsStore.Proofs.Milestones.Wsl

What the history shows once a part of a run inside a WSL distro has done its
work, from the start of the distro to the link to a formatted device. The parts
that both platforms share are in `BtrfsStore.Proofs.Milestones`.

Where a part asks again and again, only its last answers count: they are what
the milestone is read off.
-/

namespace BtrfsStore.Wsl

open Attempt Filesystem

variable {user root : Target} {distro : String} {h : History}

/-! ### The start -/

def startDistro (user : Target) : Command :=
  { target := user, description := "start WSL distro", program := "true"
    args := [], limit := Limit.start }

/-- The distro runs commands. -/
def DistroStarted (user : Target) (h : History) : Prop :=
  ∃ output, h = [(startDistro user).event (.ok output)]

/-- A distro is started by a command that does nothing else. -/
theorem start_attains (user : Target) :
    (discard (user.runWithin Limit.start "start WSL distro" "true" []) : Attempt Unit).Attains
      (Query.Within (startSteps user)) fun _ h => DistroStarted user h where
  asked := by
    intro h r hl
    obtain ⟨a, rfl, -⟩ := leads_discard_runWithin.mp hl
    simp [startSteps, Command.Takes]
  reached _ _ hl := leads_discard_ok hl
  plain := failsPlainly_discard (failsPlainly_run _)

/-! ### The kernel -/

def filesystemsQuestion (user : Target) : Command :=
  { target := user, description := "read kernel filesystems", program := "cat"
    args := ["/proc/filesystems"], limit := Limit.quick }

/-- The last listing of the filesystems of the kernel names btrfs. -/
def KernelReady (user : Target) (h : History) : Prop :=
  ∃ pre output, h = pre ++ [(filesystemsQuestion user).event (.ok output)] ∧
    listsBtrfs output = true

/-- The kernel is ready when its list of filesystems has named btrfs. -/
theorem ensureKernelSupport_attains (user root : Target) :
    (ensureKernelSupport user root).Attains (Query.Within (kernelSteps user root))
      fun _ h => KernelReady user h where
  asked _ _ hl := (asks_ensureKernelSupport user root).within.of_mem hl
  reached := by
    intro h u hl
    unfold ensureKernelSupport at hl
    obtain ⟨h₁, listed, h₂, hlisted, hrest, rfl⟩ := leads_bind_ok.mp hl
    obtain rfl := leads_runWithin.mp hlisted
    rw [outcome_ite] at hrest
    split at hrest
    next hbtrfs =>
      obtain ⟨rfl, -⟩ := Action.leads_done.mp hrest
      exact ⟨[], listed, rfl, hbtrfs⟩
    next =>
      obtain ⟨h₃, v, h₄, -, hagain, rfl⟩ := leads_bind_ok.mp hrest
      obtain ⟨h₅, relisted, h₆, hrelisted, hend, rfl⟩ := leads_bind_ok.mp hagain
      obtain rfl := leads_runWithin.mp hrelisted
      rw [outcome_ite] at hend
      split at hend
      next hbtrfs =>
        obtain ⟨rfl, -⟩ := Action.leads_done.mp hend
        exact ⟨(filesystemsQuestion user).event (.ok listed) :: h₃, relisted, rfl, hbtrfs⟩
      next => cases (Action.leads_done.mp hend).2
  plain := by
    refine failsPlainly_bind (failsPlainly_run _) fun listed => ?_
    refine failsPlainly_ite (failsPlainly_pure _) ?_
    refine failsPlainly_bind (failsPlainly_lift _) fun _ => ?_
    refine failsPlainly_bind (failsPlainly_run _) fun relisted => ?_
    exact failsPlainly_ite (failsPlainly_pure _) (failsPlainly_throw rfl)

/-! ### Tools -/

def toolQuestion (user : Target) (tool : String) : Command :=
  { target := user, description := "locate tool", program := "which"
    args := [tool], limit := Limit.quick }

/-- The answer to the question for a tool is a path. -/
def Located : Except Failure String → Prop
  | .ok path => Text.isBlankText path = false
  | .error _ => False

/-- By the last answers, the tool that formats is there, and `nsenter` tells
whether the other one is. -/
def ToolsLocated (user : Target) (nsenter : Bool) (h : History) : Prop :=
  ∃ pre a b, h = pre ++ [(toolQuestion user formatTool).event a,
      (toolQuestion user namespaceTool).event b] ∧
    Located a ∧ (nsenter = true ↔ Located b)

/-- A tool is there if `which` says so. -/
theorem leads_hasTool {tool : String} {found : Bool}
    (hl : (hasTool user tool).outcome.Leads h (.ok found)) :
    ∃ a, h = [(toolQuestion user tool).event a] ∧ (found = true ↔ Located a) := by
  unfold hasTool at hl
  obtain ⟨a, h₂, rfl, hrest⟩ := leads_observe_runWithin.mp hl
  cases a with
  | ok path =>
    obtain ⟨rfl, hfound⟩ := Action.leads_done.mp hrest
    obtain rfl := Except.ok.inj hfound
    exact ⟨.ok path, rfl, by simp [Located]⟩
  | error f =>
    rw [outcome_ite] at hrest
    split at hrest
    · obtain ⟨rfl, hfound⟩ := Action.leads_done.mp hrest
      obtain rfl := Except.ok.inj hfound
      exact ⟨.error f, rfl, by simp [Located]⟩
    · cases (Action.leads_done.mp hrest).2

/-- The list of the missing tools goes by two answers. -/
theorem leads_missingTools {missing : List (String × String)}
    (hl : (missingTools user).outcome.Leads h (.ok missing)) :
    ∃ a b, h = [(toolQuestion user formatTool).event a,
        (toolQuestion user namespaceTool).event b] ∧
      (missing.any (·.1 == formatTool) = false ↔ Located a) ∧
      (missing.any (·.1 == namespaceTool) = false ↔ Located b) := by
  unfold missingTools at hl
  simp only [tools, List.filterM, List.filterAuxM, bind_assoc] at hl
  obtain ⟨h₁, first, h₂, hfirst, hrest, rfl⟩ := leads_bind_ok.mp hl
  obtain ⟨h₃, second, h₄, hsecond, hend, rfl⟩ := leads_bind_ok.mp hrest
  rw [outcome_map, Action.leads_map] at hfirst hsecond
  obtain ⟨f | found, hfound, hr⟩ := hfirst
  · cases hr
  obtain ⟨a, rfl, ha⟩ := leads_hasTool hfound
  obtain ⟨f | found', hfound', hr'⟩ := hsecond
  · cases hr'
  obtain ⟨b, rfl, hb⟩ := leads_hasTool hfound'
  obtain rfl := Except.ok.inj hr
  obtain rfl := Except.ok.inj hr'
  obtain ⟨rfl, hmissing⟩ := Action.leads_done.mp hend
  obtain rfl := Except.ok.inj hmissing
  refine ⟨a, b, rfl, ?_, ?_⟩
  · rw [← ha]
    cases found <;> cases found' <;> decide
  · rw [← hb]
    cases found <;> cases found' <;> decide

theorem failsPlainly_missingTools (user : Target) : (missingTools user).FailsPlainly := by
  have hnot : ∀ tool, (not <$> hasTool user tool).FailsPlainly := by
    intro tool
    refine failsPlainly_bind ?_ fun _ => failsPlainly_pure _
    refine failsPlainly_observe_bind (failsPlainly_run _) (fun _ => failsPlainly_pure _)
      fun f hf => ?_
    exact failsPlainly_ite (failsPlainly_pure _) (failsPlainly_throw hf)
  unfold missingTools
  simp only [tools, List.filterM, List.filterAuxM, bind_assoc]
  refine failsPlainly_bind (hnot _) fun _ => failsPlainly_bind (hnot _) fun _ => ?_
  exact failsPlainly_pure _

/-- The tool for formatting has to be located; the one for namespaces is asked for last and
need not be. -/
theorem ensureTools_attains (user root : Target) :
    (ensureTools user root).Attains (Query.Within (toolSteps user root)) (ToolsLocated user) where
  asked _ _ hl := (asks_ensureTools user root).within.of_mem hl
  reached := by
    intro h nsenter hl
    unfold ensureTools at hl
    obtain ⟨h₁, missing, h₂, hmissing, hrest, rfl⟩ := leads_bind_ok.mp hl
    obtain ⟨a, b, rfl, ha, hb⟩ := leads_missingTools hmissing
    rw [outcome_ite] at hrest
    split at hrest
    next hnone =>
      obtain ⟨rfl, hnsenter⟩ := Action.leads_done.mp hrest
      obtain rfl := Except.ok.inj hnsenter
      obtain rfl := List.isEmpty_iff.mp hnone
      exact ⟨[], a, b, rfl, ha.mp rfl, iff_of_true rfl (hb.mp rfl)⟩
    next =>
      -- After an installation the tools are looked for again, and these answers count.
      obtain ⟨h₃, u, h₄, -, hinstall, rfl⟩ := leads_bind_ok.mp hrest
      obtain ⟨h₅, v, h₆, -, hagain, rfl⟩ := leads_bind_ok.mp hinstall
      obtain ⟨h₇, still, h₈, hstill, hend, rfl⟩ := leads_bind_ok.mp hagain
      obtain ⟨a', b', rfl, ha', hb'⟩ := leads_missingTools hstill
      rw [outcome_ite] at hend
      split at hend
      next => cases (Action.leads_done.mp hend).2
      next hformat =>
        obtain ⟨rfl, hnsenter⟩ := Action.leads_done.mp hend
        obtain rfl := Except.ok.inj hnsenter
        refine ⟨(toolQuestion user formatTool).event a
          :: (toolQuestion user namespaceTool).event b :: (h₃ ++ h₅), a', b', by simp, ?_, ?_⟩
        · exact ha'.mp (Bool.eq_false_iff.mpr hformat)
        · rw [Bool.not_eq_true', hb']
  plain := by
    refine failsPlainly_bind (failsPlainly_missingTools user) fun missing => ?_
    refine failsPlainly_ite (failsPlainly_pure _) ?_
    refine failsPlainly_bind (failsPlainly_discard (failsPlainly_run _)) fun _ => ?_
    refine failsPlainly_bind (failsPlainly_discard (failsPlainly_run _)) fun _ => ?_
    refine failsPlainly_bind (failsPlainly_missingTools user) fun still => ?_
    exact failsPlainly_ite (failsPlainly_throw rfl) (failsPlainly_pure _)

/-! ### Systemd -/

def systemdQuestion (user : Target) : Command :=
  { target := user, description := "check systemd", program := "sh"
    args := ["-c", "systemctl is-system-running 2>/dev/null || true"], limit := Limit.quick }

/-- The last answer says that systemd runs, if need be without some units. -/
def SystemdReady (user : Target) (h : History) : Prop :=
  ∃ pre output, h = pre ++ [(systemdQuestion user).event (.ok output)] ∧
    (Text.trim output = "running" ∨ Text.trim output = "degraded")

/-- systemd is ready in two of its states. -/
theorem isReadyState_true {state : String} (hready : isReadyState state = some true) :
    state = "running" ∨ state = "degraded" := by
  unfold isReadyState at hready
  split at hready
  next hstate => exact hstate
  next =>
    split at hready
    · cases hready
    · cases hready

/-- What an attempt makes of a reply. -/
def heard (last : String) : Except Failure String → Option Bool × String
  | .ok output => (isReadyState (Text.trim output), Text.trim output)
  | .error _ => (none, last)

/-- Asking systemd once is one command, and its reply is either decisive or kept. -/
theorem leads_askSystemd_iff {s : String} {p : Option Bool × String} :
    ((askSystemd user).run s).Leads h p ↔
      ∃ reply, h = [(systemdQuestion user).event reply] ∧ p = heard s reply := by
  have hask : (askSystemd user).run s
      = .ask (.run (systemdQuestion user)) fun reply => .done (heard s reply) := by
    refine congrArg (Action.ask (.run (systemdQuestion user))) (funext fun reply => ?_)
    cases reply <;> rfl
  rw [hask]
  exact Action.leads_ask_done

theorem leads_askSystemd {s s' : String}
    (hl : ((askSystemd user).run s).Leads h (some true, s')) : SystemdReady user h := by
  obtain ⟨reply, rfl, hheard⟩ := leads_askSystemd_iff.mp hl
  have hready : some true = (heard s reply).1 := congrArg Prod.fst hheard
  cases reply with
  | error f => cases hready
  | ok output => exact ⟨[], output, rfl, isReadyState_true hready.symm⟩

/-- Waiting for systemd succeeds with a reply that says it is ready. -/
theorem ensureSystemd_attains (user : Target) :
    (ensureSystemd user).Attains (Query.Within (systemdSteps user))
      fun _ h => SystemdReady user h where
  asked _ _ hl := (asks_ensureSystemd user).within.of_mem hl
  reached := by
    intro h u hl
    unfold ensureSystemd at hl
    obtain ⟨h₁, ⟨ready, last⟩, h₂, hpoll, hrest, rfl⟩ := leads_bind_ok.mp hl
    rw [outcome_liftM, Action.leads_map] at hpoll
    obtain ⟨⟨v, s⟩, hpoll, hpair⟩ := hpoll
    obtain ⟨rfl, rfl⟩ : ready = v ∧ last = s := by simpa using hpair
    rw [outcome_ite] at hrest
    split at hrest
    next hready =>
      obtain ⟨rfl, -⟩ := Action.leads_done.mp hrest
      rw [hready] at hpoll
      obtain ⟨n, -, h₀, s₁, h₃, -, hlast, rfl, -⟩ := Retry.leads_pollMore.mp hpoll
      obtain ⟨pre, output, rfl, hstate⟩ := leads_askSystemd hlast
      exact ⟨h₀ ++ pre, output, by simp, hstate⟩
    next => cases (Action.leads_done.mp hrest).2
  plain := by
    refine failsPlainly_bind (failsPlainly_lift _) fun found => ?_
    exact failsPlainly_ite (failsPlainly_pure _) (failsPlainly_throw rfl)

/-! ### Elevation -/

def elevationQuestion : Command :=
  { target := .host, description := "check Administrator privileges"
    program := VirtualDisk.powershellProgram
    args := VirtualDisk.powershellArgs VirtualDisk.elevationScript, limit := Limit.quick }

/-- The answer says that the session is elevated. -/
def ShowsElevated (output : String) : Prop := Text.sameAscii (Text.trim output) "true" = true

/-- The session is elevated. -/
def Elevated (h : History) : Prop :=
  ∃ output, h = [elevationQuestion.event (.ok output)] ∧ ShowsElevated output

/-- The session has said that it is elevated. -/
theorem checkElevation_attains :
    checkElevation.Attains (Query.Within (VirtualDisk.elevationSteps .host))
      fun _ h => Elevated h where
  asked _ _ hl := asks_checkElevation.within.of_mem hl
  reached := by
    intro h u hl
    unfold checkElevation at hl
    obtain ⟨h₁, elevated, h₂, hask, hrest, rfl⟩ := leads_bind_ok.mp hl
    obtain ⟨h₃, output, h₄, hasked, hdone, rfl⟩ := leads_bind_ok.mp hask
    obtain rfl := leads_runWithin.mp hasked
    obtain ⟨rfl, helevated⟩ := Action.leads_done.mp hdone
    cases elevated with
    | true =>
      obtain ⟨rfl, -⟩ := Action.leads_done.mp hrest
      exact ⟨output, rfl, (Except.ok.inj helevated).symm⟩
    | false => cases (Action.leads_done.mp hrest).2
  plain := by
    refine failsPlainly_bind ?_ fun elevated => ?_
    · exact failsPlainly_bind (failsPlainly_run _) fun _ => failsPlainly_pure _
    · exact failsPlainly_ite (failsPlainly_pure _) (failsPlainly_throw rfl)

/-! ### The place of the store -/

/-- The question for the name of the unit that mounts a directory. -/
def unitNameQuestion (root : Target) (dir : String) : Command :=
  { target := root, description := "escape mount unit name", program := "systemd-escape"
    args := ["--path", "--suffix=mount", dir], limit := Limit.quick }

/-- The state directory and the unit are those that the answers name; the
directory is an absolute path, and the name of the unit is not empty. -/
def PlaceResolved (distro : String) (root : Target) (place : String × String)
    (h : History) : Prop :=
  ∃ output name, h = [(stateDirQuestion distro).event (.ok output),
      (unitNameQuestion root place.1).event (.ok name)] ∧
    place.1 = stateDirOf output ∧ place.1.startsWith "/" = true ∧
    place.2 = Text.trim name ∧ place.2 ≠ ""

/-- The name of a unit is what `systemd-escape` prints, and not blank. -/
theorem leads_unitName {dir name : String}
    (hl : (MountSupervision.unitName root dir).outcome.Leads h (.ok name)) :
    ∃ output, h = [(unitNameQuestion root dir).event (.ok output)] ∧ name = Text.trim output ∧
      name ≠ "" := by
  unfold MountSupervision.unitName at hl
  obtain ⟨h₁, output, h₂, hask, hrest, rfl⟩ := leads_bind_ok.mp hl
  obtain rfl := leads_runWithin.mp hask
  dsimp only at hrest
  rw [outcome_ite] at hrest
  split at hrest
  next => cases (Action.leads_done.mp hrest).2
  next hname =>
    obtain ⟨rfl, hsame⟩ := Action.leads_done.mp hrest
    obtain rfl := Except.ok.inj hsame
    exact ⟨output, rfl, rfl, by simpa using hname⟩

/-- A place consists of the answers about the state directory and the name of the unit. -/
theorem resolvePlace_attains (distro : String) (root : Target) :
    (resolvePlace distro root).Attains (Query.Within (resolveSteps distro root))
      (PlaceResolved distro root) where
  asked _ _ hl := (asks_resolvePlace distro root).within.of_mem hl
  reached := by
    intro h place hl
    unfold resolvePlace at hl
    obtain ⟨h₁, stateDir, h₂, hdir, hrest, rfl⟩ := leads_bind_ok.mp hl
    obtain ⟨h₃, unitName, h₄, hname, hdone, rfl⟩ := leads_bind_ok.mp hrest
    obtain ⟨rfl, hplace⟩ := Action.leads_done.mp hdone
    obtain rfl := Except.ok.inj hplace
    obtain ⟨output, rfl, hstateDir, habsolute⟩ := leads_resolveStateDir hdir
    obtain ⟨name, rfl, hunit, hne⟩ := leads_unitName hname
    exact ⟨output, name, rfl, hstateDir, habsolute, hunit, hne⟩
  plain := by
    refine failsPlainly_bind ?_ fun stateDir => failsPlainly_bind ?_ fun _ => failsPlainly_pure _
    · refine failsPlainly_bind (failsPlainly_run _) fun output => ?_
      exact failsPlainly_ite (failsPlainly_throw rfl) (failsPlainly_pure _)
    · refine failsPlainly_bind (failsPlainly_run _) fun output => ?_
      exact failsPlainly_ite (failsPlainly_throw rfl) (failsPlainly_pure _)

/-- The path of the disk follows from the request without a question. -/
theorem diskPath_attains (request : StoreRequest) (storeRoot : Option Path) :
    (Attempt.ofExcept (diskPath request storeRoot)).Attains (fun _ => False)
      fun disk h => h = [] ∧ diskPath request storeRoot = .ok disk where
  asked := by
    intro h r hl
    obtain ⟨rfl, -⟩ := Action.leads_done.mp hl
    exact List.forall_mem_nil _
  reached := by
    intro h disk hl
    obtain ⟨rfl, hdisk⟩ := Action.leads_done.mp hl
    exact ⟨rfl, hdisk.symm⟩
  plain := by
    refine failsPlainly_ofExcept fun f hf => ?_
    unfold diskPath at hf
    split at hf
    · cases hf
    · split at hf
      · cases hf
      · cases hf
        rfl

/-! ### Making room -/

/-- Whether a question belongs to the teardown of the store on a disk file. -/
def TearsDown (root : Target) (disk : Path) (q : Query) : Prop :=
  q.Within (tearDownSteps root) ∨ q = .removeFile disk

/-- The store has been released, and its disk file is gone. -/
def TornDown (place : Place) (h : History) : Prop :=
  ∃ unit mount d₁ d₂ x,
    (∀ e ∈ unit, e.query.Within (MountSupervision.teardownSteps place.root)) ∧
    ReleaseRun place.root place.stateDir mount (.ok ()) ∧ Gone x ∧
    h = unit ++ mount ++ [(detachDisk place.disk).event d₁, (dismountDisk place.disk).event d₂,
      ⟨.removeFile place.disk, x⟩]

/-- After a teardown the mount and the disk file are gone. -/
theorem teardown_attains (place : Place) :
    (teardown .host place.root place.unitName place.stateDir place.disk).Attains
      (TearsDown place.root place.disk) fun _ h => TornDown place h where
  asked _ _ hl := by
    refine Action.Asks.of_mem ?_ hl
    exact (asks_teardown place.root place.unitName place.stateDir place.disk).mono
      fun _ hq => hq.imp_left Query.Among.within
  reached := by
    intro h u hl
    obtain ⟨unit, mount, hwithin, ⟨f, -, -, hf⟩ | ⟨d₁, d₂, x, hrelease, rfl, hgone⟩⟩ :=
      teardown_run hl
    · cases hf
    · exact ⟨unit, mount, d₁, d₂, x, hwithin, hrelease, hgone rfl, rfl⟩
  plain := by
    refine failsPlainly_bind (failsPlainly_lift _) fun _ => ?_
    refine failsPlainly_bind (failsPlainly_release _ _) fun _ => ?_
    refine failsPlainly_bind (failsPlainly_lift _) fun _ => ?_
    refine failsPlainly_bind (failsPlainly_lift _) fun _ => ?_
    refine failsPlainly_bind (failsPlainly_lift _) fun x => ?_
    split
    · exact failsPlainly_pure _
    · exact failsPlainly_pure _
    · exact failsPlainly_throw rfl

/-! ### The disk -/

/-- The listing shows the partition of the disk of the wanted size, or no such
disk. -/
def DiskListed (user : Target) (bytes : Nat) (found : Option BlockDevice) (h : History) : Prop :=
  ∃ output devices, h = [(listing user).event (.ok output)] ∧
    BlockDevice.ofListing output = .ok devices ∧
    match found with
    | some partition => BlockDevice.IsStorePartition bytes devices partition
    | none => ∀ d ∈ devices, BlockDevice.isStoreDisk bytes d = false

/-- The last listing shows the partition of the disk of the wanted size. -/
def PartitionListed (user : Target) (bytes : Nat) (partition : BlockDevice)
    (h : History) : Prop :=
  ∃ devices, LastListing user h devices ∧ BlockDevice.IsStorePartition bytes devices partition

theorem isPlain_of_ofRow {lastDisk : Option String} {line : List Char} {f : Failure}
    (h : BlockDevice.ofRow lastDisk line = .error f) : f.IsPlain := by
  unfold BlockDevice.ofRow at h
  dsimp only at h
  split at h
  · split at h
    · cases h
      rfl
    · split at h
      · cases h
        rfl
      · cases h
  · cases h
    rfl

theorem isPlain_of_ofRows {lastDisk : Option String} {lines : List (List Char)} {f : Failure}
    (h : BlockDevice.ofRows lastDisk lines = .error f) : f.IsPlain := by
  induction lines generalizing lastDisk with
  | nil => cases h
  | cons line rest ih =>
    unfold BlockDevice.ofRows at h
    split at h
    · exact ih h
    · cases hrow : BlockDevice.ofRow lastDisk line with
      | error g =>
        rw [hrow] at h
        cases h
        exact isPlain_of_ofRow hrow
      | ok device =>
        rw [hrow] at h
        dsimp only at h
        cases hrest : BlockDevice.ofRows
            (if device.isDisk then some device.name else lastDisk) rest with
        | error g =>
          rw [hrest] at h
          cases h
          exact ih hrest
        | ok devices =>
          rw [hrest] at h
          cases h

/-- A listing that cannot be read is a plain failure. -/
theorem failsPlainly_listBlockDevices (user : Target) :
    (listBlockDevices user).FailsPlainly := by
  refine failsPlainly_bind (failsPlainly_run _) fun output => failsPlainly_ofExcept fun f hf => ?_
  unfold BlockDevice.ofListing at hf
  split at hf
  · cases hf
    rfl
  · exact isPlain_of_ofRows hf

theorem isPlain_of_selectDisk {devices : List BlockDevice} {bytes : Nat} {f : Failure}
    (h : BlockDevice.selectDisk devices bytes = .error f) : f.IsPlain := by
  unfold BlockDevice.selectDisk at h
  split at h
  · cases h
  · cases h
  · cases h
    rfl

/-- An attached disk is looked for in one listing. -/
theorem findAttached_attains (user : Target) (bytes : Nat) :
    (findAttached user bytes).Attains (Query.Within (listSteps user))
      (DiskListed user bytes) where
  asked := by
    intro h r hl
    refine Action.Asks.of_mem ?_ hl
    refine asks_bind (asks_listBlockDevices user).within fun devices => ?_
    refine asks_bind trivial fun found => ?_
    cases found with
    | none => trivial
    | some disk =>
      dsimp only
      split
      · trivial
      · trivial
  reached := by
    intro h found hl
    rw [outcome_findAttached] at hl
    obtain ⟨a, rfl, ha⟩ := Action.leads_ask_done.mp hl
    cases found with
    | none =>
      obtain ⟨output, devices, rfl, hdevices, hnone⟩ := firstLook_none ha.symm
      exact ⟨output, devices, rfl, hdevices,
        fun d hd => BlockDevice.isStoreDisk_eq_false (hnone d hd)⟩
    | some partition =>
      obtain ⟨output, devices, rfl, hdevices, hstore⟩ := (firstLook_some ha.symm).isStorePartition
      exact ⟨output, devices, rfl, hdevices, hstore⟩
  plain := by
    refine failsPlainly_bind (failsPlainly_listBlockDevices user) fun devices => ?_
    refine failsPlainly_bind (failsPlainly_ofExcept fun f => isPlain_of_selectDisk) fun found => ?_
    cases found with
    | none => exact failsPlainly_pure _
    | some disk =>
      dsimp only
      split
      · exact failsPlainly_pure _
      · exact failsPlainly_throw rfl

/-- The disk file is there, has a partition and is attached. -/
theorem createAndAttach_attains (disk : Path) (bytes : Nat) :
    (createAndAttach .host disk bytes).Attains (Query.Within fileSteps)
      (FileAttached disk bytes) where
  asked _ _ hl := (asks_createAndAttach disk bytes).within.of_mem hl
  reached _ _ hl := createAndAttach_ready hl
  plain := by
    refine failsPlainly_bind ?_ fun created => failsPlainly_bind ?_ fun _ =>
      failsPlainly_bind ?_ fun _ => failsPlainly_pure _
    · have hcreate : ∀ _ : Unit, (do
          discard <| VirtualDisk.powershell .host "create virtual disk"
            (VirtualDisk.createScript disk bytes)
          return true : Attempt Bool).FailsPlainly := by
        intro _
        refine failsPlainly_bind (failsPlainly_discard (failsPlainly_run _)) fun _ => ?_
        exact failsPlainly_pure _
      refine failsPlainly_bind (failsPlainly_lift _) fun there => ?_
      refine failsPlainly_ite (failsPlainly_pure _) ?_
      cases disk.parent with
      | none => exact hcreate ()
      | some dir =>
        refine failsPlainly_bind ?_ hcreate
        intro h f hl _
        obtain ⟨x, -, hx⟩ := Action.leads_map.mp hl
        rcases x with fault | _
        · cases hx
          rfl
        · cases hx
    -- The failure of a partitioning may be put in other words, which are as plain.
    · refine failsPlainly_discard (failsPlainly_mapFailure (failsPlainly_run _) fun f hf => ?_)
      split
      · rfl
      · exact hf
    · refine failsPlainly_observe_bind (failsPlainly_run _) (fun _ => failsPlainly_pure _)
        fun f hf => ?_
      exact failsPlainly_ite (failsPlainly_pure _) (failsPlainly_throw hf)

/-- A partition that is awaited is shown by the last of some listings. -/
theorem awaitPartition_attains (user : Target) (disk : Path) (bytes : Nat) :
    (awaitPartition user disk bytes).Attains (Query.Within (listSteps user))
      (PartitionListed user bytes) where
  asked _ _ hl := (asks_awaitPartition user disk bytes).within.of_mem hl
  reached _ _ hl := leads_awaitPartition hl
  plain := by
    intro h f hl hplain
    unfold awaitPartition at hl
    rcases leads_bind.mp hl with ⟨e, hpoll, -⟩ | ⟨h₁, ⟨found, seen⟩, h₂, hpoll, hrest, -⟩
    · rw [outcome_liftM, Action.leads_map] at hpoll
      obtain ⟨p, -, hp⟩ := hpoll
      cases hp
    rw [outcome_liftM, Action.leads_map] at hpoll
    obtain ⟨⟨v, s⟩, hpoll, hpair⟩ := hpoll
    obtain ⟨rfl, rfl⟩ : found = v ∧ seen = s := by simpa using hpair
    obtain _ | g | partition := found
    · cases seen with
      | none =>
        cases (Action.leads_done.mp hrest).2
        rfl
      | some name =>
        cases (Action.leads_done.mp hrest).2
        rfl
    · cases (Action.leads_done.mp hrest).2
      obtain ⟨n, -, h₀, s₁, h₃, -, hlast, -, -⟩ := Retry.leads_pollMore.mp hpoll
      obtain ⟨a, -, ha⟩ := leads_look hlast
      obtain ⟨names, rfl⟩ := look_error ha.symm
      rfl
    · cases (Action.leads_done.mp hrest).2

/-! ### The source of the mount -/

def uuidQuestion (root : Target) (device : String) : Command :=
  { target := root, description := "read filesystem UUID", program := "blkid"
    args := ["-s", "UUID", "-o", "value", device], limit := Limit.probe }

/-- The test whether there is a link to the filesystem with a UUID. -/
def linkTest (root : Target) (uuid : String) : Command :=
  { target := root, description := "check UUID link", program := "test"
    args := ["-e", uuidLink uuid], limit := Limit.probe }

/-- The history has read the UUID from the device. -/
def UuidRead (root : Target) (device uuid : String) (h : History) : Prop :=
  ∃ output, (uuidQuestion root device).event (.ok output) ∈ h ∧ uuid = Text.trim output

/-- A UUID that was found has been read from the device, and a link that was
found is the link to this UUID. -/
def LinkFound (root : Target) (device : String) (found : Option String × Option String)
    (h : History) : Prop :=
  (∀ uuid, found.2 = some uuid → UuidRead root device uuid h) ∧
    ∀ link, found.1 = some link → ∃ uuid, found.2 = some uuid ∧ link = uuidLink uuid

/-- A UUID that was read stays read as the history goes on. -/
theorem UuidRead.mono {device uuid : String} {h' : History} (hread : UuidRead root device uuid h)
    (hsub : h ⊆ h') : UuidRead root device uuid h' := by
  obtain ⟨output, hmem, huuid⟩ := hread
  exact ⟨output, hsub hmem, huuid⟩

/-- One look leaves the UUID as it was, or replaces it by one that it has read.
It finds a link only if the test for it succeeds. -/
theorem leads_lookForLink {device : String} {s s' v : Option String}
    (hl : ((lookForLink root device).run s).Leads h (v, s')) :
    (s' = s ∧ v = none) ∨ ∃ uuid, s' = some uuid ∧ UuidRead root device uuid h ∧
      ∀ link, v = some link → link = uuidLink uuid ∧
        ∃ output, (linkTest root uuid).event (.ok output) ∈ h := by
  unfold lookForLink at hl
  rw [StateT.run_bind] at hl
  obtain ⟨h₁, ⟨answer, s₁⟩, h₂, hlift, hrest, rfl⟩ := Action.leads_bind.mp hl
  obtain ⟨h₃, answer', h₄, hask, hpair, rfl⟩ := Action.leads_bind.mp hlift
  obtain ⟨rfl, hsame⟩ := Action.leads_done.mp hpair
  obtain ⟨rfl, rfl⟩ := Prod.mk.inj hsame
  obtain rfl := leads_runWithin.mp hask
  cases answer with
  | error f =>
    obtain ⟨-, hnone⟩ := Action.leads_done.mp hrest
    obtain ⟨rfl, rfl⟩ := Prod.mk.inj hnone
    exact .inl ⟨rfl, rfl⟩
  | ok output =>
    dsimp only at hrest
    split at hrest
    · obtain ⟨-, hnone⟩ := Action.leads_done.mp hrest
      obtain ⟨rfl, rfl⟩ := Prod.mk.inj hnone
      exact .inl ⟨rfl, rfl⟩
    -- Only a UUID that was read leads to a look for its link.
    · have hread : UuidRead root device (Text.trim output)
          ([(uuidQuestion root device).event (.ok output)] ++ [] ++ h₂) :=
        ⟨output, by simp, rfl⟩
      obtain ⟨a, rest, rfl, hfound⟩ := Action.leads_ask.mp hrest
      refine .inr ⟨Text.trim output, ?_⟩
      cases a with
      | error f =>
        obtain ⟨-, hnone⟩ := Action.leads_done.mp hfound
        obtain ⟨rfl, rfl⟩ := Prod.mk.inj hnone
        exact ⟨rfl, hread, fun link hlink => nomatch hlink⟩
      | ok shown =>
        obtain ⟨-, hsome⟩ := Action.leads_done.mp hfound
        obtain ⟨rfl, rfl⟩ := Prod.mk.inj hsome
        refine ⟨rfl, hread, fun link hlink => ⟨(Option.some.inj hlink).symm, shown, ?_⟩⟩
        simp [linkTest]

/-- The UUID after some rounds is the one before them, or was read in them. -/
theorem rounds_lookForLink {device : String} {interval n : Nat} {s s' : Option String}
    (hr : Retry.Rounds interval (lookForLink root device) n s h s') :
    s' = s ∨ ∃ uuid, s' = some uuid ∧ UuidRead root device uuid h := by
  induction hr with
  | zero s => exact .inl rfl
  | @succ n s s₁ s₂ h h' hlook _ ih =>
    rcases ih with rfl | ⟨uuid, rfl, hread⟩
    · rcases leads_lookForLink hlook with ⟨rfl, -⟩ | ⟨uuid, rfl, hread, -⟩
      · exact .inl rfl
      · exact .inr ⟨uuid, rfl, hread.mono (List.subset_append_left _ _)⟩
    · refine .inr ⟨uuid, rfl, hread.mono fun e he => ?_⟩
      exact List.mem_append_right _ (List.mem_cons_of_mem _ he)

/-- The UUID and the link that are found come from what was read of the device. -/
theorem findLink_found {device : String} {found : Option String × Option String}
    (hl : (findLink root device).Leads h found) : LinkFound root device found h := by
  obtain ⟨link, uuid⟩ := found
  obtain ⟨n, -, h₀, s₁, h₁, hrounds, hlast, rfl, -⟩ := Retry.leads_pollMore.mp hl
  rcases leads_lookForLink hlast with ⟨rfl, rfl⟩ | ⟨read, rfl, hread, hlink⟩
  · refine ⟨fun uuid' huuid => ?_, fun link hlink => nomatch hlink⟩
    rcases rounds_lookForLink hrounds with rfl | ⟨read, rfl, hread⟩
    · cases huuid
    · obtain rfl := Option.some.inj huuid
      exact hread.mono (List.subset_append_left _ _)
  · refine ⟨fun uuid' huuid => ?_, fun link' hfound => ⟨read, rfl, (hlink link' hfound).1⟩⟩
    obtain rfl := Option.some.inj huuid
    exact hread.mono (List.subset_append_right _ _)

/-- A link that was found is the link to the UUID that is kept, and the last test
for it has succeeded. -/
theorem findLink_tested {device link : String} {uuid : Option String}
    (hl : (findLink root device).Leads h (some link, uuid)) :
    ∃ read output, uuid = some read ∧ link = uuidLink read ∧
      (linkTest root read).event (.ok output) ∈ h := by
  obtain ⟨n, -, h₀, s₁, h₁, -, hlast, rfl, -⟩ := Retry.leads_pollMore.mp hl
  rcases leads_lookForLink hlast with ⟨-, hnone⟩ | ⟨read, huuid, -, hlink⟩
  · cases hnone
  · obtain ⟨hsame, output, htested⟩ := hlink link rfl
    exact ⟨read, output, huuid, hsame, List.mem_append_right _ htested⟩

end BtrfsStore.Wsl
