import BtrfsStore.Proofs.Stages
import BtrfsStore.Proofs.Steps.Docker
/-!
# BtrfsStore.Proofs.Steps.Wsl

The commands of a run inside a WSL distro, part by part.

Whether privileged commands enter the namespace of the first process is found
out in the course of the run, so the lists of the later parts depend on it and
a bound on a part of the run has to hold for both targets.
-/

namespace BtrfsStore.Wsl

/-! ### The distro -/

def chooseSteps : List Step := [⟨.host, "list WSL distros", [wslProgram, "--list"]⟩]

/-- A distro is chosen by listings alone; no command runs inside of one. -/
theorem asks_chooseDistro (request : StoreRequest) :
    (chooseDistro request).Asks (Query.Within chooseSteps) := by
  refine ⟨trivial, fun found => ?_⟩
  cases found with
  | none => trivial
  | some path =>
    refine ⟨by simp [chooseSteps, Command.Takes], fun r => ?_⟩
    cases r <;> trivial

/-! ### Readiness -/

def startSteps (user : Target) : List Step := [⟨user, "start WSL distro", ["true"]⟩]

def kernelSteps (user root : Target) : List Step :=
  [⟨user, "read kernel filesystems", ["cat"]⟩, ⟨root, "load btrfs module", ["modprobe"]⟩]

def toolSteps (user root : Target) : List Step :=
  [⟨user, "locate tool", ["which"]⟩,
    ⟨root, "refresh package index", ["apt-get", "update"]⟩,
    ⟨root, "install packages", ["apt-get", "install"]⟩]

def systemdSteps (user : Target) : List Step := [⟨user, "check systemd", ["sh", "-c"]⟩]

def stateDirSteps (user : Target) : List Step :=
  [⟨user, "resolve state directory", ["sh", "-c"]⟩]

/-- The steps that make a distro ready. -/
def readySteps (distro : String) : List Step :=
  startSteps (.wsl distro) ++ kernelSteps (.wsl distro) (.wslRoot distro false)
    ++ toolSteps (.wsl distro) (.wslRoot distro false)
    ++ systemdSteps (.wsl distro) ++ dockerSteps .host ++ VirtualDisk.elevationSteps .host

/-- The steps that find the state directory and name the unit for it. -/
def resolveSteps (distro : String) (root : Target) : List Step :=
  stateDirSteps (.wsl distro) ++ MountSupervision.nameSteps root

/-- The steps up to the disk file. -/
def placeSteps (distro : String) (nsenter : Bool) : List Step :=
  readySteps distro ++ resolveSteps distro (.wslRoot distro nsenter)

/-- Support for btrfs is a matter of the list of the kernel and of one module. -/
theorem asks_ensureKernelSupport (user root : Target) :
    (ensureKernelSupport user root).outcome.Asks (Query.Among (kernelSteps user root)) := by
  have hread : (kernelFilesystems user).outcome.Asks (Query.Among (kernelSteps user root)) := by
    simp [kernelFilesystems, kernelSteps, Command.Takes]
  unfold ensureKernelSupport
  refine Attempt.asks_bind hread fun listed => ?_
  rw [Attempt.outcome_ite, Action.asks_ite]
  refine ⟨fun _ => trivial, fun _ => ?_⟩
  refine Attempt.asks_bind (by simp [kernelSteps, Command.Takes]) fun _ => ?_
  refine Attempt.asks_bind hread fun listed => ?_
  rw [Attempt.outcome_ite, Action.asks_ite]
  exact ⟨fun _ => trivial, fun _ => trivial⟩

theorem asks_missingTools (user root : Target) :
    (missingTools user).outcome.Asks (Query.Among (toolSteps user root)) := by
  have htool : ∀ tool, (hasTool user tool).outcome.Asks (Query.Among (toolSteps user root)) := by
    simp [hasTool, toolSteps, Command.Takes]
  -- The tools are a fixed list, so the loop over them is written out.
  unfold missingTools
  simp only [tools, List.filterM, List.filterAuxM, bind_assoc]
  refine Attempt.asks_bind ?_ fun _ => Attempt.asks_bind ?_ fun _ => by simp
  · rw [Attempt.outcome_map]
    exact (htool _).map _
  · rw [Attempt.outcome_map]
    exact (htool _).map _

/-- Tools are looked for and installed. -/
theorem asks_ensureTools (user root : Target) :
    (ensureTools user root).outcome.Asks (Query.Among (toolSteps user root)) := by
  unfold ensureTools
  refine Attempt.asks_bind (asks_missingTools user root) fun missing => ?_
  rw [Attempt.outcome_ite, Action.asks_ite]
  refine ⟨fun _ => trivial, fun _ => ?_⟩
  refine Attempt.asks_bind (by simp [toolSteps, Command.Takes, Except.map]) fun _ => ?_
  refine Attempt.asks_bind (by simp [toolSteps, Command.Takes, Except.map]) fun _ => ?_
  refine Attempt.asks_bind (asks_missingTools user root) fun still => ?_
  rw [Attempt.outcome_ite, Action.asks_ite]
  exact ⟨fun _ => trivial, fun _ => trivial⟩

/-- Waiting for systemd asks one question over and over. -/
theorem asks_ensureSystemd (user : Target) :
    (ensureSystemd user).outcome.Asks (Query.Among (systemdSteps user)) := by
  have hask : ∀ s, ((askSystemd user).run s).Asks (Query.Among (systemdSteps user)) := by
    intro s
    unfold askSystemd
    rw [StateT.run_bind]
    refine Action.Asks.bind ⟨by simp [systemdSteps, Command.Takes], fun r => trivial⟩ fun p => ?_
    obtain ⟨r | output, s⟩ := p <;> trivial
  unfold ensureSystemd
  refine Attempt.asks_bind ?_ fun found => ?_
  · rw [Attempt.outcome_liftM]
    exact (Retry.asks_poll hask trivial "").map _
  · rw [Attempt.outcome_ite, Action.asks_ite]
    exact ⟨fun _ => trivial, fun _ => trivial⟩

theorem asks_checkElevation :
    checkElevation.outcome.Asks (Query.Among (VirtualDisk.elevationSteps .host)) := by
  unfold checkElevation
  refine Attempt.asks_bind (VirtualDisk.asks_isElevated .host) fun elevated => ?_
  rw [Attempt.outcome_ite, Action.asks_ite]
  exact ⟨fun _ => trivial, fun _ => trivial⟩

theorem asks_resolveStateDir (user : Target) :
    (resolveStateDir user).outcome.Asks (Query.Among (stateDirSteps user)) := by
  simp [resolveStateDir, stateDirSteps, Command.Takes]

/-- Where a store is put is found out with a script for the state directory and with the
name of the unit. -/
theorem asks_resolvePlace (distro : String) (root : Target) :
    (resolvePlace distro root).outcome.Asks (Query.Among (resolveSteps distro root)) := by
  unfold resolvePlace
  refine Attempt.asks_bind ?_ fun stateDir => Attempt.asks_bind ?_ fun _ => trivial
  · exact (asks_resolveStateDir _).among_mono (List.subset_append_left _ _)
  · exact (MountSupervision.asks_unitName _ _).among_mono (List.subset_append_right _ _)

/-- Making a distro ready touches nothing of a store. -/
theorem asks_prepareDistro (request : StoreRequest) (distro : String) (o : StoreOutcome) :
    ((prepareDistro request distro).runFrom o).Asks (Query.Within (readySteps distro)) := by
  have hstage : ∀ {α : Type} {s : Stage} {x : Attempt α} {steps : List Step} {o : StoreOutcome},
      x.outcome.Asks (Query.Among steps) → steps ⊆ readySteps distro →
      ((stage s x).runFrom o).Asks (Query.Within (readySteps distro)) :=
    fun hx hs => Stages.asks_stage (hx.within.within_mono hs)
  have hkernel : kernelSteps (.wsl distro) (.wslRoot distro false) ⊆ readySteps distro :=
    fun s hs => by simp [readySteps, hs]
  have htool : toolSteps (.wsl distro) (.wslRoot distro false) ⊆ readySteps distro :=
    fun s hs => by simp [readySteps, hs]
  have hsystemd : systemdSteps (.wsl distro) ⊆ readySteps distro :=
    fun s hs => by simp [readySteps, hs]
  have hdocker : dockerSteps .host ⊆ readySteps distro := fun s hs => by simp [readySteps, hs]
  have helevation : VirtualDisk.elevationSteps .host ⊆ readySteps distro :=
    fun s hs => by simp [readySteps, hs]
  -- Each optional step is followed by the same rest with or without it, which
  -- is named and dealt with first.
  unfold prepareDistro
  extract_lets user plainRoot afterStart
  have hafterStart : ∀ u o,
      ((afterStart u).runFrom o).Asks (Query.Within (readySteps distro)) := by
    intro _ o
    refine Stages.asks_bind (hstage (asks_ensureKernelSupport _ _) hkernel) fun _ o => ?_
    refine Stages.asks_bind (hstage (asks_ensureTools _ _) htool) fun nsenter o => ?_
    extract_lets afterDocker afterTools
    have hafterDocker : ∀ u o,
        ((afterDocker u).runFrom o).Asks (Query.Within (readySteps distro)) := by
      intro _ o
      exact Stages.asks_bind (hstage asks_checkElevation helevation) fun _ _ => trivial
    have hafterTools : ∀ u o,
        ((afterTools u).runFrom o).Asks (Query.Within (readySteps distro)) := by
      intro _ o
      refine Stages.asks_bind (Stages.asks_update _) fun _ o => ?_
      refine Stages.asks_bind (hstage (asks_ensureSystemd _) hsystemd) fun _ o => ?_
      refine Stages.asks_bind (Stages.asks_step ?_) fun warning o => ?_
      · exact (asks_dockerHealth.within_mono hdocker).map _
      cases warning with
      | none => exact hafterDocker () _
      | some text => exact Stages.asks_bind (Stages.asks_update _) hafterDocker
    cases nsenter with
    | true => exact hafterTools () _
    | false => exact Stages.asks_bind (Stages.asks_update _) hafterTools
  cases request.noStart with
  | true => exact hafterStart () _
  | false =>
    refine Stages.asks_bind (Stages.asks_discard (Stages.asks_stage ?_)) hafterStart
    simp [readySteps, startSteps, user, Command.Takes]

/-- What is asked until the place of the store is found. -/
theorem asks_findPlace {Q : Query → Prop} (request : StoreRequest) (storeRoot : Option Path)
    (distro : String) (o : StoreOutcome)
    (hQ : ∀ nsenter q, q.Within (placeSteps distro nsenter) → Q q) :
    ((findPlace request storeRoot distro).runFrom o).Asks Q := by
  unfold findPlace
  refine Stages.asks_bind ?_ fun nsenter o => ?_
  · refine (asks_prepareDistro request distro o).mono fun q hq => hQ false q ?_
    exact hq.mono fun s hs => by simp [placeSteps, hs]
  refine Stages.asks_bind ?_ fun place o => ?_
  · refine Stages.asks_stage ((asks_resolvePlace distro _).within.mono fun q hq => hQ nsenter q ?_)
    exact hq.mono (List.subset_append_right _ _)
  refine Stages.asks_bind (Stages.asks_update _) fun _ o => ?_
  exact Stages.asks_bind (Stages.asks_stage trivial) fun _ _ => trivial

/-! ### Making room -/

def detachSteps : List Step :=
  [⟨.host, "detach virtual disk from WSL", [wslProgram, "--unmount"]⟩,
    ⟨.host, "dismount virtual disk", [VirtualDisk.powershellProgram]⟩]

/-- The steps of a teardown that run commands. -/
def tearDownSteps (root : Target) : List Step :=
  MountSupervision.teardownSteps root ++ Filesystem.releaseSteps root ++ detachSteps

/-- A teardown removes no file but that of the disk. -/
theorem asks_teardown (root : Target) (unitName stateDir : String) (disk : Path) :
    (teardown .host root unitName stateDir disk).outcome.Asks
      fun q => q.Among (tearDownSteps root) ∨ q = .removeFile disk := by
  have hsteps : ∀ {α : Type} {x : Action α} {steps : List Step},
      x.Asks (Query.Among steps) → steps ⊆ tearDownSteps root →
      x.Asks fun q => q.Among (tearDownSteps root) ∨ q = .removeFile disk :=
    fun hx hs => (hx.among_mono hs).mono fun _ => .inl
  have hdetach : detachSteps ⊆ tearDownSteps root := List.subset_append_right _ _
  unfold teardown
  refine Attempt.asks_bind (.map _ (hsteps (MountSupervision.asks_teardown root _) ?_)) fun _ => ?_
  · exact fun s hs => by simp [tearDownSteps, hs]
  refine Attempt.asks_bind (hsteps (Filesystem.asks_release root stateDir) ?_) fun _ => ?_
  · exact fun s hs => by simp [tearDownSteps, hs]
  refine Attempt.asks_bind (hsteps ?_ hdetach) fun _ => ?_
  · simp [VirtualDisk.detach, detachSteps, Command.Takes]
  refine Attempt.asks_bind (hsteps ?_ hdetach) fun _ => ?_
  · simp [VirtualDisk.dismount, VirtualDisk.powershell, detachSteps, Command.Takes]
  · refine Attempt.asks_bind ⟨.inr rfl, fun _ => trivial⟩ fun r => ?_
    split <;> trivial

/-! ### The disk -/

def listSteps (user : Target) : List Step := [⟨user, "list block devices", ["lsblk"]⟩]

/-- The steps that make the disk file of a store and attach it. -/
def fileSteps : List Step := VirtualDisk.createSteps .host ++ VirtualDisk.attachSteps .host

/-- The steps that get hold of the disk of a store. -/
def diskSteps (user : Target) : List Step := listSteps user ++ fileSteps

def linkSteps (root : Target) : List Step :=
  [⟨root, "read filesystem UUID", ["blkid", "-s", "UUID"]⟩,
    ⟨root, "check UUID link", ["test", "-e"]⟩]

theorem asks_listBlockDevices (user : Target) :
    (listBlockDevices user).outcome.Asks (Query.Among (listSteps user)) := by
  simp [listBlockDevices, listSteps, Command.Takes]

/-- Each look for the partition is one listing. -/
theorem asks_lookForPartition (user : Target) (bytes : Nat) (s : Option String) :
    ((lookForPartition user bytes).run s).Asks (Query.Among (listSteps user)) := by
  unfold lookForPartition
  rw [StateT.run_bind]
  refine Action.Asks.bind ?_ fun p => ?_
  · exact (asks_listBlockDevices user).bind fun r => Action.asks_done (r, s)
  obtain ⟨_ | devices, s⟩ := p
  · trivial
  dsimp only
  split
  · trivial
  · trivial
  · rw [StateT.run_bind]
    refine Action.Asks.bind trivial fun p => ?_
    split <;> trivial

theorem asks_awaitPartition (user : Target) (disk : Path) (bytes : Nat) :
    (awaitPartition user disk bytes).outcome.Asks (Query.Among (listSteps user)) := by
  unfold awaitPartition
  refine Attempt.asks_bind ?_ fun found => ?_
  · rw [Attempt.outcome_liftM]
    exact (Retry.asks_poll (asks_lookForPartition user bytes) trivial none).map _
  · obtain ⟨_ | _ | _, _ | _⟩ := found <;> trivial

/-- The disk file is created, partitioned and attached from outside of the distro. -/
theorem asks_createAndAttach (disk : Path) (bytes : Nat) :
    (createAndAttach .host disk bytes).outcome.Asks (Query.Among fileSteps) := by
  unfold createAndAttach
  refine Attempt.asks_bind ?_ fun created => Attempt.asks_bind ?_ fun _ =>
    Attempt.asks_bind ?_ fun _ => trivial
  · exact (VirtualDisk.asks_ensureFile .host disk bytes).among_mono (by simp [fileSteps])
  · exact (VirtualDisk.asks_ensurePartition .host disk).among_mono (by simp [fileSteps])
  · exact (VirtualDisk.asks_attach .host disk).among_mono (by simp [fileSteps])

/-- A disk is listed, or made by the commands for its file. -/
theorem asks_attachStoreDisk (user : Target) (disk : Path) (bytes : Nat) :
    (attachStoreDisk .host user disk bytes).outcome.Asks (Query.Among (diskSteps user)) := by
  have hlist : ∀ {α : Type} {x : Attempt α}, x.outcome.Asks (Query.Among (listSteps user)) →
      (x.inStage .deviceDetection).outcome.Asks (Query.Among (diskSteps user)) :=
    fun hx => Attempt.asks_inStage (hx.among_mono (by simp [diskSteps]))
  unfold attachStoreDisk
  refine Attempt.asks_bind (hlist (asks_listBlockDevices user)) fun devices => ?_
  refine Attempt.asks_bind trivial fun attached => ?_
  cases attached with
  | some attached =>
    dsimp only
    split <;> trivial
  | none =>
    refine Attempt.asks_bind (Attempt.asks_inStage ?_) fun _ => ?_
    · exact (asks_createAndAttach _ _).among_mono (List.subset_append_right _ _)
    · exact Attempt.asks_bind (hlist (asks_awaitPartition user _ _)) fun _ => trivial

/-! ### Setting up -/

/-- The steps after the partition of the store is formatted. -/
def setUpSteps (user root : Target) : List Step :=
  linkSteps root ++ MountSupervision.installSteps root ++ MountSupervision.activateSteps root
    ++ StoreContent.subvolumeSteps root ++ StoreContent.giveSteps root user

/-- The steps that find, format, mount and fill a store. -/
def equipSteps (user root : Target) : List Step :=
  diskSteps user ++ Filesystem.ensureSteps root ++ setUpSteps user root

theorem asks_findLink (root : Target) (device : String) :
    (findLink root device).Asks (Query.Among (linkSteps root)) := by
  refine Retry.asks_poll (fun s => ?_) trivial none
  unfold lookForLink
  rw [StateT.run_bind]
  refine Action.Asks.bind ⟨by simp [linkSteps, Command.Takes], fun r => trivial⟩ fun p => ?_
  obtain ⟨_ | output, s⟩ := p
  · trivial
  dsimp only
  split
  · trivial
  · refine ⟨by simp [linkSteps, Command.Takes], fun r => ?_⟩
    cases r <;> trivial

/-- The mount is supervised by a unit that is installed and activated. -/
theorem asks_mountUnit (root : Target) (verbose : Bool) (unit : MountUnit) :
    (mountUnit root verbose unit).outcome.Asks (Query.Among
      (MountSupervision.installSteps root ++ MountSupervision.activateSteps root)) := by
  unfold mountUnit
  refine Attempt.asks_bind ?_ fun _ => ?_
  · exact (MountSupervision.asks_install root unit).among_mono (List.subset_append_left _ _)
  · exact (MountSupervision.asks_activate root _ unit).among_mono (List.subset_append_right _ _)

/-- What follows the formatting: the link to the device, the unit, the subvolumes and the
owner. -/
theorem asks_setUp (request : StoreRequest) (user : Target) (place : Place) (device : String)
    (o : StoreOutcome) :
    ((setUp request user place device).runFrom o).Asks
      (Query.Among (setUpSteps user place.root)) := by
  have hstage : ∀ {α : Type} {s : Stage} {x : Attempt α} {steps : List Step} {o : StoreOutcome},
      x.outcome.Asks (Query.Among steps) → steps ⊆ setUpSteps user place.root →
      ((stage s x).runFrom o).Asks (Query.Among (setUpSteps user place.root)) :=
    fun hx hs => Stages.asks_stage (hx.among_mono hs)
  have hmount : MountSupervision.installSteps place.root
      ++ MountSupervision.activateSteps place.root ⊆ setUpSteps user place.root :=
    List.append_subset.mpr
      ⟨fun s hs => by simp [setUpSteps, hs], fun s hs => by simp [setUpSteps, hs]⟩
  have hsubvolumes : StoreContent.subvolumeSteps place.root ⊆ setUpSteps user place.root :=
    fun s hs => by simp [setUpSteps, hs]
  have hgive : StoreContent.giveSteps place.root user ⊆ setUpSteps user place.root :=
    fun s hs => by simp [setUpSteps, hs]
  unfold setUp
  refine Stages.asks_bind (Stages.asks_step ?_) fun found o => ?_
  · exact ((asks_findLink _ _).among_mono fun s hs => by simp [setUpSteps, hs]).map _
  obtain ⟨link, uuid⟩ := found
  dsimp -zeta only
  extract_lets unit afterWarning
  have hafterWarning : ∀ u o,
      ((afterWarning u).runFrom o).Asks (Query.Among (setUpSteps user place.root)) := by
    intro _ o
    refine Stages.asks_bind (hstage (asks_mountUnit _ _ _) hmount) fun _ o => ?_
    refine Stages.asks_bind (Stages.asks_discard ?_) fun _ o => ?_
    · exact hstage (StoreContent.asks_ensureSubvolumes _ _) hsubvolumes
    refine Stages.asks_bind (Stages.asks_discard ?_) fun _ o => Stages.asks_update _
    exact hstage (StoreContent.asks_giveTo _ _ _) hgive
  cases link with
  | none => exact Stages.asks_bind (Stages.asks_update _) hafterWarning
  | some path => exact hafterWarning () _

/-- All that a run issues once it knows the place of the store, a teardown apart. -/
theorem asks_equip (request : StoreRequest) (user : Target) (place : Place) (o : StoreOutcome) :
    ((equip request user place).runFrom o).Asks
      (Query.Among (equipSteps user place.root)) := by
  unfold equip
  refine Stages.asks_bind ?_ fun attached o => Stages.asks_bind ?_ fun _ o => ?_
  · exact Stages.asks_step ((asks_attachStoreDisk user _ _).among_mono
      fun s hs => by simp [equipSteps, hs])
  · exact Stages.asks_discard (Stages.asks_stage ((Filesystem.asks_ensure _ _ _).among_mono
      fun s hs => by simp [equipSteps, hs]))
  · exact (asks_setUp request user place _ o).among_mono fun s hs => by simp [equipSteps, hs]

end BtrfsStore.Wsl
