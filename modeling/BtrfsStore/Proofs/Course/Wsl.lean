import BtrfsStore.Proofs.Conclusion
import BtrfsStore.Proofs.Milestones.Wsl
/-!
# BtrfsStore.Proofs.Course.Wsl

The course of a run inside a WSL distro:

1. `readyCourse`: the distro starts, its kernel knows btrfs, the tools and
   systemd are there, and the session is elevated;
2. `placeCourse`: the state directory, the unit and the disk file have a name;
3. with permission to reinitialise, what is there is torn down;
4. `diskCourse`: the partition of the store is found, if need be on a new disk;
5. it carries btrfs;
6. `mountCourse`: it is mounted, filled and given to the user.

Each part is a function of the rest of the course, as the later milestones
depend on what the earlier ones have found. `runStages_follows` says that every
run inside a distro follows the whole, and `provision_run` what this makes of the
run of a request. For the runs that succeed, `course_ok` takes the course apart.
-/

namespace BtrfsStore.Wsl

open Attempt Filesystem MountSupervision StoreContent

/-! ### The course -/

/-- The milestones until a distro is ready; the last one is the elevation of the
session. -/
def readyCourse (request : StoreRequest) (distro : String) (rest : Bool → Course) : Course :=
  .milestoneIf (!request.noStart) .distroStart (Query.Within (startSteps (.wsl distro)))
    (DistroStarted (.wsl distro)) <|
  .milestone (some .kernelSupport)
    (Query.Within (kernelSteps (.wsl distro) (.wslRoot distro false)))
    (fun _ h => KernelReady (.wsl distro) h) fun _ : Unit =>
  .milestone (some .toolInstall)
    (Query.Within (toolSteps (.wsl distro) (.wslRoot distro false)))
    (ToolsLocated (.wsl distro)) fun nsenter : Bool =>
  .milestone (some .systemd) (Query.Within (systemdSteps (.wsl distro)))
    (fun _ h => SystemdReady (.wsl distro) h) fun _ : Unit =>
  .milestone none (Query.Within (dockerSteps .host)) (fun _ _ => True)
    fun _ : Option String =>
  .milestone (some .elevation) (Query.Within (VirtualDisk.elevationSteps .host))
    (fun _ h => Elevated h) fun _ : Unit =>
  rest nsenter

/-- The milestones until the place of the store is known. -/
def placeCourse (request : StoreRequest) (storeRoot : Option Path) (distro : String)
    (root : Target) (rest : Place → Course) : Course :=
  .milestone (some .stateDir) (Query.Within (resolveSteps distro root))
    (PlaceResolved distro root) fun place : String × String =>
  .milestone (some .virtualDisk) (fun _ => False)
    (fun disk h => h = [] ∧ diskPath request storeRoot = .ok disk) fun disk : Path =>
  rest { root, stateDir := place.1, unitName := place.2, disk }

/-- The milestones until the partition of the store is found. -/
def diskCourse (user : Target) (disk : Path) (bytes : Nat) (rest : StoreDisk → Course) :
    Course :=
  .milestone (some .deviceDetection) (Query.Within (listSteps user)) (DiskListed user bytes)
    fun found : Option BlockDevice =>
  match found with
  | some partition => rest { partition, created := false }
  | none =>
    .milestone (some .virtualDisk) (Query.Within fileSteps) (FileAttached disk bytes)
      fun created : Bool =>
    .milestone (some .deviceDetection) (Query.Within (listSteps user))
      (PartitionListed user bytes) fun partition : BlockDevice =>
    rest { partition, created }

/-- The outcome tells of the store that was set up. -/
structure Settled (place : Place) (device : String) (uuid : Option String)
    (o : StoreOutcome) : Prop where
  useStore : o.useStore = true
  storePath : o.storePath = some place.stateDir
  mountDevice : o.mountDevice = some device
  mountFsType : o.mountFsType = some btrfsType
  mountUnit : o.mountUnit = some place.unitName
  mountDeviceUuid : o.mountDeviceUuid = uuid

/-- The unit that mounts a device, by its link if there is one. -/
def unitFor (place : Place) (device : String) (link : Option String) : MountUnit :=
  { name := place.unitName, source := link.getD device, mountPoint := place.stateDir }

/-- The milestones of a run that has its partition formatted. -/
def mountCourse (user : Target) (place : Place) (device : String) : Course :=
  .milestone none (Query.Within (linkSteps place.root)) (LinkFound place.root device)
    fun found : Option String × Option String =>
  .milestone (some .mount) (Query.Within (installSteps place.root))
    (fun _ h => Installed place.root (unitFor place device found.1) h) fun _ : Unit =>
  .milestone (some .mount) (Query.Within (activateSteps place.root))
    (fun _ h => Activated place.root (unitFor place device found.1) h) fun _ : Unit =>
  .milestone (some .subvolumes) (Query.Within (subvolumeSteps place.root))
    (fun _ h => ∀ name ∈ subvolumes, Present place.root place.stateDir h name)
    fun _ : List String =>
  .milestone (some .ownership) (Query.Within (giveSteps place.root user))
    (fun _ h => Given place.root user place.stateDir h) fun _ : String =>
  .finish (Settled place device found.2)

/-- The milestones from the disk of the store on. -/
def equipCourse (request : StoreRequest) (user : Target) (place : Place) : Course :=
  diskCourse user place.disk request.bytes fun attached =>
  .milestone (some .format) (Query.Within (ensureSteps place.root))
    (fun outcome h => EnsureRun place.root attached.partition.path
      (attached.created || request.reinit) h (.ok outcome)) fun _ : FormatOutcome =>
  mountCourse user place attached.partition.path

/-- The course of a run inside a distro. -/
def course (request : StoreRequest) (storeRoot : Option Path) (distro : String) : Course :=
  readyCourse request distro fun nsenter =>
  placeCourse request storeRoot distro (.wslRoot distro nsenter) fun place =>
  .milestoneIf request.reinit .reinit (TearsDown place.root place.disk) (TornDown place) <|
  equipCourse request (.wsl distro) place

/-! ### The parts follow it -/

/-- A run that makes the distro ready follows the course up to there. -/
theorem prepareDistro_follows {request : StoreRequest} {distro : String}
    {f : Bool → Stages Unit} {rest : Bool → Course}
    (hf : ∀ nsenter, (f nsenter).Follows (rest nsenter)) :
    (prepareDistro request distro >>= f).Follows (readyCourse request distro rest) := by
  unfold prepareDistro
  dsimp only
  rw [Stages.stage_discard, Stages.if_bind]
  refine Stages.follows_stage_if (start_attains (.wsl distro)) ?_
  rw [bind_assoc]
  refine Stages.follows_stage (ensureKernelSupport_attains _ _) fun _ => ?_
  rw [bind_assoc]
  refine Stages.follows_stage (ensureTools_attains _ _) fun nsenter => ?_
  rw [Stages.if_bind]
  refine Stages.follows_update_if ?_
  rw [bind_assoc]
  refine Stages.follows_update ?_
  rw [bind_assoc]
  refine Stages.follows_stage (ensureSystemd_attains _) fun _ => ?_
  rw [bind_assoc]
  refine Stages.follows_lift asks_dockerHealth (fun _ _ _ => trivial) fun warning => ?_
  -- With and without the warning, the elevation comes next.
  have helevated : ((do
      stage .elevation checkElevation
      pure nsenter : Stages Bool) >>= f).Follows
        (.milestone (some .elevation) (Query.Within (VirtualDisk.elevationSteps .host))
          (fun _ h => Elevated h) fun _ : Unit => rest nsenter) := by
    rw [bind_assoc]
    refine Stages.follows_stage checkElevation_attains fun _ => ?_
    rw [pure_bind]
    exact hf nsenter
  cases warning with
  | none => exact helevated
  | some warning =>
    dsimp only
    rw [bind_assoc]
    exact Stages.follows_update helevated

/-- A run that finds the place of the store follows the course up to there. -/
theorem findPlace_follows {request : StoreRequest} {storeRoot : Option Path} {distro : String}
    {f : Place → Stages Unit} {rest : Place → Course}
    (hf : ∀ place, (f place).Follows (rest place)) :
    (findPlace request storeRoot distro >>= f).Follows
      (readyCourse request distro fun nsenter =>
        placeCourse request storeRoot distro (.wslRoot distro nsenter) rest) := by
  unfold findPlace
  rw [bind_assoc]
  refine prepareDistro_follows fun nsenter => ?_
  dsimp only
  rw [bind_assoc]
  refine Stages.follows_stage (resolvePlace_attains distro _) fun ⟨stateDir, unitName⟩ => ?_
  dsimp only
  rw [bind_assoc]
  refine Stages.follows_update ?_
  rw [bind_assoc]
  refine Stages.follows_stage (diskPath_attains request storeRoot) fun disk => ?_
  rw [pure_bind]
  exact hf _

/-- What ends the search for the partition has been reported with a stage
already. -/
theorem attachStoreDisk_follows {user : Target} {disk : Path} {bytes : Nat}
    {f : StoreDisk → Stages Unit} {rest : StoreDisk → Course}
    (hf : ∀ attached, (f attached).Follows (rest attached)) :
    (step (attachStoreDisk .host user disk bytes) >>= f).Follows
      (diskCourse user disk bytes rest) := by
  rw [attachStoreDisk_eq, Stages.step_bind, bind_assoc]
  refine Stages.follows_stage (findAttached_attains user bytes) fun found => ?_
  cases found with
  | some partition => exact hf { partition, created := false }
  | none =>
    dsimp only
    rw [Stages.step_bind, bind_assoc]
    refine Stages.follows_stage (createAndAttach_attains disk bytes) fun created => ?_
    rw [Stages.step_bind, bind_assoc]
    refine Stages.follows_stage (awaitPartition_attains user disk bytes) fun partition => ?_
    exact hf { partition, created }

/-- Setting a store up follows the course of a mount. -/
theorem setUp_follows (request : StoreRequest) (user : Target) (place : Place) (device : String) :
    (setUp request user place device).Follows (mountCourse user place device) := by
  unfold setUp mountUnit
  refine Stages.follows_lift (asks_findLink _ _).within (fun _ _ => findLink_found)
    fun ⟨link, uuid⟩ => ?_
  refine Stages.follows_update_if ?_
  rw [Stages.stage_bind, bind_assoc]
  refine Stages.follows_stage (MountSupervision.install_attains _ _) fun _ => ?_
  refine Stages.follows_stage (MountSupervision.activate_attains _ _ _) fun _ => ?_
  rw [Stages.discard_bind]
  refine Stages.follows_stage (StoreContent.ensureSubvolumes_attains _ _) fun _ => ?_
  rw [Stages.discard_bind]
  refine Stages.follows_stage (StoreContent.giveTo_attains _ _ _) fun _ => ?_
  exact Stages.follows_settle fun _ => ⟨rfl, rfl, rfl, rfl, rfl, rfl⟩

/-- Equipping a place follows the course of a disk and of a mount. -/
theorem equip_follows (request : StoreRequest) (user : Target) (place : Place) :
    (equip request user place).Follows (equipCourse request user place) := by
  refine attachStoreDisk_follows fun attached => ?_
  rw [Stages.discard_bind]
  exact Stages.follows_stage (ensure_attains _ _ _) fun _ => setUp_follows _ _ _ _

/-- Every run inside a distro follows its course. -/
theorem runStages_follows (request : StoreRequest) (storeRoot : Option Path) (distro : String) :
    (runStages request storeRoot distro).Follows (course request storeRoot distro) := by
  rw [runStages_eq]
  refine findPlace_follows fun place => ?_
  exact Stages.follows_stage_if (teardown_attains place) (equip_follows _ _ _)

/-! ### Whole runs -/

/-- How a run gets hold of the partition of the store: a disk of the wanted size
is listed, or none is, and the disk file is attached. -/
inductive DiskRun (user : Target) (disk : Path) (bytes : Nat) : StoreDisk → History → Prop
  | listed {partition : BlockDevice} {h : History}
      (hlisted : DiskListed user bytes (some partition) h) :
      DiskRun user disk bytes { partition, created := false } h
  | attached {partition : BlockDevice} {created : Bool} {h₁ h₂ h₃ : History}
      (hnone : DiskListed user bytes none h₁) (hfile : FileAttached disk bytes created h₂)
      (hlisted : PartitionListed user bytes partition h₃)
      (hasked : ∀ e ∈ h₃, e.query.Within (listSteps user)) :
      DiskRun user disk bytes { partition, created } (h₁ ++ h₂ ++ h₃)

/-- The runs that mount and fill a store. -/
inductive MountRun (user : Target) (place : Place) (device : String) :
    History → StoreOutcome → Prop
  | mk {found : Option String × Option String} {link install activate rest : History}
      {o : StoreOutcome} (hlink : LinkFound place.root device found link)
      (hinstall : Installed place.root (unitFor place device found.1) install)
      (hactivate : Activated place.root (unitFor place device found.1) activate)
      (hsettled : Settled place device found.2 o) :
      MountRun user place device (link ++ install ++ activate ++ rest) o

/-- The runs along a whole course, part by part. -/
inductive Completed (request : StoreRequest) (storeRoot : Option Path) (distro : String) :
    History → StoreOutcome → Prop
  | mk {nsenter : Bool} {place : Place} {attached : StoreDisk} {outcome : FormatOutcome}
      {ready clear disk format rest : History} {o : StoreOutcome}
      (hroot : place.root = .wslRoot distro nsenter)
      (hdiskPath : diskPath request storeRoot = .ok place.disk)
      (hready : ∀ e ∈ ready, e.query.Within (placeSteps distro nsenter))
      (hclear : request.reinit = true ∧ TornDown place clear ∨
        request.reinit = false ∧ clear = [])
      (hclearAsked : ∀ e ∈ clear, TearsDown place.root place.disk e.query)
      (hdisk : DiskRun (.wsl distro) place.disk request.bytes attached disk)
      (hdiskAsked : ∀ e ∈ disk, e.query.Within (diskSteps (.wsl distro)))
      (hformat : EnsureRun place.root attached.partition.path
        (attached.created || request.reinit) format (.ok outcome))
      (hformatAsked : ∀ e ∈ format, e.query.Within (ensureSteps place.root))
      (hmount : MountRun (.wsl distro) place attached.partition.path rest o)
      (hmountAsked : ∀ e ∈ rest, e.query.Within (setUpSteps (.wsl distro) place.root)) :
      Completed request storeRoot distro (ready ++ clear ++ disk ++ format ++ rest) o

section

variable {request : StoreRequest} {storeRoot : Option Path} {distro : String} {user : Target}
  {place : Place} {h : History} {o : StoreOutcome}

/-- Until the session is found elevated, a run makes the distro ready. -/
theorem readyCourse_until (request : StoreRequest) (distro : String) (rest : Bool → Course) :
    (readyCourse request distro rest).Until (Query.Within (readySteps distro)) fun h r =>
      ∃ output h' nsenter, h = elevationQuestion.event (.ok output) :: h' ∧
        ShowsElevated output ∧ (rest nsenter).Run h' r := by
  have hmono : ∀ {steps : List Step}, steps ⊆ readySteps distro → ∀ q : Query, q.Within steps →
      q.Within (readySteps distro) := fun hsub _ hq => hq.mono hsub
  refine Course.until_milestoneIf (hmono fun s hs => by simp [readySteps, hs]) ?_
  refine Course.until_milestone (hmono fun s hs => by simp [readySteps, hs]) fun _ => ?_
  refine Course.until_milestone (hmono fun s hs => by simp [readySteps, hs]) fun nsenter => ?_
  refine Course.until_milestone (hmono fun s hs => by simp [readySteps, hs]) fun _ => ?_
  refine Course.until_milestone (hmono fun s hs => by simp [readySteps, hs]) fun _ => ?_
  intro h r hr
  rcases Course.run_milestone.mp hr with
    ⟨_, _, -, hasked, -, hf⟩ | ⟨h₁, _, h₂, -, hreached, hrest, rfl⟩
  · exact .inl ⟨⟨_, hf⟩, fun e he => hmono (fun s hs => by simp [readySteps, hs]) _ (hasked e he)⟩
  · obtain ⟨output, rfl, helevated⟩ := hreached
    exact .inr ⟨[], _, List.forall_mem_nil _, ⟨output, h₂, nsenter, rfl, helevated, hrest⟩, rfl⟩

theorem elevationQuestion_within (distro : String) :
    (Query.run elevationQuestion).Within (readySteps distro) := by
  have hasked : (Query.run elevationQuestion).Within (VirtualDisk.elevationSteps .host) := by
    simp [VirtualDisk.elevationSteps, Command.Takes, elevationQuestion]
  exact hasked.mono fun s hs => by simp [readySteps, hs]

/-- A run that succeeds has passed the milestones before the store, within their steps. -/
theorem readyCourse_ok {rest : Bool → Course}
    (hr : (readyCourse request distro rest).Run h (.ok o)) :
    ∃ h₁ nsenter h₂, (∀ e ∈ h₁, e.query.Within (readySteps distro)) ∧
      (rest nsenter).Run h₂ (.ok o) ∧ h = h₁ ++ h₂ := by
  rcases readyCourse_until _ _ _ _ _ hr with
    ⟨⟨f, hf⟩, -⟩ | ⟨h₁, _, hasked, ⟨output, h₂, nsenter, rfl, -, hrest⟩, rfl⟩
  · cases hf
  · refine ⟨h₁ ++ [elevationQuestion.event (.ok output)], nsenter, h₂, ?_, hrest, by simp⟩
    refine List.forall_mem_append.mpr ⟨hasked, ?_⟩
    exact List.forall_mem_singleton.mpr (elevationQuestion_within distro)

/-- A run that succeeds has got hold of a disk, listed or made. -/
theorem diskCourse_ok {disk : Path} {bytes : Nat} {rest : StoreDisk → Course}
    (hr : (diskCourse user disk bytes rest).Run h (.ok o)) :
    ∃ h₁ attached h₂, (∀ e ∈ h₁, e.query.Within (diskSteps user)) ∧
      DiskRun user disk bytes attached h₁ ∧ (rest attached).Run h₂ (.ok o) ∧ h = h₁ ++ h₂ := by
  obtain ⟨h₁, found, h₂, hasked, hfound, hrest, rfl⟩ := Course.run_milestone_ok.mp hr
  have hlist : ∀ e ∈ h₁, e.query.Within (diskSteps user) :=
    History.within_mono hasked (List.subset_append_left _ _)
  cases found with
  | some partition => exact ⟨h₁, _, h₂, hlist, .listed hfound, hrest, rfl⟩
  | none =>
    obtain ⟨h₃, created, h₄, hfileAsked, hfile, hawait, rfl⟩ := Course.run_milestone_ok.mp hrest
    obtain ⟨h₅, partition, h₆, hlistAsked, hpartition, hend, rfl⟩ :=
      Course.run_milestone_ok.mp hawait
    refine ⟨h₁ ++ h₃ ++ h₅, _, h₆, ?_, .attached hfound hfile hpartition hlistAsked, hend,
      by simp⟩
    refine List.forall_mem_append.mpr ⟨List.forall_mem_append.mpr ⟨hlist, ?_⟩, ?_⟩
    · exact History.within_mono hfileAsked (List.subset_append_right _ _)
    · exact History.within_mono hlistAsked (List.subset_append_left _ _)

/-- A run that succeeds has mounted its disk. -/
theorem mountCourse_ok {device : String} (hr : (mountCourse user place device).Run h (.ok o)) :
    MountRun user place device h o ∧ ∀ e ∈ h, e.query.Within (setUpSteps user place.root) := by
  obtain ⟨link, found, h₁, hlinkAsked, hlink, hrest₁, rfl⟩ := Course.run_milestone_ok.mp hr
  obtain ⟨install, _, h₂, hinstallAsked, hinstall, hrest₂, rfl⟩ :=
    Course.run_milestone_ok.mp hrest₁
  obtain ⟨activate, _, h₃, hactivateAsked, hactivate, hrest₃, rfl⟩ :=
    Course.run_milestone_ok.mp hrest₂
  obtain ⟨fill, _, h₄, hfillAsked, -, hrest₄, rfl⟩ := Course.run_milestone_ok.mp hrest₃
  obtain ⟨give, _, h₅, hgiveAsked, -, hend, rfl⟩ := Course.run_milestone_ok.mp hrest₄
  obtain ⟨rfl, o', ho, hsettled⟩ := Course.run_finish.mp hend
  obtain rfl := Except.ok.inj ho
  constructor
  · have hrun : MountRun user place device (link ++ install ++ activate ++ (fill ++ give)) o :=
      .mk hlink hinstall hactivate hsettled
    simpa using hrun
  · simp only [List.forall_mem_append]
    refine ⟨?_, ?_, ?_, ?_, ?_, List.forall_mem_nil _⟩
    · exact History.within_mono hlinkAsked fun s hs => by simp [setUpSteps, hs]
    · exact History.within_mono hinstallAsked fun s hs => by simp [setUpSteps, hs]
    · exact History.within_mono hactivateAsked fun s hs => by simp [setUpSteps, hs]
    · exact History.within_mono hfillAsked fun s hs => by simp [setUpSteps, hs]
    · exact History.within_mono hgiveAsked fun s hs => by simp [setUpSteps, hs]

/-- **A run that succeeds has completed the course.** -/
theorem course_ok (hr : (course request storeRoot distro).Run h (.ok o)) :
    Completed request storeRoot distro h o := by
  obtain ⟨h₁, nsenter, h₂, hreadyAsked, hplace, rfl⟩ := readyCourse_ok hr
  obtain ⟨h₃, ⟨stateDir, unitName⟩, h₄, hresolveAsked, -, hrest₁, rfl⟩ :=
    Course.run_milestone_ok.mp hplace
  obtain ⟨_, disk, _, -, ⟨rfl, hdiskPath⟩, hrest₂, rfl⟩ := Course.run_milestone_ok.mp hrest₁
  set place : Place := { root := .wslRoot distro nsenter, stateDir, unitName, disk }
  have hroot : place.root = .wslRoot distro nsenter := rfl
  have hready : ∀ e ∈ h₁ ++ h₃, e.query.Within (placeSteps distro nsenter) :=
    List.forall_mem_append.mpr
      ⟨History.within_mono hreadyAsked (List.subset_append_left _ _),
        History.within_mono hresolveAsked (List.subset_append_right _ _)⟩
  obtain ⟨clear, h₆, hclear, hclearAsked, hequip, rfl⟩ := Course.run_milestoneIf_ok hrest₂
  obtain ⟨disk, attached, h₇, hdiskAsked, hdisk, hrest₃, rfl⟩ := diskCourse_ok hequip
  obtain ⟨format, outcome, h₈, hformatAsked, hformat, hrest₄, rfl⟩ :=
    Course.run_milestone_ok.mp hrest₃
  obtain ⟨hmount, hmountAsked⟩ := mountCourse_ok hrest₄
  have hrun : Completed request storeRoot distro (h₁ ++ h₃ ++ clear ++ disk ++ format ++ h₈) o :=
    .mk hroot hdiskPath hready hclear hclearAsked hdisk hdiskAsked hformat hformatAsked hmount
      hmountAsked
  simpa using hrun

end

/-! ### The run of a request -/

/-- The runs of a request: there is no distro for it, or the run goes along its
course inside one. -/
inductive RequestRun (request : StoreRequest) (storeRoot : Option Path) :
    History → Except Failure StoreOutcome → Prop
  | unavailable {h : History} {reason : String} {r : Except Failure StoreOutcome}
      (hasked : ∀ e ∈ h, e.query.Within chooseSteps)
      (hr : Reported request.require (.wslUnavailable reason) r) :
      RequestRun request storeRoot h r
  | failed {h₁ h₂ : History} {distro : Distro} {f : Failure} {r : Except Failure StoreOutcome}
      (hchosen : (chooseDistro request).Leads h₁ (.ok distro))
      (hcourse : (course request storeRoot distro.name).Run h₂ (.error f))
      (hr : Reported request.require f r) :
      RequestRun request storeRoot (h₁ ++ h₂) r
  | finished {h₁ h₂ : History} {distro : Distro} {o : StoreOutcome}
      (hchosen : (chooseDistro request).Leads h₁ (.ok distro))
      (hcourse : (course request storeRoot distro.name).Run h₂ (.ok o)) :
      RequestRun request storeRoot (h₁ ++ h₂) (.ok (o.warn shutdownHint))

variable {request : StoreRequest} {storeRoot : Option Path} {h : History}
  {r : Except Failure StoreOutcome}

/-- **Every run in WSL** is a run for a request: it finds no distro, fails on the course or
finishes. -/
theorem provision_run (hl : (provision request storeRoot).outcome.Leads h r) :
    RequestRun request storeRoot h r := by
  rw [outcome_provision] at hl
  obtain ⟨ended, hattempt, rfl⟩ := Action.leads_map.mp hl
  obtain ⟨h₁, chosen, h₂, hchosen, hrest, rfl⟩ := Action.leads_bind.mp hattempt
  cases chosen with
  | error reason =>
    obtain ⟨rfl, rfl⟩ := Action.leads_done.mp hrest
    have hasked := (asks_chooseDistro request).of_mem hchosen
    exact .unavailable (by simpa using hasked) (reported_unavailable _ reason)
  | ok distro =>
    obtain ⟨⟨ended, o⟩, hstages, rfl⟩ := Action.leads_map.mp hrest
    have hcourse := runStages_follows request storeRoot distro.name _ _ _ _ hstages
    cases ended with
    | error f => exact .failed hchosen hcourse (reported_conclude _ f o)
    | ok u => exact .finished hchosen hcourse

/-- A run with a store goes along the whole course. -/
theorem RequestRun.exists_course {o : StoreOutcome}
    (hr : RequestRun request storeRoot h (.ok o)) (hstore : o.useStore = true) :
    ∃ h₁ h₂ distro o', (chooseDistro request).Leads h₁ (.ok distro) ∧
      (course request storeRoot distro.name).Run h₂ (.ok o') ∧ o = o'.warn shutdownHint ∧
      h = h₁ ++ h₂ := by
  have hreported : ∀ f, ¬Reported request.require f (.ok o) := by
    intro f hf
    unfold Reported at hf
    split at hf
    · cases hf
    · obtain ⟨o', ho', hfallback, -⟩ := hf
      obtain rfl := Except.ok.inj ho'
      rw [hfallback.useStore] at hstore
      cases hstore
  cases hr with
  | unavailable _ hr => exact (hreported _ hr).elim
  | failed _ _ hr => exact (hreported _ hr).elim
  | @finished h₁ h₂ distro o' hchosen hcourse =>
    exact ⟨h₁, h₂, distro, o', hchosen, hcourse, rfl, rfl⟩

end BtrfsStore.Wsl
