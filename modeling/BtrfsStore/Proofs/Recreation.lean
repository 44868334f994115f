import BtrfsStore.Proofs.Course.Wsl
import BtrfsStore.Scripted
/-!
# BtrfsStore.Proofs.Recreation

What a reinitialisation makes of the disk of a store in WSL.

The disk file of the old store is always gone before a device is used. That a
new file is created is another matter. The disk of a store is told from others
by its size alone, and to detach the old disk need not succeed, so that a disk
which is still listed after the teardown is taken for the disk of the store.
The run then has permission to format it and creates none.
`Reinitialised` says so of every run, and that this is the only way around a new
disk file, besides a file that has come back in the meantime.
-/

namespace BtrfsStore

open Filesystem

namespace Wsl

open Attempt

/-! ### Creating and using a disk -/

/-- The programs that wipe or format a device or write a unit. -/
def devicePrograms : List String := ["wipefs", "mkfs.btrfs", "tee"]

/-- Whether a question wipes or formats a device or writes the unit that mounts
it. -/
def UsesDevice (q : Query) : Prop := ∃ program ∈ devicePrograms, q.Runs program

/-- The disk file has been created before any device is used. -/
def Recreates (disk : Path) (bytes : Nat) (h : History) : Prop :=
  h.Guarded fun before q =>
    UsesDevice q → ∃ output, (createDisk disk bytes).event (.ok output) ∈ before

/-- Steps of other programs use no device. -/
theorem not_usesDevice {steps : List Step}
    (hsteps : ∀ s ∈ steps, ∃ word ∉ devicePrograms, s.words.head? = some word) {q : Query}
    (hq : q.Within steps) : ¬UsesDevice q := by
  rintro ⟨program, hmem, hruns⟩
  refine hq.not_runs (fun s hs => ?_) hruns
  obtain ⟨word, hnot, hhead⟩ := hsteps s hs
  exact ⟨word, fun heq => hnot (heq ▸ hmem), hhead⟩

/-- Steps of other names create no disk. -/
theorem ne_createDisk {disk : Path} {bytes : Nat} {steps : List Step}
    (hsteps : ∀ s ∈ steps, s.name ≠ "create virtual disk") {q : Query} (hq : q.Within steps) :
    q ≠ .run (createDisk disk bytes) := by
  rintro rfl
  obtain ⟨s, hs, -, hname, -⟩ := hq
  exact hsteps s hs hname.symm

variable {request : StoreRequest} {storeRoot : Option Path} {distro : String} {disk : Path}
  {bytes : Nat} {h : History}

/-- If the part of a run before the devices are used creates no file elsewhere,
and neither does the rest, the creation has to be in this part. -/
theorem recreates_iff {first found rest : History}
    (hunused : ∀ e ∈ first ++ found, ¬UsesDevice e.query) (huses : ∃ e ∈ rest, UsesDevice e.query)
    (hfirst : ∀ e ∈ first, e.query ≠ .run (createDisk disk bytes))
    (hrest : ∀ e ∈ rest, e.query ≠ .run (createDisk disk bytes)) :
    Recreates disk bytes (first ++ found ++ rest) ↔
      ∃ output, (createDisk disk bytes).event (.ok output) ∈ found := by
  constructor
  · intro hguarded
    obtain ⟨e, he, huse⟩ := huses
    obtain ⟨pre, post, rfl⟩ := List.append_of_mem he
    obtain ⟨output, hmem⟩ := hguarded (first ++ found ++ pre) e post (by simp) huse
    rcases List.mem_append.mp hmem with hmem | hmem
    · rcases List.mem_append.mp hmem with hmem | hmem
      · exact absurd rfl (hfirst _ hmem)
      · exact ⟨output, hmem⟩
    · exact absurd rfl (hrest _ (List.mem_append_left _ hmem))
  · intro hcreated
    obtain ⟨output, hmem⟩ := hcreated
    refine History.guarded_of_first (fun h h' hdone => ?_) hunused
      ⟨output, List.mem_append_right _ hmem⟩
    obtain ⟨output, hmem⟩ := hdone
    exact ⟨output, List.mem_append_left _ hmem⟩

/-! ### The parts of a run -/

/-- The steps before a run gets hold of the disk. -/
def firstSteps (distro : String) (nsenter : Bool) : List Step :=
  chooseSteps ++ placeSteps distro nsenter ++ tearDownSteps (.wslRoot distro nsenter)

/-- Before the disk is known nothing uses a device. -/
theorem unused_firstSteps (distro : String) (nsenter : Bool) :
    ∀ s ∈ firstSteps distro nsenter ++ diskSteps (.wsl distro),
      ∃ word ∉ devicePrograms, s.words.head? = some word := by
  simp [firstSteps, chooseSteps, placeSteps, readySteps, startSteps, kernelSteps, toolSteps,
    systemdSteps, dockerSteps, VirtualDisk.elevationSteps, resolveSteps, stateDirSteps,
    MountSupervision.nameSteps, tearDownSteps, MountSupervision.teardownSteps, releaseSteps,
    mountPointSteps, detachSteps, diskSteps, listSteps, fileSteps, VirtualDisk.createSteps,
    VirtualDisk.attachSteps, devicePrograms, VirtualDisk.powershellProgram, wslProgram]

/-- Only the part that gets hold of the disk creates its file. -/
theorem name_firstSteps (distro : String) (nsenter : Bool) :
    ∀ s ∈ firstSteps distro nsenter, s.name ≠ "create virtual disk" := by
  simp [firstSteps, chooseSteps, placeSteps, readySteps, startSteps, kernelSteps, toolSteps,
    systemdSteps, dockerSteps, VirtualDisk.elevationSteps, resolveSteps, stateDirSteps,
    MountSupervision.nameSteps, tearDownSteps, MountSupervision.teardownSteps, releaseSteps,
    mountPointSteps, detachSteps]

/-- After the disk is known no disk is created. -/
theorem name_lastSteps (user root : Target) :
    ∀ s ∈ ensureSteps root ++ setUpSteps user root, s.name ≠ "create virtual disk" := by
  simp [ensureSteps, detectSteps, formatSteps, verifySteps, probeMountSteps, setUpSteps, linkSteps,
    MountSupervision.installSteps, MountSupervision.activateSteps, mountPointSteps,
    StoreContent.subvolumeSteps, StoreContent.giveSteps, StoreContent.ownerSteps]

/-- A disk that is called created has been created in the run, and no other. -/
theorem DiskRun.creates_iff {user : Target} {attached : StoreDisk}
    (hrun : DiskRun user disk bytes attached h) :
    (∃ output, (createDisk disk bytes).event (.ok output) ∈ h) ↔ attached.created = true := by
  have hnever : ∀ {h : History}, (∀ e ∈ h, e.query ≠ .run (createDisk disk bytes)) →
      ¬∃ output, (createDisk disk bytes).event (.ok output) ∈ h := by
    intro h hall hcreates
    obtain ⟨output, hmem⟩ := hcreates
    exact hall _ hmem rfl
  cases hrun with
  | listed hlisted =>
    obtain ⟨output, devices, rfl, -⟩ := hlisted
    exact iff_of_false (hnever (by simp [listing, createDisk])) (by simp)
  | @attached partition created h₁ h₂ h₃ hnone hfile hlisted hasked =>
    obtain ⟨output, devices, rfl, -⟩ := hnone
    obtain ⟨file, partitioned, a, hready, -, rfl⟩ := hfile
    cases hready with
    | existing =>
      refine iff_of_false (hnever ?_) (by simp)
      -- Waiting for the partition asks for nothing but listings.
      have hlistings : ∀ e ∈ h₃, e.query ≠ .run (createDisk disk bytes) := by
        intro e he hcreate
        have hwithin := hasked e he
        rw [hcreate] at hwithin
        exact ne_createDisk (by simp [listSteps]) hwithin rfl
      simp only [List.forall_mem_append]
      refine ⟨⟨?_, ?_, ?_⟩, hlistings⟩
      · simp [listing, createDisk]
      · simp
      · simp [partitionDisk, attachDisk, createDisk]
    | @created mid output' =>
      refine iff_of_true ⟨output', ?_⟩ rfl
      simp

/-! ### Reinitialisations -/

/-- The runs that reinitialise a store, by the part that gets hold of its
disk. -/
inductive Reinitialised (request : StoreRequest) (storeRoot : Option Path) :
    History → StoreOutcome → Prop
  | mk {distro : String} {place : Place} {attached : StoreDisk}
      {before clear disk after : History} {o : StoreOutcome}
      (hdiskPath : diskPath request storeRoot = .ok place.disk)
      /- The old file is gone before any device is used. -/
      (hclear : TornDown place clear)
      (hunused : ∀ e ∈ before ++ clear ++ disk, ¬UsesDevice e.query)
      (hdisk : DiskRun (.wsl distro) place.disk request.bytes attached disk)
      (hdevice : o.mountDevice = some attached.partition.path)
      (hrecreates : Recreates place.disk request.bytes (before ++ clear ++ disk ++ after) ↔
        attached.created = true) :
      Reinitialised request storeRoot (before ++ clear ++ disk ++ after) o

/-- A run that mounts uses the device at last. -/
theorem MountRun.usesDevice {user : Target} {place : Place} {device : String}
    {o : StoreOutcome} (hrun : MountRun user place device h o) :
    ∃ e ∈ h, UsesDevice e.query := by
  cases hrun with
  | @mk found link install activate rest o hlink hinstall hactivate hsettled =>
    obtain ⟨made, written, reloaded, enabled, rfl⟩ := hinstall
    refine ⟨(MountSupervision.writeUnit place.root (unitFor place device found.1)).event
      (.ok written), by simp, "tee", by simp [devicePrograms], rfl⟩

/-- A completed run with `reinit` puts the store on a disk that it has listed or created. -/
theorem Completed.reinitialised {o : StoreOutcome} {h₀ : History}
    (hchosen : ∀ e ∈ h₀, e.query.Within chooseSteps) (hreinit : request.reinit = true)
    (hrun : Completed request storeRoot distro h o) :
    Reinitialised request storeRoot (h₀ ++ h) o := by
  cases hrun with
  | @mk nsenter place attached outcome ready clear found format rest o hroot hdiskPath hready
      hclear hclearAsked hdisk hdiskAsked hformat hformatAsked hmount hmountAsked =>
    obtain ⟨-, htorn⟩ | ⟨hkeep, -⟩ := hclear
    swap
    · rw [hreinit] at hkeep
      cases hkeep
    -- What precedes the part that gets hold of the disk takes its steps or removes the file.
    have hfirst : ∀ e ∈ h₀ ++ ready ++ clear, e.query.Within (firstSteps distro nsenter) ∨
        e.query = .removeFile place.disk := by
      simp only [List.forall_mem_append]
      refine ⟨⟨fun e he => .inl ?_, fun e he => .inl ?_⟩, fun e he => ?_⟩
      · exact (hchosen e he).mono fun s hs => by simp [firstSteps, hs]
      · exact (hready e he).mono fun s hs => by simp [firstSteps, hs]
      · rw [hroot] at hclearAsked
        exact (hclearAsked e he).imp_left fun hq => hq.mono fun s hs => by simp [firstSteps, hs]
    have hunused : ∀ e ∈ h₀ ++ ready ++ clear ++ found, ¬UsesDevice e.query := by
      have hstep : ∀ {q : Query}, q.Within (firstSteps distro nsenter
          ++ diskSteps (.wsl distro)) → ¬UsesDevice q :=
        not_usesDevice (unused_firstSteps distro nsenter)
      refine List.forall_mem_append.mpr ⟨fun e he => ?_, fun e he => ?_⟩
      · rcases hfirst e he with hq | hq
        · exact hstep (hq.mono (List.subset_append_left _ _))
        · rw [hq]
          rintro ⟨_, -, hruns⟩
          exact hruns
      · exact hstep ((hdiskAsked e he).mono (List.subset_append_right _ _))
    have hfirstNot : ∀ e ∈ h₀ ++ ready ++ clear,
        e.query ≠ .run (createDisk place.disk request.bytes) := by
      intro e he
      rcases hfirst e he with hq | hq
      · exact ne_createDisk (name_firstSteps distro nsenter) hq
      · rw [hq]
        simp
    have hrestNot : ∀ e ∈ format ++ rest,
        e.query ≠ .run (createDisk place.disk request.bytes) := by
      have hstep : ∀ {q : Query}, q.Within (ensureSteps place.root
          ++ setUpSteps (.wsl distro) place.root) →
          q ≠ .run (createDisk place.disk request.bytes) :=
        ne_createDisk (name_lastSteps (.wsl distro) place.root)
      refine List.forall_mem_append.mpr ⟨fun e he => ?_, fun e he => ?_⟩
      · exact hstep ((hformatAsked e he).mono (List.subset_append_left _ _))
      · exact hstep ((hmountAsked e he).mono (List.subset_append_right _ _))
    obtain ⟨e, he, huse⟩ := hmount.usesDevice
    have hrecreates := (recreates_iff hunused ⟨e, List.mem_append_right format he, huse⟩
      hfirstNot hrestNot).trans hdisk.creates_iff
    have hdevice : o.mountDevice = some attached.partition.path := by
      cases hmount with
      | mk _ _ _ hsettled => exact hsettled.mountDevice
    have hwhole : Reinitialised request storeRoot
        (h₀ ++ ready ++ clear ++ found ++ (format ++ rest)) o :=
      .mk hdiskPath htorn hunused hdisk hdevice hrecreates
    simpa using hwhole

/-- A warning does not matter. -/
theorem Reinitialised.warn {o : StoreOutcome} (hr : Reinitialised request storeRoot h o)
    (message : String) : Reinitialised request storeRoot h (o.warn message) := by
  cases hr with
  | mk hdiskPath hclear hunused hdisk hdevice hrecreates =>
    have hsame : (o.warn message).mountDevice = o.mountDevice := by simp only [StoreOutcome.warn]
    exact .mk hdiskPath hclear hunused hdisk (hsame.trans hdevice) hrecreates

end Wsl

/-- **A reinitialisation in WSL removes the old disk file before it uses a
device**, and creates a new one before that unless a disk of the wanted size is
still listed after the teardown, or the file is back. -/
theorem wsl_reinit_takes_listed_or_new_disk {σ : Type} (host : Host σ) (s : σ)
    (request : StoreRequest) (storeRoot : Option Path) (o : StoreOutcome)
    (hreinit : request.reinit = true)
    (hok : ((Wsl.provision request storeRoot).outcome.runWith host s).1 = .ok o)
    (hstore : o.useStore = true) :
    Wsl.Reinitialised request storeRoot ((Wsl.provision request storeRoot).outcome.record host s)
      o := by
  have hl := Action.leads_record host (Wsl.provision request storeRoot).outcome s
  rw [hok] at hl
  obtain ⟨h₁, h₂, distro, o', hchosen, hcourse, rfl, hsplit⟩ :=
    (Wsl.provision_run hl).exists_course hstore
  rw [hsplit]
  have hasked := (Wsl.asks_chooseDistro request).of_mem hchosen
  exact ((Wsl.course_ok hcourse).reinitialised hasked hreinit).warn _

/-- A Windows host on which a disk of the wanted size is listed before and after
the teardown. It carries no filesystem. -/
def hostWithListedDisk : Scripted.State :=
  let s : Scripted.State := {}
  let s := s.on "wsl.exe" [] [.output "* Ubuntu Running 2"]
  let s := s.on "cat" [] [.output "btrfs"]
  let s := s.on "which" [] [.output "/usr/bin/tool"]
  let s := s.on "sh" [] [.output "running", .output "/state"]
  let s := s.on "powershell.exe" [] [.output "Running", .output "True"]
  let s := s.on "systemd-escape" [] [.output "state-sqlrs-store.mount"]
  let s := s.on "lsblk" []
    [.output "NAME SIZE TYPE\nsdb 107374182400 disk\nsdb1 107374182400 part"]
  let s := s.on "findmnt" [] [.failure 1 "", .failure 1 "", .output "btrfs"]
  let s := s.on "blkid" [] [.failure 2 "", .output "btrfs", .output "1-2"]
  s.on "id" [] [.output "1000"]

/-- On this host a run with `reinit` succeeds. -/
theorem stores_hostWithListedDisk :
    ∃ o, ((Wsl.provision { reinit := true } (some ⟨"C:"⟩)).outcome.runWith Scripted.host
      hostWithListedDisk).1 = .ok o ∧ o.useStore = true :=
  exists_ok_of_any (by decide +kernel)

/-- The run on a host that still lists a disk of the size after the teardown. -/
theorem wsl_reinit_takes_listed_or_new_disk_listed :
    ∃ o, ((Wsl.provision { reinit := true } (some ⟨"C:"⟩)).outcome.runWith Scripted.host
        hostWithListedDisk).1 = .ok o ∧ o.useStore = true ∧
      Wsl.Reinitialised { reinit := true } (some ⟨"C:"⟩)
        ((Wsl.provision { reinit := true } (some ⟨"C:"⟩)).outcome.record Scripted.host
          hostWithListedDisk) o := by
  obtain ⟨o, hok, hstore⟩ := stores_hostWithListedDisk
  exact ⟨o, hok, hstore, wsl_reinit_takes_listed_or_new_disk Scripted.host hostWithListedDisk
    { reinit := true } (some ⟨"C:"⟩) o rfl hok hstore⟩

/-- The listed disk is formatted without a new disk file. -/
theorem wsl_reinit_formats_listed_disk :
    Wsl.diskPath { reinit := true } (some ⟨"C:"⟩) = .ok ⟨"C:/btrfs.vhdx"⟩ ∧
      (∃ o, ((Wsl.provision { reinit := true } (some ⟨"C:"⟩)).outcome.runWith Scripted.host
        hostWithListedDisk).1 = .ok o ∧ o.useStore = true) ∧
      (∃ e ∈ (Wsl.provision { reinit := true } (some ⟨"C:"⟩)).outcome.record Scripted.host
        hostWithListedDisk, e.query = .run (makeBtrfs (.wslRoot "Ubuntu" true) "/dev/sdb1")) ∧
      ¬Wsl.Recreates ⟨"C:/btrfs.vhdx"⟩ ({ reinit := true } : StoreRequest).bytes
        ((Wsl.provision { reinit := true } (some ⟨"C:"⟩)).outcome.record Scripted.host
          hostWithListedDisk) := by
  have hformats : ∃ e ∈ (Wsl.provision { reinit := true } (some ⟨"C:"⟩)).outcome.record
      Scripted.host hostWithListedDisk,
      e.query = .run (makeBtrfs (.wslRoot "Ubuntu" true) "/dev/sdb1") := by
    decide +kernel
  have hnever : ∀ e ∈ (Wsl.provision { reinit := true } (some ⟨"C:"⟩)).outcome.record
      Scripted.host hostWithListedDisk, e.query ≠ .run (Wsl.createDisk ⟨"C:/btrfs.vhdx"⟩
        ({ reinit := true } : StoreRequest).bytes) := by
    decide +kernel
  refine ⟨by decide +kernel, stores_hostWithListedDisk, hformats, fun hguarded => ?_⟩
  obtain ⟨e, he, hquery⟩ := hformats
  obtain ⟨before, after, hsplit⟩ := List.append_of_mem he
  obtain ⟨output, hmem⟩ := hguarded before e after hsplit
    ⟨"mkfs.btrfs", by simp [Wsl.devicePrograms], by simp [hquery, Query.Runs, makeBtrfs]⟩
  refine hnever ((Wsl.createDisk ⟨"C:/btrfs.vhdx"⟩ _).event (.ok output)) ?_ rfl
  rw [hsplit]
  exact List.mem_append_left _ hmem

end BtrfsStore
