import BtrfsStore.Proofs.Course.Native
import BtrfsStore.Proofs.Course.Wsl
import BtrfsStore.Scripted
/-!
# BtrfsStore.Proofs.FreshStore

What a run mounts after it has formatted a device.

Mounting a store has a shortcut on both platforms. A Linux host mounts nothing
on a directory that shows btrfs already, and inside WSL a unit that is active is
not started again. Both go by the filesystem type or the name of the unit and not
by the device. So a device that has been formatted is mounted, unless one of the
two shortcuts is taken, and then something else may be mounted in its place.
-/

namespace BtrfsStore

open Filesystem MountSupervision

/-- The device has been formatted. -/
def Makes (device : String) : Event → Prop
  | ⟨.run c, .ok _⟩ => c.program = "mkfs.btrfs" ∧ c.args.getLast? = some device
  | _ => False

instance (device : String) : DecidablePred (Makes device)
  | ⟨.run _, .ok _⟩ => inferInstanceAs (Decidable (_ ∧ _))
  | ⟨.run _, .error _⟩ | ⟨.locate _, _⟩ | ⟨.isRoot, _⟩ | ⟨.sleep _, _⟩ | ⟨.pathExists _, _⟩
  | ⟨.makeDirectories _, _⟩ | ⟨.removeFile _, _⟩ | ⟨.readText _, _⟩ | ⟨.writeText _ _, _⟩ =>
    .isFalse id

theorem Makes.runs {device : String} {e : Event} (hmakes : Makes device e) :
    e.query.Runs "mkfs.btrfs" := by
  obtain ⟨q, a⟩ := e
  cases q with
  | run c =>
    cases a with
    | ok output => exact hmakes.1
    | error f => exact hmakes.elim
  | _ => exact hmakes.elim

/-- No device is formatted by steps none of which runs the tool for it. -/
theorem Makes.notMem {device : String} {e : Event} {h : History} {steps : List Step}
    (hmakes : Makes device e) (hasked : ∀ e ∈ h, e.query.Within steps)
    (hsteps : ∀ s ∈ steps, ∃ word ≠ "mkfs.btrfs", s.words.head? = some word) : e ∉ h :=
  fun he => (hasked e he).not_runs hsteps hmakes.runs

/-- The run has formatted the device and ends with a store on it. -/
def StoresFresh (device : String) (h : History) (r : Except Failure StoreOutcome) : Prop :=
  (∃ o, r = .ok o ∧ o.useStore = true ∧ o.mountDevice = some device) ∧ ∃ e ∈ h, Makes device e

theorem storesFresh_of_any {device : String} {h : History} {r : Except Failure StoreOutcome}
    (hr : r.toOption.any (fun o => o.useStore && o.mountDevice == some device) = true)
    (hmade : ∃ e ∈ h, Makes device e) : StoresFresh device h r := by
  obtain ⟨o, hok, ho⟩ := exists_ok_of_any hr
  rw [Bool.and_eq_true, beq_iff_eq] at ho
  exact ⟨⟨o, hok, ho⟩, hmade⟩

/-! ### On a Linux host -/

namespace Native

/-- Once a device is formatted, the run mounts it on the directory of the store,
or the directory shows btrfs before it does. -/
def MountsFresh (request : StoreRequest) (storeRoot : Option Path) (h : History)
    (r : Except Failure StoreOutcome) : Prop :=
  ∀ o device before e after, r = .ok o → o.useStore = true → o.mountDevice = some device →
    Makes device e → h = before ++ e :: after →
    ∃ plan pre mounting post, StorePlan.ofRequest request storeRoot = .ok plan ∧
      o.storePath = some plan.storeDir.text ∧
      Mounted plan device plan.storeDir.text mounting ∧ after = pre ++ mounting ++ post

theorem finishSteps_no_mkfs :
    ∀ s ∈ finishSteps, ∃ word ≠ "mkfs.btrfs", s.words.head? = some word := by
  simp [finishSteps, mountSteps, mountPointSteps, StoreContent.giveSteps, StoreContent.ownerSteps]

variable {request : StoreRequest} {storeRoot : Option Path} {h : History}

theorem provision_mountsFresh {r : Except Failure StoreOutcome}
    (hl : (provision request storeRoot).outcome.Leads h r) :
    MountsFresh request storeRoot h r := by
  rintro o device before e after rfl hstore hdevice hmakes hsplit
  obtain ⟨plan, backing, hplan, -, rfl, hrun⟩ := provision_deviceRun hl hstore hdevice
  cases hrun with
  | @mk ready format mounting give _ _ _ _ hmounted hasked hpath =>
    have he := hmakes.notMem hasked finishSteps_no_mkfs
    obtain ⟨pre, rfl⟩ := History.exists_suffix he hsplit
    exact ⟨plan, pre, mounting, give, hplan, hpath, hmounted, by simp⟩

end Native

/-! ### Inside WSL -/

namespace Wsl

/-- Once a device is formatted, the run writes a unit that mounts it on the
directory of the store, by its path or by the link to its UUID. It starts the
unit, unless the unit is active. -/
def MountsFresh (h : History) (r : Except Failure StoreOutcome) : Prop :=
  ∀ o device before e after, r = .ok o → o.useStore = true → o.mountDevice = some device →
    Makes device e → h = before ++ e :: after →
    ∃ root unit pre install activate post, o.storePath = some unit.mountPoint ∧
      o.mountUnit = some unit.name ∧
      (unit.source = device ∨ ∃ uuid, unit.source = uuidLink uuid ∧ UuidRead root device uuid pre) ∧
      Installed root unit install ∧ Activated root unit activate ∧
      after = pre ++ install ++ activate ++ post

variable {request : StoreRequest} {storeRoot : Option Path} {distro : String} {h : History}
  {o : StoreOutcome}

/-- After a format nothing is formatted again. -/
theorem setUpSteps_no_mkfs (user root : Target) :
    ∀ s ∈ setUpSteps user root, ∃ word ≠ "mkfs.btrfs", s.words.head? = some word := by
  simp [setUpSteps, linkSteps, installSteps, activateSteps, mountPointSteps,
    StoreContent.subvolumeSteps, StoreContent.giveSteps, StoreContent.ownerSteps]

/-- The source of the unit is the device or a link by a UUID that was read from
it. -/
theorem source_unitFor {place : Place} {device : String} {found : Option String × Option String}
    {link : History} (hlink : LinkFound place.root device found link) :
    (unitFor place device found.1).source = device ∨
      ∃ uuid, (unitFor place device found.1).source = uuidLink uuid ∧
        UuidRead place.root device uuid link := by
  obtain ⟨path, read⟩ := found
  cases path with
  | none => exact .inl rfl
  | some path =>
    obtain ⟨uuid, rfl, rfl⟩ := hlink.2 path rfl
    exact .inr ⟨uuid, rfl, hlink.1 uuid rfl⟩

theorem provision_mountsFresh {r : Except Failure StoreOutcome}
    (hl : (provision request storeRoot).outcome.Leads h r) : MountsFresh h r := by
  rintro o device before e after rfl hstore hdevice hmakes hsplit
  obtain ⟨h₁, h₂, distro, o', -, hcourse, rfl, rfl⟩ := (provision_run hl).exists_course hstore
  simp only [StoreOutcome.warn] at hdevice ⊢
  cases course_ok hcourse with
  | @mk nsenter place attached outcome ready clear disk format rest _ hroot hdiskPath hready
      hclear hclearAsked hdisk hdiskAsked hformat hformatAsked hmount hmountAsked =>
    have he := hmakes.notMem hmountAsked (setUpSteps_no_mkfs _ _)
    rw [← List.append_assoc] at hsplit
    obtain ⟨pre, rfl⟩ := History.exists_suffix he hsplit
    cases hmount with
    | @mk found link install activate fill _ hlink hinstall hactivate hsettled =>
      obtain rfl : attached.partition.path = device :=
        Option.some.inj (hsettled.mountDevice.symm.trans hdevice)
      refine ⟨place.root, unitFor place attached.partition.path found.1, pre ++ link, install,
        activate, fill, hsettled.storePath, hsettled.mountUnit, ?_, hinstall, hactivate, by simp⟩
      refine (source_unitFor hlink).imp_right fun hread => ?_
      obtain ⟨uuid, hsource, hread⟩ := hread
      exact ⟨uuid, hsource, hread.mono (List.subset_append_right _ _)⟩

end Wsl

/-! ### Both platforms -/

/-- **A device that a run has formatted is mounted**, unless the run takes one of
the two shortcuts: on a Linux host the directory of the store shows btrfs before
anything is mounted on it, and inside WSL the unit is active once its file has
been written. -/
theorem fresh_store_is_mounted {σ : Type} (host : Host σ) (s : σ) (request : StoreRequest)
    (storeRoot : Option Path) :
    Native.MountsFresh request storeRoot
        ((Native.provision request storeRoot).outcome.record host s)
        ((Native.provision request storeRoot).outcome.runWith host s).1 ∧
      Wsl.MountsFresh ((Wsl.provision request storeRoot).outcome.record host s)
        ((Wsl.provision request storeRoot).outcome.runWith host s).1 :=
  ⟨Native.provision_mountsFresh (Action.leads_record host _ s),
    Wsl.provision_mountsFresh (Action.leads_record host _ s)⟩

/-- A Linux host on which btrfs is mounted on the directory of the store when the
run is about to mount its image there. -/
def hostWithMount : Scripted.State :=
  let s : Scripted.State := {}
  let s := s.on "findmnt" [] [.failure 1 "", .output "btrfs"]
  let s := s.on "blkid" [] [.failure 2 "", .output "btrfs"]
  s.on "id" [] [.output "1000"]

/-- A Windows host on which the unit of the store is active when the run is about
to start it. -/
def hostWithActiveUnit : Scripted.State :=
  let s : Scripted.State := {}
  let s := s.on "wsl.exe" [] [.output "* Ubuntu Running 2"]
  let s := s.on "cat" [] [.output "btrfs"]
  let s := s.on "which" [] [.output "/usr/bin/tool"]
  let s := s.on "sh" [] [.output "running", .output "/state"]
  let s := s.on "powershell.exe" [] [.output "Running", .output "True"]
  let s := s.on "systemd-escape" [] [.output "state-sqlrs-store.mount"]
  let s := s.on "lsblk" []
    [.output "NAME SIZE TYPE\nsda 1 disk",
      .output "NAME SIZE TYPE\nsdb 107374182400 disk\nsdb1 107374182400 part"]
  let s := s.on "findmnt" [] [.failure 1 "", .output "btrfs"]
  let s := s.on "blkid" [] [.failure 2 "", .output "btrfs", .output "1-2"]
  let s := s.on "systemctl" ["is-active"] [.output "active"]
  s.on "id" [] [.output "1000"]

theorem storesFresh_hostWithMount :
    StoresFresh "/store.img"
      ((Native.provision {} (some ⟨"/store"⟩)).outcome.record Scripted.host hostWithMount)
      ((Native.provision {} (some ⟨"/store"⟩)).outcome.runWith Scripted.host hostWithMount).1 :=
  storesFresh_of_any (by decide +kernel) (by decide +kernel)

theorem storesFresh_hostWithActiveUnit :
    StoresFresh "/dev/sdb1"
      ((Wsl.provision {} (some ⟨"C:"⟩)).outcome.record Scripted.host hostWithActiveUnit)
      ((Wsl.provision {} (some ⟨"C:"⟩)).outcome.runWith Scripted.host hostWithActiveUnit).1 :=
  storesFresh_of_any (by decide +kernel) (by decide +kernel)

/-- Both shortcuts: btrfs is on the directory of the store already, and its unit is active
already. -/
theorem fresh_store_is_mounted_shortcuts :
    (∃ plan before e pre mounting post, Makes "/store.img" e ∧
        StorePlan.ofRequest {} (some ⟨"/store"⟩) = .ok plan ∧
        Native.Mounted plan "/store.img" plan.storeDir.text mounting ∧
        (Native.provision {} (some ⟨"/store"⟩)).outcome.record Scripted.host hostWithMount
          = before ++ e :: (pre ++ mounting ++ post)) ∧
      ∃ root unit before e pre install activate post, Makes "/dev/sdb1" e ∧
        Installed root unit install ∧ Activated root unit activate ∧
        (Wsl.provision {} (some ⟨"C:"⟩)).outcome.record Scripted.host hostWithActiveUnit
          = before ++ e :: (pre ++ install ++ activate ++ post) := by
  constructor
  · obtain ⟨⟨o, hok, hstore, hdevice⟩, e, he, hmakes⟩ := storesFresh_hostWithMount
    obtain ⟨before, after, hsplit⟩ := List.append_of_mem he
    obtain ⟨plan, pre, mounting, post, hplan, -, hmounted, rfl⟩ :=
      (fresh_store_is_mounted Scripted.host hostWithMount {} (some ⟨"/store"⟩)).1 o _ before e
        after hok hstore hdevice hmakes hsplit
    exact ⟨plan, before, e, pre, mounting, post, hmakes, hplan, hmounted, hsplit⟩
  · obtain ⟨⟨o, hok, hstore, hdevice⟩, e, he, hmakes⟩ := storesFresh_hostWithActiveUnit
    obtain ⟨before, after, hsplit⟩ := List.append_of_mem he
    obtain ⟨root, unit, pre, install, activate, post, -, -, -, hinstall, hactivate, rfl⟩ :=
      (fresh_store_is_mounted Scripted.host hostWithActiveUnit {} (some ⟨"C:"⟩)).2 o _ before e
        after hok hstore hdevice hmakes hsplit
    exact ⟨root, unit, before, e, pre, install, activate, post, hmakes, hinstall, hactivate,
      hsplit⟩

/-- With the shortcuts, nothing mounts the device that has been formatted. -/
theorem fresh_store_may_stay_unmounted :
    (StoresFresh "/store.img"
        ((Native.provision {} (some ⟨"/store"⟩)).outcome.record Scripted.host hostWithMount)
        ((Native.provision {} (some ⟨"/store"⟩)).outcome.runWith Scripted.host hostWithMount).1 ∧
      ∀ e ∈ (Native.provision {} (some ⟨"/store"⟩)).outcome.record Scripted.host hostWithMount,
        ¬e.query.Runs "mount") ∧
    (StoresFresh "/dev/sdb1"
        ((Wsl.provision {} (some ⟨"C:"⟩)).outcome.record Scripted.host hostWithActiveUnit)
        ((Wsl.provision {} (some ⟨"C:"⟩)).outcome.runWith Scripted.host hostWithActiveUnit).1 ∧
      ∀ e ∈ (Wsl.provision {} (some ⟨"C:"⟩)).outcome.record Scripted.host hostWithActiveUnit,
        ¬e.query.Runs "mount" ∧
          e.query ≠ .run (startUnit (.wslRoot "Ubuntu" true) "state-sqlrs-store.mount")) := by
  refine ⟨⟨storesFresh_hostWithMount, ?_⟩, storesFresh_hostWithActiveUnit, ?_⟩
  · decide +kernel
  · decide +kernel

end BtrfsStore
