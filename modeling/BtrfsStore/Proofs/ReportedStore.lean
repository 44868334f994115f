import BtrfsStore.Proofs.Course.Wsl
import BtrfsStore.Proofs.Warnings
import BtrfsStore.Scripted
/-!
# BtrfsStore.Proofs.ReportedStore

What a run inside WSL reports of its store is what it has seen.

An outcome with a store says where the store is, which device is mounted there
and by which unit. `Verified` reads all of this off the history: the file of the
unit was written with exactly these parts, and after that the mount was seen, the
subvolumes were found or made, and the tree was given to the user of the distro.

The fields of the outcome are filled in at different stages. `Stages.Keeps` says
that the stages in between leave a field alone, and `SetUpRun` writes the last
stages out, which fill in the rest.
-/

namespace BtrfsStore.Wsl

open Filesystem MountSupervision StoreContent

/-! ### Fields that are left alone -/

namespace Stages

variable {α β γ : Type} {field : StoreOutcome → γ}

/-- No run of the stages changes the field of the outcome. -/
def Keeps (field : StoreOutcome → γ) (x : Stages α) : Prop :=
  ∀ o h r o', (x.runFrom o).Leads h (r, o') → field o' = field o

theorem keeps_pure (a : α) : (pure a : Stages α).Keeps field := by
  intro o h r o' hl
  obtain ⟨-, hp⟩ := Action.leads_done.mp hl
  rw [(Prod.mk.inj hp).2]

theorem keeps_step (x : Attempt α) : (step x).Keeps field := by
  intro o h r o' hl
  rw [(leads_step.mp hl).2]

theorem keeps_stage (s : Stage) (x : Attempt α) : (stage s x).Keeps field :=
  keeps_step (x.inStage s)

theorem keeps_update {g : StoreOutcome → StoreOutcome} (hg : ∀ o, field (g o) = field o) :
    (update g).Keeps field := by
  intro o h r o' hl
  obtain ⟨-, hp⟩ := Action.leads_done.mp hl
  rw [(Prod.mk.inj hp).2, hg]

theorem keeps_bind {x : Stages α} {f : α → Stages β} (hx : x.Keeps field)
    (hf : ∀ a, (f a).Keeps field) : (x >>= f).Keeps field := by
  intro o h r o' hl
  rcases leads_bind.mp hl with ⟨e, herror, -⟩ | ⟨h₁, a, o₁, h₂, hfirst, hrest, -⟩
  · exact hx _ _ _ _ herror
  · exact (hf a _ _ _ _ hrest).trans (hx _ _ _ _ hfirst)

/-- Stages that may be left out. -/
theorem keeps_if {needed : Bool} {x : Stages Unit} {y : Stages α} (hx : x.Keeps field)
    (hy : y.Keeps field) :
    (do if needed then x
        y : Stages α).Keeps field := by
  cases needed with
  | true => exact keeps_bind hx fun _ => hy
  | false => exact hy

/-- The run with an update that may be left out goes on from the outcome with or
without it. -/
theorem runFrom_update_if {needed : Bool} (g : StoreOutcome → StoreOutcome) (x : Stages α)
    (o : StoreOutcome) :
    (do if needed then update g
        x : Stages α).runFrom o = x.runFrom (if needed then g o else o) := by
  cases needed <;> rfl

end Stages

variable {request : StoreRequest} {storeRoot : Option Path} {distro : String} {user : Target}
  {place : Place} {device : String} {h : History} {o o' : StoreOutcome}

theorem keeps_distro_prepareDistro (request : StoreRequest) (distro : String) :
    (prepareDistro request distro).Keeps StoreOutcome.distro := by
  have hwarn : ∀ message, (update (·.warn message)).Keeps StoreOutcome.distro :=
    fun message => Stages.keeps_update fun o => o.warn_distro message
  unfold prepareDistro
  dsimp only
  rw [Stages.stage_discard]
  refine Stages.keeps_if (Stages.keeps_stage _ _) ?_
  refine Stages.keeps_bind (Stages.keeps_stage _ _) fun _ => ?_
  refine Stages.keeps_bind (Stages.keeps_stage _ _) fun nsenter => ?_
  refine Stages.keeps_if (hwarn _) ?_
  refine Stages.keeps_bind (Stages.keeps_update fun _ => rfl) fun _ => ?_
  refine Stages.keeps_bind (Stages.keeps_stage _ _) fun _ => ?_
  refine Stages.keeps_bind (Stages.keeps_step _) fun warning => ?_
  have helevation : (do
      stage .elevation checkElevation
      pure nsenter : Stages Bool).Keeps StoreOutcome.distro :=
    Stages.keeps_bind (Stages.keeps_stage _ _) fun _ => Stages.keeps_pure _
  cases warning with
  | none => exact helevation
  | some warning => exact Stages.keeps_bind (hwarn _) fun _ => helevation

/-- Once the place of the store is found, the outcome names the distro and the
directory. -/
theorem findPlace_named {o o' : StoreOutcome}
    (hl : ((findPlace request storeRoot distro).runFrom o).Leads h (.ok place, o')) :
    (∃ nsenter, place.root = .wslRoot distro nsenter) ∧ o'.distro = o.distro ∧
      o'.stateDir = some place.stateDir := by
  unfold findPlace at hl
  obtain ⟨h₁, nsenter, o₁, h₂, hprepare, hrest₁, rfl⟩ := Stages.leads_bind_ok.mp hl
  obtain ⟨h₃, ⟨stateDir, unitName⟩, o₂, h₄, hresolve, hrest₂, rfl⟩ :=
    Stages.leads_bind_ok.mp hrest₁
  obtain ⟨h₅, u, o₃, h₆, hupdate, hrest₃, rfl⟩ := Stages.leads_bind_ok.mp hrest₂
  obtain ⟨h₇, disk, o₄, h₈, hdisk, hdone, rfl⟩ := Stages.leads_bind_ok.mp hrest₃
  obtain ⟨-, hp⟩ := Action.leads_done.mp hdone
  obtain ⟨rfl, rfl⟩ : place = _ ∧ o' = o₄ := by simpa using hp
  obtain rfl := (Stages.leads_stage.mp hdisk).2
  obtain ⟨-, hu⟩ := Action.leads_done.mp hupdate
  obtain rfl := (Prod.mk.inj hu).2
  obtain rfl := (Stages.leads_stage.mp hresolve).2
  have hkept := keeps_distro_prepareDistro request distro _ _ _ _ hprepare
  exact ⟨⟨nsenter, rfl⟩, hkept, rfl⟩

/-! ### The last stages -/

/-- The runs that mount the device, fill the store and report it, from the
outcome `o` so far. -/
inductive SetUpRun (user : Target) (place : Place) (device : String) (o : StoreOutcome) :
    History → StoreOutcome → Prop
  | mk {found : Option String × Option String} {link install activate fill give : History}
      {o' : StoreOutcome} (hlink : (findLink place.root device).Leads link found)
      (hinstall : Installed place.root (unitFor place device found.1) install)
      (hactivate : Activated place.root (unitFor place device found.1) activate)
      (hfill : ∀ name ∈ subvolumes, Present place.root place.stateDir fill name)
      (hfillAsked : ∀ e ∈ fill, e.query.Within (subvolumeSteps place.root))
      (hgive : Given place.root user place.stateDir give)
      (hsettled : Settled place device found.2 o')
      (hwarned : found.1 = none → Recorded (linkWarning device) o'.warning)
      (hdistro : o'.distro = o.distro) (hstateDir : o'.stateDir = o.stateDir) :
      SetUpRun user place device o (link ++ install ++ activate ++ fill ++ give) o'

theorem trim_linkWarning_ne (device : String) : Text.trim (linkWarning device) ≠ "" := by
  have hvisible : Text.isBlankText (linkWarning device) = false :=
    Text.isBlankText_append_left (Text.isBlankText_append_left (by decide) _) _
  rw [Ne, Text.trim_eq_empty_iff, hvisible]
  simp

theorem setUp_run {u : Unit}
    (hl : ((setUp request user place device).runFrom o).Leads h (.ok u, o')) :
    SetUpRun user place device o h o' := by
  unfold setUp mountUnit at hl
  obtain ⟨link, ⟨path, uuid⟩, o₁, h₁, hlink, hrest₁, rfl⟩ := Stages.leads_bind_ok.mp hl
  obtain ⟨hfound, hsame⟩ := Stages.leads_step.mp hlink
  subst o₁
  rw [Attempt.outcome_lift, Action.leads_map] at hfound
  obtain ⟨found, hfound, hsame⟩ := hfound
  obtain rfl := Except.ok.inj hsame
  dsimp only at hrest₁
  rw [Stages.runFrom_update_if] at hrest₁
  -- The last stages go on from the outcome with the warning, if one is due.
  generalize hnoted : (if path.isNone = true then o.warn (linkWarning device) else o) = noted
    at hrest₁
  obtain ⟨hdistro, hstateDir, hwarned⟩ : noted.distro = o.distro ∧ noted.stateDir = o.stateDir ∧
      (path = none → Recorded (linkWarning device) noted.warning) := by
    cases path with
    | none =>
      rw [Option.isNone_none, if_pos rfl] at hnoted
      have hrecorded := recorded_addWarning (trim_linkWarning_ne device) o.warning
      simp only [← hnoted, StoreOutcome.warn, hrecorded, true_and, implies_true]
    | some path =>
      rw [Option.isNone_some, if_neg Bool.false_ne_true] at hnoted
      subst hnoted
      exact ⟨rfl, rfl, fun h => by cases h⟩
  obtain ⟨h₂, _, o₂, h₃, hmount, hrest₂, rfl⟩ := Stages.leads_bind_ok.mp hrest₁
  obtain rfl : o₂ = _ := (Stages.leads_stage.mp hmount).2
  have hmounted := Attempt.leads_inStage_ok.mp (Stages.leads_stage.mp hmount).1
  obtain ⟨install, _, activate, hinstall, hactivate, rfl⟩ := Attempt.leads_bind_ok.mp hmounted
  rw [Stages.discard_bind] at hrest₂
  obtain ⟨fill, _, o₃, h₄, hfill, hrest₃, rfl⟩ := Stages.leads_bind_ok.mp hrest₂
  obtain rfl : o₃ = _ := (Stages.leads_stage.mp hfill).2
  have hfilled := Attempt.leads_inStage_ok.mp (Stages.leads_stage.mp hfill).1
  rw [Stages.discard_bind] at hrest₃
  obtain ⟨give, _, o₄, h₅, hgive, hend, rfl⟩ := Stages.leads_bind_ok.mp hrest₃
  obtain rfl : o₄ = _ := (Stages.leads_stage.mp hgive).2
  have hgiven := Attempt.leads_inStage_ok.mp (Stages.leads_stage.mp hgive).1
  obtain ⟨rfl, hsettled⟩ := Action.leads_done.mp hend
  obtain rfl := (Prod.mk.inj hsettled).2
  have hparts : link ++ (install ++ activate ++ (fill ++ (give ++ [])))
      = link ++ install ++ activate ++ fill ++ give := by simp
  rw [hparts]
  exact .mk hfound ((install_attains _ _).reached _ _ hinstall)
    ((activate_attains _ _ _).reached _ _ hactivate)
    ((ensureSubvolumes_attains _ _).reached _ _ hfilled)
    ((asks_ensureSubvolumes _ _).within.of_mem hfilled) ((giveTo_attains _ _ _).reached _ _ hgiven)
    ⟨rfl, rfl, rfl, rfl, rfl, rfl⟩ hwarned hdistro hstateDir

/-! ### Whole runs -/

/-- What the unit mounts: the link to the UUID that is reported, which was there
when it was tested, or the device that is reported, with a warning. -/
inductive SourceReported (root : Target) (h : History) (o : StoreOutcome) : String → Prop
  | link {uuid output : String} (huuid : o.mountDeviceUuid = some uuid)
      (htested : (linkTest root uuid).event (.ok output) ∈ h) :
      SourceReported root h o (uuidLink uuid)
  | device {device : String} (hdevice : o.mountDevice = some device)
      (hwarned : Recorded (linkWarning device) o.warning) : SourceReported root h o device

/-- The outcome tells of the store that a run has seen, which wrote the file of
`unit` after `before` and asked `after` from then on. -/
structure Verified (distro : String) (root : Target) (unit : MountUnit) (before after : History)
    (o : StoreOutcome) : Prop where
  named : o.distro = some distro
  privileged : ∃ nsenter, root = .wslRoot distro nsenter
  mountUnit : o.mountUnit = some unit.name
  stateDir : o.stateDir = some unit.mountPoint
  storePath : o.storePath = some unit.mountPoint
  fsType : unit.effectiveFsType = btrfsType ∧ o.mountFsType = some btrfsType
  source : SourceReported root before o unit.source
  /-- The last answer about the mount is that btrfs is there. -/
  live : LastShows root unit.mountPoint btrfsType after
  subvolumes : ∀ name ∈ subvolumes, Present root unit.mountPoint after name
  /-- At the very end, the tree is given to the user of the distro. -/
  given : ∃ rest give, after = rest ++ give ∧ Given root (.wsl distro) unit.mountPoint give
  /-- The last warning is the advice to restart. -/
  hint : o.warnings.getLast? = some shutdownHint

theorem subvolumeSteps_no_findmnt (root : Target) :
    ∀ s ∈ subvolumeSteps root, ∃ word ≠ "findmnt", s.words.head? = some word := by
  simp [subvolumeSteps]

theorem giveSteps_no_findmnt (root user : Target) :
    ∀ s ∈ giveSteps root user, ∃ word ≠ "findmnt", s.words.head? = some word := by
  simp [giveSteps, ownerSteps]

/-- The advice is one line. -/
theorem getLast?_warnings_shutdownHint (o : StoreOutcome) :
    (o.warn shutdownHint).warnings.getLast? = some shutdownHint :=
  o.getLast?_warnings_warn (by decide +kernel) (by decide +kernel) (by decide +kernel)

/-- The source of the unit is reported as it was found. -/
theorem sourceReported_unitFor {found : Option String × Option String}
    (hlink : (findLink place.root device).Leads h found) (hsettled : Settled place device found.2 o)
    (hwarned : found.1 = none → Recorded (linkWarning device) o.warning) :
    SourceReported place.root h o (unitFor place device found.1).source := by
  obtain ⟨_ | path, uuid⟩ := found
  · exact .device hsettled.mountDevice (hwarned rfl)
  · obtain ⟨read, output, rfl, rfl, htested⟩ := findLink_tested hlink
    exact .link hsettled.mountDeviceUuid htested

theorem SourceReported.mono {root : Target} {h' : History} {source : String}
    (hsource : SourceReported root h o source) (hsub : h ⊆ h') (message : String) :
    SourceReported root h' (o.warn message) source := by
  cases hsource with
  | link huuid htested => exact .link (by rwa [o.warn_mountDeviceUuid]) (hsub htested)
  | device hdevice hwarned =>
    refine .device (by rwa [o.warn_mountDevice]) ?_
    rw [o.warn_warning]
    exact hwarned.addWarning message

/-- The last stages leave a store that is verified. -/
theorem SetUpRun.verified (hr : SetUpRun (.wsl distro) place device o h o')
    (hroot : ∃ nsenter, place.root = .wslRoot distro nsenter) (hdistro : o.distro = some distro)
    (hstateDir : o.stateDir = some place.stateDir) (first : History) :
    ∃ unit before output after,
      first ++ h = before ++ (writeUnit place.root unit).event (.ok output) :: after ∧
      Verified distro place.root unit before after (o'.warn shutdownHint) := by
  cases hr with
  | @mk found link install activate fill give _ hlink hinstall hactivate hfill hfillAsked hgive
      hsettled hwarned hkeptDistro hkeptDir =>
    obtain ⟨made, written, reloaded, enabled, rfl⟩ := hinstall
    -- Nothing after the activation looks at a mount point.
    have hquiet : ∀ e ∈ fill ++ give, ¬e.query.Runs "findmnt" := by
      refine List.forall_mem_append.mpr ⟨fun e he => ?_, fun e he => ?_⟩
      · exact (hfillAsked e he).not_runs (subvolumeSteps_no_findmnt _)
      · exact (hgive.within e he).not_runs (giveSteps_no_findmnt _ _)
    have hlive : LastShows place.root place.stateDir btrfsType
        ([(reloadUnits place.root).event (.ok reloaded),
          (enableUnit place.root place.unitName).event (.ok enabled)]
            ++ (activate ++ (fill ++ give))) :=
      (hactivate.lastShows hquiet).append_left _
    refine ⟨unitFor place device found.1,
      first ++ link ++ [(makeMountPoint place.root place.stateDir).event (.ok made)], written,
      (reloadUnits place.root).event (.ok reloaded)
        :: (enableUnit place.root place.unitName).event (.ok enabled) :: activate ++ fill ++ give,
      by simp [unitFor], ?_⟩
    exact {
      named := by rw [o'.warn_distro, hkeptDistro, hdistro]
      privileged := hroot
      mountUnit := by rw [o'.warn_mountUnit, hsettled.mountUnit]; rfl
      stateDir := by rw [o'.warn_stateDir, hkeptDir, hstateDir]; rfl
      storePath := by rw [o'.warn_storePath, hsettled.storePath]; rfl
      fsType := ⟨ite_self _, by rw [o'.warn_mountFsType, hsettled.mountFsType]⟩
      source := (sourceReported_unitFor hlink hsettled hwarned).mono (by simp) shutdownHint
      live := by simpa [unitFor] using hlive
      subvolumes := fun name hname => (hfill name hname).mono fun e he => by simp [he]
      given := ⟨_, give, rfl, hgive⟩
      hint := getLast?_warnings_shutdownHint o' }

/-- A run with a store is one whose stages have all succeeded. -/
theorem conclude_ok {require : Bool} {ended : Ended}
    (hended : conclude require ended = .ok o) (hstore : o.useStore = true) :
    ∃ o', ended = .ok (.ok (), o') ∧ o = o'.warn shutdownHint := by
  obtain reason | ⟨f | u, o'⟩ := ended
  · cases require with
    | true => cases hended
    | false =>
      obtain rfl := Except.ok.inj hended
      rw [StoreOutcome.fallback, StoreOutcome.warn_useStore] at hstore
      cases hstore
  · cases require with
    | true => cases hended
    | false =>
      obtain rfl := Except.ok.inj hended
      rw [StoreOutcome.warn_useStore, StoreOutcome.abandon, StoreOutcome.warn_useStore] at hstore
      cases hstore
  · exact ⟨o', rfl, (Except.ok.inj hended).symm⟩

/-- A run inside a distro that succeeds leaves a store that is verified. -/
theorem runStages_verified {u : Unit} (first : History)
    (hl : ((runStages request storeRoot distro).runFrom { distro := some distro }).Leads h
      (.ok u, o)) :
    ∃ root unit before output after,
      first ++ h = before ++ (writeUnit root unit).event (.ok output) :: after ∧
      Verified distro root unit before after (o.warn shutdownHint) := by
  rw [runStages_eq] at hl
  obtain ⟨h₁, place, o₁, h₂, hfind, hrest, rfl⟩ := Stages.leads_bind_ok.mp hl
  obtain ⟨hroot, hdistro, hstateDir⟩ := findPlace_named hfind
  -- Neither the teardown nor the disk changes the outcome.
  have hequipped : ∃ clear h₃,
      ((equip request (.wsl distro) place).runFrom o₁).Leads h₃ (.ok u, o) ∧ h₂ = clear ++ h₃ := by
    dsimp only at hrest
    split at hrest
    · obtain ⟨clear, _, o₂, h₃, hclear, hequip, rfl⟩ := Stages.leads_bind_ok.mp hrest
      obtain rfl : o₂ = o₁ := (Stages.leads_stage.mp hclear).2
      exact ⟨clear, h₃, hequip, rfl⟩
    · exact ⟨[], h₂, hrest, rfl⟩
  obtain ⟨clear, h₃, hequip, rfl⟩ := hequipped
  unfold equip at hequip
  obtain ⟨disk, attached, o₂, h₄, hdisk, hformat, rfl⟩ := Stages.leads_bind_ok.mp hequip
  obtain rfl : o₂ = o₁ := (Stages.leads_step.mp hdisk).2
  rw [Stages.discard_bind] at hformat
  obtain ⟨format, _, o₃, h₅, hformatted, hsetUp, rfl⟩ := Stages.leads_bind_ok.mp hformat
  obtain rfl : o₃ = o₂ := (Stages.leads_stage.mp hformatted).2
  obtain ⟨unit, before, output, after, hwritten, hverified⟩ :=
    (setUp_run hsetUp).verified hroot hdistro hstateDir (first ++ h₁ ++ clear ++ disk ++ format)
  exact ⟨place.root, unit, before, output, after, by simpa using hwritten, hverified⟩

/-- **A store that a run reports has been verified**, and the outcome says of it
what the history shows. -/
theorem reported_store_is_verified {σ : Type} (host : Host σ) (s : σ) (request : StoreRequest)
    (storeRoot : Option Path) {o : StoreOutcome}
    (hok : ((provision request storeRoot).outcome.runWith host s).1 = .ok o)
    (hstore : o.useStore = true) :
    ∃ distro root unit before output after,
      (provision request storeRoot).outcome.record host s
        = before ++ (writeUnit root unit).event (.ok output) :: after ∧
      Verified distro root unit before after o := by
  have hl := Action.leads_record host (provision request storeRoot).outcome s
  rw [hok] at hl
  generalize (provision request storeRoot).outcome.record host s = h at hl
  rw [outcome_provision] at hl
  obtain ⟨ended, hattempt, hended⟩ := Action.leads_map.mp hl
  obtain ⟨o', rfl, rfl⟩ := conclude_ok hended.symm hstore
  obtain ⟨h₁, chosen, h₂, -, hrest, rfl⟩ := Action.leads_bind.mp hattempt
  cases chosen with
  | error reason => cases (Action.leads_done.mp hrest).2
  | ok distro =>
    obtain ⟨p, hstages, hp⟩ := Action.leads_map.mp hrest
    obtain rfl := Except.ok.inj hp
    exact ⟨distro.name, runStages_verified h₁ hstages⟩

/-- A Windows host on which the filesystem of the store has no UUID to read. -/
def hostWithoutUuid : Scripted.State :=
  let s : Scripted.State := {}
  let s := s.on "wsl.exe" [] [.output "* Ubuntu Running 2"]
  let s := s.on "cat" [] [.output "btrfs"]
  let s := s.on "which" [] [.output "/usr/bin/tool"]
  let s := s.on "sh" [] [.output "running", .output "/state"]
  let s := s.on "powershell.exe" [] [.output "Running", .output "True"]
  let s := s.on "systemd-escape" [] [.output "state-sqlrs-store.mount"]
  let s := s.on "lsblk" []
    [.output "NAME SIZE TYPE\nsda 1 disk",
      .output "NAME SIZE TYPE\nsdb 107374182400 disk\nsdb1 107374182400 part"]
  let s := s.on "findmnt" [] [.failure 1 "", .output "btrfs"]
  let s := s.on "blkid" [] [.failure 2 "", .output "btrfs", .failure 2 ""]
  s.on "id" [] [.output "1000"]

/-- Where no UUID can be read, the unit names the device itself. -/
theorem reported_store_is_verified_without_uuid :
    ∃ o distro root unit before output after,
      ((provision {} (some ⟨"C:"⟩)).outcome.runWith Scripted.host hostWithoutUuid).1 = .ok o ∧
        o.useStore = true ∧
        (provision {} (some ⟨"C:"⟩)).outcome.record Scripted.host hostWithoutUuid
          = before ++ (writeUnit root unit).event (.ok output) :: after ∧
        Verified distro root unit before after o ∧ unit.source = "/dev/sdb1" := by
  have hreported : ((provision {} (some ⟨"C:"⟩)).outcome.runWith Scripted.host
      hostWithoutUuid).1.toOption.any (fun o => o.useStore
        && (o.mountDevice == some "/dev/sdb1" && o.mountDeviceUuid == none)) = true := by
    decide +kernel
  obtain ⟨o, hok, ho⟩ := exists_ok_of_any hreported
  obtain ⟨hstore, hdevice, huuid⟩ : o.useStore = true ∧ o.mountDevice = some "/dev/sdb1" ∧
      o.mountDeviceUuid = none := by simpa using ho
  obtain ⟨distro, root, unit, before, output, after, hrecord, hverified⟩ :=
    reported_store_is_verified Scripted.host hostWithoutUuid {} (some ⟨"C:"⟩) hok hstore
  refine ⟨o, distro, root, unit, before, output, after, hok, hstore, hrecord, hverified, ?_⟩
  -- Without a UUID there is no link, so the unit names the device.
  have hsource := hverified.source
  generalize unit.source = source at hsource
  cases hsource with
  | link hread _ => cases huuid.symm.trans hread
  | device hreported _ => exact Option.some.inj (hreported.symm.trans hdevice)

end BtrfsStore.Wsl
