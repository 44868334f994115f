import BtrfsStore.Proofs.Conclusion
import BtrfsStore.Proofs.Creation
import BtrfsStore.Proofs.Filesystem
import BtrfsStore.Scripted
/-!
# BtrfsStore.Proofs.NonDestructive

**A run that may not reinitialise the store destroys nothing that was there
before.** `Spares` says it of a single question and the history before it: only
a device that the history shows to be created is wiped or formatted, no file is
removed, no unit stopped or disabled, and nothing but a probe directory
unmounted.

Almost all questions are `Harmless` whatever the history, and the step lists
show it. The rest needs the history:

* a listing of the devices must not follow a format, so that the listing by
  which a device was found is the last one of the run;
* a format must follow the creation, which is `attachStoreDisk_created` and
  `makeBacking_created` together with the decision of `ensure`;
* the end of a trial mount must follow the `mktemp` that named its directory.
-/

namespace BtrfsStore

open Filesystem

/-! ### What a question may do -/

namespace Query

/-- Whether a question wipes or formats a device. -/
def Formats (q : Query) : Prop := q.Runs "wipefs" ∨ q.Runs "mkfs.btrfs"

/-- Whether a question stops or disables a unit. -/
def StopsUnit : Query → Prop
  | .run c => c.program = "systemctl" ∧
      (c.args.head? = some "stop" ∨ c.args.head? = some "disable")
  | _ => False

/-- The programs whose use has to be justified by the history. -/
def watched : List String := ["wipefs", "mkfs.btrfs", "lsblk", "umount", "rm"]

/-- Whether a question destroys nothing, whatever was asked before. -/
def Harmless : Query → Prop
  | .run c => c.program ∉ watched ∧ ¬(Query.run c).StopsUnit
  | .removeFile _ | .writeText _ _ => False
  | _ => True

end Query

/-- The question spares what was on the host before the run. The storage that a
history shows to be created in the run is `created`. -/
structure Spares (created : History → String → Prop) (before : History) (q : Query) : Prop where
  /-- Only a device that was created is wiped or formatted. -/
  formats : q.Formats → ∃ root device, created before device ∧
    (q = .run (wipe root device) ∨ q = .run (makeBtrfs root device))
  /-- A device is formatted after the last listing. -/
  lists : q.Runs "lsblk" → ∀ e ∈ before, ¬e.query.Formats
  removes : ¬q.Runs "rm" ∧ ∀ path, q ≠ .removeFile path
  stops : ¬q.StopsUnit
  /-- Only the directory that `mktemp` has made is unmounted. -/
  unmounts : q.Runs "umount" → ∃ root output,
    (makeProbeDir root).event (.ok output) ∈ before ∧
      q = .run (unmountTrial root (Text.trim output))

section

variable {created : History → String → Prop} {before : History} {q : Query}

namespace Query.Harmless

theorem not_runs (hq : q.Harmless) {program : String} (hwatched : program ∈ watched) :
    ¬q.Runs program := by
  cases q with
  | run c =>
    intro hc
    exact hq.1 (hc ▸ hwatched)
  | _ => exact id

theorem not_formats (hq : q.Harmless) : ¬q.Formats :=
  fun h => h.elim (hq.not_runs (by simp [watched])) (hq.not_runs (by simp [watched]))

theorem spares (hq : q.Harmless) : Spares created before q where
  formats h := absurd h hq.not_formats
  lists h := absurd h (hq.not_runs (by simp [watched]))
  removes := by
    refine ⟨hq.not_runs (by simp [watched]), ?_⟩
    rintro path rfl
    exact hq
  stops := by
    cases q with
    | run c => exact hq.2
    | _ => exact id
  unmounts h := absurd h (hq.not_runs (by simp [watched]))

end Query.Harmless

/-- A listing before anything is formatted. -/
theorem spares_listing (hq : q.Runs "lsblk") (hbefore : ∀ e ∈ before, ¬e.query.Formats) :
    Spares created before q := by
  cases q with
  | run c =>
    have hc : c.program = "lsblk" := hq
    refine ⟨?_, fun _ => hbefore, ?_, ?_, ?_⟩ <;>
      simp [Query.Formats, Query.Runs, Query.StopsUnit, hc]
  | _ => exact hq.elim

variable {root : Target} {device output : String}

/-- A device that was created may be wiped. -/
theorem spares_wipe (hcreated : created before device) :
    Spares created before (.run (wipe root device)) := by
  refine ⟨fun _ => ⟨root, device, hcreated, .inl rfl⟩, ?_, ?_, ?_, ?_⟩ <;>
    simp [Query.Runs, Query.StopsUnit, wipe]

/-- A device that was created may be formatted. -/
theorem spares_makeBtrfs (hcreated : created before device) :
    Spares created before (.run (makeBtrfs root device)) := by
  refine ⟨fun _ => ⟨root, device, hcreated, .inr rfl⟩, ?_, ?_, ?_, ?_⟩ <;>
    simp [Query.Runs, Query.StopsUnit, makeBtrfs]

/-- A directory that `mktemp` has made may be unmounted. -/
theorem spares_unmountTrial (hmade : (makeProbeDir root).event (.ok output) ∈ before) :
    Spares created before (.run (unmountTrial root (Text.trim output))) := by
  refine ⟨?_, ?_, ?_, ?_, fun _ => ⟨root, output, hmade, rfl⟩⟩ <;>
    simp [Query.Formats, Query.Runs, Query.StopsUnit, unmountTrial]

end

/-! ### Harmless steps -/

/-- A step whose commands are harmless. -/
def Step.Harmless (s : Step) : Prop :=
  ∃ program, s.words.head? = some program ∧ program ∉ Query.watched ∧
    (program = "systemctl" → ∃ verb, s.words[1]? = some verb ∧ verb ≠ "stop" ∧ verb ≠ "disable")

theorem Command.Takes.harmless {c : Command} {s : Step} (hc : c.Takes s) (hs : s.Harmless) :
    (Query.run c).Harmless := by
  obtain ⟨-, -, rest, hwords⟩ := hc
  obtain ⟨program, hprogram, hwatched, hverb⟩ := hs
  obtain ⟨args, hargs⟩ : ∃ args, s.words = program :: args := List.head?_eq_some_iff.mp hprogram
  rw [hargs, List.cons_append] at hwords
  obtain ⟨rfl, hrest⟩ := List.cons.inj hwords
  refine ⟨hwatched, ?_⟩
  intro hstopping
  obtain ⟨hsystemctl, hstops⟩ := hstopping
  obtain ⟨verb, hsecond, hstop, hdisable⟩ := hverb hsystemctl
  cases args with
  | nil => simp [hargs] at hsecond
  | cons a args =>
    obtain rfl : a = verb := by simpa [hargs] using hsecond
    rw [← hrest] at hstops
    rcases hstops with h | h
    · exact hstop (Option.some.inj h)
    · exact hdisable (Option.some.inj h)

/-- Harmless steps allow harmless questions only. -/
theorem Query.Within.harmless {steps : List Step} (hsteps : ∀ s ∈ steps, s.Harmless) {q : Query}
    (hq : q.Within steps) : q.Harmless := by
  cases q with
  | run c =>
    obtain ⟨s, hs, hc⟩ := hq
    exact hc.harmless (hsteps s hs)
  | readText _ => exact hq.elim
  | _ => exact hq

/-- Harmless steps need no look at the history. -/
theorem Action.Asks.spares {α : Type} {x : Action α} {steps : List Step}
    {created : History → String → Prop} (hx : x.Asks (Query.Within steps))
    (hsteps : ∀ s ∈ steps, s.Harmless) (before : History) :
    x.Guarded (Spares created) before :=
  hx.guarded (fun _ _ hq => (hq.harmless hsteps).spares) before

/-! ### Making sure of a filesystem -/

namespace Filesystem

theorem harmless_detectSteps (root : Target) : ∀ s ∈ detectSteps root, s.Harmless := by
  simp [detectSteps, Step.Harmless, Query.watched]

/-- A device is formatted only with permission. -/
theorem allowed_of_decide {device : String} {allowFormat wiping : Bool} {state : Detected}
    (h : decide device allowFormat state = .ok (.format wiping)) : allowFormat = true := by
  cases allowFormat with
  | true => rfl
  | false => cases state <;> simp [decide] at h

variable {created : History → String → Prop} {root : Target} {device : String}

/-- A device that was created may be wiped and formatted, as long as no listing
comes in between. -/
theorem guarded_format {before : History} (wiping : Bool)
    (hcreated : ∀ h, (∀ e ∈ h, ¬e.query.Runs "lsblk") → created (before ++ h) device) :
    (format root device wiping).outcome.Guarded (Spares created) before := by
  have hbefore : created before device := by
    simpa using hcreated [] (List.forall_mem_nil _)
  cases wiping with
  | false =>
    exact Attempt.guarded_discard (Attempt.guarded_runWithin.mpr (spares_makeBtrfs hbefore))
  | true =>
    refine Attempt.guarded_bind (Attempt.guarded_discard ?_) fun h u hl =>
      Attempt.guarded_discard ?_
    · exact Attempt.guarded_runWithin.mpr (spares_wipe hbefore)
    · obtain ⟨a, rfl, -⟩ := Attempt.leads_discard_runWithin.mp hl
      have hwiped := hcreated [(wipe root device).event a] (by simp [Query.Runs, wipe])
      exact Attempt.guarded_runWithin.mpr (spares_makeBtrfs hwiped)

/-- A trial mount unmounts the directory that was made for it. -/
theorem guarded_probeMount (before : History) :
    (probeMount root device).outcome.Guarded (Spares created) before := by
  have hmake : ∀ h, Spares created h (.run (makeProbeDir root)) := fun h =>
    Query.Harmless.spares (by simp [Query.Harmless, Query.watched, Query.StopsUnit, makeProbeDir])
  have hmount : ∀ h dir, Spares created h (.run (trialMount root device dir)) := fun h dir =>
    Query.Harmless.spares (by simp [Query.Harmless, Query.watched, Query.StopsUnit, trialMount])
  have hremove : ∀ h dir, Spares created h (.run (removeProbeDir root dir)) := fun h dir =>
    Query.Harmless.spares
      (by simp [Query.Harmless, Query.watched, Query.StopsUnit, removeProbeDir])
  unfold probeMount
  refine Attempt.guarded_bind (Attempt.guarded_runWithin.mpr (hmake _)) fun h₁ output hl => ?_
  obtain rfl := Attempt.leads_runWithin.mp hl
  dsimp only
  split
  · trivial
  · refine Attempt.guarded_observe_bind (Attempt.guarded_runWithin.mpr (hmount _ _))
      fun h₂ mounted hl => ?_
    obtain rfl := Attempt.leads_runWithin.mp hl
    -- Only what has been mounted is unmounted, and that in the directory made for it.
    cases mounted with
    | ok mountOutput =>
      refine Attempt.guarded_orIgnore_bind (Attempt.guarded_runWithin.mpr ?_) fun _ _ _ => ?_
      · exact spares_unmountTrial (by simp [makeProbeDir])
      · exact Attempt.guarded_orIgnore_bind (Attempt.guarded_runWithin.mpr (hremove _ _))
          fun _ _ _ => trivial
    | error f =>
      exact Attempt.guarded_orIgnore_bind (Attempt.guarded_runWithin.mpr (hremove _ _))
        fun _ _ _ => trivial

/-- An existing device is left as it is unless formatting is allowed, and that
is only when the device was created. -/
theorem guarded_ensure {allowFormat : Bool} {before : History}
    (hcreated : allowFormat = true → ∀ h, (∀ e ∈ h, ¬e.query.Runs "lsblk") →
      created (before ++ h) device) :
    (ensure root device allowFormat).outcome.Guarded (Spares created) before := by
  unfold ensure
  refine Attempt.guarded_bind ?_ fun h₁ state hdetect => ?_
  · exact (asks_detect root device).within.spares (harmless_detectSteps root) before
  split
  next => trivial
  next => trivial
  next wiping hdecide =>
    have hdetected : ∀ e ∈ h₁, ¬e.query.Runs "lsblk" := fun e he =>
      (((asks_detect root device).within.of_mem hdetect e he).harmless
        (harmless_detectSteps root)).not_runs (by simp [Query.watched])
    refine Attempt.guarded_bind ?_ fun h₂ _ _ => Attempt.guarded_bind ?_ fun _ _ _ => trivial
    · refine guarded_format wiping fun h hh => ?_
      rw [List.append_assoc]
      exact hcreated (allowed_of_decide hdecide) _ (List.forall_mem_append.mpr ⟨hdetected, hh⟩)
    · -- Nothing is formatted any more.
      unfold verify
      refine Attempt.guarded_bind ?_ fun h₃ found _ => ?_
      · have hsettle := asks_settle (Q := Query.Within (detectSteps root))
          (asks_confirmed root device).within fun _ => trivial
        exact hsettle.spares (harmless_detectSteps root) _
      · cases found with
        | some _ => trivial
        | none => exact guarded_probeMount _

end Filesystem

/-! ### On a Linux host -/

namespace Native

variable {request : StoreRequest} {storeRoot : Option Path}

theorem harmless_takeSteps : ∀ s ∈ takeSteps, s.Harmless := by
  simp [takeSteps, lookSteps, createDirSteps, StoreContent.ownerSteps, Step.Harmless,
    Query.watched]

theorem harmless_imageSteps : ∀ s ∈ imageSteps, s.Harmless := by
  simp [imageSteps, Step.Harmless, Query.watched]

theorem harmless_finishSteps : ∀ s ∈ finishSteps, s.Harmless := by
  simp [finishSteps, mountSteps, Filesystem.mountPointSteps, StoreContent.giveSteps,
    StoreContent.ownerSteps, Step.Harmless, Query.watched]

theorem guarded_mountStore {plan : StorePlan} (hkeep : request.reinit = false)
    (hplan : StorePlan.ofRequest request storeRoot = .ok plan) (before : History) :
    (mountStore request plan).outcome.Guarded (Spares (Created request storeRoot)) before := by
  have hprerequisites : (checkPrerequisites plan).outcome.Asks Query.Harmless :=
    asks_checkPrerequisites plan trivial fun _ => trivial
  rw [mountStore_eq]
  refine Attempt.guarded_bind (Attempt.guarded_inStage ?_) fun h₁ _ _ => ?_
  · exact hprerequisites.guarded (fun _ _ hq => hq.spares) before
  cases hbacking : plan.backing with
  | none => trivial
  | some backing =>
    refine Attempt.guarded_bind ?_ fun h₂ created hmake => ?_
    · exact (asks_makeBacking request plan backing).spares harmless_imageSteps _
    refine Attempt.guarded_bind (Attempt.guarded_discard (Attempt.guarded_inStage ?_))
      fun h₃ _ _ => ?_
    · -- Without `reinit`, only a new image may be formatted.
      refine guarded_ensure fun hallow h _ => ?_
      obtain rfl : created = true := by simpa [hkeep] using hallow
      exact (makeBacking_created hplan hbacking hmake).append _ _
    · exact (asks_finish plan backing).spares harmless_finishSteps _

/-- **Without `reinit` a run on a Linux host spares what was there**, whatever is answered.
-/
theorem guarded_provision (hkeep : request.reinit = false) :
    (provision request storeRoot).outcome.Guarded (Spares (Created request storeRoot)) [] := by
  rw [outcome_provision, prepare_eq]
  refine Action.Guarded.map _ (Attempt.guarded_bind trivial fun h₁ plan hmade => ?_)
  obtain ⟨rfl, hplan⟩ := Action.leads_done.mp hmade
  rw [hkeep, if_neg Bool.false_ne_true]
  refine Attempt.guarded_bind (Action.Guarded.map _ ?_) fun h₂ onBtrfs _ => ?_
  · have hlook : (isOnBtrfs plan.storeDir).Asks (Query.Within takeSteps) :=
      (asks_isOnBtrfs plan.storeDir).within_mono (List.subset_append_left _ _)
    exact hlook.spares harmless_takeSteps _
  cases onBtrfs with
  | true => exact (asks_takeDirectory _).spares harmless_takeSteps _
  | false => exact guarded_mountStore hkeep hplan.symm _

end Native

/-! ### On a Windows host -/

namespace Wsl

variable {request : StoreRequest} {storeRoot : Option Path} {distro : String}

theorem harmless_chooseSteps : ∀ s ∈ chooseSteps, s.Harmless := by
  simp [chooseSteps, wslProgram, Step.Harmless, Query.watched]

theorem harmless_placeSteps (nsenter : Bool) :
    ∀ s ∈ placeSteps distro nsenter, s.Harmless := by
  simp [placeSteps, readySteps, startSteps, kernelSteps, toolSteps, systemdSteps, dockerSteps,
    resolveSteps, stateDirSteps, VirtualDisk.elevationSteps, MountSupervision.nameSteps,
    VirtualDisk.powershellProgram, Step.Harmless, Query.watched]

theorem harmless_setUpSteps (user root : Target) : ∀ s ∈ setUpSteps user root, s.Harmless := by
  simp [setUpSteps, linkSteps, MountSupervision.installSteps, MountSupervision.activateSteps,
    Filesystem.mountPointSteps, StoreContent.subvolumeSteps, StoreContent.giveSteps,
    StoreContent.ownerSteps, Step.Harmless, Query.watched]

/-- Getting hold of a disk asks for listings; the rest is harmless. -/
theorem harmless_or_lists {user : Target} {q : Query} (hq : q.Within (diskSteps user)) :
    q.Harmless ∨ q.Runs "lsblk" := by
  have hsteps : ∀ s ∈ fileSteps, s.Harmless := by
    simp [fileSteps, VirtualDisk.createSteps, VirtualDisk.attachSteps,
      VirtualDisk.powershellProgram, wslProgram, Step.Harmless, Query.watched]
  cases q with
  | run c =>
    obtain ⟨s, hs, hc⟩ := hq
    rw [diskSteps] at hs
    rcases List.mem_append.mp hs with hlist | hdisk
    · obtain rfl := List.mem_singleton.mp hlist
      exact .inr (List.cons_prefix_cons.mp hc.2.2).1.symm
    · exact .inl (hc.harmless (hsteps s hdisk))
  | readText _ => exact hq.elim
  | _ => exact .inl hq

/-- Looking for a disk spares what was there as long as nothing has been formatted before.
-/
theorem guarded_attachStoreDisk {created : History → String → Prop} {disk : Path} {bytes : Nat}
    {before : History} (hbefore : ∀ e ∈ before, ¬e.query.Formats) :
    (attachStoreDisk .host (.wsl distro) disk bytes).outcome.Guarded (Spares created) before := by
  refine (asks_attachStoreDisk (.wsl distro) disk bytes).within.guarded_of_invariant
    (I := fun h => ∀ e ∈ h, ¬e.query.Formats) ?_ ?_ hbefore
  · intro h q hnone hq
    rcases harmless_or_lists hq with hharmless | hlists
    · exact hharmless.spares
    · exact spares_listing hlists hnone
  · intro h q answer hnone hq
    have hformats : ¬q.Formats := by
      rcases harmless_or_lists hq with hharmless | hlists
      · exact hharmless.not_formats
      · intro hformats
        rcases hformats with hwipes | hmakes
        · simpa using hlists.program_unique hwipes
        · simpa using hlists.program_unique hmakes
    exact List.forall_mem_append.mpr ⟨hnone, by simpa using hformats⟩

theorem guarded_runStages (hkeep : request.reinit = false) {before : History}
    (hbefore : ∀ e ∈ before, e.query.Harmless) (o : StoreOutcome) :
    ((runStages request storeRoot distro).runFrom o).Guarded
      (Spares (Created request storeRoot)) before := by
  have hlsblk : ∀ {h : History}, (∀ e ∈ h, e.query.Harmless) → ∀ e ∈ h, ¬e.query.Runs "lsblk" :=
    fun hh e he => (hh e he).not_runs (by simp [Query.watched])
  have hfind : ((findPlace request storeRoot distro).runFrom o).Asks Query.Harmless :=
    asks_findPlace request storeRoot distro o
      fun nsenter _ hq => hq.harmless (harmless_placeSteps nsenter)
  rw [runStages_eq]
  refine Stages.guarded_bind (hfind.guarded (fun _ _ hq => hq.spares) before)
    fun h₁ place o₁ hplace => ?_
  obtain ⟨-, -, -, hdisk, -⟩ := findPlace_foundIn hplace
  have hharmless : ∀ e ∈ before ++ h₁, e.query.Harmless :=
    List.forall_mem_append.mpr ⟨hbefore, hfind.of_mem hplace⟩
  simp only [hkeep, Bool.false_eq_true, if_false]
  unfold equip
  refine Stages.guarded_bind (Stages.guarded_step ?_) fun h₂ attached o₂ hattach => ?_
  · exact guarded_attachStoreDisk fun e he => (hharmless e he).not_formats
  refine Stages.guarded_bind (Stages.guarded_discard (Stages.guarded_stage ?_)) fun h₃ _ o₃ _ => ?_
  · -- Without `reinit`, only a partition on a new disk file may be formatted.
    refine guarded_ensure fun hallow h hh => ?_
    have hcreated : attached.created = true := by simpa [hkeep] using hallow
    have hpartition := attachStoreDisk_created hdisk hcreated (Stages.leads_step.mp hattach).1
    exact hpartition.append (hlsblk hharmless) hh
  · exact (asks_setUp request (.wsl distro) place _ _).within.spares (harmless_setUpSteps _ _) _

/-- **Without `reinit` a run in WSL spares what was there**, whatever is answered. -/
theorem guarded_provision (hkeep : request.reinit = false) :
    (provision request storeRoot).outcome.Guarded (Spares (Created request storeRoot)) [] := by
  have hchoose : (chooseDistro request).Asks Query.Harmless :=
    (asks_chooseDistro request).mono fun _ hq => hq.harmless harmless_chooseSteps
  rw [outcome_provision]
  refine Action.Guarded.map _ ?_
  unfold attempt
  refine (hchoose.guarded (fun _ _ hq => hq.spares) []).bind fun h chosen hl => ?_
  cases chosen with
  | error reason => trivial
  | ok distro => exact (guarded_runStages hkeep (hchoose.of_mem hl) _).map _

end Wsl

/-! ### Both platforms -/

/-- **Without permission to reinitialise the store, a run spares what was there
before.** Whatever the host answers, each question of the run satisfies `Spares`
with the history before it. -/
theorem spares_existing_data {σ : Type} (host : Host σ) (s : σ) (request : StoreRequest)
    (storeRoot : Option Path) (hkeep : request.reinit = false) :
    ((Native.provision request storeRoot).outcome.record host s).Guarded
        (Spares (Native.Created request storeRoot)) ∧
      ((Wsl.provision request storeRoot).outcome.record host s).Guarded
        (Spares (Wsl.Created request storeRoot)) :=
  ⟨(Native.guarded_provision hkeep).history (Action.leads_record host _ s),
    (Wsl.guarded_provision hkeep).history (Action.leads_record host _ s)⟩

/-- A Windows host on which a disk for the store appears once its file is
attached. Formatting it fails, which ends the run. -/
def hostWithNewDisk : Scripted.State :=
  let s : Scripted.State := {}
  let s := s.on "wsl.exe" [] [.output "* Ubuntu Running 2"]
  let s := s.on "cat" [] [.output "btrfs"]
  let s := s.on "which" [] [.output "/usr/bin/tool"]
  let s := s.on "sh" [] [.output "running", .output "/state"]
  let s := s.on "powershell.exe" [] [.output "Running", .output "True"]
  let s := s.on "systemd-escape" [] [.output "state-sqlrs-store.mount"]
  let s := s.on "lsblk" []
    [.output "NAME SIZE TYPE\nsda 1 disk",
      .output "NAME SIZE TYPE\nsda 1 disk\nsdb 107374182400 disk\nsdb1 107374182400 part"]
  s.on "mkfs.btrfs" [] [.failure 1 ""]

/-- The new disk is formatted, so it is one that the run has created. -/
theorem spares_existing_data_new_disk :
    ∃ before e after,
      (Wsl.provision {} (some ⟨"C:"⟩)).outcome.record Scripted.host hostWithNewDisk
        = before ++ e :: after ∧
      e.query = .run (makeBtrfs (.wslRoot "Ubuntu" true) "/dev/sdb1") ∧
      Wsl.Created {} (some ⟨"C:"⟩) before "/dev/sdb1" := by
  have hformats : ∃ e ∈ (Wsl.provision {} (some ⟨"C:"⟩)).outcome.record Scripted.host
      hostWithNewDisk, e.query = .run (makeBtrfs (.wslRoot "Ubuntu" true) "/dev/sdb1") := by
    decide +kernel
  obtain ⟨e, hmem, hquery⟩ := hformats
  obtain ⟨before, after, hsplit⟩ := List.append_of_mem hmem
  have hspares := (spares_existing_data Scripted.host hostWithNewDisk {} (some ⟨"C:"⟩) rfl).2
    before e after hsplit
  rw [hquery] at hspares
  obtain ⟨root, device, hcreated, hwipe | hmake⟩ := hspares.formats (.inr rfl)
  · simp [makeBtrfs, wipe] at hwipe
  · obtain ⟨-, rfl⟩ : _ ∧ "/dev/sdb1" = device := by simpa [makeBtrfs] using hmake
    exact ⟨before, e, after, hsplit, hquery, hcreated⟩

end BtrfsStore
