import BtrfsStore.MountSupervision
import BtrfsStore.Proofs.Polling
import BtrfsStore.StoreContent
import BtrfsStore.VirtualDisk
/-!
# BtrfsStore.Proofs.Steps

Which commands the parts of a run can issue, whatever they are answered.

A `Step` is the fixed part of a command: where it runs, the name that messages
give it, and the first words of its command line. Each part of a run has a
list of steps, and one lemma `asks_…` which says that the part asks among these
steps (`Query.Among`), or within them if it looks for a program as well
(`Query.Within`). What a whole run can or cannot issue is then read off lists: a
new step in one part changes one list and one lemma.

The order of steps, and what has to be answered before one of them is taken,
is not the subject here.
-/

namespace BtrfsStore

/-! ### Steps -/

/-- The fixed part of a command. -/
structure Step where
  target : Target
  /-- The description of the command. -/
  name : String
  /-- The program and the arguments that are always the same. -/
  words : List String

/-- Whether a command takes a step. -/
def Command.Takes (c : Command) (s : Step) : Prop :=
  c.target = s.target ∧ c.description = s.name ∧ s.words <+: c.program :: c.args

/-- Whether a question neither reads nor writes nor removes a file and, if it runs
a command, takes one of the given steps. -/
def Query.Within (steps : List Step) : Query → Prop
  | .run c => ∃ s ∈ steps, c.Takes s
  | .removeFile _ | .readText _ | .writeText _ _ => False
  | _ => True

/-- Whether a question is within the given steps and does not look for a program
either. -/
def Query.Among (steps : List Step) : Query → Prop
  | .run c => ∃ s ∈ steps, c.Takes s
  | .locate _ | .removeFile _ | .readText _ | .writeText _ _ => False
  | _ => True

namespace Query

/-- Whether a question runs a program. -/
def Runs (program : String) : Query → Prop
  | .run c => c.program = program
  | _ => False

instance (program : String) : DecidablePred (Runs program)
  | .run c => inferInstanceAs (Decidable (c.program = program))
  | .locate _ | .isRoot | .sleep _ | .pathExists _ | .makeDirectories _ | .removeFile _
  | .readText _ | .writeText _ _ => .isFalse id

/-- A command has one program. -/
theorem Runs.program_unique {program program' : String} {q : Query} (h : q.Runs program)
    (h' : q.Runs program') : program = program' := by
  cases q with
  | run c => exact Eq.trans (Eq.symm h) h'
  | _ => exact h.elim

variable {steps steps' : List Step}

@[simp] theorem within_run {c : Command} :
    (Query.run c).Within steps ↔ ∃ s ∈ steps, c.Takes s := Iff.rfl

@[simp] theorem within_pathExists (p : Path) : (Query.pathExists p).Within steps := trivial

@[simp] theorem among_run {c : Command} :
    (Query.run c).Among steps ↔ ∃ s ∈ steps, c.Takes s := Iff.rfl

@[simp] theorem among_sleep (ms : Nat) : (Query.sleep ms).Among steps := trivial

@[simp] theorem among_pathExists (p : Path) : (Query.pathExists p).Among steps := trivial

@[simp] theorem among_makeDirectories (p : Path) :
    (Query.makeDirectories p).Among steps := trivial

theorem Among.within {q : Query} (hq : q.Among steps) : q.Within steps := by
  cases q with
  | run c => exact hq
  | _ => trivial

/-- More steps allow more questions. -/
theorem Among.mono (hsub : steps ⊆ steps') {q : Query} (hq : q.Among steps) :
    q.Among steps' := by
  cases q with
  | run c =>
    obtain ⟨s, hs, hc⟩ := hq
    exact ⟨s, hsub hs, hc⟩
  | _ => exact hq

theorem Within.mono (hsub : steps ⊆ steps') {q : Query} (hq : q.Within steps) :
    q.Within steps' := by
  cases q with
  | run c =>
    obtain ⟨s, hs, hc⟩ := hq
    exact ⟨s, hsub hs, hc⟩
  | _ => exact hq

/-- The program of a question is that of a step, unless the step leaves it
open. -/
theorem Within.runs {q : Query} {program : String} (hq : q.Within steps)
    (hruns : q.Runs program) : ∃ s ∈ steps, s.words = [] ∨ s.words.head? = some program := by
  cases q with
  | run c =>
    obtain ⟨s, hs, -, -, hwords⟩ := hq
    refine ⟨s, hs, ?_⟩
    cases hcases : s.words with
    | nil => exact .inl rfl
    | cons word words =>
      rw [hcases, List.cons_prefix_cons] at hwords
      rw [hwords.1]
      exact .inr (congrArg some hruns)
  | _ => exact hruns.elim

/-- A program with which no step starts is not run. -/
theorem Within.not_runs {q : Query} {program : String} (hq : q.Within steps)
    (hsteps : ∀ s ∈ steps, ∃ word ≠ program, s.words.head? = some word) : ¬q.Runs program := by
  intro hruns
  obtain ⟨s, hs, hwords⟩ := hq.runs hruns
  obtain ⟨word, hne, hhead⟩ := hsteps s hs
  rcases hwords with hnil | hword
  · rw [hnil] at hhead
    cases hhead
  · rw [hword] at hhead
    exact hne (Option.some.inj hhead).symm

end Query

/-- What a history has asked is within a longer list of steps as well. -/
theorem History.within_mono {steps steps' : List Step} {h : History}
    (hall : ∀ e ∈ h, e.query.Within steps) (hsub : steps ⊆ steps') :
    ∀ e ∈ h, e.query.Within steps' := fun e he => (hall e he).mono hsub

/-- A part of a run that stays within a list of steps stays within a longer
one. -/
theorem Action.Asks.within_mono {α : Type} {x : Action α} {steps steps' : List Step}
    (hx : x.Asks (Query.Within steps)) (hsub : steps ⊆ steps') :
    x.Asks (Query.Within steps') :=
  hx.mono fun _ => Query.Within.mono hsub

theorem Action.Asks.among_mono {α : Type} {x : Action α} {steps steps' : List Step}
    (hx : x.Asks (Query.Among steps)) (hsub : steps ⊆ steps') :
    x.Asks (Query.Among steps') :=
  hx.mono fun _ => Query.Among.mono hsub

theorem Action.Asks.within {α : Type} {x : Action α} {steps : List Step}
    (hx : x.Asks (Query.Among steps)) : x.Asks (Query.Within steps) :=
  hx.mono fun _ => Query.Among.within

/-! ### Filesystems -/

namespace Filesystem

def mountPointSteps (root : Target) : List Step :=
  [⟨root, "check live mount", ["findmnt", "-n", "-o", "FSTYPE", "--mountpoint"]⟩]

/-- The steps that take a mount away. -/
def releaseSteps (root : Target) : List Step :=
  ⟨root, "unmount store", ["umount"]⟩ :: mountPointSteps root

def detectSteps (root : Target) : List Step :=
  [⟨root, "check existing mount", ["findmnt", "-n", "-o", "FSTYPE", "-S"]⟩,
    ⟨root, "probe filesystem signature", ["blkid", "-p"]⟩]

def formatSteps (root : Target) : List Step :=
  [⟨root, "wipe filesystem signatures", ["wipefs", "-a"]⟩,
    ⟨root, "format btrfs", ["mkfs.btrfs", "-f"]⟩]

def probeMountSteps (root : Target) : List Step :=
  [⟨root, "create probe directory", ["mktemp", "-d"]⟩,
    ⟨root, "probe mount", ["mount", "-t", "btrfs"]⟩,
    ⟨root, "probe unmount", ["umount"]⟩,
    ⟨root, "remove probe directory", ["rmdir"]⟩]

def verifySteps (root : Target) : List Step :=
  detectSteps root ++ probeMountSteps root

def ensureSteps (root : Target) : List Step :=
  detectSteps root ++ formatSteps root ++ verifySteps root

/-- What the answer to a question about a filesystem says: its type, nothing,
or that the question failed. -/
def reading (noneCode : Int) : Except Failure String → Except Failure (Option String)
  | .ok output => .ok (Text.firstWord output)
  | .error f => if f.exitCode = some noneCode then .ok none else .error f

/-- A question about a filesystem is one command whose answer is read: a blank one, and the
exit code that stands for nothing, are no type. -/
@[simp] theorem outcome_typeOrNone (noneCode : Int) (x : Attempt String) :
    (typeOrNone noneCode x).outcome = reading noneCode <$> x.outcome := by
  rw [typeOrNone, Attempt.outcome_observe_bind, map_eq_pure_bind]
  refine congrArg (Action.bind x.outcome) (funext fun r => ?_)
  cases r with
  | ok output => rfl
  | error f =>
    simp only [reading, Attempt.outcome_ite]
    split <;> rfl

/-- What is mounted at a directory is one question of `findmnt`. -/
theorem asks_mountPointType (root : Target) (dir : String) :
    (mountPointType root dir).outcome.Asks (Query.Among (mountPointSteps root)) := by
  simp [mountPointType, mountPointSteps, Command.Takes]

/-- A release unmounts and looks at what is left. -/
theorem asks_release_of {Q : Query → Prop} {root : Target} {dir : String}
    (hunmount : (root.runWithin Limit.quick "unmount store" "umount" [dir]).outcome.Asks Q)
    (hlive : (mountPointType root dir).outcome.Asks Q) : (release root dir).outcome.Asks Q := by
  unfold release
  extract_lets look
  have hlook : ∀ u, (look u).outcome.Asks Q := by
    intro _
    refine Attempt.asks_bind hlive fun live => ?_
    cases live <;> trivial
  refine Attempt.asks_bind (by simpa using hunmount) fun unmounted => ?_
  cases unmounted with
  | ok _ => exact hlook ()
  | error f =>
    dsimp only
    rw [Attempt.outcome_ite, Action.asks_ite]
    exact ⟨fun _ => trivial, fun _ => hlook ()⟩

/-- To release a mount point is to unmount it and to look whether anything is left. -/
theorem asks_release (root : Target) (dir : String) :
    (release root dir).outcome.Asks (Query.Among (releaseSteps root)) := by
  refine asks_release_of (by simp [releaseSteps, Command.Takes]) ?_
  exact (asks_mountPointType root dir).among_mono (List.subset_cons_self _ _)

/-- The signature of a device is one question of `blkid`. -/
theorem asks_probedType (root : Target) (device : String) :
    (probedType root device).outcome.Asks (Query.Among (detectSteps root)) := by
  simp [probedType, detectSteps, Command.Takes]

/-- A trial mount makes a directory, mounts the device there and takes both away again. -/
theorem asks_probeMount (root : Target) (device : String) :
    (probeMount root device).outcome.Asks (Query.Among (probeMountSteps root)) := by
  simp [probeMount, probeMountSteps, Command.Takes, btrfsType, Except.isOk, Except.toBool]

theorem asks_confirmed_of {Q : Query → Prop} {root : Target} {device : String}
    (hprobed : (probedType root device).outcome.Asks Q) : (confirmed root device).Asks Q := by
  unfold confirmed
  refine hprobed.bind fun r => ?_
  split <;> simp

theorem asks_confirmed (root : Target) (device : String) :
    (confirmed root device).Asks (Query.Among (detectSteps root)) :=
  asks_confirmed_of (asks_probedType root device)

/-- Waiting for the signature of a new filesystem asks for the signature and
pauses. -/
theorem asks_settle {Q : Query → Prop} {root : Target} {device : String}
    (hconfirmed : (confirmed root device).Asks Q) (hsleep : ∀ ms, Q (.sleep ms)) :
    (Retry.signatureSettle.poll
      (liftM (confirmed root device) : Attempt (Option Unit))).outcome.Asks Q := by
  rw [Retry.outcome_poll_liftM]
  refine (Retry.asks_poll (fun s => ?_) (hsleep _) ()).map _
  exact hconfirmed.bind fun v => Action.asks_done (v, s)

/-- A verification asks for the signature, waits, and may try to mount. -/
theorem asks_verify_of {Q : Query → Prop} {root : Target} {device : String}
    (hconfirmed : (confirmed root device).Asks Q) (hsleep : ∀ ms, Q (.sleep ms))
    (hprobeMount : (probeMount root device).outcome.Asks Q) :
    (verify root device).outcome.Asks Q := by
  unfold verify
  refine Attempt.asks_bind (asks_settle hconfirmed hsleep) fun found => ?_
  cases found with
  | none => exact hprobeMount
  | some _ => simp

/-- Verifying looks at the signature, over and over, and mounts the device on trial at last.
-/
theorem asks_verify (root : Target) (device : String) :
    (verify root device).outcome.Asks (Query.Among (verifySteps root)) := by
  refine asks_verify_of ?_ (fun _ => trivial) ?_
  · exact (asks_confirmed root device).among_mono (List.subset_append_left _ _)
  · exact (asks_probeMount root device).among_mono (List.subset_append_right _ _)

/-- A detection asks for a mount of the device and for its signature. -/
theorem asks_detect_of {Q : Query → Prop} {root : Target} {device : String}
    (hmounted : (mountedType root device).outcome.Asks Q)
    (hprobed : (probedType root device).outcome.Asks Q) : (detect root device).outcome.Asks Q := by
  unfold detect
  refine Attempt.asks_bind hmounted fun mounted => ?_
  cases mounted with
  | some fsType => simp
  | none =>
    refine Attempt.asks_bind hprobed fun probed => ?_
    cases probed <;> simp

/-- Whether a device is free is asked without touching it. -/
theorem asks_detect (root : Target) (device : String) :
    (detect root device).outcome.Asks (Query.Among (detectSteps root)) := by
  refine asks_detect_of ?_ (asks_probedType root device)
  simp [mountedType, detectSteps, Command.Takes]

/-- Only formatting issues `wipefs` and `mkfs.btrfs`. -/
theorem asks_format (root : Target) (device : String) (wipe : Bool) :
    (format root device wipe).outcome.Asks (Query.Among (formatSteps root)) := by
  cases wipe <;> simp [format, formatSteps, Command.Takes, Except.map]

/-- What decides about a device is asked first; formatting and verifying may follow. -/
theorem asks_ensure_of {Q : Query → Prop} {root : Target} {device : String} (allowFormat : Bool)
    (hdetect : (detect root device).outcome.Asks Q)
    (hformat : ∀ wipe, (format root device wipe).outcome.Asks Q)
    (hverify : (verify root device).outcome.Asks Q) :
    (ensure root device allowFormat).outcome.Asks Q := by
  unfold ensure
  refine Attempt.asks_bind hdetect fun state => ?_
  split
  · simp
  · simp
  · exact Attempt.asks_bind (hformat _) fun _ => Attempt.asks_bind hverify fun _ => by simp

/-- All that making sure of a filesystem can issue: to detect, to format and to verify. -/
theorem asks_ensure (root : Target) (device : String) (allowFormat : Bool) :
    (ensure root device allowFormat).outcome.Asks (Query.Among (ensureSteps root)) := by
  refine asks_ensure_of allowFormat ?_ (fun wipe => ?_) ?_
  · exact (asks_detect root device).among_mono (by simp [ensureSteps])
  · exact (asks_format root device wipe).among_mono (by simp [ensureSteps])
  · exact (asks_verify root device).among_mono (by simp [ensureSteps])

end Filesystem

/-! ### Mount units -/

namespace MountSupervision

def nameSteps (root : Target) : List Step :=
  [⟨root, "escape mount unit name", ["systemd-escape"]⟩]

def installSteps (root : Target) : List Step :=
  [⟨root, "create mount target", ["mkdir", "-p"]⟩,
    ⟨root, "write mount unit", ["tee"]⟩,
    ⟨root, "reload systemd units", ["systemctl", "daemon-reload"]⟩,
    ⟨root, "enable mount unit", ["systemctl", "enable"]⟩]

def activateSteps (root : Target) : List Step :=
  [⟨root, "check mount unit state", ["systemctl", "is-active"]⟩,
    ⟨root, "start mount unit", ["systemctl", "start"]⟩,
    ⟨root, "read mount unit journal", ["journalctl", "-u"]⟩]
    ++ Filesystem.mountPointSteps root

/-- The steps that take a unit away. -/
def teardownSteps (root : Target) : List Step :=
  [⟨root, "stop mount unit", ["systemctl", "stop"]⟩,
    ⟨root, "disable mount unit", ["systemctl", "disable"]⟩,
    ⟨root, "remove mount unit", ["rm", "-f"]⟩,
    ⟨root, "reload systemd units", ["systemctl", "daemon-reload"]⟩]

theorem asks_unitName (root : Target) (dir : String) :
    (unitName root dir).outcome.Asks (Query.Among (nameSteps root)) := by
  simp [unitName, nameSteps, Command.Takes]

/-- Checking a unit asks nothing. -/
theorem asks_check {Q : Query → Prop} (unit : MountUnit) : (check unit).outcome.Asks Q := by
  unfold check
  split <;> simp

/-- A unit is written with `tee` and enabled after a reload. -/
theorem asks_install (root : Target) (unit : MountUnit) :
    (install root unit).outcome.Asks (Query.Among (installSteps root)) := by
  unfold install
  refine Attempt.asks_bind (asks_check unit) fun _ => ?_
  simp [installSteps, Command.Takes, Except.map]

theorem asks_isActive (root : Target) (name : String) :
    (isActive root name).outcome.Asks (Query.Among (activateSteps root)) := by
  simp [isActive, activateSteps, Command.Takes]

theorem asks_start (root : Target) (verbose : Bool) (name : String) :
    (start root verbose name).outcome.Asks (Query.Among (activateSteps root)) := by
  have hjournal : (journal root name).Asks (Query.Among (activateSteps root)) := by
    simp [journal, activateSteps, Command.Takes]
  unfold start
  refine Attempt.asks_bind ?_ fun started => ?_
  · simp [activateSteps, Command.Takes]
  · cases started with
    | ok _ => simp
    | error f =>
      cases verbose with
      | false => simp
      | true =>
        refine Attempt.asks_bind (hjournal.map _) fun text => ?_
        cases text <;> simp

theorem asks_lookForType (root : Target) (dir expected : String) (s : Option String) :
    ((lookForType root dir expected).run s).Asks
      (Query.Among (Filesystem.mountPointSteps root)) := by
  unfold lookForType
  rw [StateT.run_bind]
  refine Action.Asks.bind ?_ fun p => ?_
  · exact (Filesystem.asks_mountPointType root dir).bind fun r => Action.asks_done (r, s)
  · obtain ⟨_ | seen, s⟩ := p
    · simp
    · dsimp only
      split <;> simp

theorem asks_awaitType (root : Target) (dir expected : String) :
    (awaitType root dir expected).outcome.Asks
      (Query.Among (Filesystem.mountPointSteps root)) := by
  unfold awaitType
  refine Attempt.asks_bind ?_ fun found => ?_
  · rw [Attempt.outcome_liftM]
    exact (Retry.asks_poll (asks_lookForType root dir expected) trivial none).map _
  · obtain ⟨_ | _, lastSeen⟩ := found <;> simp

/-- Activating a unit asks for its state, starts it, reads its journal and looks for the
mount. -/
theorem asks_activate (root : Target) (verbose : Bool) (unit : MountUnit) :
    (activate root verbose unit).outcome.Asks (Query.Among (activateSteps root)) := by
  have hawait : (awaitType root unit.mountPoint unit.fsType).outcome.Asks
      (Query.Among (activateSteps root)) :=
    (asks_awaitType root _ _).among_mono (List.subset_append_right _ _)
  unfold activate
  refine Attempt.asks_bind (asks_check unit) fun _ => ?_
  refine Attempt.asks_bind (asks_isActive root unit.name) fun active => ?_
  cases active with
  | true => exact hawait
  | false => exact Attempt.asks_bind (asks_start root verbose unit.name) fun _ => hawait

/-- Tearing a unit down stops, disables and removes it. -/
theorem asks_teardown (root : Target) (name : String) :
    (teardown root name).Asks (Query.Among (teardownSteps root)) := by
  simp [teardown, teardownSteps, Command.Takes]

end MountSupervision

/-! ### Contents and ownership -/

namespace StoreContent

def subvolumeSteps (root : Target) : List Step :=
  [⟨root, "inspect subvolume", ["btrfs", "subvolume", "show"]⟩,
    ⟨root, "create subvolume", ["btrfs", "subvolume", "create"]⟩]

def ownerSteps (user : Target) : List Step :=
  [⟨user, "resolve user id", ["id", "-u"]⟩, ⟨user, "resolve group id", ["id", "-g"]⟩]

def giveSteps (root user : Target) : List Step :=
  ownerSteps user ++ [⟨root, "change store ownership", ["chown", "-R"]⟩]

theorem asks_ensureSubvolume (root : Target) (storeDir name : String) :
    (ensureSubvolume root storeDir name).outcome.Asks
      (Query.Among (subvolumeSteps root)) := by
  simp [ensureSubvolume, subvolumeSteps, Command.Takes, Except.map]

/-- The subvolumes are looked for, and created where they are missing. -/
theorem asks_ensureSubvolumes (root : Target) (storeDir : String) :
    (ensureSubvolumes root storeDir).outcome.Asks (Query.Among (subvolumeSteps root)) := by
  -- The subvolumes are a fixed list, so the loop over them is written out.
  simp only [ensureSubvolumes, subvolumes, List.filterM, List.filterAuxM, bind_assoc]
  refine Attempt.asks_bind (asks_ensureSubvolume root storeDir _) fun _ => ?_
  refine Attempt.asks_bind (asks_ensureSubvolume root storeDir _) fun _ => ?_
  simp

theorem asks_invokingOwner (user : Target) :
    (invokingOwner user).outcome.Asks (Query.Among (ownerSteps user)) := by
  simp [invokingOwner, ownerSteps, Command.Takes]

/-- The tree is given to the user that is asked for his ids. -/
theorem asks_giveTo (root user : Target) (storeDir : String) :
    (giveTo root user storeDir).outcome.Asks (Query.Among (giveSteps root user)) := by
  unfold giveTo
  refine Attempt.asks_bind ?_ fun owner => ?_
  · exact (asks_invokingOwner user).among_mono (by simp [giveSteps])
  · simp [giveSteps, ownerSteps, Command.Takes, Except.map]

end StoreContent

/-! ### Virtual disks -/

namespace VirtualDisk

def createSteps (outside : Target) : List Step :=
  [⟨outside, "create virtual disk", [powershellProgram]⟩]

/-- The steps that make a disk file visible inside WSL. -/
def attachSteps (outside : Target) : List Step :=
  [⟨outside, "partition virtual disk", [powershellProgram]⟩,
    ⟨outside, "attach virtual disk to WSL", [wslProgram, "--mount", "--vhd"]⟩]

def elevationSteps (outside : Target) : List Step :=
  [⟨outside, "check Administrator privileges",
    powershellProgram :: powershellArgs elevationScript⟩]

/-- The only command for a disk file is the one that creates it. -/
theorem asks_ensureFile (outside : Target) (path : Path) (bytes : Nat) :
    (ensureFile outside path bytes).outcome.Asks (Query.Among (createSteps outside)) := by
  have hcreate : (powershell outside "create virtual disk"
      (createScript path bytes)).outcome.Asks (Query.Among (createSteps outside)) := by
    simp [powershell, createSteps, Command.Takes]
  unfold ensureFile
  refine Attempt.asks_bind (by simp [Action.pathExists, Action.query]) fun there => ?_
  cases there with
  | true => simp
  | false =>
    simp only [Bool.false_eq_true, if_false]
    cases path.parent with
    | none => exact Attempt.asks_bind (Attempt.asks_discard hcreate) fun _ => by simp
    | some dir =>
      refine Attempt.asks_bind ?_ fun _ =>
        Attempt.asks_bind (Attempt.asks_discard hcreate) fun _ => by simp
      simp [Attempt.makeDirectories, Attempt.ofFileAnswer, Attempt.outcome, Action.query]

theorem asks_ensurePartition (outside : Target) (path : Path) :
    (ensurePartition outside path).outcome.Asks (Query.Among (attachSteps outside)) := by
  simp [ensurePartition, powershell, attachSteps, Command.Takes]

/-- A disk is attached by one command. -/
theorem asks_attach (outside : Target) (path : Path) :
    (attach outside path).outcome.Asks (Query.Among (attachSteps outside)) := by
  simp [attach, attachSteps, Command.Takes]

theorem asks_isElevated (outside : Target) :
    (isElevated outside).outcome.Asks (Query.Among (elevationSteps outside)) := by
  simp [isElevated, elevationSteps, Command.Takes]

end VirtualDisk

end BtrfsStore
