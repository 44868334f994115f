import Mathlib.Data.List.Basic
import BtrfsStore.Proofs.Course
import BtrfsStore.Proofs.Filesystem
/-!
# BtrfsStore.Proofs.Milestones

What the history shows once a part of a run has done its work: a device carries
btrfs, a unit is installed, its mount is live, the subvolumes are there, the
tree belongs to the user. One lemma `…_attains` for each part says that its
successes show this and that its failures are plain.
-/

namespace BtrfsStore

/-! ### Filesystems -/

namespace Filesystem

open Attempt

/-- A failure that stands for no type is none; any other is the one of the command. -/
theorem failsPlainly_typeOrNone {noneCode : Int} {x : Attempt String} (hx : x.FailsPlainly) :
    (typeOrNone noneCode x).FailsPlainly := by
  refine failsPlainly_observe_bind hx (fun _ => failsPlainly_pure _) fun f hf => ?_
  exact failsPlainly_ite (failsPlainly_pure _) (failsPlainly_throw hf)

theorem failsPlainly_mountPointType (root : Target) (dir : String) :
    (mountPointType root dir).FailsPlainly :=
  failsPlainly_typeOrNone (failsPlainly_run _)

theorem failsPlainly_detect (root : Target) (device : String) :
    (detect root device).FailsPlainly := by
  refine failsPlainly_bind (failsPlainly_typeOrNone (failsPlainly_run _)) fun mounted => ?_
  cases mounted with
  | some fsType => exact failsPlainly_pure _
  | none =>
    refine failsPlainly_bind (failsPlainly_typeOrNone (failsPlainly_run _)) fun probed => ?_
    cases probed with
    | some fsType => exact failsPlainly_pure _
    | none => exact failsPlainly_pure _

theorem failsPlainly_format (root : Target) (device : String) (wipe : Bool) :
    (format root device wipe).FailsPlainly := by
  have hmake : (discard (root.run "format btrfs" "mkfs.btrfs" ["-f", device])
      : Attempt Unit).FailsPlainly := failsPlainly_discard (failsPlainly_run _)
  cases wipe with
  | true => exact failsPlainly_bind (failsPlainly_discard (failsPlainly_run _)) fun _ => hmake
  | false => exact hmake

theorem failsPlainly_probeMount (root : Target) (device : String) :
    (probeMount root device).FailsPlainly := by
  refine failsPlainly_bind (failsPlainly_run _) fun output => ?_
  dsimp only
  refine failsPlainly_ite ?_ ?_
  · exact failsPlainly_throw rfl
  refine failsPlainly_bind (failsPlainly_lift _) fun mounted => ?_
  refine failsPlainly_ite (failsPlainly_bind (failsPlainly_lift _) fun _ => ?_) ?_
  -- Whether or not the directory is unmounted first, the mount decides.
  all_goals
    refine failsPlainly_bind (failsPlainly_lift _) fun _ => ?_
    cases mounted with
    | ok _ => exact failsPlainly_pure _
    | error f => exact failsPlainly_throw rfl

theorem failsPlainly_verify (root : Target) (device : String) :
    (verify root device).FailsPlainly := by
  have hpoll : (Retry.signatureSettle.poll
      (liftM (confirmed root device) : Attempt (Option Unit))).FailsPlainly := by
    intro h f hl _
    rw [Retry.outcome_poll_liftM, Action.leads_map] at hl
    obtain ⟨p, -, hp⟩ := hl
    cases hp
  refine failsPlainly_bind hpoll fun found => ?_
  cases found with
  | some _ => exact failsPlainly_pure _
  | none => exact failsPlainly_probeMount root device

/-- To refuse a device is a plain failure. -/
theorem isPlain_of_decide {device : String} {allowFormat : Bool} {state : Detected} {f : Failure}
    (h : decide device allowFormat state = .error f) : f.IsPlain := by
  cases allowFormat <;> cases state <;> simp only [decide] at h <;> cases h <;> rfl

/-- Making sure of a filesystem adds no stage of its own to a failure. -/
theorem failsPlainly_ensure (root : Target) (device : String) (allowFormat : Bool) :
    (ensure root device allowFormat).FailsPlainly := by
  refine failsPlainly_bind (failsPlainly_detect root device) fun state => ?_
  split
  next f hdecide => exact failsPlainly_throw (isPlain_of_decide hdecide)
  next => exact failsPlainly_pure _
  next wipe _ =>
    refine failsPlainly_bind (failsPlainly_format root device wipe) fun _ => ?_
    exact failsPlainly_bind (failsPlainly_verify root device) fun _ => failsPlainly_pure _

/-- A mount that does not go away is a plain failure. -/
theorem failsPlainly_release (root : Target) (dir : String) :
    (release root dir).FailsPlainly := by
  unfold release
  refine failsPlainly_observe_bind (failsPlainly_run _) (fun _ => ?_)
    fun f _ => failsPlainly_ite (failsPlainly_throw rfl) ?_
  -- After the store is unmounted, and when there was nothing to unmount, a look decides.
  all_goals
    refine failsPlainly_bind (failsPlainly_mountPointType root dir) fun found => ?_
    cases found with
    | none => exact failsPlainly_pure _
    | some fsType => exact failsPlainly_throw rfl

/-- A device carries btrfs, by one of the runs that end so. -/
theorem ensure_attains (root : Target) (device : String) (allowFormat : Bool) :
    (ensure root device allowFormat).Attains (Query.Within (ensureSteps root))
      fun outcome h => EnsureRun root device allowFormat h (.ok outcome) where
  asked _ _ hl := (asks_ensure root device allowFormat).within.of_mem hl
  reached _ _ hl := ensure_run hl
  plain := failsPlainly_ensure root device allowFormat

/-- The last answer about a mount names the type of what is on the directory. -/
def LastShows (root : Target) (dir fsType : String) (h : History) : Prop :=
  ∃ before m after, h = before ++ (mountPointCheck root dir).event m :: after ∧ Names fsType m ∧
    ∀ e ∈ after, ¬e.query.Runs "findmnt"

/-- The last look decides, whatever has been before. -/
theorem LastShows.append_left {root : Target} {dir fsType : String} {h : History}
    (hshows : LastShows root dir fsType h) (h' : History) :
    LastShows root dir fsType (h' ++ h) := by
  obtain ⟨before, m, after, rfl, hm, hafter⟩ := hshows
  exact ⟨h' ++ before, m, after, by simp, hm, hafter⟩

end Filesystem

/-! ### Mount units -/

namespace MountSupervision

open Attempt Filesystem

def makeMountPoint (root : Target) (dir : String) : Command :=
  { target := root, description := "create mount target", program := "mkdir"
    args := ["-p", dir], limit := Limit.quick }

/-- The command that writes the file of a unit. -/
def writeUnit (root : Target) (unit : MountUnit) : Command :=
  { target := root, description := "write mount unit", program := "tee"
    args := [unit.unitPath], input := some unit.render, limit := Limit.quick }

def reloadUnits (root : Target) : Command :=
  { target := root, description := "reload systemd units", program := "systemctl"
    args := ["daemon-reload"], limit := Limit.standard }

def enableUnit (root : Target) (name : String) : Command :=
  { target := root, description := "enable mount unit", program := "systemctl"
    args := ["enable", name], limit := Limit.standard }

/-- The question whether a unit is active. -/
def activeCheck (root : Target) (name : String) : Command :=
  { target := root, description := "check mount unit state", program := "systemctl"
    args := ["is-active", name], limit := Limit.quick }

def startUnit (root : Target) (name : String) : Command :=
  { target := root, description := "start mount unit", program := "systemctl"
    args := ["start", name], limit := Limit.standard }

variable {root : Target} {unit : MountUnit} {name dir expected : String} {h : History}

/-- The file of the unit is written and enabled. -/
def Installed (root : Target) (unit : MountUnit) (h : History) : Prop :=
  ∃ made written reloaded enabled,
    h = [(makeMountPoint root unit.mountPoint).event (.ok made),
      (writeUnit root unit).event (.ok written), (reloadUnits root).event (.ok reloaded),
      (enableUnit root unit.name).event (.ok enabled)]

/-- The answer to the question whether a unit is active is yes. -/
def ShowsActive : Except Failure String → Prop
  | .ok output => Text.trim output = "active"
  | .error _ => False

/-- The directory shows the filesystem: the last event names its type. -/
def ShowsType (root : Target) (dir expected : String) (h : History) : Prop :=
  ∃ pre m, h = pre ++ [(mountPointCheck root dir).event m] ∧ Names expected m

/-- The mount of the unit is live. The unit has been started, unless it was
active. -/
def Activated (root : Target) (unit : MountUnit) (h : History) : Prop :=
  ∃ a h', ShowsType root unit.mountPoint unit.fsType h' ∧
    ((ShowsActive a ∧ h = (activeCheck root unit.name).event a :: h') ∨
      ∃ output, h = (activeCheck root unit.name).event a
        :: (startUnit root unit.name).event (.ok output) :: h')

/-- What a directory shows is the last that is asked about, if the rest of the
history asks about no mount. -/
theorem ShowsType.lastShows {rest : History} (hshows : ShowsType root dir expected h)
    (hrest : ∀ e ∈ rest, ¬e.query.Runs "findmnt") : LastShows root dir expected (h ++ rest) := by
  obtain ⟨pre, m, rfl, hm⟩ := hshows
  exact ⟨pre, m, rest, by simp, hm, hrest⟩

/-- An activation ends with a look at the mount point, which is the last one until `findmnt`
is run again. -/
theorem Activated.lastShows {rest : History} (hactivated : Activated root unit h)
    (hrest : ∀ e ∈ rest, ¬e.query.Runs "findmnt") :
    LastShows root unit.mountPoint unit.fsType (h ++ rest) := by
  obtain ⟨a, h', hshows, ⟨-, rfl⟩ | ⟨output, rfl⟩⟩ := hactivated
  · exact (hshows.lastShows hrest).append_left [(activeCheck root unit.name).event a]
  · exact (hshows.lastShows hrest).append_left
      [(activeCheck root unit.name).event a, (startUnit root unit.name).event (.ok output)]

theorem outcome_check (hvalid : unit.firstFault = none) :
    (check unit).outcome = .done (.ok ()) := by
  rw [check, hvalid]
  rfl

/-- A check asks nothing. -/
theorem leads_check {r : Except Failure Unit} (hl : (check unit).outcome.Leads h r) : h = [] := by
  unfold check at hl
  split at hl
  · exact (Action.leads_done.mp hl).1
  · exact (Action.leads_done.mp hl).1

theorem failsPlainly_check (unit : MountUnit) : (check unit).FailsPlainly := by
  unfold check
  split
  · exact failsPlainly_throw rfl
  · exact failsPlainly_pure _

/-- A unit that has been installed has been written and enabled. -/
theorem install_attains (root : Target) (unit : MountUnit) :
    (install root unit).Attains (Query.Within (installSteps root))
      fun _ h => Installed root unit h where
  asked _ _ hl := (asks_install root unit).within.of_mem hl
  reached := by
    intro h u hl
    obtain ⟨h₀, v, h₁, hcheck, hmake, rfl⟩ := leads_bind_ok.mp hl
    obtain rfl := leads_check hcheck
    obtain ⟨_, _, h₂, hmade, hwrite, rfl⟩ := leads_bind_ok.mp hmake
    obtain ⟨made, rfl⟩ := leads_discard_ok hmade
    obtain ⟨_, _, h₃, hwritten, hreload, rfl⟩ := leads_bind_ok.mp hwrite
    obtain ⟨written, rfl⟩ := leads_discard_ok hwritten
    obtain ⟨_, _, h₄, hreloaded, henable, rfl⟩ := leads_bind_ok.mp hreload
    obtain ⟨reloaded, rfl⟩ := leads_discard_ok hreloaded
    obtain ⟨enabled, rfl⟩ := leads_discard_ok henable
    exact ⟨made, written, reloaded, enabled, rfl⟩
  plain := by
    refine failsPlainly_bind (failsPlainly_check unit) fun _ => ?_
    refine failsPlainly_bind (failsPlainly_discard (failsPlainly_run _)) fun _ => ?_
    refine failsPlainly_bind (failsPlainly_discard (failsPlainly_run _)) fun _ => ?_
    refine failsPlainly_bind (failsPlainly_discard (failsPlainly_run _)) fun _ => ?_
    exact failsPlainly_discard (failsPlainly_run _)

/-- What the answer to the question whether a unit is active comes to. -/
def activity : Except Failure String → Except Failure Bool
  | .ok output => .ok (Text.trim output == "active")
  | .error f => if f.exitCode.isSome then .ok false else .error f

/-- The state of a unit is one question. -/
theorem leads_isActive {r : Except Failure Bool} :
    (isActive root name).outcome.Leads h r ↔
      ∃ a, h = [(activeCheck root name).event a] ∧ r = activity a := by
  have hasks : (isActive root name).outcome
      = .ask (.run (activeCheck root name)) fun a => .done (activity a) := by
    unfold isActive
    rw [outcome_observe_bind, outcome_runWithin, Action.ask_bind]
    refine congrArg (Action.ask _) (funext fun a => ?_)
    rw [Action.done_bind]
    cases a with
    | ok output => rfl
    | error f => cases hcode : f.exitCode <;> simp [activity, hcode]
  rw [hasks]
  exact Action.leads_ask_done

theorem showsActive_of_activity {a : Except Failure String} (ha : activity a = .ok true) :
    ShowsActive a := by
  cases a with
  | ok output => simpa [activity, ShowsActive] using ha
  | error f =>
    rw [activity] at ha
    split at ha <;> cases ha

/-- A start that succeeds is one command; the journal is read only after a failure. -/
theorem leads_start_ok {verbose : Bool} {u : Unit}
    (hl : (start root verbose name).outcome.Leads h (.ok u)) :
    ∃ output, h = [(startUnit root name).event (.ok output)] := by
  unfold start at hl
  obtain ⟨f | output, rest, rfl, hstarted⟩ := leads_observe_runWithin.mp hl
  · cases verbose with
    | false => cases (Action.leads_done.mp hstarted).2
    | true =>
      obtain ⟨h₁, text, h₂, -, hthrow, -⟩ := leads_bind_ok.mp hstarted
      cases text with
      | none => cases (Action.leads_done.mp hthrow).2
      | some text => cases (Action.leads_done.mp hthrow).2
  · obtain ⟨rfl, -⟩ := Action.leads_done.mp hstarted
    exact ⟨output, rfl⟩

/-- What a look at a directory finds, and what it keeps for the message. -/
def lookResult (expected : String) (lastSeen : Option String) :
    Except Failure (Option String) → Option Unit × Option String
  | .ok seen => if seen = some expected then (some (), lastSeen) else (none, seen)
  | .error _ => (none, lastSeen)

/-- Each look at a directory is one question, and it either finds the type or keeps what it
has seen. -/
theorem leads_lookForType {s : Option String} {r : Option Unit × Option String} :
    ((lookForType root dir expected).run s).Leads h r ↔
      ∃ m, h = [(mountPointCheck root dir).event m] ∧ r = lookResult expected s (reading 1 m) := by
  have hlook : (lookForType root dir expected).run s
      = lookResult expected s <$> (mountPointType root dir).outcome := by
    rw [lookForType, StateT.run_bind, map_eq_pure_bind]
    simp only [StateT.run_monadLift, bind_assoc, pure_bind, monadLift_self]
    refine congrArg (Action.bind _) (funext fun seen => ?_)
    cases seen with
    | error f => rfl
    | ok seen => by_cases hseen : seen = some expected <;> simp [hseen, lookResult]
  rw [hlook, Action.leads_map]
  constructor
  · intro hruns
    obtain ⟨seen, hcheck, rfl⟩ := hruns
    obtain ⟨m, rfl, rfl⟩ := leads_mountPointType.mp hcheck
    exact ⟨m, rfl, rfl⟩
  · intro hruns
    obtain ⟨m, rfl, rfl⟩ := hruns
    exact ⟨_, leads_mountPointType.mpr ⟨m, rfl, rfl⟩, rfl⟩

theorem lookResult_eq_some {s s' : Option String} {found : Except Failure (Option String)}
    (hfound : lookResult expected s found = (some (), s')) : found = .ok (some expected) := by
  cases found with
  | error f => cases hfound
  | ok seen =>
    rw [lookResult] at hfound
    split at hfound
    next hseen => rw [hseen]
    next => cases hfound

/-- Waiting for a mount succeeds with a look that shows the expected type. -/
theorem leads_awaitType_ok {u : Unit}
    (hl : (awaitType root dir expected).outcome.Leads h (.ok u)) :
    ShowsType root dir expected h := by
  unfold awaitType at hl
  obtain ⟨h₁, ⟨found, seen⟩, h₂, hpoll, hrest, rfl⟩ := leads_bind_ok.mp hl
  rw [outcome_liftM, Action.leads_map] at hpoll
  obtain ⟨⟨v, s⟩, hpoll, hpair⟩ := hpoll
  obtain ⟨rfl, rfl⟩ : found = v ∧ seen = s := by simpa using hpair
  cases found with
  | none => cases (Action.leads_done.mp hrest).2
  | some v =>
    obtain ⟨rfl, -⟩ := Action.leads_done.mp hrest
    obtain ⟨n, -, h₀, s₁, h₃, -, hlast, rfl, -⟩ := Retry.leads_pollMore.mp hpoll
    obtain ⟨m, rfl, hm⟩ := leads_lookForType.mp hlast
    exact ⟨h₀, m, by simp, (names_iff 1).mpr (lookResult_eq_some hm.symm)⟩

theorem failsPlainly_start (root : Target) (verbose : Bool) (name : String) :
    (start root verbose name).FailsPlainly := by
  refine failsPlainly_observe_bind (failsPlainly_run _) (fun _ => failsPlainly_pure _)
    fun f hf => ?_
  refine failsPlainly_ite ?_ (failsPlainly_throw hf)
  refine failsPlainly_bind (failsPlainly_lift _) fun text => ?_
  cases text with
  | none => exact failsPlainly_throw hf
  | some text => exact failsPlainly_throw rfl

theorem failsPlainly_awaitType (root : Target) (dir expected : String) :
    (awaitType root dir expected).FailsPlainly := by
  refine failsPlainly_bind (failsPlainly_lift _) fun found => ?_
  obtain ⟨_ | _, seen⟩ := found
  · exact failsPlainly_throw rfl
  · exact failsPlainly_pure _

/-- A unit that has been activated has been active or was started, and its mount has shown
up. -/
theorem activate_attains (root : Target) (verbose : Bool) (unit : MountUnit) :
    (activate root verbose unit).Attains (Query.Within (activateSteps root))
      fun _ h => Activated root unit h where
  asked _ _ hl := (asks_activate root verbose unit).within.of_mem hl
  reached := by
    intro h u hl
    obtain ⟨h₀, v, h₁, hcheck, hchecked, rfl⟩ := leads_bind_ok.mp hl
    obtain rfl := leads_check hcheck
    obtain ⟨h₂, active, h₃, hactive, hrest, rfl⟩ := leads_bind_ok.mp hchecked
    obtain ⟨a, rfl, ha⟩ := leads_isActive.mp hactive
    cases active with
    | true =>
      exact ⟨a, h₃, leads_awaitType_ok hrest, .inl ⟨showsActive_of_activity ha.symm, rfl⟩⟩
    | false =>
      obtain ⟨h₄, w, h₅, hstart, hawait, rfl⟩ := leads_bind_ok.mp hrest
      obtain ⟨output, rfl⟩ := leads_start_ok hstart
      exact ⟨a, h₅, leads_awaitType_ok hawait, .inr ⟨output, rfl⟩⟩
  plain := by
    have hawait := failsPlainly_awaitType root unit.mountPoint unit.fsType
    refine failsPlainly_bind (failsPlainly_check unit) fun _ => ?_
    refine failsPlainly_bind ?_ fun active => ?_
    · refine failsPlainly_observe_bind (failsPlainly_run _) (fun _ => failsPlainly_pure _)
        fun f hf => ?_
      exact failsPlainly_ite (failsPlainly_pure _) (failsPlainly_throw hf)
    · exact failsPlainly_ite
        (failsPlainly_bind (failsPlainly_start root verbose unit.name) fun _ => hawait) hawait

end MountSupervision

/-! ### Contents and ownership -/

namespace StoreContent

open Attempt

def showSubvolume (root : Target) (path : String) : Command :=
  { target := root, description := "inspect subvolume", program := "btrfs"
    args := ["subvolume", "show", path], limit := Limit.quick }

def createSubvolume (root : Target) (path : String) : Command :=
  { target := root, description := "create subvolume", program := "btrfs"
    args := ["subvolume", "create", path], limit := Limit.standard }

def userIdQuestion (user : Target) : Command :=
  { target := user, description := "resolve user id", program := "id"
    args := ["-u"], limit := Limit.quick }

def groupIdQuestion (user : Target) : Command :=
  { target := user, description := "resolve group id", program := "id"
    args := ["-g"], limit := Limit.quick }

/-- The command that gives a tree to an owner. -/
def giveTree (root : Target) (owner dir : String) : Command :=
  { target := root, description := "change store ownership", program := "chown"
    args := ["-R", owner, dir], limit := Limit.standard }

variable {root user : Target} {storeDir name : String} {h : History}

/-- The subvolume was there already or has been created. -/
def Present (root : Target) (storeDir : String) (h : History) (name : String) : Prop :=
  ∃ output, (showSubvolume root (subvolumePath storeDir name)).event (.ok output) ∈ h ∨
    (createSubvolume root (subvolumePath storeDir name)).event (.ok output) ∈ h

/-- The user and the group as which commands on `user` run, by the answers. -/
def Owner (user : Target) (owner : String) (h : History) : Prop :=
  ∃ uid gid, h = [(userIdQuestion user).event (.ok uid), (groupIdQuestion user).event (.ok gid)] ∧
    owner = Text.trim uid ++ ":" ++ Text.trim gid

/-- The tree has been given to the user. -/
def Given (root user : Target) (storeDir : String) (h : History) : Prop :=
  ∃ owner h' output, Owner user owner h' ∧
    h = h' ++ [(giveTree root owner storeDir).event (.ok output)]

theorem Given.within (hgiven : Given root user storeDir h) :
    ∀ e ∈ h, e.query.Within (giveSteps root user) := by
  obtain ⟨owner, _, output, ⟨uid, gid, rfl, -⟩, rfl⟩ := hgiven
  simp [giveSteps, ownerSteps, Command.Takes, userIdQuestion, groupIdQuestion, giveTree]

/-- A subvolume has been shown or created. -/
theorem leads_ensureSubvolume {created : Bool}
    (hl : (ensureSubvolume root storeDir name).outcome.Leads h (.ok created)) :
    Present root storeDir h name := by
  unfold ensureSubvolume at hl
  obtain ⟨f | output, rest, rfl, hshown⟩ := leads_observe_runWithin.mp hl
  · dsimp only at hshown
    rw [outcome_ite] at hshown
    split at hshown
    · cases (Action.leads_done.mp hshown).2
    · obtain ⟨output, rfl, -⟩ := leads_runWithin_pure_ok.mp hshown
      exact ⟨output, .inr (by simp [createSubvolume])⟩
  · exact ⟨output, .inl (by simp [showSubvolume])⟩

theorem failsPlainly_ensureSubvolume (root : Target) (storeDir name : String) :
    (ensureSubvolume root storeDir name).FailsPlainly := by
  refine failsPlainly_observe_bind (failsPlainly_run _) (fun _ => failsPlainly_pure _)
    fun f hf => ?_
  refine failsPlainly_ite (failsPlainly_throw hf) ?_
  exact failsPlainly_bind (failsPlainly_discard (failsPlainly_run _)) fun _ => failsPlainly_pure _

theorem Present.mono {h' : History} (hpresent : Present root storeDir h name) (hsub : h ⊆ h') :
    Present root storeDir h' name := by
  obtain ⟨output, hshown | hmade⟩ := hpresent
  · exact ⟨output, .inl (hsub hshown)⟩
  · exact ⟨output, .inr (hsub hmade)⟩

/-- Every subvolume has been shown or created. -/
theorem ensureSubvolumes_attains (root : Target) (storeDir : String) :
    (ensureSubvolumes root storeDir).Attains (Query.Within (subvolumeSteps root))
      fun _ h => ∀ name ∈ subvolumes, Present root storeDir h name where
  asked _ _ hl := (asks_ensureSubvolumes root storeDir).within.of_mem hl
  reached := by
    intro h made hl
    -- The subvolumes are a fixed list, so the loop over them is written out.
    simp only [ensureSubvolumes, subvolumes, List.filterM, List.filterAuxM, bind_assoc] at hl
    obtain ⟨h₁, first, h₂, himages, hrest, rfl⟩ := leads_bind_ok.mp hl
    obtain ⟨h₃, second, h₄, hinstances, -, rfl⟩ := leads_bind_ok.mp hrest
    intro name hname
    rcases List.mem_pair.mp hname with rfl | rfl
    · exact (leads_ensureSubvolume himages).mono (by simp)
    · exact (leads_ensureSubvolume hinstances).mono (by simp)
  plain := by
    simp only [ensureSubvolumes, subvolumes, List.filterM, List.filterAuxM, bind_assoc]
    refine failsPlainly_bind (failsPlainly_ensureSubvolume root storeDir _) fun _ => ?_
    refine failsPlainly_bind (failsPlainly_ensureSubvolume root storeDir _) fun _ => ?_
    exact failsPlainly_pure _

/-- The owner is made of the two ids of the user. -/
theorem leads_invokingOwner {owner : String}
    (hl : (invokingOwner user).outcome.Leads h (.ok owner)) : Owner user owner h := by
  unfold invokingOwner at hl
  obtain ⟨h₁, uid, h₂, huid, hgroup, rfl⟩ := leads_bind_ok.mp hl
  obtain rfl := leads_runWithin.mp huid
  obtain ⟨h₃, gid, h₄, hgid, hcheck, rfl⟩ := leads_bind_ok.mp hgroup
  obtain rfl := leads_runWithin.mp hgid
  dsimp only at hcheck
  rw [outcome_ite] at hcheck
  split at hcheck
  · cases (Action.leads_done.mp hcheck).2
  · obtain ⟨rfl, howner⟩ := Action.leads_done.mp hcheck
    exact ⟨uid, gid, rfl, Except.ok.inj howner⟩

theorem failsPlainly_invokingOwner (user : Target) : (invokingOwner user).FailsPlainly := by
  refine failsPlainly_bind (failsPlainly_run _) fun uid => ?_
  refine failsPlainly_bind (failsPlainly_run _) fun gid => ?_
  dsimp only
  refine failsPlainly_ite ?_ ?_
  · exact failsPlainly_throw rfl
  · exact failsPlainly_pure _

/-- A tree has been given away when `chown` has succeeded with the ids of the user. -/
theorem giveTo_attains (root user : Target) (storeDir : String) :
    (giveTo root user storeDir).Attains (Query.Within (giveSteps root user))
      fun _ h => Given root user storeDir h where
  asked _ _ hl := (asks_giveTo root user storeDir).within.of_mem hl
  reached := by
    intro h owner hl
    obtain ⟨h₁, owner', h₂, howner, hgive, rfl⟩ := leads_bind_ok.mp hl
    obtain ⟨output, rfl, rfl⟩ := leads_runWithin_pure_ok.mp hgive
    exact ⟨_, h₁, output, leads_invokingOwner howner, rfl⟩
  plain := by
    refine failsPlainly_bind (failsPlainly_invokingOwner user) fun owner => ?_
    exact failsPlainly_bind (failsPlainly_discard (failsPlainly_run _)) fun _ => failsPlainly_pure _

end StoreContent

end BtrfsStore
