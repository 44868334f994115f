import BtrfsStore.Proofs.Creation
import BtrfsStore.Proofs.Milestones
import BtrfsStore.Proofs.Reinit
/-!
# BtrfsStore.Proofs.Course.Native

The course of a run on a Linux host. A plan for the store comes first; the rest
depends on it:

1. with permission to reinitialise, the store is unmounted and its image removed;
2. a directory that is on btrfs is taken as it is;
3. otherwise the tools have to be there, then what is behind the store, then
   btrfs on it, its mount on the directory, and the ownership of the tree.

`prepare_run` says that every run follows this course.
-/

namespace BtrfsStore

/-- A plan for a request names something to format and to mount. -/
theorem StorePlan.exists_backing {request : StoreRequest} {storeRoot : Option Path}
    {plan : StorePlan} (hplan : StorePlan.ofRequest request storeRoot = .ok plan) :
    ∃ backing, plan.backing = some backing := by
  have hdirectory : ∀ dir, StorePlan.ofDirectory dir = .ok plan →
      ∃ backing, plan.backing = some backing := by
    intro dir hdir
    unfold StorePlan.ofDirectory at hdir
    cases himage : StorePlan.siblingImage dir with
    | error f =>
      rw [himage] at hdir
      cases hdir
    | ok image =>
      rw [himage] at hdir
      cases hdir
      exact ⟨image, rfl⟩
  have hdefault : ∀ path, StorePlan.directoryFor path storeRoot = .ok plan →
      ∃ backing, plan.backing = some backing := by
    intro path hdir
    unfold StorePlan.directoryFor at hdir
    split at hdir
    · exact hdirectory _ hdir
    · cases hdir
  unfold StorePlan.ofRequest StorePlan.make at hplan
  split at hplan
  · split at hplan
    · cases hplan
    · cases hplan
    · cases hplan
      exact ⟨_, rfl⟩
  · split at hplan
    · split at hplan
      · cases hplan
        exact ⟨_, rfl⟩
      · exact hdirectory _ hplan
    · exact hdefault none hplan
  · exact hdefault _ hplan

/-- A request without a plan fails before any stage. -/
theorem StorePlan.isPlain_of_ofRequest {request : StoreRequest} {storeRoot : Option Path}
    {f : Failure} (h : StorePlan.ofRequest request storeRoot = .error f) : f.IsPlain := by
  have hdirectory : ∀ dir, StorePlan.ofDirectory dir = .error f → f.IsPlain := by
    intro dir hdir
    unfold StorePlan.ofDirectory StorePlan.siblingImage at hdir
    split at hdir
    · cases hdir
    · cases hdir
      rfl
  have hdefault : ∀ path, StorePlan.directoryFor path storeRoot = .error f → f.IsPlain := by
    intro path hpath
    unfold StorePlan.directoryFor at hpath
    split at hpath
    · exact hdirectory _ hpath
    · cases hpath
      rfl
  unfold StorePlan.ofRequest StorePlan.make at h
  split at h
  · split at h
    · cases h
      rfl
    · cases h
      rfl
    · cases h
  · split at h
    · split at h
      · cases h
      · exact hdirectory _ h
    · exact hdefault none h
  · exact hdefault _ h

namespace Native

open Attempt Filesystem StoreContent

/-! ### Making room -/

/-- The steps that unmount a store and remove its image. -/
def clearSteps : List Step :=
  releaseSteps .hostRoot ++ [⟨.hostRoot, "remove store image", ["rm", "-f"]⟩]

/-- The store has been released and its image, if it has one, removed. -/
def Cleared (plan : StorePlan) (h : History) : Prop :=
  ∃ h₁, ReleaseRun .hostRoot plan.storeDir.text h₁ (.ok ()) ∧
    match plan.imagePath with
    | some image => ∃ output, h = h₁ ++ [(removeImage image).event (.ok output)]
    | none => h = h₁

theorem asks_reinit (plan : StorePlan) :
    (reinit plan).outcome.Asks (Query.Within clearSteps) := by
  unfold reinit
  refine asks_bind ?_ fun _ => ?_
  · exact ((asks_release _ _).among_mono (List.subset_append_left _ _)).within
  cases plan.imagePath with
  | none => trivial
  | some image => simp [clearSteps, Command.Takes, Except.map]

/-- Clearing away releases the mount and removes the image. -/
theorem reinit_attains (plan : StorePlan) :
    (reinit plan).Attains (Query.Within clearSteps) fun _ h => Cleared plan h where
  asked _ _ hl := (asks_reinit plan).of_mem hl
  reached := by
    intro h u hl
    obtain ⟨h₁, v, h₂, hrelease, hremove, rfl⟩ := leads_bind_ok.mp hl
    refine ⟨h₁, release_run hrelease, ?_⟩
    cases himage : plan.imagePath with
    | none =>
      rw [himage] at hremove
      obtain ⟨rfl, -⟩ := Action.leads_done.mp hremove
      exact List.append_nil h₁
    | some image =>
      rw [himage] at hremove
      obtain ⟨output, rfl⟩ := leads_discard_ok hremove
      exact ⟨output, rfl⟩
  plain := by
    refine failsPlainly_bind (failsPlainly_release _ _) fun _ => ?_
    cases plan.imagePath with
    | some image => exact failsPlainly_discard (failsPlainly_run _)
    | none => exact failsPlainly_pure _

/-! ### Directories on btrfs -/

/-- The question for the filesystem of a directory. -/
def typeQuestion (dir : Path) : Command :=
  { target := .host, description := "check store filesystem", program := "stat"
    args := ["-f", "-c", "%T", dir.text], limit := Limit.probe }

/-- The last answer names btrfs as the filesystem of a directory. -/
def ShowsBtrfs (h : History) : Prop :=
  ∃ pre dir output, h = pre ++ [(typeQuestion dir).event (.ok output)] ∧
    Text.trim output = btrfsType

theorem isOnBtrfs_shows {dir : Path} {h : History} (hl : (isOnBtrfs dir).Leads h true) :
    ShowsBtrfs h := by
  unfold isOnBtrfs at hl
  obtain ⟨h₁, existing, h₂, -, hask, rfl⟩ := Action.leads_bind.mp hl
  cases existing with
  | none => cases (Action.leads_done.mp hask).2
  | some existing =>
    obtain ⟨_, a, h₃, hasked, hrest, rfl⟩ := Action.leads_bind.mp hask
    obtain rfl := leads_runWithin.mp hasked
    cases a with
    | error f => cases (Action.leads_done.mp hrest).2
    | ok output =>
      obtain ⟨rfl, hbtrfs⟩ := Action.leads_done.mp hrest
      exact ⟨h₁, existing, output, by simp [typeQuestion], by simpa using hbtrfs.symm⟩

def makeStoreDir (dir : String) : Command :=
  { target := .hostRoot, description := "create store directory", program := "mkdir"
    args := ["-p", dir], limit := Limit.quick }

def giveStoreDir (owner dir : String) : Command :=
  { target := .hostRoot, description := "change store ownership", program := "chown"
    args := [owner, dir], limit := Limit.quick }

/-- The directory of the store has been created and given to the user. -/
def DirCreated (dir : String) (h : History) : Prop :=
  ∃ made owner h' given, Owner .host owner h' ∧
    h = (makeStoreDir dir).event (.ok made) :: h' ++ [(giveStoreDir owner dir).event (.ok given)]

theorem createStoreDir_attains (dir : String) :
    (createStoreDir dir).Attains (Query.Within createDirSteps) fun _ h => DirCreated dir h where
  asked _ _ hl := (asks_createStoreDir dir).of_mem hl
  reached := by
    intro h u hl
    obtain ⟨h₁, v, h₂, hmake, hrest, rfl⟩ := leads_bind_ok.mp hl
    obtain ⟨made, rfl⟩ := leads_discard_ok hmake
    obtain ⟨h₃, owner, h₄, howner, hgive, rfl⟩ := leads_bind_ok.mp hrest
    obtain ⟨given, rfl⟩ := leads_discard_ok hgive
    exact ⟨made, owner, h₃, given, leads_invokingOwner howner, rfl⟩
  plain := by
    refine failsPlainly_bind (failsPlainly_discard (failsPlainly_run _)) fun _ => ?_
    refine failsPlainly_bind (failsPlainly_invokingOwner _) fun owner => ?_
    exact failsPlainly_discard (failsPlainly_run _)

/-! ### Prerequisites -/

/-- Whether a question looks for what a run needs on the host. -/
def LooksForTools (q : Query) : Prop := q = .isRoot ∨ ∃ tool, q = .locate tool

/-- The tools that a search does not report as missing have been found. -/
theorem leads_filterAuxM_locate {tools found missing : List String} {h : History}
    (hl : (List.filterAuxM (fun tool => Option.isNone <$> Action.locate tool) tools
      found).Leads h missing) :
    found ⊆ missing ∧
      ∀ tool ∈ tools, tool ∈ missing ∨ ∃ path, ⟨.locate tool, some path⟩ ∈ h := by
  induction tools generalizing found h with
  | nil =>
    obtain ⟨-, rfl⟩ := Action.leads_done.mp hl
    exact ⟨List.Subset.refl _, by simp⟩
  | cons tool tools ih =>
    obtain ⟨h₁, absent, h₂, hlocate, hrest, rfl⟩ := Action.leads_bind.mp hl
    obtain ⟨answer, rfl, rfl⟩ := Action.leads_ask_done.mp hlocate
    obtain ⟨hfound, hothers⟩ := ih hrest
    have hlater : ∀ other ∈ tools, other ∈ missing ∨
        ∃ path, ⟨.locate other, some path⟩ ∈ [⟨.locate tool, answer⟩] ++ h₂ := by
      intro other hother
      rcases hothers other hother with hmissing | ⟨path, hpath⟩
      · exact .inl hmissing
      · exact .inr ⟨path, List.mem_append_right _ hpath⟩
    cases answer with
    | none =>
      have htool : tool ∈ missing := hfound List.mem_cons_self
      exact ⟨fun other hother => hfound (List.mem_cons_of_mem _ hother),
        List.forall_mem_cons.mpr ⟨.inl htool, hlater⟩⟩
    | some path => exact ⟨hfound, List.forall_mem_cons.mpr ⟨.inr ⟨path, by simp⟩, hlater⟩⟩

/-- All tools that the plan needs have been found. -/
def ToolsFound (plan : StorePlan) (h : History) : Prop :=
  ∃ isRoot h', h = ⟨.isRoot, isRoot⟩ :: h' ∧
    ∀ tool ∈ plan.requiredTools isRoot, ∃ path, ⟨.locate tool, some path⟩ ∈ h'

theorem checkPrerequisites_attains (plan : StorePlan) :
    (checkPrerequisites plan).Attains LooksForTools fun _ h => ToolsFound plan h where
  asked _ _ hl := (asks_checkPrerequisites plan (.inl rfl) fun tool => .inr ⟨tool, rfl⟩).of_mem hl
  reached := by
    intro h u hl
    obtain ⟨h₁, missing, h₂, hmissing, hrest, rfl⟩ := leads_bind_ok.mp hl
    rw [outcome_liftM, Action.leads_map] at hmissing
    obtain ⟨missing', hmissing, hsame⟩ := hmissing
    obtain rfl := Except.ok.inj hsame
    rw [outcome_ite] at hrest
    split at hrest
    next hnone =>
      obtain ⟨rfl, -⟩ := Action.leads_done.mp hrest
      obtain ⟨_, isRoot, h₃, hroot, hfilter, rfl⟩ := Action.leads_bind.mp hmissing
      obtain ⟨answer, rfl, rfl⟩ := Action.leads_ask_done.mp hroot
      obtain ⟨h₄, found, h₅, hfound, hreverse, rfl⟩ := Action.leads_bind.mp hfilter
      obtain ⟨rfl, rfl⟩ := Action.leads_done.mp hreverse
      obtain rfl : found = [] := by simpa using hnone
      refine ⟨isRoot, h₄, by simp, fun tool htool => ?_⟩
      rcases (leads_filterAuxM_locate hfound).2 tool htool with habsent | hpath
      · cases habsent
      · exact hpath
    next => cases (Action.leads_done.mp hrest).2
  plain := by
    refine failsPlainly_bind (failsPlainly_lift _) fun missing => ?_
    exact failsPlainly_ite (failsPlainly_pure _) (failsPlainly_throw rfl)

/-! ### What is behind the store -/

/-- What is behind the store is there: it is a device, or an image that was there
or has been created. -/
def BackingReady (request : StoreRequest) (plan : StorePlan) (backing : Path) (created : Bool)
    (h : History) : Prop :=
  if plan.isImage then ImageReady backing request.gigabytes created h
  else created = false ∧ h = []

/-- The image of a plan, if it has one, as a single step. -/
def makeImage (request : StoreRequest) (plan : StorePlan) (backing : Path) : Attempt Bool :=
  if plan.isImage then ensureImage backing request.gigabytes else pure false

theorem makeBacking_eq (request : StoreRequest) (plan : StorePlan) (backing : Path) :
    makeBacking request plan backing = (makeImage request plan backing).inStage .storeImage := by
  unfold makeBacking makeImage
  split <;> rfl

theorem failsPlainly_ensureImage (image : Path) (gigabytes : Nat) :
    (ensureImage image gigabytes).FailsPlainly := by
  have hcreate : ∀ _ : Unit, (do
      discard <| Target.hostRoot.runWithin Limit.quick "create store image" "truncate"
        ["-s", toString gigabytes ++ "G", image.text]
      return true : Attempt Bool).FailsPlainly := by
    intro _
    refine failsPlainly_bind (failsPlainly_discard (failsPlainly_run _)) fun _ => ?_
    exact failsPlainly_pure _
  unfold ensureImage
  refine failsPlainly_bind (failsPlainly_lift _) fun there => ?_
  refine failsPlainly_ite (failsPlainly_pure _) ?_
  cases image.parent with
  | none => exact hcreate ()
  | some dir =>
    refine failsPlainly_bind (failsPlainly_lift _) fun parentThere => ?_
    refine failsPlainly_ite ?_ (hcreate ())
    exact failsPlainly_bind (failsPlainly_discard (failsPlainly_run _)) hcreate

/-- The backing is a device, or an image that was there or has been made. -/
theorem makeImage_attains (request : StoreRequest) (plan : StorePlan) (backing : Path) :
    (makeImage request plan backing).Attains (Query.Within imageSteps)
      (BackingReady request plan backing) := by
  unfold makeImage BackingReady
  cases plan.isImage with
  | false =>
    refine ⟨fun h r hl => ?_, fun h created hl => ?_, failsPlainly_pure _⟩
    · obtain ⟨rfl, -⟩ := Action.leads_done.mp hl
      exact List.forall_mem_nil _
    · obtain ⟨rfl, hcreated⟩ := Action.leads_done.mp hl
      exact ⟨Except.ok.inj hcreated, rfl⟩
  | true =>
    refine ⟨fun h r hl => ?_, fun h created hl => ?_, failsPlainly_ensureImage _ _⟩
    · exact (asks_ensureImage backing request.gigabytes).of_mem hl
    · exact ensureImage_ready hl

/-! ### The mount -/

/-- The command that mounts what is behind a store on its directory. -/
def mountStoreCommand (plan : StorePlan) (backing dir : String) : Command :=
  if plan.isImage then
    { target := .hostRoot, description := "mount store image", program := "mount"
      args := ["-o", "loop", backing, dir], limit := Limit.standard }
  else
    { target := .hostRoot, description := "mount store device", program := "mount"
      args := [backing, dir], limit := Limit.standard }

/-- The directory of the store shows btrfs. What is behind the store has been
mounted on it, unless btrfs was mounted there already. -/
inductive Mounted (plan : StorePlan) (backing dir : String) : History → Prop
  | already {made : String} {m : Except Failure String} (hm : Names btrfsType m) :
      Mounted plan backing dir
        [(makeStoreDir dir).event (.ok made), (mountPointCheck .hostRoot dir).event m]
  | mounted {made output : String} {m m' : Except Failure String} (hm : Silent 1 m)
      (hm' : Names btrfsType m') :
      Mounted plan backing dir
        [(makeStoreDir dir).event (.ok made), (mountPointCheck .hostRoot dir).event m,
          (mountStoreCommand plan backing dir).event (.ok output),
          (mountPointCheck .hostRoot dir).event m']

/-- Fails unless the directory shows btrfs. -/
def checkMounted (dir : String) : Attempt Unit := do
  let mounted ← mountPointType .hostRoot dir
  if mounted = some btrfsType then pure ()
  else throw (.mountTypeMismatch dir btrfsType (mounted.getD "nothing"))

/-- An image and a device are mounted by different commands, with the same check
after them. -/
theorem mount_eq (plan : StorePlan) (backing dir : String) :
    mount plan backing dir = (do
      discard <| Target.hostRoot.runWithin Limit.quick "create store directory" "mkdir"
        ["-p", dir]
      match ← mountPointType .hostRoot dir with
      | some fsType =>
        if fsType = btrfsType then pure ()
        else throw (.mountTypeMismatch dir btrfsType fsType)
      | none =>
        discard <| (ExceptT.mk (Action.query (.run (mountStoreCommand plan backing dir)))
          : Attempt String)
        checkMounted dir) := by
  unfold mount mountStoreCommand
  cases plan.isImage <;> rfl

/-- A mount is checked by one look that has to name btrfs. -/
theorem leads_checkMounted_ok {dir : String} {h : History} {u : Unit}
    (hl : (checkMounted dir).outcome.Leads h (.ok u)) :
    ∃ m, h = [(mountPointCheck .hostRoot dir).event m] ∧ Names btrfsType m := by
  unfold checkMounted at hl
  obtain ⟨h₁, shown, h₂, hshown, hrest, rfl⟩ := leads_bind_ok.mp hl
  obtain ⟨m, rfl, hm⟩ := leads_mountPointType.mp hshown
  rw [outcome_ite] at hrest
  split at hrest
  next hbtrfs =>
    obtain ⟨rfl, -⟩ := Action.leads_done.mp hrest
    exact ⟨m, rfl, (names_iff 1).mpr (hbtrfs ▸ hm.symm)⟩
  next => cases (Action.leads_done.mp hrest).2

/-- A store has been mounted when the look after the mount names btrfs. -/
theorem mount_attains (plan : StorePlan) (backing dir : String) :
    (mount plan backing dir).Attains (Query.Within mountSteps)
      fun _ h => Mounted plan backing dir h where
  asked _ _ hl := (asks_mount plan backing dir).of_mem hl
  reached := by
    intro h u hl
    rw [mount_eq] at hl
    obtain ⟨h₁, v, h₂, hmake, hlook, rfl⟩ := leads_bind_ok.mp hl
    obtain ⟨made, rfl⟩ := leads_discard_ok hmake
    obtain ⟨h₃, seen, h₄, hseen, hrest, rfl⟩ := leads_bind_ok.mp hlook
    obtain ⟨m, rfl, hm⟩ := leads_mountPointType.mp hseen
    -- A btrfs that is there is left as it is; else the mount is looked at afterwards.
    cases seen with
    | some fsType =>
      dsimp only at hrest
      rw [outcome_ite] at hrest
      split at hrest
      next hbtrfs =>
        obtain ⟨rfl, -⟩ := Action.leads_done.mp hrest
        exact .already ((names_iff 1).mpr (hbtrfs ▸ hm.symm))
      next => cases (Action.leads_done.mp hrest).2
    | none =>
      obtain ⟨h₅, w, h₆, hmount, hcheck, rfl⟩ := leads_bind_ok.mp hrest
      obtain ⟨output, rfl⟩ := leads_discard_ok hmount
      obtain ⟨m', rfl, hm'⟩ := leads_checkMounted_ok hcheck
      exact .mounted (silent_iff.mpr hm.symm) hm'
  plain := by
    rw [mount_eq]
    refine failsPlainly_bind (failsPlainly_discard (failsPlainly_run _)) fun _ => ?_
    refine failsPlainly_bind (failsPlainly_mountPointType _ _) fun seen => ?_
    cases seen with
    | some fsType => exact failsPlainly_ite (failsPlainly_pure _) (failsPlainly_throw rfl)
    | none =>
      refine failsPlainly_bind (failsPlainly_discard (failsPlainly_run _)) fun _ => ?_
      refine failsPlainly_bind (failsPlainly_mountPointType _ _) fun mounted => ?_
      exact failsPlainly_ite (failsPlainly_pure _) (failsPlainly_throw rfl)

/-! ### The course -/

/-- The course of a run that takes a directory on btrfs. -/
def takeCourse (dir : Path) : Course :=
  .milestone none (· = .pathExists dir) (fun there h => h = [⟨.pathExists dir, there⟩])
    fun there : Bool =>
  .milestoneIf (!there) .ownership (Query.Within createDirSteps) (DirCreated dir.text) <|
  .finish (· = { useStore := true, backendAvailable := true, storePath := some dir.text })

/-- The course of a run that formats and mounts what is behind the store. -/
def mountCourse (request : StoreRequest) (plan : StorePlan) (backing : Path) : Course :=
  .milestone (some .prerequisites) LooksForTools (fun _ h => ToolsFound plan h) fun _ : Unit =>
  .milestone (some .storeImage) (Query.Within imageSteps) (BackingReady request plan backing)
    fun created : Bool =>
  .milestone (some .format) (Query.Within (ensureSteps .hostRoot))
    (fun outcome h =>
      EnsureRun .hostRoot backing.text (created || request.reinit) h (.ok outcome))
    fun _ : FormatOutcome =>
  .milestone (some .localMount) (Query.Within mountSteps)
    (fun _ h => Mounted plan backing.text plan.storeDir.text h) fun _ : Unit =>
  .milestone (some .ownership) (Query.Within (giveSteps .hostRoot .host))
    (fun _ h => Given .hostRoot .host plan.storeDir.text h) fun _ : String =>
  .finish (· =
    { useStore := true, backendAvailable := true, storePath := some plan.storeDir.text,
      mountDevice := some backing.text, mountFsType := some btrfsType })

/-- The course of a run with a plan. -/
def course (request : StoreRequest) (plan : StorePlan) (backing : Path) : Course :=
  .milestoneIf request.reinit .reinit (Query.Within clearSteps) (Cleared plan) <|
  .milestone none (Query.Within lookSteps) (fun onBtrfs h => onBtrfs = true → ShowsBtrfs h)
    fun onBtrfs : Bool =>
  if onBtrfs then takeCourse plan.storeDir else mountCourse request plan backing

theorem takeDirectory_follows (dir : Path) : (takeDirectory dir).Follows (takeCourse dir) := by
  refine follows_lift ?_ ?_ fun there => ?_
  · exact ⟨rfl, fun _ => trivial⟩
  · intro h there hl
    obtain ⟨answer, rfl, rfl⟩ := Action.leads_ask_done.mp hl
    rfl
  · exact follows_inStage_if (createStoreDir_attains dir.text) (follows_pure rfl)

theorem mountStore_follows {request : StoreRequest} {plan : StorePlan} {backing : Path}
    (hbacking : plan.backing = some backing) :
    (mountStore request plan).Follows (mountCourse request plan backing) := by
  rw [mountStore_eq]
  refine follows_inStage (checkPrerequisites_attains plan) fun _ => ?_
  simp only [hbacking, makeBacking_eq, finish, discard_bind]
  refine follows_inStage (makeImage_attains request plan backing) fun created => ?_
  refine follows_inStage (ensure_attains .hostRoot backing.text _) fun _ => ?_
  refine follows_inStage (mount_attains plan backing.text plan.storeDir.text) fun _ => ?_
  exact follows_inStage (giveTo_attains .hostRoot .host plan.storeDir.text) fun _ =>
    follows_pure rfl

/-- A run fails for want of a plan, or follows its course. -/
theorem prepare_run {request : StoreRequest} {storeRoot : Option Path} {h : History}
    {r : Except Failure StoreOutcome} (hl : (prepare request storeRoot).outcome.Leads h r) :
    (∃ f, StorePlan.ofRequest request storeRoot = .error f ∧ h = [] ∧ r = .error f) ∨
      ∃ plan backing, StorePlan.ofRequest request storeRoot = .ok plan ∧
        plan.backing = some backing ∧ (course request plan backing).Run h r := by
  rw [prepare_eq] at hl
  rcases leads_bind.mp hl with ⟨f, hplan, rfl⟩ | ⟨_, plan, h₂, hplan, hrest, rfl⟩
  · obtain ⟨rfl, hf⟩ := Action.leads_done.mp hplan
    exact .inl ⟨f, hf.symm, rfl, rfl⟩
  obtain ⟨rfl, hresolved⟩ := Action.leads_done.mp hplan
  obtain ⟨backing, hbacking⟩ := StorePlan.exists_backing hresolved.symm
  refine .inr ⟨plan, backing, hresolved.symm, hbacking, ?_⟩
  have hequip : (equip request plan).Follows (.milestone none (Query.Within lookSteps)
      (fun onBtrfs h => onBtrfs = true → ShowsBtrfs h) fun onBtrfs : Bool =>
      if onBtrfs then takeCourse plan.storeDir else mountCourse request plan backing) := by
    refine follows_lift (asks_isOnBtrfs _) ?_ fun onBtrfs => ?_
    · rintro h onBtrfs hl rfl
      exact isOnBtrfs_shows hl
    · cases onBtrfs with
      | true => exact takeDirectory_follows plan.storeDir
      | false => exact mountStore_follows hbacking
  exact follows_inStage_if (reinit_attains plan) hequip h₂ r hrest

/-! ### Runs with a store on a device -/

/-- The steps before the device of a store is formatted, other than the look for the
tools. -/
def readySteps : List Step := clearSteps ++ lookSteps ++ imageSteps

/-- The runs that end with a store on a device: they look at it and format it if need
be, mount it and hand it over. -/
inductive DeviceRun (request : StoreRequest) (plan : StorePlan) (backing : Path)
    (o : StoreOutcome) : History → Prop
  | mk {ready format mounting give : History} {created : Bool} {outcome : FormatOutcome}
      (hreadyAsked : ∀ e ∈ ready, e.query.Within readySteps ∨ LooksForTools e.query)
      (hformat : EnsureRun .hostRoot backing.text (created || request.reinit) format (.ok outcome))
      (hmounted : Mounted plan backing.text plan.storeDir.text mounting)
      (hfinishAsked : ∀ e ∈ mounting ++ give, e.query.Within finishSteps)
      (hpath : o.storePath = some plan.storeDir.text) :
      DeviceRun request plan backing o (ready ++ format ++ (mounting ++ give))

/-- A run along the course that names a device has its store there. -/
theorem course_ok {request : StoreRequest} {plan : StorePlan} {backing : Path} {h : History}
    {o : StoreOutcome} {device : String} (hr : (course request plan backing).Run h (.ok o))
    (hdevice : o.mountDevice = some device) :
    device = backing.text ∧ DeviceRun request plan backing o h := by
  obtain ⟨clear, h₁, -, hclearAsked, hlook, rfl⟩ := Course.run_milestoneIf_ok hr
  obtain ⟨look, onBtrfs, h₂, hlookAsked, -, hrest, rfl⟩ := Course.run_milestone_ok.mp hlook
  cases onBtrfs with
  | true =>
    -- A directory that is taken as it is names no device.
    obtain ⟨h₃, there, h₄, -, -, htake, rfl⟩ := Course.run_milestone_ok.mp hrest
    obtain ⟨h₅, h₆, -, -, hend, rfl⟩ := Course.run_milestoneIf_ok htake
    obtain ⟨-, o', ho, rfl⟩ := Course.run_finish.mp hend
    obtain rfl := Except.ok.inj ho
    cases hdevice
  | false =>
    obtain ⟨tools, _, h₃, htools, -, himage, rfl⟩ := Course.run_milestone_ok.mp hrest
    obtain ⟨image, created, h₄, himageAsked, -, hformat, rfl⟩ := Course.run_milestone_ok.mp himage
    obtain ⟨format, outcome, h₅, -, hensure, hmount, rfl⟩ := Course.run_milestone_ok.mp hformat
    obtain ⟨mounting, _, h₆, hmountAsked, hmounted, hgive, rfl⟩ :=
      Course.run_milestone_ok.mp hmount
    obtain ⟨give, _, h₇, hgiveAsked, -, hend, rfl⟩ := Course.run_milestone_ok.mp hgive
    obtain ⟨rfl, o', ho, rfl⟩ := Course.run_finish.mp hend
    obtain rfl := Except.ok.inj ho
    obtain rfl := Option.some.inj hdevice
    have hready : ∀ e ∈ clear ++ look ++ tools ++ image,
        e.query.Within readySteps ∨ LooksForTools e.query := by
      simp only [List.forall_mem_append]
      refine ⟨⟨⟨fun e he => .inl ?_, fun e he => .inl ?_⟩, fun e he => .inr (htools e he)⟩,
        fun e he => .inl ?_⟩
      · exact (hclearAsked e he).mono fun s hs => by simp [readySteps, hs]
      · exact (hlookAsked e he).mono fun s hs => by simp [readySteps, hs]
      · exact (himageAsked e he).mono fun s hs => by simp [readySteps, hs]
    have hfinish : ∀ e ∈ mounting ++ give, e.query.Within finishSteps :=
      List.forall_mem_append.mpr
        ⟨History.within_mono hmountAsked (List.subset_append_left _ _),
          History.within_mono hgiveAsked (List.subset_append_right _ _)⟩
    have hparts : clear ++ (look ++ (tools ++ (image ++ (format ++ (mounting ++ (give ++ []))))))
        = (clear ++ look ++ tools ++ image) ++ format ++ (mounting ++ give) := by simp
    rw [hparts]
    exact ⟨rfl, .mk hready hensure hmounted hfinish rfl⟩

/-- A run that reports a store on a device has it on the device of its plan. -/
theorem provision_deviceRun {request : StoreRequest} {storeRoot : Option Path} {h : History}
    {o : StoreOutcome} {device : String}
    (hl : (provision request storeRoot).outcome.Leads h (.ok o)) (hstore : o.useStore = true)
    (hdevice : o.mountDevice = some device) :
    ∃ plan backing, StorePlan.ofRequest request storeRoot = .ok plan ∧
      plan.backing = some backing ∧ device = backing.text ∧
      DeviceRun request plan backing o h := by
  rw [outcome_provision] at hl
  obtain ⟨ended, hprepared, hended⟩ := Action.leads_map.mp hl
  obtain rfl := conclude_ok hended.symm hstore
  rcases prepare_run hprepared with ⟨f, -, -, hf⟩ | ⟨plan, backing, hplan, hbacking, hcourse⟩
  · cases hf
  exact ⟨plan, backing, hplan, hbacking, course_ok hcourse hdevice⟩

end Native

end BtrfsStore
