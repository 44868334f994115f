import BtrfsStore.Native
import BtrfsStore.Proofs.Steps
/-!
# BtrfsStore.Proofs.Steps.Native

The commands of a run on a Linux host, part by part. Making room for a new
store, the one part that removes something, has no list: its runs are written
out where they matter.
-/

namespace BtrfsStore.Native

def lookSteps : List Step := [⟨.host, "check store filesystem", ["stat", "-f"]⟩]

def createDirSteps : List Step :=
  [⟨.hostRoot, "create store directory", ["mkdir", "-p"]⟩,
    ⟨.hostRoot, "change store ownership", ["chown"]⟩]
    ++ StoreContent.ownerSteps .host

def imageSteps : List Step :=
  [⟨.hostRoot, "create image directory", ["mkdir", "-p"]⟩,
    ⟨.hostRoot, "create store image", ["truncate", "-s"]⟩]

def mountSteps : List Step :=
  [⟨.hostRoot, "create store directory", ["mkdir", "-p"]⟩,
    ⟨.hostRoot, "mount store image", ["mount", "-o", "loop"]⟩,
    ⟨.hostRoot, "mount store device", ["mount"]⟩]
    ++ Filesystem.mountPointSteps .hostRoot

/-- The steps of a run that takes a directory on btrfs as it is. -/
def takeSteps : List Step := lookSteps ++ createDirSteps

/-- The steps of a run after its image or device is formatted. -/
def finishSteps : List Step := mountSteps ++ StoreContent.giveSteps .hostRoot .host

/-- The steps of a run that has made room for its store. -/
def equipSteps : List Step :=
  takeSteps ++ imageSteps ++ Filesystem.ensureSteps .hostRoot ++ finishSteps

/-! ### The parts of a run -/

/-- What a run does once it has made room for its store. -/
def equip (request : StoreRequest) (plan : StorePlan) : Attempt StoreOutcome := do
  if ← isOnBtrfs plan.storeDir then takeDirectory plan.storeDir
  else mountStore request plan

/-- Creates the image of a plan unless it exists; whether it was created. -/
def makeBacking (request : StoreRequest) (plan : StorePlan) (backing : Path) : Attempt Bool :=
  if plan.isImage then (ensureImage backing request.gigabytes).inStage .storeImage
  else pure false

/-- What a run does once what is behind the store is formatted. -/
def finish (plan : StorePlan) (backing : Path) : Attempt StoreOutcome := do
  (mount plan backing.text plan.storeDir.text).inStage .localMount
  discard <| (StoreContent.giveTo .hostRoot .host plan.storeDir.text).inStage .ownership
  pure
    { useStore := true, backendAvailable := true, storePath := some plan.storeDir.text,
      mountDevice := some backing.text, mountFsType := some btrfsType }

/-- Mounting a store, in the parts that have lemmas of their own. -/
theorem mountStore_eq (request : StoreRequest) (plan : StorePlan) :
    mountStore request plan = (do
      (checkPrerequisites plan).inStage .prerequisites
      match plan.backing with
      | none => throw (.operation "store plan has no backing file or device")
      | some backing =>
        let created ← makeBacking request plan backing
        discard <|
          (Filesystem.ensure .hostRoot backing.text (created || request.reinit)).inStage .format
        finish plan backing) := by
  unfold mountStore makeBacking
  refine congrArg _ (funext fun _ => ?_)
  cases plan.backing with
  | none => rfl
  | some backing => cases plan.isImage <;> rfl

/-- A run plans the store, clears it away on request and equips it. -/
theorem prepare_eq (request : StoreRequest) (storeRoot : Option Path) :
    prepare request storeRoot = (do
      let plan ← Attempt.ofExcept (StorePlan.ofRequest request storeRoot)
      if request.reinit then
        (reinit plan).inStage .reinit
      equip request plan) := rfl

/-- Tools are located without a command. -/
theorem asks_missingTools {Q : Query → Prop} (plan : StorePlan) (hroot : Q .isRoot)
    (hlocate : ∀ tool, Q (.locate tool)) : (missingTools plan).Asks Q := by
  have hfilter : ∀ tools found : List String,
      (List.filterAuxM (fun tool => Option.isNone <$> Action.locate tool) tools found).Asks Q := by
    intro tools
    induction tools with
    | nil => simp
    | cons tool tools ih => exact fun found => ⟨hlocate tool, fun _ => ih _⟩
  exact ⟨hroot, fun isRoot => (hfilter _ []).map _⟩

theorem asks_checkPrerequisites {Q : Query → Prop} (plan : StorePlan) (hroot : Q .isRoot)
    (hlocate : ∀ tool, Q (.locate tool)) : (checkPrerequisites plan).outcome.Asks Q := by
  unfold checkPrerequisites
  refine Attempt.asks_bind ((asks_missingTools plan hroot hlocate).map _) fun missing => ?_
  rw [Attempt.outcome_ite, Action.asks_ite]
  exact ⟨fun _ => trivial, fun _ => trivial⟩

/-- The closest ancestor is found by questions whether paths exist. -/
theorem asks_existingAncestor {Q : Query → Prop} (path : Path)
    (hexists : ∀ p, Q (.pathExists p)) : (existingAncestor path).Asks Q := by
  unfold existingAncestor
  induction path.ancestors with
  | nil => trivial
  | cons p rest ih =>
    refine ⟨hexists p, fun there => ?_⟩
    cases there with
    | true => trivial
    | false => exact ih

/-- Whether a directory is on btrfs is asked of its closest ancestor, with `stat`. -/
theorem asks_isOnBtrfs (dir : Path) : (isOnBtrfs dir).Asks (Query.Within lookSteps) := by
  unfold isOnBtrfs
  refine (asks_existingAncestor dir fun _ => trivial).bind fun existing => ?_
  cases existing <;> simp [lookSteps, Command.Takes]

theorem asks_createStoreDir (dir : String) :
    (createStoreDir dir).outcome.Asks (Query.Within createDirSteps) := by
  unfold createStoreDir
  refine Attempt.asks_bind (by simp [createDirSteps, Command.Takes]) fun _ => ?_
  refine Attempt.asks_bind ?_ fun _ => by simp [createDirSteps, Command.Takes]
  exact (StoreContent.asks_invokingOwner .host).within.within_mono (by simp [createDirSteps])

theorem asks_ensureImage (image : Path) (gigabytes : Nat) :
    (ensureImage image gigabytes).outcome.Asks (Query.Within imageSteps) := by
  unfold ensureImage
  refine Attempt.asks_bind ⟨trivial, fun _ => trivial⟩ fun there => ?_
  cases there with
  | true => simp
  | false =>
    have htruncate : ∀ _ : Unit, (do
        discard <| Target.hostRoot.runWithin Limit.quick "create store image" "truncate"
          ["-s", toString gigabytes ++ "G", image.text]
        return true : Attempt Bool).outcome.Asks (Query.Within imageSteps) := by
      simp [imageSteps, Command.Takes, Except.map]
    cases himage : image.parent with
    | none => simpa [himage] using htruncate ()
    | some dir =>
      simp only [Bool.false_eq_true, if_false]
      refine Attempt.asks_bind ⟨trivial, fun _ => trivial⟩ fun parentThere => ?_
      cases parentThere with
      | true => exact htruncate ()
      | false =>
        refine Attempt.asks_bind (Attempt.asks_discard ?_) htruncate
        simp [imageSteps, Command.Takes]

theorem asks_mount (plan : StorePlan) (backing dir : String) :
    (mount plan backing dir).outcome.Asks (Query.Within mountSteps) := by
  have hlive : (Filesystem.mountPointType .hostRoot dir).outcome.Asks
      (Query.Within mountSteps) :=
    (Filesystem.asks_mountPointType _ _).within.within_mono (List.subset_append_right _ _)
  have hcheck : ∀ _ : Unit, (do
      let mounted ← Filesystem.mountPointType .hostRoot dir
      if mounted = some btrfsType then pure ()
      else throw (.mountTypeMismatch dir btrfsType (mounted.getD "nothing"))
      : Attempt Unit).outcome.Asks (Query.Within mountSteps) := by
    intro _
    refine Attempt.asks_bind hlive fun mounted => ?_
    simp
  unfold mount
  refine Attempt.asks_bind (by simp [mountSteps, Command.Takes]) fun _ => ?_
  refine Attempt.asks_bind hlive fun mounted => ?_
  cases mounted with
  | some fsType => simp
  | none =>
    rw [Attempt.outcome_ite, Action.asks_ite]
    constructor
    · intro _
      exact Attempt.asks_bind (by simp [mountSteps, Command.Takes]) hcheck
    · intro _
      exact Attempt.asks_bind (by simp [mountSteps, Command.Takes]) hcheck

/-- A directory is looked for, and created if it is not there. -/
theorem asks_takeDirectory_of {Q : Query → Prop} {dir : Path} (hlook : Q (.pathExists dir))
    (hcreate : (createStoreDir dir.text).outcome.Asks Q) : (takeDirectory dir).outcome.Asks Q := by
  unfold takeDirectory
  refine Attempt.asks_bind ⟨hlook, fun _ => trivial⟩ fun there => ?_
  cases there with
  | true => simp
  | false => exact Attempt.asks_bind (Attempt.asks_inStage hcreate) fun _ => by simp

/-- Taking a directory has no step for a device. -/
theorem asks_takeDirectory (dir : Path) :
    (takeDirectory dir).outcome.Asks (Query.Within takeSteps) := by
  refine asks_takeDirectory_of trivial ?_
  exact (asks_createStoreDir dir.text).within_mono (by simp [takeSteps])

/-- A run ends with the mount and the change of the owner. -/
theorem asks_finish_of {Q : Query → Prop} {plan : StorePlan} {backing : Path}
    (hmount : (mount plan backing.text plan.storeDir.text).outcome.Asks Q)
    (hgive : (StoreContent.giveTo .hostRoot .host plan.storeDir.text).outcome.Asks Q) :
    (finish plan backing).outcome.Asks Q := by
  unfold finish
  refine Attempt.asks_bind (Attempt.asks_inStage hmount) fun _ => ?_
  exact Attempt.asks_bind (Attempt.asks_discard (Attempt.asks_inStage hgive)) fun _ => trivial

/-- After the formatting the store is mounted and given to the user. -/
theorem asks_finish (plan : StorePlan) (backing : Path) :
    (finish plan backing).outcome.Asks (Query.Within finishSteps) := by
  refine asks_finish_of ?_ ?_
  · exact (asks_mount _ _ _).within_mono (List.subset_append_left _ _)
  · exact (StoreContent.asks_giveTo _ _ _).within.within_mono (List.subset_append_right _ _)

/-- Only an image is created, with the directory that it is in. -/
theorem asks_makeBacking (request : StoreRequest) (plan : StorePlan) (backing : Path) :
    (makeBacking request plan backing).outcome.Asks (Query.Within imageSteps) := by
  unfold makeBacking
  rw [Attempt.outcome_ite, Action.asks_ite]
  exact ⟨fun _ => Attempt.asks_inStage (asks_ensureImage _ _), fun _ => trivial⟩

/-- All that a run issues after clearing away, for a directory on btrfs and for a mount. -/
theorem asks_equip (request : StoreRequest) (plan : StorePlan) :
    (equip request plan).outcome.Asks (Query.Within equipSteps) := by
  unfold equip
  refine Attempt.asks_bind ?_ fun onBtrfs => ?_
  · refine ((asks_isOnBtrfs _).within_mono ?_).map _
    exact fun s hs => by simp [equipSteps, takeSteps, hs]
  cases onBtrfs with
  | true =>
    exact (asks_takeDirectory _).within_mono fun s hs => by simp [equipSteps, hs]
  | false =>
    rw [if_neg Bool.false_ne_true, mountStore_eq]
    refine Attempt.asks_bind (Attempt.asks_inStage ?_) fun _ => ?_
    · exact asks_checkPrerequisites _ trivial fun _ => trivial
    cases plan.backing with
    | none => trivial
    | some backing =>
      refine Attempt.asks_bind ?_ fun created => Attempt.asks_bind ?_ fun _ => ?_
      · exact (asks_makeBacking _ _ _).within_mono fun s hs => by simp [equipSteps, hs]
      · exact Attempt.asks_discard (Attempt.asks_inStage
          ((Filesystem.asks_ensure _ _ _).within.within_mono fun s hs => by simp [equipSteps, hs]))
      · exact (asks_finish _ _).within_mono fun s hs => by simp [equipSteps, hs]

end BtrfsStore.Native
