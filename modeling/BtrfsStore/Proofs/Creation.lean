import BtrfsStore.Proofs.Looks
import BtrfsStore.Proofs.Steps.Native
import BtrfsStore.Proofs.Steps.Wsl
/-!
# BtrfsStore.Proofs.Creation

**Storage that a run has created.** `Native.Created` and `Wsl.Created` read off
a history that what is on a device can only be what this run has put there: the
file behind it did not exist when the run looked, and its creation has
succeeded since. Inside WSL the file becomes a device only by its size, so that
a disk of this size must not have been there at the first look either.

The main lemmas are `Native.makeBacking_created` and
`Wsl.attachStoreDisk_created`: where the parts of a run report that they have
created something, their history shows it. On a Linux host this rests on
`Native.ensureImage_asked`, which names every question about an image and its
directory.
-/

namespace BtrfsStore

/-! ### The image on a Linux host -/

namespace Native

def createImage (image : Path) (gigabytes : Nat) : Command :=
  { target := .hostRoot, description := "create store image", program := "truncate"
    args := ["-s", toString gigabytes ++ "G", image.text], limit := Limit.quick }

def makeImageDir (dir : Path) : Command :=
  { target := .hostRoot, description := "create image directory", program := "mkdir"
    args := ["-p", dir.text], limit := Limit.quick }

/-- The device is the image of the plan. It did not exist when the run looked,
and its creation has succeeded. -/
def Created (request : StoreRequest) (storeRoot : Option Path) (h : History)
    (device : String) : Prop :=
  ∃ plan image pre mid output post, StorePlan.ofRequest request storeRoot = .ok plan ∧
    plan.imagePath = some image ∧ device = image.text ∧
    h = pre ++ ⟨.pathExists image, false⟩ :: mid
      ++ (createImage image request.gigabytes).event (.ok output) :: post

/-- What a run asks about the directory of an image, and what becomes of it. -/
inductive ParentAsked (image : Path) : Except Failure Unit → History → Prop
  | none (hparent : image.parent = none) : ParentAsked image (.ok ()) []
  | there {dir : Path} (hparent : image.parent = some dir) :
      ParentAsked image (.ok ()) [⟨.pathExists dir, true⟩]
  | missing {dir : Path} (hparent : image.parent = some dir) (a : Except Failure String) :
      ParentAsked image (a.map fun _ => ())
        [⟨.pathExists dir, false⟩, (makeImageDir dir).event a]

/-- What a run asks about an image, and what becomes of it. -/
inductive ImageAsked (image : Path) (gigabytes : Nat) : Except Failure Bool → History → Prop
  | there : ImageAsked image gigabytes (.ok false) [⟨.pathExists image, true⟩]
  | stopped {f : Failure} {parent : History} (hparent : ParentAsked image (.error f) parent) :
      ImageAsked image gigabytes (.error f) (⟨.pathExists image, false⟩ :: parent)
  | created {parent : History} (hparent : ParentAsked image (.ok ()) parent)
      (a : Except Failure String) :
      ImageAsked image gigabytes (a.map fun _ => true)
        (⟨.pathExists image, false⟩ :: parent ++ [(createImage image gigabytes).event a])

/-- The runs of an attempt that looks for a path first. -/
theorem leads_bind_pathExists {α : Type} {path : Path} {f : Bool → Attempt α} {h : History}
    {r : Except Failure α} :
    ((liftM (Action.pathExists path) : Attempt Bool) >>= f).outcome.Leads h r ↔
      ∃ there rest, h = ⟨.pathExists path, there⟩ :: rest ∧ (f there).outcome.Leads rest r := by
  rw [Attempt.outcome_bind]
  exact Action.leads_ask

theorem ensureImage_asked {image : Path} {gigabytes : Nat} {r : Except Failure Bool} {h : History}
    (hl : (ensureImage image gigabytes).outcome.Leads h r) : ImageAsked image gigabytes r h := by
  -- Whatever was asked about its directory, the image is created last.
  have hcreate : ∀ {parent rest : History}, ParentAsked image (.ok ()) parent → (do
      discard <| Target.hostRoot.runWithin Limit.quick "create store image" "truncate"
        ["-s", toString gigabytes ++ "G", image.text]
      return true : Attempt Bool).outcome.Leads rest r →
        ImageAsked image gigabytes r (⟨.pathExists image, false⟩ :: parent ++ rest) := by
    intro parent rest hparent hl
    obtain ⟨_, hrun, rfl⟩ | ⟨_, _, _, hrun, hend, rfl⟩ := Attempt.leads_bind.mp hl
    · obtain ⟨_ | output, rfl, hfailed⟩ := Attempt.leads_discard_runWithin.mp hrun
      · obtain rfl := Except.error.inj hfailed
        exact .created hparent (.error _)
      · cases hfailed
    · obtain ⟨rfl, rfl⟩ := Action.leads_done.mp hend
      obtain ⟨_ | output, rfl, hok⟩ := Attempt.leads_discard_runWithin.mp hrun
      · cases hok
      · exact .created hparent (.ok output)
  unfold ensureImage at hl
  obtain ⟨there, rest, rfl, hrest⟩ := leads_bind_pathExists.mp hl
  cases there with
  | true =>
    obtain ⟨rfl, rfl⟩ := Action.leads_done.mp hrest
    exact .there
  | false =>
    simp only [Bool.false_eq_true, if_false] at hrest
    cases hparent : image.parent with
    | none =>
      rw [hparent] at hrest
      exact hcreate (.none hparent) hrest
    | some dir =>
      rw [hparent] at hrest
      obtain ⟨parentThere, made, rfl, hmake⟩ := leads_bind_pathExists.mp hrest
      cases parentThere with
      | true => exact hcreate (.there hparent) hmake
      | false =>
        obtain ⟨f, hdir, rfl⟩ | ⟨dirMade, u, create, hdir, hend, rfl⟩ :=
          Attempt.leads_bind.mp hmake
        · obtain ⟨a, rfl, ha⟩ := Attempt.leads_discard_runWithin.mp hdir
          exact .stopped (ha ▸ .missing hparent a)
        · obtain ⟨a, rfl, ha⟩ := Attempt.leads_discard_runWithin.mp hdir
          have hmissing : ParentAsked image (.ok u)
              [⟨.pathExists dir, false⟩, (makeImageDir dir).event a] := ha ▸ .missing hparent a
          exact hcreate hmissing hend

/-- The image is there: it was there before, or it has been created. -/
inductive ImageReady (image : Path) (gigabytes : Nat) : Bool → History → Prop
  | existing : ImageReady image gigabytes false [⟨.pathExists image, true⟩]
  | created {mid : History} {output : String} :
      ImageReady image gigabytes true
        (⟨.pathExists image, false⟩ :: mid ++ [(createImage image gigabytes).event (.ok output)])

/-- The directory of an image is there, or has been created. Some paths have
none. -/
inductive ParentRun (image : Path) : History → Prop
  | none (hparent : image.parent = none) : ParentRun image []
  | existing {dir : Path} (hparent : image.parent = some dir) :
      ParentRun image [⟨.pathExists dir, true⟩]
  | created {dir : Path} {output : String} (hparent : image.parent = some dir) :
      ParentRun image [⟨.pathExists dir, false⟩, (makeImageDir dir).event (.ok output)]

/-- The runs of `ensureImage` that succeed. -/
inductive EnsureImageRun (image : Path) (gigabytes : Nat) : Bool → History → Prop
  | existing : EnsureImageRun image gigabytes false [⟨.pathExists image, true⟩]
  | created {parent : History} {output : String} (hparent : ParentRun image parent) :
      EnsureImageRun image gigabytes true
        (⟨.pathExists image, false⟩ :: parent
          ++ [(createImage image gigabytes).event (.ok output)])

theorem ParentAsked.run {image : Path} {h : History} (hasked : ParentAsked image (.ok ()) h) :
    ParentRun image h := by
  generalize hr : (Except.ok () : Except Failure Unit) = r at hasked
  cases hasked with
  | none hparent => exact .none hparent
  | there hparent => exact .existing hparent
  | missing hparent a =>
    cases a with
    | error f => cases hr
    | ok output => exact .created hparent

/-- An image that is there afterwards was there or has been made, with its directory. -/
theorem ensureImage_run {image : Path} {gigabytes : Nat} {created : Bool} {h : History}
    (hl : (ensureImage image gigabytes).outcome.Leads h (.ok created)) :
    EnsureImageRun image gigabytes created h := by
  have hasked := ensureImage_asked hl
  generalize hr : (Except.ok created : Except Failure Bool) = r at hasked
  cases hasked with
  | there =>
    obtain rfl := Except.ok.inj hr
    exact .existing
  | stopped _ => cases hr
  | created hparent a =>
    cases a with
    | error f => cases hr
    | ok output =>
      obtain rfl := Except.ok.inj hr
      exact .created hparent.run

theorem ensureImage_ready {image : Path} {gigabytes : Nat} {created : Bool} {h : History}
    (hl : (ensureImage image gigabytes).outcome.Leads h (.ok created)) :
    ImageReady image gigabytes created h := by
  cases ensureImage_run hl with
  | existing => exact .existing
  | created _ => exact .created

/-- An image that is called created has been created in the run. -/
theorem makeBacking_created {request : StoreRequest} {storeRoot : Option Path} {plan : StorePlan}
    {backing : Path} {h : History} (hplan : StorePlan.ofRequest request storeRoot = .ok plan)
    (hbacking : plan.backing = some backing)
    (hl : (makeBacking request plan backing).outcome.Leads h (.ok true)) :
    Created request storeRoot h backing.text := by
  unfold makeBacking at hl
  rw [Attempt.outcome_ite] at hl
  split at hl
  next hisImage =>
    obtain ⟨image, himage⟩ := Option.isSome_iff_exists.mp hisImage
    obtain rfl : image = backing := by
      simpa [StorePlan.backing, himage] using hbacking
    cases ensureImage_ready (Attempt.leads_inStage_ok.mp hl) with
    | @created mid output => exact ⟨plan, image, [], mid, output, [], hplan, himage, rfl, rfl⟩
  next =>
    obtain ⟨-, hfalse⟩ := Action.leads_done.mp hl
    cases hfalse

/-- Nothing takes a creation back. -/
theorem Created.append {request : StoreRequest} {storeRoot : Option Path} {h : History}
    {device : String} (hcreated : Created request storeRoot h device) (h₀ h₁ : History) :
    Created request storeRoot (h₀ ++ h ++ h₁) device := by
  obtain ⟨plan, image, pre, mid, output, post, hplan, himage, rfl, rfl⟩ := hcreated
  exact ⟨plan, image, h₀ ++ pre, mid, output, post ++ h₁, hplan, himage, rfl, by simp⟩

end Native

/-! ### The disk of a Windows host -/

namespace BlockDevice

/-- The device is a partition of the single disk of the wanted size. -/
def IsStorePartition (target : Nat) (devices : List BlockDevice) (p : BlockDevice) : Prop :=
  ∃ disk, devices.filter (isStoreDisk target) = [disk] ∧
    p ∈ devices ∧ p.isPartition = true ∧ p.parent = some disk.name

/-- The largest partition of the one disk of the size is that of the store. -/
theorem LastLargest.isStorePartition {target : Nat} {devices : List BlockDevice}
    {d p : BlockDevice} (hp : LastLargest (PartOf d.name) devices p)
    (hfits : candidates target devices = [d]) : IsStorePartition target devices p := by
  obtain ⟨hmem, hkind, hparent⟩ := hp.mem
  exact ⟨d, filter_isStoreDisk.trans hfits, hmem, by simp [isPartition, hkind], hparent⟩

theorem isStoreDisk_eq_false {target : Nat} {d : BlockDevice} (hfits : ¬Fits target d) :
    isStoreDisk target d = false :=
  Bool.eq_false_iff.mpr fun hstore => hfits (isStoreDisk_iff.mp hstore)

end BlockDevice

namespace Wsl

def createDisk (disk : Path) (bytes : Nat) : Command :=
  { target := .host, description := "create virtual disk"
    program := VirtualDisk.powershellProgram
    args := VirtualDisk.powershellArgs (VirtualDisk.createScript disk bytes)
    limit := Limit.standard }

/-- The first listing in the history shows the given devices. -/
def FirstListing (user : Target) (h : History) (devices : List BlockDevice) : Prop :=
  ∃ pre output post, h = pre ++ (listing user).event (.ok output) :: post ∧
    BlockDevice.ofListing output = .ok devices ∧ ∀ e ∈ pre, ¬e.query.Runs "lsblk"

/-- The last listing in the history shows the given devices. -/
def LastListing (user : Target) (h : History) (devices : List BlockDevice) : Prop :=
  ∃ pre output post, h = pre ++ (listing user).event (.ok output) :: post ∧
    BlockDevice.ofListing output = .ok devices ∧ ∀ e ∈ post, ¬e.query.Runs "lsblk"

/-- The disk file did not exist when the run looked, and its creation has
succeeded since. -/
def CreatesFile (disk : Path) (bytes : Nat) (h : History) : Prop :=
  ∃ pre mid output post, h = pre ++ ⟨.pathExists disk, false⟩ :: mid
    ++ (createDisk disk bytes).event (.ok output) :: post

/-- No disk of the wanted size was there at first, the disk file has been
created since, and the device is a partition of the single disk of this size
that is there now. -/
def Created (request : StoreRequest) (storeRoot : Option Path) (h : History)
    (device : String) : Prop :=
  ∃ disk distro h₁ h₂ h₃ before after p, diskPath request storeRoot = .ok disk ∧
    h = h₁ ++ h₂ ++ h₃ ∧
    FirstListing (.wsl distro) h₁ before ∧
    (∀ d ∈ before, BlockDevice.isStoreDisk request.bytes d = false) ∧
    CreatesFile disk request.bytes h₂ ∧
    LastListing (.wsl distro) h₃ after ∧
    BlockDevice.IsStorePartition request.bytes after p ∧ device = p.path

/-- More events change nothing about a creation, as long as they are no
listings. -/
theorem Created.append {request : StoreRequest} {storeRoot : Option Path} {h h₀ h' : History}
    {device : String} (hcreated : Created request storeRoot h device)
    (hbefore : ∀ e ∈ h₀, ¬e.query.Runs "lsblk") (hafter : ∀ e ∈ h', ¬e.query.Runs "lsblk") :
    Created request storeRoot (h₀ ++ h ++ h') device := by
  obtain ⟨disk, distro, h₁, h₂, h₃, before, after, p, hdisk, rfl, hfirst, hnone, hfile, hlast,
    hpartition⟩ := hcreated
  refine ⟨disk, distro, h₀ ++ h₁, h₂, h₃ ++ h', before, after, p, hdisk, by simp, ?_, hnone,
    hfile, ?_, hpartition⟩
  · obtain ⟨pre, output, post, rfl, hlisting, hpre⟩ := hfirst
    exact ⟨h₀ ++ pre, output, post, by simp, hlisting,
      List.forall_mem_append.mpr ⟨hbefore, hpre⟩⟩
  · obtain ⟨pre, output, post, rfl, hlisting, hpost⟩ := hlast
    exact ⟨pre, output, post ++ h', by simp, hlisting,
      List.forall_mem_append.mpr ⟨hpost, hafter⟩⟩

/-! ### Getting hold of the disk -/

/-- The disk file is there: it was there before, or it has been created. -/
inductive FileReady (disk : Path) (bytes : Nat) : Bool → History → Prop
  | existing : FileReady disk bytes false [⟨.pathExists disk, true⟩]
  | created {mid : History} {output : String} :
      FileReady disk bytes true
        (⟨.pathExists disk, false⟩ :: mid ++ [(createDisk disk bytes).event (.ok output)])

/-- A disk file that is there afterwards was there or has been made. -/
theorem ensureFile_ready {disk : Path} {bytes : Nat} {created : Bool} {h : History}
    (hl : (VirtualDisk.ensureFile .host disk bytes).outcome.Leads h (.ok created)) :
    FileReady disk bytes created h := by
  unfold VirtualDisk.ensureFile at hl
  obtain ⟨h₁, there, h₂, hask, hrest, rfl⟩ := Attempt.leads_bind_ok.mp hl
  obtain ⟨answer, rfl, ha⟩ := Action.leads_ask_done.mp hask
  obtain rfl := Except.ok.inj ha
  cases there with
  | true =>
    obtain ⟨rfl, hfalse⟩ := Action.leads_done.mp hrest
    obtain rfl := Except.ok.inj hfalse
    exact .existing
  | false =>
    simp only [Bool.false_eq_true, if_false] at hrest
    cases hparent : disk.parent with
    | none =>
      rw [hparent] at hrest
      obtain ⟨output, rfl, rfl⟩ := Attempt.leads_runWithin_pure_ok.mp hrest
      exact .created
    | some dir =>
      rw [hparent] at hrest
      obtain ⟨h₃, u, h₄, -, hmake, rfl⟩ := Attempt.leads_bind_ok.mp hrest
      obtain ⟨output, rfl, rfl⟩ := Attempt.leads_runWithin_pure_ok.mp hmake
      exact .created

def partitionDisk (disk : Path) : Command :=
  { target := .host, description := "partition virtual disk"
    program := VirtualDisk.powershellProgram
    args := VirtualDisk.powershellArgs (VirtualDisk.partitionScript disk)
    limit := Limit.standard }

def attachDisk (disk : Path) : Command :=
  { target := .host, description := "attach virtual disk to WSL", program := wslProgram
    args := ["--mount", "--vhd", disk.text, "--bare"], limit := Limit.quick }

/-- The disk is attached to WSL, by this command or before. -/
def Attached : Except Failure String → Prop
  | .ok _ => True
  | .error f => FailureKind.ofFailure f = .alreadyAttached

/-- The disk file is there, has a partition and is attached. -/
def FileAttached (disk : Path) (bytes : Nat) (created : Bool) (h : History) : Prop :=
  ∃ file partitioned a, FileReady disk bytes created file ∧ Attached a ∧
    h = file ++ [(partitionDisk disk).event (.ok partitioned), (attachDisk disk).event a]

theorem leads_ensurePartition_ok {disk : Path} {h : History} {u : Unit}
    (hl : (VirtualDisk.ensurePartition .host disk).outcome.Leads h (.ok u)) :
    ∃ output, h = [(partitionDisk disk).event (.ok output)] := by
  unfold VirtualDisk.ensurePartition at hl
  rw [Attempt.outcome_discard, Attempt.outcome_mapFailure, Action.leads_map] at hl
  obtain ⟨r, hmapped, hr⟩ := hl
  obtain ⟨a, hrun, rfl⟩ := Action.leads_map.mp hmapped
  obtain ⟨answer, rfl, rfl⟩ := Action.leads_ask_done.mp hrun
  rcases a with f | output
  · cases hr
  · exact ⟨output, rfl⟩

theorem leads_attach_ok {disk : Path} {h : History} {u : Unit}
    (hl : (VirtualDisk.attach .host disk).outcome.Leads h (.ok u)) :
    ∃ a, Attached a ∧ h = [(attachDisk disk).event a] := by
  unfold VirtualDisk.attach at hl
  obtain ⟨a, h₂, rfl, hrest⟩ := Attempt.leads_observe_runWithin.mp hl
  cases a with
  | ok output =>
    obtain ⟨rfl, -⟩ := Action.leads_done.mp hrest
    exact ⟨.ok output, trivial, rfl⟩
  | error f =>
    by_cases hkind : FailureKind.ofFailure f = .alreadyAttached
    · simp only [hkind, if_true] at hrest
      obtain ⟨rfl, -⟩ := Action.leads_done.mp hrest
      exact ⟨.error f, hkind, rfl⟩
    · simp only [hkind, if_false] at hrest
      cases (Action.leads_done.mp hrest).2

theorem createAndAttach_ready {disk : Path} {bytes : Nat} {created : Bool} {h : History}
    (hl : (createAndAttach .host disk bytes).outcome.Leads h (.ok created)) :
    FileAttached disk bytes created h := by
  unfold createAndAttach at hl
  obtain ⟨h₁, created', h₂, hensure, hrest, rfl⟩ := Attempt.leads_bind_ok.mp hl
  obtain ⟨h₃, u, h₄, hpartition, hattach, rfl⟩ := Attempt.leads_bind_ok.mp hrest
  obtain ⟨h₅, v, h₆, hattached, hdone, rfl⟩ := Attempt.leads_bind_ok.mp hattach
  obtain ⟨rfl, hcreated⟩ := Action.leads_done.mp hdone
  obtain rfl := Except.ok.inj hcreated
  obtain ⟨partitioned, rfl⟩ := leads_ensurePartition_ok hpartition
  obtain ⟨a, ha, rfl⟩ := leads_attach_ok hattached
  exact ⟨h₁, partitioned, a, ensureFile_ready hensure, ha, rfl⟩

/-- A file that is called created has been created in the run. -/
theorem FileAttached.createsFile {disk : Path} {bytes : Nat} {h : History}
    (hattached : FileAttached disk bytes true h) : CreatesFile disk bytes h := by
  obtain ⟨file, partitioned, a, hready, -, rfl⟩ := hattached
  cases hready with
  | @created mid output => exact ⟨[], mid, output, _, by simp; rfl⟩

/-- A listing that shows the partition of the store. -/
theorem ShowsPartition.isStorePartition {bytes : Nat} {a : Except Failure String}
    {p : BlockDevice} (hshows : ShowsPartition bytes a p) :
    ∃ output devices, a = .ok output ∧ BlockDevice.ofListing output = .ok devices ∧
      BlockDevice.IsStorePartition bytes devices p := by
  obtain ⟨output, devices, d, rfl, hdevices, hfits, hp⟩ := hshows
  exact ⟨output, devices, rfl, hdevices, hp.isStorePartition hfits⟩

/-- Waiting for a partition ends with the listing that shows it. -/
theorem leads_awaitPartition {user : Target} {disk : Path} {bytes : Nat} {h : History}
    {p : BlockDevice} (hl : (awaitPartition user disk bytes).outcome.Leads h (.ok p)) :
    ∃ devices, LastListing user h devices ∧ BlockDevice.IsStorePartition bytes devices p := by
  unfold awaitPartition at hl
  obtain ⟨h₁, ⟨found, seen⟩, h₂, hpoll, hrest, rfl⟩ := Attempt.leads_bind_ok.mp hl
  rw [Attempt.outcome_liftM, Action.leads_map] at hpoll
  obtain ⟨⟨v, s⟩, hpoll, hpair⟩ := hpoll
  obtain ⟨rfl, rfl⟩ : found = v ∧ seen = s := by simpa using hpair
  -- Every other end of the poll is a failure.
  obtain ⟨rfl, rfl⟩ : h₂ = [] ∧ found = some (.ok p) := by
    obtain _ | f | partition := found
    · cases seen <;> cases (Action.leads_done.mp hrest).2
    · cases (Action.leads_done.mp hrest).2
    · obtain ⟨hdone, hok⟩ := Action.leads_done.mp hrest
      obtain rfl := Except.ok.inj hok
      exact ⟨hdone, rfl⟩
  obtain ⟨n, -, h₀, s₁, h₃, -, hlast, rfl, -⟩ := Retry.leads_pollMore.mp hpoll
  obtain ⟨a, rfl, ha⟩ := leads_look hlast
  obtain ⟨output, devices, rfl, hdevices, hpartition⟩ := (look_some ha.symm).isStorePartition
  exact ⟨devices, ⟨h₀, output, [], by simp, hdevices, by simp⟩, hpartition⟩

/-- If the disk file of the store has been created, so has everything on its
partition. -/
theorem attachStoreDisk_created {request : StoreRequest} {storeRoot : Option Path}
    {distro : String} {disk : Path} {attached : StoreDisk} {h : History}
    (hdisk : diskPath request storeRoot = .ok disk) (hcreated : attached.created = true)
    (hl : (attachStoreDisk .host (.wsl distro) disk request.bytes).outcome.Leads h
      (.ok attached)) :
    Created request storeRoot h attached.partition.path := by
  rw [attachStoreDisk_eq] at hl
  obtain ⟨h₁, found, h₂, hfind, hrest, rfl⟩ := Attempt.leads_bind_ok.mp hl
  have hfound := Attempt.leads_inStage_ok.mp hfind
  rw [outcome_findAttached] at hfound
  obtain ⟨a, rfl, ha⟩ := Action.leads_ask_done.mp hfound
  cases found with
  | some p =>
    -- A disk of this size was there before, so nothing was created.
    obtain rfl := Except.ok.inj (Action.leads_done.mp hrest).2
    cases hcreated
  | none =>
    obtain ⟨output, devices, rfl, hdevices, hnone⟩ := firstLook_none ha.symm
    obtain ⟨h₃, created, h₄, hcreate, hawait, rfl⟩ := Attempt.leads_bind_ok.mp hrest
    obtain ⟨h₅, p, h₆, hpartition, hdone, rfl⟩ := Attempt.leads_bind_ok.mp hawait
    obtain ⟨rfl, hattached⟩ := Action.leads_done.mp hdone
    obtain rfl := Except.ok.inj hattached
    obtain rfl : created = true := hcreated
    obtain ⟨after, hlast, hstore⟩ := leads_awaitPartition (Attempt.leads_inStage_ok.mp hpartition)
    exact ⟨disk, distro, _, h₃, h₅, devices, after, p, hdisk, by simp,
      ⟨[], output, [], rfl, hdevices, by simp⟩,
      fun d hd => BlockDevice.isStoreDisk_eq_false (hnone d hd),
      (createAndAttach_ready (Attempt.leads_inStage_ok.mp hcreate)).createsFile, hlast, hstore, rfl⟩

end Wsl

end BtrfsStore
