import Mathlib.Logic.Basic
import BtrfsStore.Proofs.Conclusion
import BtrfsStore.Proofs.Course.Native
import BtrfsStore.Scripted
/-!
# BtrfsStore.Proofs.NativeShapes

The two ways in which a run on a Linux host gets its store.

Once there is room, a run asks for the filesystem of the directory, or of the
nearest ancestor that exists. On btrfs the directory is the store, and at most it
has to be made (`TakeRun`). Elsewhere what is behind the store is created if need
be, formatted if need be and mounted on the directory (`MountRun`). Both are
complete histories, part by part; what they say about single programs is put
together from what the parts say about theirs.
-/

namespace BtrfsStore

/-- The events of a history that run a program. -/
def History.runsOf (program : String) (h : History) : History :=
  h.filter (·.query.Runs program)

namespace History

variable {program : String} {h h' : History} {steps : List Step}

@[simp] theorem runsOf_nil : runsOf program [] = [] := rfl

@[simp] theorem runsOf_append : runsOf program (h ++ h') = runsOf program h ++ runsOf program h' :=
  List.filter_append h h'

@[simp] theorem runsOf_command (c : Command) (a : Except Failure String) (h : History) :
    runsOf program (c.event a :: h)
      = if c.program = program then c.event a :: runsOf program h else runsOf program h := by
  have hruns : (Query.run c).Runs program ↔ c.program = program := Iff.rfl
  simp only [runsOf, List.filter_cons, hruns, decide_eq_true_eq]

@[simp] theorem runsOf_pathExists (path : Path) (there : Bool) (h : History) :
    runsOf program (⟨.pathExists path, there⟩ :: h) = runsOf program h :=
  List.filter_cons_of_neg fun hruns => of_decide_eq_true hruns

/-- A program that is not run has no runs. -/
theorem runsOf_eq_nil (hnone : ∀ e ∈ h, ¬e.query.Runs program) : runsOf program h = [] := by
  simpa [runsOf] using hnone

/-- Steps none of which starts with the program do not run it. -/
theorem runsOf_within (hasked : ∀ e ∈ h, e.query.Within steps)
    (hsteps : ∀ s ∈ steps, ∃ word ≠ program, s.words.head? = some word) :
    runsOf program h = [] :=
  runsOf_eq_nil fun e he => (hasked e he).not_runs hsteps

end History

/-! ### Formatting -/

namespace Filesystem

variable {root : Target} {device : String} {allowFormat : Bool} {h : History}

/-- The device was formatted once, and not at all if it carried btrfs. -/
inductive FormatsOnce (root : Target) (device : String) : FormatOutcome → History → Prop
  | existing {h : History} (hnone : h.runsOf "mkfs.btrfs" = []) :
      FormatsOnce root device .existing h
  | formatted {h : History} {output : String}
      (honce : h.runsOf "mkfs.btrfs" = [(makeBtrfs root device).event (.ok output)]) :
      FormatsOnce root device .formatted h

/-- Only the runs of the tool count. -/
theorem FormatsOnce.congr {outcome : FormatOutcome} {h' : History}
    (hformats : FormatsOnce root device outcome h)
    (hsame : h'.runsOf "mkfs.btrfs" = h.runsOf "mkfs.btrfs") :
    FormatsOnce root device outcome h' := by
  cases hformats with
  | existing hnone => exact .existing (hsame.trans hnone)
  | formatted honce => exact .formatted (hsame.trans honce)

/-- Verifying formats nothing. -/
theorem verifySteps_no_mkfs (root : Target) :
    ∀ s ∈ verifySteps root, ∃ word ≠ "mkfs.btrfs", s.words.head? = some word := by
  simp [verifySteps, detectSteps, probeMountSteps]

theorem Wiped.runsOf_mkfs {wiping : Bool} (hw : Wiped root device wiping h) :
    h.runsOf "mkfs.btrfs" = [] := by
  cases hw with
  | fresh => rfl
  | wiped => simp [wipe]

/-- A run that formats runs `mkfs.btrfs` once, and with success. -/
theorem MakeRun.formatsOnce {wiping : Bool} {outcome : FormatOutcome}
    (hr : MakeRun root device wiping h (.ok outcome)) : FormatsOnce root device outcome h := by
  generalize hok : (.ok outcome : Except Failure FormatOutcome) = r at hr
  cases hr with
  | wipeFailed hw => cases hok
  | @made wiped post a _ hw ha =>
    cases ha with
    | failed => cases hok
    | @checked output _ v hv =>
      obtain rfl : outcome = .formatted := by
        cases v with
        | error f => cases hok
        | ok u => exact Except.ok.inj hok
      have hpost : post.runsOf "mkfs.btrfs" = [] :=
        History.runsOf_within ((asks_verify root device).within.of_mem hv)
          (verifySteps_no_mkfs root)
      have honce : (wiped ++ (makeBtrfs root device).event (.ok output) :: post).runsOf "mkfs.btrfs"
          = [(makeBtrfs root device).event (.ok output)] := by
        rw [List.append_cons, History.runsOf_append, History.runsOf_append, hw.runsOf_mkfs, hpost]
        simp [makeBtrfs]
      exact .formatted honce

/-- A device is formatted at most once. -/
theorem EnsureRun.formatsOnce {outcome : FormatOutcome}
    (hr : EnsureRun root device allowFormat h (.ok outcome)) :
    FormatsOnce root device outcome h := by
  have hlook : ∀ m a : Except Failure String,
      History.runsOf "mkfs.btrfs" [(mountCheck root device).event m,
        (signatureProbe root device).event a] = [] := by
    intro m a
    simp [mountCheck, signatureProbe]
  -- What is detected comes before the run that formats.
  have hmade : ∀ {m a : Except Failure String} {wiping : Bool} {h : History},
      MakeRun root device wiping h (.ok outcome) → FormatsOnce root device outcome
        ((mountCheck root device).event m :: (signatureProbe root device).event a :: h) := by
    intro m a wiping h hmake
    refine hmake.formatsOnce.congr ?_
    exact (History.runsOf_append (h := [_, _])).trans (by rw [hlook m a, List.nil_append])
  cases hr with
  | mountedBtrfs hm => exact .existing (by simp [mountCheck])
  | @btrfs m a hm ha => exact .existing (hlook m a)
  | foreign hm ha hallow hmake => exact hmade hmake
  | empty hm ha hallow hmake => exact hmade hmake

end Filesystem

namespace Native

open Filesystem StoreContent

variable {request : StoreRequest} {storeRoot : Option Path} {plan : StorePlan} {dir backing : Path}
  {h : History} {o : StoreOutcome}

/-! ### The first look -/

/-- The search for the first path that exists: those before it do not. -/
inductive SearchRun : List Path → Option Path → History → Prop
  | nowhere : SearchRun [] none []
  | here {path : Path} {rest : List Path} :
      SearchRun (path :: rest) (some path) [⟨.pathExists path, true⟩]
  | further {path : Path} {rest : List Path} {found : Option Path} {h : History}
      (hrest : SearchRun rest found h) :
      SearchRun (path :: rest) found (⟨.pathExists path, false⟩ :: h)

/-- The answer names btrfs. -/
def NamesBtrfs : Except Failure String → Prop
  | .ok output => Text.trim output = btrfsType
  | .error _ => False

/-- The runs of `isOnBtrfs`: the nearest ancestor that exists is asked about,
if there is one. -/
inductive LookRun (dir : Path) : Bool → History → Prop
  | nowhere {search : History} (hsearch : SearchRun dir.ancestors none search) :
      LookRun dir false search
  | asked {search : History} {existing : Path} {a : Except Failure String} {onBtrfs : Bool}
      (hsearch : SearchRun dir.ancestors (some existing) search)
      (ha : onBtrfs = true ↔ NamesBtrfs a) :
      LookRun dir onBtrfs (search ++ [(typeQuestion existing).event a])

/-- Paths are asked for one by one until one exists. -/
theorem findM?_run {paths : List Path} {found : Option Path}
    (hl : (paths.findM? Action.pathExists).Leads h found) : SearchRun paths found h := by
  induction paths generalizing h with
  | nil =>
    obtain ⟨rfl, rfl⟩ := Action.leads_done.mp hl
    exact .nowhere
  | cons path rest ih =>
    rw [List.findM?] at hl
    obtain ⟨h₁, there, h₂, hask, hrest, rfl⟩ := Action.leads_bind.mp hl
    obtain ⟨answer, rfl, rfl⟩ := Action.leads_ask_done.mp hask
    cases there with
    | true =>
      obtain ⟨rfl, rfl⟩ := Action.leads_done.mp hrest
      exact .here
    | false => exact .further (ih hrest)

/-- The look at a directory asks for the nearest ancestor that exists and then for its
filesystem. -/
theorem isOnBtrfs_run {onBtrfs : Bool} (hl : (isOnBtrfs dir).Leads h onBtrfs) :
    LookRun dir onBtrfs h := by
  unfold isOnBtrfs at hl
  obtain ⟨search, existing, h₂, hsearch, hask, rfl⟩ := Action.leads_bind.mp hl
  have hsearched := findM?_run hsearch
  cases existing with
  | none =>
    obtain ⟨rfl, rfl⟩ := Action.leads_done.mp hask
    rw [List.append_nil]
    exact .nowhere hsearched
  | some existing =>
    obtain ⟨_, a, h₃, hasked, hrest, rfl⟩ := Action.leads_bind.mp hask
    obtain rfl := Attempt.leads_runWithin.mp hasked
    cases a with
    | error f =>
      obtain ⟨rfl, rfl⟩ := Action.leads_done.mp hrest
      exact .asked hsearched (by simp [NamesBtrfs])
    | ok output =>
      obtain ⟨rfl, rfl⟩ := Action.leads_done.mp hrest
      exact .asked hsearched (by simp [NamesBtrfs])

/-! ### The two ways -/

/-- The runs that take a directory on btrfs, and make it if it does not
exist. -/
inductive TakeRun (dir : Path) : History → Prop
  | there {look : History} (hlook : LookRun dir true look) :
      TakeRun dir (look ++ [⟨.pathExists dir, true⟩])
  | created {look create : History} (hlook : LookRun dir true look)
      (hcreate : DirCreated dir.text create) :
      TakeRun dir (look ++ ⟨.pathExists dir, false⟩ :: create)

/-- The runs that make what is behind a store ready; the flag tells whether an
image was created. -/
inductive BackingRun (request : StoreRequest) (plan : StorePlan) (backing : Path) :
    Bool → History → Prop
  | device (hdevice : plan.isImage = false) : BackingRun request plan backing false []
  | image {created : Bool} {h : History} (himage : plan.isImage = true)
      (hensure : EnsureImageRun backing request.gigabytes created h) :
      BackingRun request plan backing created h

/-- The runs that format and mount what is behind a store, in the order of their
parts. -/
inductive MountRun (request : StoreRequest) (plan : StorePlan) (backing : Path) (created : Bool)
    (outcome : FormatOutcome) : History → Prop
  | mk {look tools image format mounting give : History}
      (hlook : LookRun plan.storeDir false look)
      (htools : ToolsFound plan tools) (htoolsAsked : ∀ e ∈ tools, LooksForTools e.query)
      (himage : BackingRun request plan backing created image)
      (hformat : EnsureRun .hostRoot backing.text (created || request.reinit) format (.ok outcome))
      (hformatAsked : ∀ e ∈ format, e.query.Within (ensureSteps .hostRoot))
      (hmount : Mounted plan backing.text plan.storeDir.text mounting)
      (hgive : Given .hostRoot .host plan.storeDir.text give) :
      MountRun request plan backing created outcome
        (look ++ tools ++ image ++ format ++ mounting ++ give)

/-- The outcome of a directory that is taken as it is. -/
def takenOutcome (dir : Path) : StoreOutcome :=
  { useStore := true, backendAvailable := true, storePath := some dir.text }

/-- The outcome of a store that is mounted. -/
def mountedOutcome (plan : StorePlan) (backing : Path) : StoreOutcome :=
  { useStore := true, backendAvailable := true, storePath := some plan.storeDir.text,
    mountDevice := some backing.text, mountFsType := some btrfsType }

/-- A run that succeeds in taking a directory has created it if it was missing. -/
theorem takeDirectory_run {look : History} (hlook : LookRun dir true look)
    (hl : (takeDirectory dir).outcome.Leads h (.ok o)) :
    TakeRun dir (look ++ h) ∧ o = takenOutcome dir := by
  unfold takeDirectory at hl
  obtain ⟨h₁, there, h₂, hask, hrest, rfl⟩ := Attempt.leads_bind_ok.mp hl
  obtain ⟨answer, rfl, ha⟩ := Action.leads_ask_done.mp hask
  obtain rfl := Except.ok.inj ha
  cases there with
  | true =>
    obtain ⟨rfl, ho⟩ := Action.leads_done.mp hrest
    exact ⟨.there hlook, Except.ok.inj ho⟩
  | false =>
    obtain ⟨create, u, h₃, hcreate, hend, rfl⟩ := Attempt.leads_bind_ok.mp hrest
    obtain ⟨rfl, ho⟩ := Action.leads_done.mp hend
    have hcreated := (createStoreDir_attains dir.text).reached _ _
      (Attempt.leads_inStage_ok.mp hcreate)
    rw [List.append_nil]
    exact ⟨.created hlook hcreated, Except.ok.inj ho⟩

/-- An image is created only if it is missing, with `truncate`. -/
theorem makeImage_run {created : Bool}
    (hl : (makeImage request plan backing).outcome.Leads h (.ok created)) :
    BackingRun request plan backing created h := by
  unfold makeImage at hl
  cases himage : plan.isImage with
  | false =>
    rw [himage] at hl
    obtain ⟨rfl, hcreated⟩ := Action.leads_done.mp hl
    obtain rfl := Except.ok.inj hcreated
    exact .device himage
  | true =>
    rw [himage] at hl
    exact .image himage (ensureImage_run hl)

/-- A run that succeeds in mounting a store is a `MountRun`, and its outcome names the
backing. -/
theorem mountStore_run {look : History} (hbacking : plan.backing = some backing)
    (hlook : LookRun plan.storeDir false look)
    (hl : (mountStore request plan).outcome.Leads h (.ok o)) :
    (∃ created outcome, MountRun request plan backing created outcome (look ++ h)) ∧
      o = mountedOutcome plan backing := by
  rw [mountStore_eq] at hl
  obtain ⟨tools, _, h₁, htools, hrest₁, rfl⟩ := Attempt.leads_bind_ok.mp hl
  have htools := Attempt.leads_inStage_ok.mp htools
  simp only [hbacking, makeBacking_eq, finish, Attempt.discard_bind] at hrest₁
  obtain ⟨image, created, h₂, himage, hrest₂, rfl⟩ := Attempt.leads_bind_ok.mp hrest₁
  obtain ⟨format, outcome, h₃, hformat, hrest₃, rfl⟩ := Attempt.leads_bind_ok.mp hrest₂
  have hformat := Attempt.leads_inStage_ok.mp hformat
  obtain ⟨mounting, _, h₄, hmount, hrest₄, rfl⟩ := Attempt.leads_bind_ok.mp hrest₃
  obtain ⟨give, _, h₅, hgive, hend, rfl⟩ := Attempt.leads_bind_ok.mp hrest₄
  obtain ⟨rfl, ho⟩ := Action.leads_done.mp hend
  refine ⟨⟨created, outcome, ?_⟩, Except.ok.inj ho⟩
  have hparts : look ++ (tools ++ (image ++ (format ++ (mounting ++ (give ++ [])))))
      = look ++ tools ++ image ++ format ++ mounting ++ give := by simp
  rw [hparts]
  exact .mk hlook ((checkPrerequisites_attains plan).reached _ _ htools)
    ((checkPrerequisites_attains plan).asked _ _ htools)
    (makeImage_run (Attempt.leads_inStage_ok.mp himage)) (ensure_run hformat)
    ((asks_ensure _ _ _).within.of_mem hformat)
    ((mount_attains _ _ _).reached _ _ (Attempt.leads_inStage_ok.mp hmount))
    ((giveTo_attains _ _ _).reached _ _ (Attempt.leads_inStage_ok.mp hgive))

/-! ### Programs along the way -/

theorem SearchRun.asks {paths : List Path} {found : Option Path} (hr : SearchRun paths found h) :
    ∀ e ∈ h, ∃ path, e.query = .pathExists path := by
  induction hr with
  | nowhere => simp
  | here => simp
  | further _ ih => simpa using ih

/-- The look at a directory asks for paths and a filesystem, not for tools. -/
theorem LookRun.within {onBtrfs : Bool} (hr : LookRun dir onBtrfs h) :
    ∀ e ∈ h, e.query.Within lookSteps ∧ ¬LooksForTools e.query := by
  have hsearch : ∀ {found search}, SearchRun dir.ancestors found search →
      ∀ e ∈ search, e.query.Within lookSteps ∧ ¬LooksForTools e.query := by
    intro found search hs e he
    obtain ⟨path, hpath⟩ := hs.asks e he
    simp [hpath, LooksForTools]
  cases hr with
  | nowhere hs => exact hsearch hs
  | asked hs _ =>
    refine List.forall_mem_append.mpr ⟨hsearch hs, ?_⟩
    simp [lookSteps, Command.Takes, typeQuestion, LooksForTools]

theorem DirCreated.within {dir : String} (hcreated : DirCreated dir h) :
    ∀ e ∈ h, e.query.Within createDirSteps ∧ ¬LooksForTools e.query := by
  obtain ⟨made, owner, _, given, ⟨uid, gid, rfl, -⟩, rfl⟩ := hcreated
  simp [createDirSteps, ownerSteps, Command.Takes, makeStoreDir, giveStoreDir, userIdQuestion,
    groupIdQuestion, LooksForTools]

/-- Taking a directory runs no tool that has to be looked for. -/
theorem TakeRun.within (hr : TakeRun dir h) :
    ∀ e ∈ h, e.query.Within takeSteps ∧ ¬LooksForTools e.query := by
  have hlook : ∀ {look}, LookRun dir true look →
      ∀ e ∈ look, e.query.Within takeSteps ∧ ¬LooksForTools e.query :=
    fun hl e he => (hl.within e he).imp_left (·.mono (List.subset_append_left _ _))
  cases hr with
  | there hl => exact List.forall_mem_append.mpr ⟨hlook hl, by simp [LooksForTools]⟩
  | created hl hcreate =>
    refine List.forall_mem_append.mpr ⟨hlook hl, List.forall_mem_cons.mpr ⟨?_, fun e he => ?_⟩⟩
    · simp [LooksForTools]
    · exact (hcreate.within e he).imp_left (·.mono (List.subset_append_right _ _))

theorem EnsureImageRun.within {image : Path} {gigabytes : Nat} {created : Bool}
    (hr : EnsureImageRun image gigabytes created h) : ∀ e ∈ h, e.query.Within imageSteps := by
  cases hr with
  | existing => simp
  | created hparent =>
    cases hparent <;> simp [imageSteps, Command.Takes, makeImageDir, createImage]

theorem Mounted.within {backing dir : String} (hr : Mounted plan backing dir h) :
    ∀ e ∈ h, e.query.Within mountSteps := by
  have hcommand : (Query.run (mountStoreCommand plan backing dir)).Within mountSteps := by
    unfold mountStoreCommand
    split <;> simp [mountSteps, Command.Takes]
  have hdir : (Query.run (makeStoreDir dir)).Within mountSteps := by
    simp [mountSteps, Command.Takes, makeStoreDir]
  have hcheck : (Query.run (mountPointCheck .hostRoot dir)).Within mountSteps := by
    simp [mountSteps, mountPointSteps, Command.Takes, mountPointCheck]
  cases hr with
  | already hm => simpa using ⟨hdir, hcheck⟩
  | mounted hm hm' => simpa using ⟨hdir, hcheck, hcommand, hcheck⟩

/-- What is seen once the store is mounted is the last that is asked about. -/
theorem Mounted.lastShows {backing dir : String} {rest : History}
    (hr : Mounted plan backing dir h) (hrest : ∀ e ∈ rest, ¬e.query.Runs "findmnt") :
    LastShows .hostRoot dir btrfsType (h ++ rest) := by
  cases hr with
  | @already made m hm => exact ⟨[(makeStoreDir dir).event (.ok made)], m, rest, rfl, hm, hrest⟩
  | @mounted made output m m' hm hm' =>
    exact ⟨[(makeStoreDir dir).event (.ok made), (mountPointCheck .hostRoot dir).event m,
      (mountStoreCommand plan backing dir).event (.ok output)], m', rest, rfl, hm', hrest⟩

theorem LooksForTools.not_runs {q : Query} {program : String} (hq : LooksForTools q) :
    ¬q.Runs program := by
  obtain rfl | ⟨tool, rfl⟩ := hq
  · exact id
  · exact id

/-- The command that mounts a store is issued for this purpose only. -/
theorem mountStoreCommand_elsewhere (plan : StorePlan) (backing dir : String) :
    ¬(Query.run (mountStoreCommand plan backing dir)).Within
      (lookSteps ++ imageSteps ++ ensureSteps .hostRoot) := by
  unfold mountStoreCommand
  split <;> simp [lookSteps, imageSteps, ensureSteps, detectSteps, formatSteps, verifySteps,
    probeMountSteps, Command.Takes]

/-- An image was created once, and not at all if none was missing. -/
inductive CreatesOnce (image : Path) (gigabytes : Nat) : Bool → History → Prop
  | existing {h : History} (hnone : h.runsOf "truncate" = []) :
      CreatesOnce image gigabytes false h
  | created {h : History} {output : String}
      (honce : h.runsOf "truncate" = [(createImage image gigabytes).event (.ok output)]) :
      CreatesOnce image gigabytes true h

/-- The backing is created once, if it is created. -/
theorem BackingRun.createsOnce {created : Bool}
    (hr : BackingRun request plan backing created h) :
    CreatesOnce backing request.gigabytes created h := by
  cases hr with
  | device _ => exact .existing rfl
  | image _ hensure =>
    cases hensure with
    | existing => exact .existing (by simp)
    | @created parent output hparent =>
      have honce : History.runsOf "truncate" (⟨.pathExists backing, false⟩ :: parent
            ++ [(createImage backing request.gigabytes).event (.ok output)])
          = [(createImage backing request.gigabytes).event (.ok output)] := by
        cases hparent <;> simp [createImage, makeImageDir]
      exact .created honce

theorem BackingRun.within {created : Bool} (hr : BackingRun request plan backing created h) :
    ∀ e ∈ h, e.query.Within imageSteps := by
  cases hr with
  | device _ => exact List.forall_mem_nil _
  | image _ hensure => exact hensure.within

/-- A program of neither the first look, the mount nor the gift is run only for
what is behind the store. -/
theorem MountRun.runsOf_eq {created : Bool} {outcome : FormatOutcome}
    (hr : MountRun request plan backing created outcome h) {program : String}
    (hprogram : ∀ s ∈ lookSteps ++ (mountSteps ++ giveSteps .hostRoot .host),
      ∃ word ≠ program, s.words.head? = some word) :
    ∃ image format, BackingRun request plan backing created image ∧
      EnsureRun .hostRoot backing.text (created || request.reinit) format (.ok outcome) ∧
      (∀ e ∈ format, e.query.Within (ensureSteps .hostRoot)) ∧
      h.runsOf program = image.runsOf program ++ format.runsOf program := by
  obtain ⟨hlookSteps, hlast⟩ := List.forall_mem_append.mp hprogram
  obtain ⟨hmountSteps, hgiveSteps⟩ := List.forall_mem_append.mp hlast
  cases hr with
  | @mk look tools image format mounting give hlook htools htoolsAsked himage hformat hformatAsked
      hmount hgive =>
    have hlookNone : look.runsOf program = [] :=
      History.runsOf_within (fun e he => (hlook.within e he).1) hlookSteps
    have htoolsNone : tools.runsOf program = [] :=
      History.runsOf_eq_nil fun e he => (htoolsAsked e he).not_runs
    have hmountNone : mounting.runsOf program = [] :=
      History.runsOf_within hmount.within hmountSteps
    have hgiveNone : give.runsOf program = [] := History.runsOf_within hgive.within hgiveSteps
    refine ⟨image, format, himage, hformat, hformatAsked, ?_⟩
    simp [hlookNone, htoolsNone, hmountNone, hgiveNone]

/-- What follows the backing creates none. -/
theorem MountRun.createsOnce {created : Bool} {outcome : FormatOutcome}
    (hr : MountRun request plan backing created outcome h) :
    CreatesOnce backing request.gigabytes created h := by
  have hothers : ∀ s ∈ lookSteps ++ (mountSteps ++ giveSteps .hostRoot .host),
      ∃ word ≠ "truncate", s.words.head? = some word := by
    simp [lookSteps, mountSteps, mountPointSteps, giveSteps, ownerSteps]
  obtain ⟨image, format, himage, -, hasked, hruns⟩ := hr.runsOf_eq hothers
  have hformat : format.runsOf "truncate" = [] := History.runsOf_within hasked (by
    simp [ensureSteps, detectSteps, formatSteps, verifySteps, probeMountSteps])
  rw [hformat, List.append_nil] at hruns
  cases himage.createsOnce with
  | existing hnone => exact .existing (hruns.trans hnone)
  | created honce => exact .created (hruns.trans honce)

/-- A run that mounts formats once, if it formats: nothing but `ensure` runs `mkfs.btrfs`.
-/
theorem MountRun.formatsOnce {created : Bool} {outcome : FormatOutcome}
    (hr : MountRun request plan backing created outcome h) :
    FormatsOnce .hostRoot backing.text outcome h := by
  have hothers : ∀ s ∈ lookSteps ++ (mountSteps ++ giveSteps .hostRoot .host),
      ∃ word ≠ "mkfs.btrfs", s.words.head? = some word := by
    simp [lookSteps, mountSteps, mountPointSteps, giveSteps, ownerSteps]
  obtain ⟨image, format, himage, hformat, -, hruns⟩ := hr.runsOf_eq hothers
  have himageNone : image.runsOf "mkfs.btrfs" = [] := History.runsOf_within himage.within (by
    simp [imageSteps])
  rw [himageNone, List.nil_append] at hruns
  exact hformat.formatsOnce.congr hruns

/-! ### Whole runs -/

/-- A run takes a directory on btrfs as its store. -/
structure TakesDirectory (dir : Path) (h : History) (o : StoreOutcome) : Prop where
  run : TakeRun dir h
  /-- No tool is looked for. -/
  searches : ∀ e ∈ h, ¬LooksForTools e.query
  /-- Nothing is created, wiped, formatted or mounted. -/
  commands : ∀ program ∈ ["truncate", "wipefs", "mkfs.btrfs", "mount"], h.runsOf program = []
  outcome : o = takenOutcome dir

/-- A run mounts what is behind its store. -/
structure MountsStore (request : StoreRequest) (plan : StorePlan) (backing : Path)
    (created : Bool) (format : FormatOutcome) (h : History) (o : StoreOutcome) : Prop where
  /-- The parts of the run come in this order. -/
  run : MountRun request plan backing created format h
  creates : CreatesOnce backing request.gigabytes created h
  formats : FormatsOnce .hostRoot backing.text format h
  /-- At the end the store is mounted, which was not tried before, and its tree is
  given to the user. -/
  mounts : ∃ before mounting give, h = before ++ mounting ++ give ∧
    (∀ e ∈ before, e.query ≠ .run (mountStoreCommand plan backing.text plan.storeDir.text)) ∧
    Mounted plan backing.text plan.storeDir.text mounting ∧
    Given .hostRoot .host plan.storeDir.text give
  /-- The last answer about the mount is that btrfs is there. -/
  live : LastShows .hostRoot plan.storeDir.text btrfsType h
  outcome : o = mountedOutcome plan backing

/-- All that is said of a run that takes a directory. -/
theorem TakeRun.takesDirectory (hr : TakeRun dir h) :
    TakesDirectory dir h (takenOutcome dir) where
  run := hr
  searches e he := (hr.within e he).2
  commands := by
    have hnone : ∀ program, (∀ s ∈ takeSteps, ∃ word ≠ program, s.words.head? = some word) →
        h.runsOf program = [] :=
      fun program => History.runsOf_within fun e he => (hr.within e he).1
    simp only [List.forall_mem_cons]
    refine ⟨hnone _ ?_, hnone _ ?_, hnone _ ?_, hnone _ ?_, List.forall_mem_nil _⟩ <;>
      simp [takeSteps, lookSteps, createDirSteps, ownerSteps]
  outcome := rfl

/-- All that is said of a run that mounts a store. -/
theorem MountRun.mountsStore {created : Bool} {format : FormatOutcome}
    (hr : MountRun request plan backing created format h) :
    MountsStore request plan backing created format h (mountedOutcome plan backing) where
  run := hr
  creates := hr.createsOnce
  formats := hr.formatsOnce
  mounts := by
    cases hr with
    | @mk look tools image format mounting give hlook htools htoolsAsked himage hformat
        hformatAsked hmount hgive =>
      refine ⟨look ++ tools ++ image ++ format, mounting, give, rfl, ?_, hmount, hgive⟩
      -- What stands before the mount is of other steps.
      have helse : ∀ {q : Query} {steps : List Step}, q.Within steps →
          steps ⊆ lookSteps ++ imageSteps ++ ensureSteps .hostRoot →
          q ≠ .run (mountStoreCommand plan backing.text plan.storeDir.text) := by
        rintro q steps hq hsub rfl
        exact mountStoreCommand_elsewhere _ _ _ (hq.mono hsub)
      simp only [List.forall_mem_append]
      refine ⟨⟨⟨fun e he => ?_, fun e he hmounts => ?_⟩, fun e he => ?_⟩, fun e he => ?_⟩
      · exact helse (hlook.within e he).1 fun s hs => by simp [hs]
      · have hruns : e.query.Runs
            (mountStoreCommand plan backing.text plan.storeDir.text).program := by
          rw [hmounts]
          rfl
        exact (htoolsAsked e he).not_runs hruns
      · exact helse (himage.within e he) fun s hs => by simp [hs]
      · exact helse (hformatAsked e he) fun s hs => by simp [hs]
  live := by
    cases hr with
    | @mk look tools image format mounting give hlook htools htoolsAsked himage hformat
        hformatAsked hmount hgive =>
      have hquiet : ∀ e ∈ give, ¬e.query.Runs "findmnt" :=
        fun e he => (hgive.within e he).not_runs (by simp [giveSteps, ownerSteps])
      rw [List.append_assoc]
      exact (hmount.lastShows hquiet).append_left _
  outcome := rfl

/-- The two ways exclude each other: only one of them looks for tools. -/
theorem MountsStore.not_takesDirectory {created : Bool} {format : FormatOutcome}
    {o' : StoreOutcome} (hmounts : MountsStore request plan backing created format h o) :
    ¬TakesDirectory dir h o' := by
  intro htakes
  cases hmounts.run with
  | mk _ htools =>
    obtain ⟨isRoot, rest, rfl, -⟩ := htools
    exact htakes.searches ⟨.isRoot, isRoot⟩ (by simp) (.inl rfl)

/-- What a run does once it has made room for its store. -/
theorem equip_ways (hbacking : plan.backing = some backing)
    (hl : (equip request plan).outcome.Leads h (.ok o)) :
    Xor (TakesDirectory plan.storeDir h o)
      (∃ created format, MountsStore request plan backing created format h o) := by
  unfold equip at hl
  obtain ⟨look, onBtrfs, h₂, hlook, hrest, rfl⟩ := Attempt.leads_bind_ok.mp hl
  rw [Attempt.outcome_liftM, Action.leads_map] at hlook
  obtain ⟨onBtrfs', hlook, hsame⟩ := hlook
  obtain rfl := Except.ok.inj hsame
  have hlooked := isOnBtrfs_run hlook
  cases onBtrfs with
  | true =>
    obtain ⟨hrun, rfl⟩ := takeDirectory_run hlooked hrest
    refine .inl ⟨hrun.takesDirectory, fun hother => ?_⟩
    obtain ⟨created, format, hmounts⟩ := hother
    exact hmounts.not_takesDirectory hrun.takesDirectory
  | false =>
    obtain ⟨⟨created, format, hrun⟩, rfl⟩ := mountStore_run hbacking hlooked hrest
    exact .inr ⟨⟨created, format, hrun.mountsStore⟩, hrun.mountsStore.not_takesDirectory⟩

/-- **A run on a Linux host gets its store in one of two ways.** It makes room
first if it may reinitialise. Then either the directory is on btrfs and is taken as
it is, or what is behind the store is created and formatted if need be and mounted
on the directory. -/
theorem native_store_takes_one_of_two_ways {σ : Type} (host : Host σ) (s : σ)
    (request : StoreRequest) (storeRoot : Option Path) {o : StoreOutcome}
    (hok : ((provision request storeRoot).outcome.runWith host s).1 = .ok o)
    (hstore : o.useStore = true) :
    ∃ plan backing clear rest, StorePlan.ofRequest request storeRoot = .ok plan ∧
      plan.backing = some backing ∧
      (provision request storeRoot).outcome.record host s = clear ++ rest ∧
      (if request.reinit then Cleared plan clear else clear = []) ∧
      Xor (TakesDirectory plan.storeDir rest o)
        (∃ created format, MountsStore request plan backing created format rest o) := by
  have hl := Action.leads_record host (provision request storeRoot).outcome s
  rw [hok] at hl
  generalize (provision request storeRoot).outcome.record host s = h at hl
  rw [outcome_provision] at hl
  obtain ⟨ended, hprepared, hended⟩ := Action.leads_map.mp hl
  obtain rfl := conclude_ok hended.symm hstore
  rw [prepare_eq] at hprepared
  obtain ⟨_, plan, h₁, hresolved, hrest, rfl⟩ := Attempt.leads_bind_ok.mp hprepared
  obtain ⟨rfl, hplan⟩ := Action.leads_done.mp hresolved
  obtain ⟨backing, hbacking⟩ := StorePlan.exists_backing hplan.symm
  -- The removal of a reinitialisation comes before anything is made.
  have hcleared : ∃ clear rest, h₁ = clear ++ rest ∧
      (if request.reinit then Cleared plan clear else clear = []) ∧
      (equip request plan).outcome.Leads rest (.ok o) := by
    cases hreinit : request.reinit with
    | true =>
      rw [hreinit] at hrest
      obtain ⟨clear, _, rest, hclear, hequip, rfl⟩ := Attempt.leads_bind_ok.mp hrest
      have hcleared := (reinit_attains plan).reached _ _ (Attempt.leads_inStage_ok.mp hclear)
      exact ⟨clear, rest, rfl, hcleared, hequip⟩
    | false =>
      rw [hreinit] at hrest
      exact ⟨[], h₁, rfl, rfl, hrest⟩
  obtain ⟨clear, rest, rfl, hclear, hequip⟩ := hcleared
  exact ⟨plan, backing, clear, rest, hplan.symm, hbacking, rfl, hclear,
    equip_ways hbacking hequip⟩

/-- A Linux host with a store that is not on btrfs. -/
def hostWithoutBtrfs : Scripted.State :=
  let s : Scripted.State := {}
  let s := s.on "stat" [] [.output "ext2/ext3"]
  let s := s.on "findmnt" [] [.failure 1 "", .failure 1 "", .failure 1 "", .output "btrfs"]
  let s := s.on "blkid" [] [.failure 2 "", .output "btrfs"]
  s.on "id" [] [.output "1000"]

/-- A run with `reinit` on a host without btrfs: the image is removed, made again and
mounted. -/
theorem native_store_takes_one_of_two_ways_mounting :
    ∃ o plan backing clear rest created format,
      ((provision { reinit := true } (some ⟨"/store"⟩)).outcome.runWith Scripted.host
          hostWithoutBtrfs).1 = .ok o ∧ o.useStore = true ∧
        (provision { reinit := true } (some ⟨"/store"⟩)).outcome.record Scripted.host
          hostWithoutBtrfs = clear ++ rest ∧
        Cleared plan clear ∧
        MountsStore { reinit := true } plan backing created format rest o := by
  have hreported : ((provision { reinit := true } (some ⟨"/store"⟩)).outcome.runWith Scripted.host
      hostWithoutBtrfs).1.toOption.any (fun o => o.useStore
        && o.mountDevice == some "/store.img") = true := by
    decide +kernel
  obtain ⟨o, hok, ho⟩ := exists_ok_of_any hreported
  obtain ⟨hstore, hdevice⟩ : o.useStore = true ∧ o.mountDevice = some "/store.img" := by
    simpa using ho
  obtain ⟨plan, backing, clear, rest, -, -, hrecord, hclear, hways⟩ :=
    native_store_takes_one_of_two_ways Scripted.host hostWithoutBtrfs { reinit := true }
      (some ⟨"/store"⟩) hok hstore
  obtain ⟨htakes, -⟩ | ⟨⟨created, format, hmounts⟩, -⟩ := hways
  · rw [htakes.outcome] at hdevice
    cases hdevice
  · exact ⟨o, plan, backing, clear, rest, created, format, hok, hstore, hrecord, hclear, hmounts⟩

end Native

end BtrfsStore
