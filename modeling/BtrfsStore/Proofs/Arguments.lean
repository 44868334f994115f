import BtrfsStore.Proofs.NativeShapes
import BtrfsStore.Proofs.Planning
import BtrfsStore.Scripted
/-!
# BtrfsStore.Proofs.Arguments

What a run on a Linux host passes to its commands. Every part of a run builds its
arguments from the directory of the store, from what is behind the store, and from what
commands have written. A plan for paths that are not empty makes none of the first two
empty, and what a command writes is looked at before it is used, so that no argument is
empty either (`Query.Filled`).

There is one exception. The directory of an image that is named without one is the empty
path, which never exists, and so it is to be made before the image is (`ImageAsked`).
What a run asks about its image is therefore kept apart from all other questions
(`Asked`).
-/

namespace BtrfsStore

/-- No argument of the command is empty. -/
def Command.Filled (c : Command) : Prop := ∀ arg ∈ c.args, arg ≠ ""

/-- The question runs a command without empty arguments, or it looks for one of the given
paths, or it has to do with neither. -/
def Query.Filled (paths : List Path) : Query → Prop
  | .run c => c.Filled
  | .pathExists p => p ∈ paths
  | _ => True

variable {paths : List Path} {root user : Target}

@[simp] theorem Query.filled_run {c : Command} :
    (Query.run c).Filled paths ↔ ∀ arg ∈ c.args, arg ≠ "" := Iff.rfl

@[simp] theorem Query.filled_sleep (ms : Nat) : (Query.sleep ms).Filled paths := trivial

/-! ### Filesystems -/

namespace Filesystem

variable {dir device : String}

theorem filled_mountPointType (hdir : dir ≠ "") :
    (mountPointType root dir).outcome.Asks (Query.Filled paths) := by
  simp [mountPointType, hdir]

/-- With a directory, a release passes no empty argument. -/
theorem filled_release (hdir : dir ≠ "") :
    (release root dir).outcome.Asks (Query.Filled paths) :=
  asks_release_of (by simp [hdir]) (filled_mountPointType hdir)

theorem filled_probedType (hdevice : device ≠ "") :
    (probedType root device).outcome.Asks (Query.Filled paths) := by
  simp [probedType, hdevice]

theorem filled_detect (hdevice : device ≠ "") :
    (detect root device).outcome.Asks (Query.Filled paths) :=
  asks_detect_of (by simp [mountedType, hdevice]) (filled_probedType hdevice)

theorem filled_format (hdevice : device ≠ "") (wipe : Bool) :
    (format root device wipe).outcome.Asks (Query.Filled paths) := by
  cases wipe <;> simp [format, hdevice, Except.map]

/-- The directory of a trial mount is what the host names, if it names one. -/
theorem filled_probeMount (hdevice : device ≠ "") :
    (probeMount root device).outcome.Asks (Query.Filled paths) := by
  unfold probeMount
  refine Attempt.asks_bind (by simp) fun output => ?_
  by_cases hempty : Text.trim output = ""
  · simp [hempty]
  · simp [hempty, hdevice, btrfsType, Except.isOk, Except.toBool]

theorem filled_verify (hdevice : device ≠ "") :
    (verify root device).outcome.Asks (Query.Filled paths) :=
  asks_verify_of (asks_confirmed_of (filled_probedType hdevice)) (fun _ => trivial)
    (filled_probeMount hdevice)

/-- With a device, neither does making sure of its filesystem. -/
theorem filled_ensure (hdevice : device ≠ "") (allowFormat : Bool) :
    (ensure root device allowFormat).outcome.Asks (Query.Filled paths) :=
  asks_ensure_of allowFormat (filled_detect hdevice) (filled_format hdevice)
    (filled_verify hdevice)

end Filesystem

/-! ### Ownership -/

namespace StoreContent

/-- An owner is never empty, as there is a colon between its two parts. -/
theorem filled_bind_invokingOwner {α : Type} {f : String → Attempt α}
    (hf : ∀ owner, owner ≠ "" → (f owner).outcome.Asks (Query.Filled paths)) :
    (invokingOwner user >>= f).outcome.Asks (Query.Filled paths) := by
  rw [invokingOwner, bind_assoc]
  refine Attempt.asks_bind (by simp) fun uid => ?_
  rw [bind_assoc]
  refine Attempt.asks_bind (by simp) fun gid => ?_
  dsimp only
  split
  · trivial
  · refine hf _ fun hempty => ?_
    simp at hempty

theorem filled_giveTo {dir : String} (hdir : dir ≠ "") :
    (giveTo root user dir).outcome.Asks (Query.Filled paths) := by
  refine filled_bind_invokingOwner fun owner howner => ?_
  simp [howner, hdir, Except.map]

end StoreContent

/-! ### The parts of a run -/

namespace Native

open Filesystem StoreContent

variable {request : StoreRequest} {storeRoot : Option Path} {plan : StorePlan} {dir backing : Path}
  {h : History}

theorem filled_reinit (hdir : plan.storeDir.text ≠ "")
    (himage : ∀ image ∈ plan.imagePath, image.text ≠ "") :
    (reinit plan).outcome.Asks (Query.Filled paths) := by
  unfold reinit
  refine Attempt.asks_bind (filled_release hdir) fun _ => ?_
  cases hplan : plan.imagePath with
  | none => trivial
  | some image => simp [himage image hplan, Except.map]

theorem filled_createStoreDir {dir : String} (hdir : dir ≠ "") :
    (createStoreDir dir).outcome.Asks (Query.Filled paths) := by
  unfold createStoreDir
  refine Attempt.asks_bind (by simp [hdir]) fun _ => ?_
  refine filled_bind_invokingOwner fun owner howner => ?_
  simp [howner, hdir]

theorem filled_takeDirectory (hdir : dir.text ≠ "") (hlook : dir ∈ paths) :
    (takeDirectory dir).outcome.Asks (Query.Filled paths) :=
  asks_takeDirectory_of hlook (filled_createStoreDir hdir)

theorem filled_mount {backing dir : String} (hbacking : backing ≠ "") (hdir : dir ≠ "") :
    (mount plan backing dir).outcome.Asks (Query.Filled paths) := by
  rw [mount_eq]
  refine Attempt.asks_bind (by simp [hdir]) fun _ => ?_
  refine Attempt.asks_bind (filled_mountPointType hdir) fun mounted => ?_
  cases mounted with
  | some fsType => simp
  | none =>
    refine Attempt.asks_bind (Attempt.asks_discard ⟨?_, fun _ => trivial⟩) fun _ => ?_
    · unfold mountStoreCommand
      split <;> simp [hbacking, hdir]
    · unfold checkMounted
      exact Attempt.asks_bind (filled_mountPointType hdir) fun shown => by simp

/-- With both, neither does what follows the formatting. -/
theorem filled_finish (hbacking : backing.text ≠ "") (hdir : plan.storeDir.text ≠ "") :
    (finish plan backing).outcome.Asks (Query.Filled paths) :=
  asks_finish_of (filled_mount hbacking hdir) (filled_giveTo hdir)

/-- The search looks for nothing else, and finds a path only by an answer. -/
theorem SearchRun.filled {paths searched : List Path} {found : Option Path}
    (hsearch : SearchRun searched found h) (hsub : searched ⊆ paths) :
    (∀ e ∈ h, e.query.Filled paths) ∧ ∀ path ∈ found, ⟨.pathExists path, true⟩ ∈ h := by
  induction hsearch with
  | nowhere => simp
  | here =>
    refine ⟨?_, ?_⟩
    · simpa [Query.Filled] using hsub List.mem_cons_self
    · rintro path ⟨⟩
      exact List.mem_cons_self
  | further _ ih =>
    obtain ⟨hrest, hfound⟩ := ih fun path hpath => hsub (List.mem_cons_of_mem _ hpath)
    refine ⟨List.forall_mem_cons.mpr ⟨hsub List.mem_cons_self, hrest⟩, fun path hpath => ?_⟩
    exact List.mem_cons_of_mem _ (hfound path hpath)

/-- The look at a directory asks about a path that it has found. -/
theorem LookRun.filled {onBtrfs : Bool} (hlook : LookRun dir onBtrfs h)
    (hempty : ⟨.pathExists ⟨""⟩, true⟩ ∉ h) : ∀ e ∈ h, e.query.Filled dir.ancestors := by
  cases hlook with
  | nowhere hsearch => exact (hsearch.filled (List.Subset.refl _)).1
  | @asked search existing a _ hsearch _ =>
    obtain ⟨hsearched, hfound⟩ := hsearch.filled (List.Subset.refl _)
    have hexisting : existing.text ≠ "" := by
      intro htext
      obtain rfl : existing = ⟨""⟩ := congrArg Path.mk htext
      exact hempty (List.mem_append_left _ (hfound _ rfl))
    refine List.forall_mem_append.mpr ⟨hsearched, ?_⟩
    simp [typeQuestion, hexisting]

/-! ### The whole run -/

/-- What a run with a plan asks: apart from what it asks about its image, if it has one,
no command has an empty argument, and no path is looked for that does not lead to the
store. -/
inductive Asked (plan : StorePlan) (gigabytes : Nat) : History → Prop
  | mk {front image back : History} (hfront : ∀ e ∈ front, e.query.Filled plan.storeDir.ancestors)
      (himage : image = [] ∨
        ∃ file r, plan.imagePath = some file ∧ ImageAsked file gigabytes r image)
      (hback : ∀ e ∈ back, e.query.Filled plan.storeDir.ancestors) :
      Asked plan gigabytes (front ++ image ++ back)

variable {gigabytes : Nat}

theorem Asked.of_filled (hh : ∀ e ∈ h, e.query.Filled plan.storeDir.ancestors) :
    Asked plan gigabytes h := by
  have hasked : Asked plan gigabytes (h ++ [] ++ []) :=
    .mk hh (Or.inl rfl) (List.forall_mem_nil _)
  simpa using hasked

theorem Asked.after {front : History}
    (hfront : ∀ e ∈ front, e.query.Filled plan.storeDir.ancestors)
    (hh : Asked plan gigabytes h) : Asked plan gigabytes (front ++ h) := by
  obtain ⟨hrest, himage, hback⟩ := hh
  rw [← List.append_assoc, ← List.append_assoc]
  exact .mk (List.forall_mem_append.mpr ⟨hfront, hrest⟩) himage hback

/-- What comes after a part that asks nothing about the image. -/
theorem Asked.of_bind {α β : Type} {x : Attempt α} {f : α → Attempt β} {r : Except Failure β}
    (hx : x.outcome.Asks (Query.Filled plan.storeDir.ancestors))
    (hf : ∀ rest a, rest ⊆ h → (f a).outcome.Leads rest r → Asked plan gigabytes rest)
    (hl : (x >>= f).outcome.Leads h r) : Asked plan gigabytes h := by
  obtain ⟨failure, hfront, -⟩ | ⟨front, a, rest, hfront, hrest, rfl⟩ := Attempt.leads_bind.mp hl
  · exact .of_filled (hx.of_mem hfront)
  · exact (hf rest a (List.subset_append_right front rest) hrest).after (hx.of_mem hfront)

theorem makeBacking_asked {created : Except Failure Bool}
    (hbacking : plan.backing = some backing)
    (hl : (makeBacking request plan backing).outcome.Leads h created) :
    h = [] ∨ ∃ file r, plan.imagePath = some file ∧ ImageAsked file request.gigabytes r h := by
  unfold makeBacking at hl
  rw [Attempt.outcome_ite] at hl
  split at hl
  next hisImage =>
    obtain ⟨image, himage⟩ := Option.isSome_iff_exists.mp hisImage
    obtain rfl : image = backing := by
      simpa [StorePlan.backing, himage] using hbacking
    rw [Attempt.outcome_inStage] at hl
    obtain ⟨r, hensure, -⟩ := Action.leads_map.mp hl
    exact Or.inr ⟨image, r, himage, ensureImage_asked hensure⟩
  next => exact Or.inl (Action.leads_done.mp hl).1

theorem mountStore_asked {r : Except Failure StoreOutcome} (hbacking : plan.backing = some backing)
    (hfilled : backing.text ≠ "") (hdir : plan.storeDir.text ≠ "")
    (hl : (mountStore request plan).outcome.Leads h r) : Asked plan request.gigabytes h := by
  rw [mountStore_eq] at hl
  refine Asked.of_bind (Attempt.asks_inStage ?_) (fun rest _ _ hrest => ?_) hl
  · exact asks_checkPrerequisites plan trivial fun _ => trivial
  simp only [hbacking] at hrest
  have hafter : ∀ created : Bool, (do
      discard <|
        (Filesystem.ensure .hostRoot backing.text (created || request.reinit)).inStage .format
      finish plan backing : Attempt StoreOutcome).outcome.Asks
        (Query.Filled plan.storeDir.ancestors) := by
    intro created
    refine Attempt.asks_bind (Attempt.asks_discard (Attempt.asks_inStage ?_)) fun _ => ?_
    · exact filled_ensure hfilled _
    · exact filled_finish hfilled hdir
  have hnone : ∀ e ∈ ([] : History), e.query.Filled plan.storeDir.ancestors :=
    List.forall_mem_nil _
  obtain ⟨failure, himage, -⟩ | ⟨image, created, back, himage, hback, rfl⟩ :=
    Attempt.leads_bind.mp hrest
  · have hasked : Asked plan request.gigabytes ([] ++ rest ++ []) :=
      .mk hnone (makeBacking_asked hbacking himage) hnone
    simpa using hasked
  · exact .mk hnone (makeBacking_asked hbacking himage) ((hafter created).of_mem hback)

theorem equip_asked {r : Except Failure StoreOutcome} (hbacking : plan.backing = some backing)
    (hfilled : backing.text ≠ "") (hdir : plan.storeDir.text ≠ "")
    (hempty : ⟨.pathExists ⟨""⟩, true⟩ ∉ h) (hl : (equip request plan).outcome.Leads h r) :
    Asked plan request.gigabytes h := by
  unfold equip at hl
  obtain ⟨failure, hlook, -⟩ | ⟨look, onBtrfs, rest, hlook, hrest, rfl⟩ :=
    Attempt.leads_bind.mp hl
  · rw [Attempt.outcome_liftM, Action.leads_map] at hlook
    obtain ⟨onBtrfs, -, hfailed⟩ := hlook
    cases hfailed
  rw [Attempt.outcome_liftM, Action.leads_map] at hlook
  obtain ⟨onBtrfs', hlook, hsame⟩ := hlook
  obtain rfl := Except.ok.inj hsame
  have hlooked : ∀ e ∈ look, e.query.Filled plan.storeDir.ancestors :=
    (isOnBtrfs_run hlook).filled fun hmem => hempty (List.mem_append_left _ hmem)
  refine Asked.after hlooked ?_
  cases onBtrfs with
  | true =>
    exact .of_filled ((filled_takeDirectory hdir List.mem_cons_self).of_mem hrest)
  | false => exact mountStore_asked hbacking hfilled hdir hrest

/-- A run without a plan asks nothing. -/
theorem prepare_asked {r : Except Failure StoreOutcome}
    (hpath : ∀ p ∈ request.storePath, p.text ≠ "") (hroot : ∀ p ∈ storeRoot, p.text ≠ "")
    (hempty : ⟨.pathExists ⟨""⟩, true⟩ ∉ h)
    (hl : (prepare request storeRoot).outcome.Leads h r) :
    h = [] ∨ ∃ plan, StorePlan.ofRequest request storeRoot = .ok plan ∧
      Asked plan request.gigabytes h := by
  rw [prepare_eq] at hl
  obtain ⟨failure, hplan, -⟩ | ⟨_, plan, rest, hplan, hrest, rfl⟩ := Attempt.leads_bind.mp hl
  · exact Or.inl (Action.leads_done.mp hplan).1
  obtain ⟨rfl, hresolved⟩ := Action.leads_done.mp hplan
  obtain ⟨backing, hbacking⟩ := StorePlan.exists_backing hresolved.symm
  refine Or.inr ⟨plan, hresolved.symm, ?_⟩
  have hlaid : StorePlan.LaysOut request.storeKind request.storePath storeRoot plan :=
    StorePlan.laysOut_of_make hresolved.symm
  have hfilled : backing.text ≠ "" := hlaid.backing_ne_empty hpath hbacking
  have hdir : plan.storeDir.text ≠ "" := hlaid.storeDir_ne_empty hroot
  have hequip : ∀ equipped : History, equipped ⊆ rest →
      (equip request plan).outcome.Leads equipped r → Asked plan request.gigabytes equipped :=
    fun equipped hsub hl => equip_asked hbacking hfilled hdir (fun hmem => hempty (hsub hmem)) hl
  cases hreinit : request.reinit with
  | true =>
    rw [hreinit] at hrest
    have himage : ∀ image ∈ plan.imagePath, image.text ≠ "" := fun image himage =>
      hlaid.image_ne_empty himage
    exact Asked.of_bind (Attempt.asks_inStage (filled_reinit hdir himage))
      (fun equipped _ hsub hl => hequip equipped hsub hl) hrest
  | false =>
    rw [hreinit] at hrest
    exact hequip rest (List.Subset.refl _) hrest

/-! ### The empty argument -/

/-- An empty argument is passed only where the directory of the image is the empty
path. -/
theorem ParentAsked.filled {image : Path} {r : Except Failure Unit}
    (hasked : ParentAsked image r h) {c : Command} {a : Except Failure String}
    (hc : c.event a ∈ h) : c.Filled ∨ c = makeImageDir ⟨""⟩ ∧ image.parent = some ⟨""⟩ := by
  cases hasked with
  | none => cases hc
  | there => simp at hc
  | @missing dir hdir made =>
    obtain ⟨rfl, -⟩ : c = makeImageDir dir ∧ a = made := by simpa using hc
    by_cases hempty : dir.text = ""
    · obtain rfl : dir = ⟨""⟩ := congrArg Path.mk hempty
      exact Or.inr ⟨rfl, hdir⟩
    · left
      simp [Command.Filled, makeImageDir, hempty]

/-- The empty path does not exist, so that it is made a directory. -/
theorem ParentAsked.makes_empty_dir {image : Path} {r : Except Failure Unit}
    (hasked : ParentAsked image r h) (hparent : image.parent = some ⟨""⟩)
    (hempty : ⟨.pathExists ⟨""⟩, true⟩ ∉ h) : ∃ a, (makeImageDir ⟨""⟩).event a ∈ h := by
  cases hasked with
  | none hnone => cases hnone.symm.trans hparent
  | there hdir =>
    obtain rfl := Option.some.inj (hdir.symm.trans hparent)
    exact absurd List.mem_cons_self hempty
  | missing hdir a =>
    obtain rfl := Option.some.inj (hdir.symm.trans hparent)
    exact ⟨a, by simp⟩

theorem ImageAsked.filled {image : Path} {r : Except Failure Bool}
    (hasked : ImageAsked image gigabytes r h) (hname : image.text ≠ "") {c : Command}
    {a : Except Failure String} (hc : c.event a ∈ h) :
    c.Filled ∨
      c = makeImageDir ⟨""⟩ ∧ image.parent = some ⟨""⟩ ∧ ⟨.pathExists image, false⟩ ∈ h := by
  cases hasked with
  | there => simp at hc
  | @stopped f parent hparent =>
    have hc : c.event a ∈ parent := by simpa using hc
    obtain hfilled | ⟨hmade, hdir⟩ := hparent.filled hc
    · exact Or.inl hfilled
    · exact Or.inr ⟨hmade, hdir, List.mem_cons_self⟩
  | @created parent hparent made =>
    obtain hc | ⟨rfl, -⟩ : c.event a ∈ parent ∨ c = createImage image gigabytes ∧ a = made := by
      simpa using hc
    · obtain hfilled | ⟨hmade, hdir⟩ := hparent.filled hc
      · exact Or.inl hfilled
      · exact Or.inr ⟨hmade, hdir, List.mem_cons_self⟩
    · left
      simp [Command.Filled, createImage, hname]

theorem ImageAsked.makes_empty_dir {image : Path} {r : Except Failure Bool}
    (hasked : ImageAsked image gigabytes r h) (hparent : image.parent = some ⟨""⟩)
    (hmissing : ⟨.pathExists image, false⟩ ∈ h) (hempty : ⟨.pathExists ⟨""⟩, true⟩ ∉ h) :
    ∃ a, (makeImageDir ⟨""⟩).event a ∈ h := by
  cases hasked with
  | there => cases List.mem_singleton.mp hmissing
  | stopped hasked =>
    obtain ⟨a, hmade⟩ := hasked.makes_empty_dir hparent fun hmem => hempty (by simp [hmem])
    exact ⟨a, List.mem_cons_of_mem _ hmade⟩
  | created hasked _ =>
    obtain ⟨a, hmade⟩ := hasked.makes_empty_dir hparent fun hmem => hempty (by simp [hmem])
    exact ⟨a, by simp [hmade]⟩

/-- The directory of an image is the empty path if the image is a name alone. -/
theorem parent_eq_empty_iff {image : Path} (himage : image.NamesImage) :
    image.parent = some ⟨""⟩ ↔ ∃ name, image.components = [.name name] := by
  obtain ⟨front, base, ext, -, hcomponents, -⟩ := himage
  obtain ⟨dir, hdir, hlast, -⟩ :=
    Path.exists_parent_of_fileName (Path.fileName_eq_some_iff.mpr ⟨front, hcomponents⟩)
  rw [hdir, hlast]
  constructor
  · intro hempty
    obtain rfl := Option.some.inj hempty
    exact ⟨_, rfl⟩
  · rintro ⟨name, halone⟩
    have hnone : dir.components = [] :=
      (List.append_inj' (halone.trans (List.nil_append _).symm) rfl).1
    exact congrArg (fun text => some (Path.mk text)) (Path.components_eq_nil_iff.mp hnone)

/-- The image of the plan is a name alone, and the run did not find it. -/
def MissesImageAlone (plan : StorePlan) (h : History) : Prop :=
  ∃ image name, plan.imagePath = some image ∧ image.components = [.name name] ∧
    ⟨.pathExists image, false⟩ ∈ h

variable {kind : StoreKind} {storePath : Option Path}

/-- The only empty argument that a run can pass is that for the directory of an image. -/
theorem Asked.filled (hasked : Asked plan gigabytes h)
    (hlaid : StorePlan.LaysOut kind storePath storeRoot plan) {c : Command}
    {a : Except Failure String} (hc : c.event a ∈ h) :
    c.Filled ∨ c = makeImageDir ⟨""⟩ ∧ MissesImageAlone plan h := by
  obtain @⟨front, part, back, hfront, himage, hback⟩ := hasked
  simp only [List.mem_append] at hc
  obtain (hc | hc) | hc := hc
  · exact Or.inl (hfront _ hc)
  · obtain rfl | ⟨image, r, hplan, hpart⟩ := himage
    · cases hc
    obtain hfilled | ⟨rfl, hparent, hmissing⟩ := hpart.filled (hlaid.image_ne_empty hplan) hc
    · exact Or.inl hfilled
    obtain ⟨name, halone⟩ := (parent_eq_empty_iff (hlaid.namesImage image hplan)).mp hparent
    exact Or.inr ⟨rfl, image, name, hplan, halone, by simp [hmissing]⟩
  · exact Or.inl (hback _ hc)

/-- It is passed if an image of one relative component is missing. -/
theorem Asked.makes_empty_dir (hasked : Asked plan gigabytes h)
    (hlaid : StorePlan.LaysOut kind storePath storeRoot plan)
    (hempty : ⟨.pathExists ⟨""⟩, true⟩ ∉ h) (hmisses : MissesImageAlone plan h) :
    ∃ a, (makeImageDir ⟨""⟩).event a ∈ h := by
  obtain ⟨image, name, hplan, halone, hmissing⟩ := hmisses
  obtain @⟨front, part, back, hfront, himage, hback⟩ := hasked
  -- The image is not among the paths that are looked for on the way to the store.
  have hnot : ¬(Query.pathExists image).Filled plan.storeDir.ancestors :=
    hlaid.image_notMem_ancestors hplan
  have hpart : ⟨.pathExists image, false⟩ ∈ part := by
    simp only [List.mem_append] at hmissing
    obtain (hmem | hmem) | hmem := hmissing
    · exact absurd (hfront _ hmem) hnot
    · exact hmem
    · exact absurd (hback _ hmem) hnot
  obtain rfl | ⟨file, r, hfile, hasked⟩ := himage
  · cases hpart
  obtain rfl := Option.some.inj (hplan.symm.trans hfile)
  have hparent := (parent_eq_empty_iff (hlaid.namesImage image hplan)).mpr ⟨name, halone⟩
  obtain ⟨a, hmade⟩ := hasked.makes_empty_dir hparent hpart fun hmem => hempty (by simp [hmem])
  exact ⟨a, by simp [hmade]⟩

end Native

/-- An answer in a record is one that the host has given. -/
theorem Action.exists_answer_of_mem_record {α σ : Type} {host : Host σ} {x : Action α} {s : σ}
    {e : Event} (he : e ∈ x.record host s) : ∃ s', e.answer = (host.answer e.query s').1 := by
  induction x generalizing s with
  | done a => cases he
  | ask q next ih =>
    obtain rfl | he := List.mem_cons.mp he
    · exact ⟨s, rfl⟩
    · exact ih _ he

/-- **No command of a run on a Linux host has an empty argument, unless the image of the
store is a name alone.** Where this image is not there, the run makes the empty path a
directory, which stands for the directory of the image. On every host the empty path
names nothing. -/
theorem arguments_filled_unless_image_alone {σ : Type} (host : Host σ) (s : σ)
    (request : StoreRequest) (storeRoot : Option Path)
    (hpath : ∀ p ∈ request.storePath, p.text ≠ "") (hroot : ∀ p ∈ storeRoot, p.text ≠ "")
    (hempty : ∀ s, (host.answer (.pathExists ⟨""⟩) s).1 = false) :
    let h := (Native.provision request storeRoot).outcome.record host s
    (∀ c a, Command.event c a ∈ h → c.Filled ∨ c = Native.makeImageDir ⟨""⟩) ∧
      ((∃ a, (Native.makeImageDir ⟨""⟩).event a ∈ h) ↔
        ∃ plan, StorePlan.ofRequest request storeRoot = .ok plan ∧
          Native.MissesImageAlone plan h) := by
  rw [Native.outcome_provision, Action.record_map]
  intro h
  have hnone : ⟨.pathExists ⟨""⟩, true⟩ ∉ h := by
    intro hmem
    obtain ⟨s', hanswer⟩ := Action.exists_answer_of_mem_record hmem
    exact Bool.noConfusion (hanswer.trans (hempty s'))
  have hl := Action.leads_record host (Native.prepare request storeRoot).outcome s
  -- A run without a plan asks nothing.
  obtain hnil | ⟨plan, hplan, hasked⟩ := Native.prepare_asked hpath hroot hnone hl
  · have hnil : h = [] := hnil
    rw [hnil]
    refine ⟨fun c a hc => absurd hc List.not_mem_nil, ?_, ?_⟩
    · rintro ⟨a, hc⟩
      cases hc
    · rintro ⟨plan, -, image, name, -, -, hmem⟩
      cases hmem
  · have hlaid := StorePlan.laysOut_of_make hplan
    refine ⟨fun c a hc => ?_, ?_, ?_⟩
    · obtain hfilled | ⟨hmade, -⟩ := hasked.filled hlaid hc
      · exact Or.inl hfilled
      · exact Or.inr hmade
    · rintro ⟨a, hc⟩
      obtain hfilled | ⟨-, hmisses⟩ := hasked.filled hlaid hc
      · exact absurd rfl (hfilled "" (by simp [Native.makeImageDir]))
      · exact ⟨plan, hplan, hmisses⟩
    · rintro ⟨plan', hplan', hmisses⟩
      obtain rfl := Except.ok.inj (hplan.symm.trans hplan')
      exact hasked.makes_empty_dir hlaid hnone hmisses

/-- No file of a scripted host has the empty path. -/
theorem Scripted.pathExists_empty (s : Scripted.State) :
    (Scripted.host.answer (.pathExists ⟨""⟩) s).1 = false := rfl

namespace Native

/-- A Linux host with an empty directory that is not on btrfs. -/
def hostWithoutImage : Scripted.State :=
  let s : Scripted.State := {}
  let s := s.on "stat" [] [.output "ext2/ext3"]
  let s := s.on "findmnt" ["-S"] [.failure 1 ""]
  let s := s.on "findmnt" ["--mountpoint"] [.failure 1 "", .output "btrfs"]
  let s := s.on "blkid" ["-p"] [.failure 2 "", .output "btrfs"]
  s.on "id" [] [.output "1000"]

/-- A store in the given image. -/
def imageStore (image : String) : StoreRequest :=
  { storeKind := .image, storePath := some ⟨image⟩, require := true }

end Native

/-- All arguments are there for an image in a directory. -/
theorem arguments_filled_unless_image_alone_in_dir :
    (∀ p ∈ (Native.imageStore "vol/sqlrs.img").storePath, p.text ≠ "") ∧
      (∀ p ∈ some (⟨"/store"⟩ : Path), p.text ≠ "") ∧
      ∀ c a, Command.event c a ∈ (Native.provision (Native.imageStore "vol/sqlrs.img")
          (some ⟨"/store"⟩)).outcome.record Scripted.host Native.hostWithoutImage → c.Filled := by
  have hpath : ∀ p ∈ (Native.imageStore "vol/sqlrs.img").storePath, p.text ≠ "" := by decide
  have hroot : ∀ p ∈ some (⟨"/store"⟩ : Path), p.text ≠ "" := by decide
  have hplan : StorePlan.ofRequest (Native.imageStore "vol/sqlrs.img") (some ⟨"/store"⟩)
      = .ok { storeDir := ⟨"vol"⟩, imagePath := some ⟨"vol/sqlrs.img"⟩ } := by decide
  obtain ⟨hfilled, hiff⟩ := arguments_filled_unless_image_alone Scripted.host
    Native.hostWithoutImage (Native.imageStore "vol/sqlrs.img") (some ⟨"/store"⟩) hpath hroot
    Scripted.pathExists_empty
  refine ⟨hpath, hroot, fun c a hc => (hfilled c a hc).resolve_right ?_⟩
  rintro rfl
  obtain ⟨plan, hplan', image, name, himage, halone, -⟩ := hiff.mp ⟨a, hc⟩
  obtain rfl := Except.ok.inj (hplan.symm.trans hplan')
  obtain rfl := Option.some.inj himage
  have hin : Path.components ⟨"vol/sqlrs.img"⟩ = [.name "vol", .name "sqlrs.img"] := by decide
  cases hin.symm.trans halone

/-- For an image without a directory the run passes the empty path to a command, and
makes the store all the same if the host does not mind. -/
theorem image_alone_passes_empty_path :
    ((Native.provision (Native.imageStore "sqlrs.img") (some ⟨"/store"⟩)).outcome.runWith
        Scripted.host Native.hostWithoutImage).1.toOption.any (·.useStore) = true ∧
      ¬∀ c a, Command.event c a ∈ (Native.provision (Native.imageStore "sqlrs.img")
          (some ⟨"/store"⟩)).outcome.record Scripted.host Native.hostWithoutImage → c.Filled := by
  have hmade : ∃ e ∈ (Native.provision (Native.imageStore "sqlrs.img")
      (some ⟨"/store"⟩)).outcome.record Scripted.host Native.hostWithoutImage,
        e.query = .run (Native.makeImageDir ⟨""⟩) := by
    decide +kernel
  refine ⟨by decide +kernel, fun hall => ?_⟩
  obtain ⟨⟨q, a⟩, hmem, rfl⟩ := hmade
  exact hall _ a hmem "" (by decide) rfl

end BtrfsStore
