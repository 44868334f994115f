import Mathlib.Data.List.TakeWhile
import BtrfsStore.StorePlan
import BtrfsStore.Proofs.Components
/-!
# BtrfsStore.Proofs.Planning

Where a store is laid out. A plan names the device that the user names, or an image:
the one that the user names, with the store in the directory that holds it, or one
beside the store's directory and named after it (`StorePlan.LaysOut`). The directory is
told from the image by the components of the two, so that no spelling of a path can make
them one.

There is no plan for a device without a place to mount it, and none for a directory that
has no name to call an image after (`StorePlan.Unplaceable`).
-/

namespace BtrfsStore

/-! ### Extensions -/

namespace Path

/-- A name from its end: the extension up to the last dot, then what stands before it. -/
theorem extensionOf_eq (name : List Char) :
    extensionOf name = match name.reverse.dropWhile (· != '.') with
      | _ :: _ :: _ => some (name.reverse.takeWhile (· != '.')).reverse
      | _ => none := by
  have hdrop : name.reverse.drop (name.reverse.takeWhile (· != '.')).length
      = name.reverse.dropWhile (· != '.') := by
    conv =>
      enter [1, 2]
      rw [← List.takeWhile_append_dropWhile (p := (· != '.')) (l := name.reverse)]
    exact List.drop_left
  rw [← hdrop]
  rfl

/-- The extension is what follows the last dot, if something stands before that dot. -/
theorem extensionOf_eq_some_iff {name ext : List Char} :
    extensionOf name = some ext ↔ ∃ base, base ≠ [] ∧ name = base ++ '.' :: ext ∧ '.' ∉ ext := by
  rw [extensionOf_eq]
  constructor
  · intro h
    -- The reversed name is cut at its first dot.
    have hjoined : name.reverse.takeWhile (· != '.') ++ name.reverse.dropWhile (· != '.')
        = name.reverse := List.takeWhile_append_dropWhile
    have hafter : ∀ c ∈ name.reverse.takeWhile (· != '.'), (c != '.') = true :=
      fun c hc => List.mem_takeWhile_imp (p := (· != '.')) hc
    have hbefore := List.head?_dropWhile_not (· != '.') name.reverse
    generalize name.reverse.takeWhile (· != '.') = after at h hjoined hafter
    generalize name.reverse.dropWhile (· != '.') = before at h hjoined hbefore
    split at h
    · next dot last base =>
      obtain rfl := Option.some.inj h
      obtain rfl : dot = '.' := by simpa using hbefore
      refine ⟨(last :: base).reverse, by simp, ?_, ?_⟩
      · rw [← List.reverse_reverse name, ← hjoined, List.reverse_append, List.reverse_cons,
          List.append_assoc, List.singleton_append]
      · exact fun hdot => absurd (hafter '.' (List.mem_reverse.mp hdot)) (by decide)
    · cases h
  · rintro ⟨base, hbase, rfl, hext⟩
    have hkeep : ∀ c ∈ ext.reverse, (c != '.') = true := by
      intro c hc
      rw [bne_iff_ne]
      rintro rfl
      exact hext (List.mem_reverse.mp hc)
    have hreverse : (base ++ '.' :: ext).reverse = ext.reverse ++ '.' :: base.reverse := by simp
    rw [hreverse, List.takeWhile_append_of_pos hkeep, List.dropWhile_append_of_pos hkeep,
      List.takeWhile_cons_of_neg (by decide), List.dropWhile_cons_of_neg (by decide),
      List.append_nil]
    cases hback : base.reverse with
    | nil => exact absurd (List.reverse_eq_nil_iff.mp hback) hbase
    | cons b bs =>
      show some ext.reverse.reverse = some ext
      rw [List.reverse_reverse]

/-- The path ends in a name with something before its last dot and one of the known
extensions after it, in any letter case. -/
def NamesImage (p : Path) : Prop :=
  ∃ front base ext known, p.components = front ++ [.name (base ++ "." ++ ext)] ∧ base ≠ "" ∧
    '.' ∉ ext.toList ∧ known ∈ StorePlan.imageExtensions ∧ Text.sameAscii known ext = true

end Path

open BtrfsStore.Path

theorem Path.extension_eq_some_iff {p : Path} {ext : String} :
    p.extension = some ext ↔ ∃ front base, p.components = front ++ [.name (base ++ "." ++ ext)] ∧
      base ≠ "" ∧ '.' ∉ ext.toList := by
  have hsplit : ∀ base : String,
      (base ++ "." ++ ext).toList = base.toList ++ '.' :: ext.toList := by
    intro base
    rw [String.toList_append, String.toList_append, List.append_assoc]
    rfl
  rw [extension, Option.bind_eq_some_iff]
  constructor
  · rintro ⟨name, hname, hext⟩
    obtain ⟨front, hcomponents⟩ := fileName_eq_some_iff.mp hname
    obtain ⟨ext, hchars, rfl⟩ := Option.map_eq_some_iff.mp hext
    obtain ⟨base, hbase, hparts, hdot⟩ := extensionOf_eq_some_iff.mp hchars
    have hjoined : name = String.ofList base ++ "." ++ String.ofList ext := by
      rw [← String.toList_inj, hparts, hsplit, String.toList_ofList, String.toList_ofList]
    refine ⟨front, String.ofList base, hjoined ▸ hcomponents, ?_, by rwa [String.toList_ofList]⟩
    exact fun h => hbase (by simpa using congrArg String.toList h)
  · rintro ⟨front, base, hcomponents, hbase, hdot⟩
    refine ⟨_, fileName_eq_some_iff.mpr ⟨front, hcomponents⟩, ?_⟩
    have hne : base.toList ≠ [] := fun h => hbase (String.toList_inj.mp h)
    rw [extensionOf_eq_some_iff.mpr ⟨base.toList, hne, hsplit base, hdot⟩, Option.map_some,
      String.ofList_toList]

namespace StorePlan

/-- A path with the extension of an image names one, in upper case as well. -/
theorem hasImageExtension_iff {p : Path} : hasImageExtension p = true ↔ p.NamesImage := by
  rw [hasImageExtension]
  constructor
  · intro h
    cases hext : p.extension with
    | none =>
      rw [hext] at h
      cases h
    | some ext =>
      rw [hext] at h
      obtain ⟨known, hknown, hsame⟩ := List.any_eq_true.mp h
      obtain ⟨front, base, hcomponents, hbase, hdot⟩ := extension_eq_some_iff.mp hext
      exact ⟨front, base, ext, known, hcomponents, hbase, hdot, hknown, hsame⟩
  · rintro ⟨front, base, ext, known, hcomponents, hbase, hdot, hknown, hsame⟩
    rw [extension_eq_some_iff.mpr ⟨front, base, hcomponents, hbase, hdot⟩]
    exact List.any_eq_true.mpr ⟨known, hknown, hsame⟩

/-! ### Images and their directories -/

/-- The directory that holds the image, written `.` where the image has a name alone. -/
def IsHomeOf (dir image : Path) : Prop :=
  ∃ front name, image.components = front ++ [.name name] ∧
    if front = [] then dir = ⟨"."⟩ else dir.components = front

/-- The image beside the directory, named after it. -/
def IsBeside (image dir : Path) : Prop :=
  ∃ front name, dir.components = front ++ [.name name] ∧
    image.components = front ++ [.name (name ++ ".img")]

theorem directoryOfImage_of_parent {image dir : Path} (h : image.parent = some dir) :
    directoryOfImage image = if dir.components = [] then ⟨"."⟩ else dir := by
  rw [directoryOfImage, h]
  show (if dir.text.isEmpty then _ else _) = _
  by_cases hempty : dir.text = ""
  · rw [if_pos (components_eq_nil_iff.mpr hempty), if_pos (String.isEmpty_iff.mpr hempty)]
  · rw [if_neg fun h => hempty (components_eq_nil_iff.mp h),
      if_neg fun h => hempty (String.isEmpty_iff.mp h)]

theorem isHomeOf_directoryOfImage {image : Path} {name : String}
    (h : image.fileName = some name) : IsHomeOf (directoryOfImage image) image := by
  obtain ⟨dir, hparent, hcomponents, -⟩ := exists_parent_of_fileName h
  refine ⟨dir.components, name, hcomponents, ?_⟩
  rw [directoryOfImage_of_parent hparent]
  by_cases hempty : dir.components = []
  · rw [if_pos hempty, if_pos hempty]
  · rw [if_neg hempty, if_neg hempty]

theorem isName_append_imageSuffix {name : String} (h : IsName name) :
    IsName (name ++ imageSuffix) := by
  have hlong : 4 ≤ (name ++ imageSuffix).toList.length := by
    rw [String.toList_append, List.length_append]
    exact Nat.le_add_left 4 _
  refine ⟨?_, ?_, ?_, ?_⟩
  · rw [String.toList_append, List.mem_append, not_or]
    exact ⟨h.noSlash, by decide⟩
  · intro heq
    rw [heq] at hlong
    exact absurd hlong (by decide)
  · intro heq
    rw [heq] at hlong
    exact absurd hlong (by decide)
  · intro heq
    rw [heq] at hlong
    exact absurd hlong (by decide)

theorem isBeside_withFileName {dir : Path} {name : String} (h : dir.fileName = some name) :
    IsBeside (dir.withFileName (name ++ imageSuffix)) dir := by
  obtain ⟨parent, hparent, hcomponents, hname⟩ := exists_parent_of_fileName h
  exact ⟨parent.components, name, hcomponents,
    components_withFileName hparent h (isName_append_imageSuffix hname)⟩

/-- An image that is named after a directory is known by its name. -/
theorem IsBeside.namesImage {image dir : Path} (h : IsBeside image dir) : image.NamesImage := by
  obtain ⟨front, name, hdir, himage⟩ := h
  obtain ⟨-, -, -, hname⟩ := exists_parent_of_fileName (fileName_eq_some_iff.mpr ⟨front, hdir⟩)
  refine ⟨front, name, "img", "img", ?_, hname.ne_empty, by decide, by decide, by decide⟩
  rw [himage, String.append_assoc]
  rfl

theorem IsBeside.components_ne {image dir : Path} (h : IsBeside image dir) :
    image.components ≠ dir.components := by
  obtain ⟨front, name, hdir, himage⟩ := h
  rw [hdir, himage]
  intro heq
  have hname : name ++ ".img" = name :=
    Component.name.inj (List.singleton_inj.mp (List.append_cancel_left heq))
  have hlength := congrArg (fun s => s.toList.length) hname
  simp at hlength

theorem IsHomeOf.components_ne {dir image : Path} (h : IsHomeOf dir image) :
    image.components ≠ dir.components := by
  obtain ⟨front, name, himage, hdir⟩ := h
  rw [himage]
  by_cases hempty : front = []
  · rw [if_pos hempty] at hdir
    rw [hempty, hdir]
    exact nofun
  · rw [if_neg hempty] at hdir
    rw [hdir]
    intro heq
    have hlength := congrArg List.length heq
    simp at hlength

theorem IsBeside.length_le {image dir : Path} (h : IsBeside image dir) :
    dir.components.length ≤ image.components.length := by
  obtain ⟨front, name, hdir, himage⟩ := h
  rw [hdir, himage, List.length_append, List.length_append]
  exact Nat.le_refl _

theorem IsHomeOf.length_le {dir image : Path} (h : IsHomeOf dir image) :
    dir.components.length ≤ image.components.length := by
  obtain ⟨front, name, himage, hdir⟩ := h
  rw [himage, List.length_append]
  by_cases hempty : front = []
  · rw [if_pos hempty] at hdir
    rw [hdir]
    exact Nat.le_add_left 1 front.length
  · rw [if_neg hempty] at hdir
    rw [hdir]
    exact Nat.le_add_right front.length 1

/-! ### Plans -/

/-- What a plan says about the store that was asked for. -/
structure LaysOut (kind : StoreKind) (storePath storeRoot : Option Path) (plan : StorePlan) :
    Prop where
  /-- A device store names the device, and no other store does. -/
  device_iff : plan.devicePath.isSome ↔ kind = .device
  /-- Every other store names an image. -/
  image_iff : plan.imagePath.isSome ↔ kind ≠ .device
  /-- A device is the given one, mounted on the default place. -/
  device : ∀ device ∈ plan.devicePath, storePath = some device ∧ storeRoot = some plan.storeDir
  /-- An image is known by its name. -/
  namesImage : ∀ image ∈ plan.imagePath, image.NamesImage
  /-- An image is not the directory that it is mounted on. -/
  apart : ∀ image ∈ plan.imagePath, image.components ≠ plan.storeDir.components
  /-- An image is the given one, in the directory of the store, or stands beside that
  directory. -/
  place : ∀ image ∈ plan.imagePath,
    kind = .image ∧ storePath = some image ∧ IsHomeOf plan.storeDir image ∨
      storePath.or storeRoot = some plan.storeDir ∧ IsBeside image plan.storeDir

/-- The image that the user names for an image store. -/
def IsGivenImage (kind : StoreKind) (storePath : Option Path) (image : Path) : Prop :=
  kind = .image ∧ storePath = some image ∧ image.NamesImage

/-- There is no place for the store that was asked for. -/
inductive Unplaceable (kind : StoreKind) (storePath storeRoot : Option Path) : Prop
  /-- A device, or a place to mount it, is missing. -/
  | device (hkind : kind = .device) (hmissing : storePath = none ∨ storeRoot = none)
  /-- No directory is given. -/
  | missing (hkind : kind ≠ .device) (hpath : storePath = none) (hroot : storeRoot = none)
  /-- The directory has no name to call an image after. -/
  | nameless (hkind : kind ≠ .device) (hgiven : ∀ image, ¬IsGivenImage kind storePath image)
      {dir : Path} (hdir : storePath.or storeRoot = some dir)
      (hname : dir.Nameless)

variable {kind : StoreKind} {storePath storeRoot : Option Path}

theorem LaysOut.of_device {device root : Path} :
    LaysOut .device (some device) (some root) { storeDir := root, devicePath := some device } where
  device_iff := by simp
  image_iff := by simp
  device := by simp
  namesImage := nofun
  apart := nofun
  place := nofun

theorem LaysOut.of_given {image : Path} (h : IsGivenImage kind storePath image) :
    LaysOut kind storePath storeRoot
      { storeDir := directoryOfImage image, imagePath := some image } := by
  obtain ⟨hkind, hpath, himage⟩ := h
  obtain ⟨front, base, ext, -, hcomponents, -⟩ := id himage
  have hhome : IsHomeOf (directoryOfImage image) image :=
    isHomeOf_directoryOfImage (fileName_eq_some_iff.mpr ⟨front, hcomponents⟩)
  refine ⟨by simp [hkind], by simp [hkind], nofun, ?_, ?_, ?_⟩
  · rintro _ ⟨⟩
    exact himage
  · rintro _ ⟨⟩
    exact hhome.components_ne
  · rintro _ ⟨⟩
    exact Or.inl ⟨hkind, hpath, hhome⟩

theorem LaysOut.of_fileName {dir : Path} {name : String} (hkind : kind ≠ .device)
    (hdir : storePath.or storeRoot = some dir) (hname : dir.fileName = some name) :
    LaysOut kind storePath storeRoot
      { storeDir := dir, imagePath := some (dir.withFileName (name ++ imageSuffix)) } := by
  have hbeside : IsBeside (dir.withFileName (name ++ imageSuffix)) dir :=
    isBeside_withFileName hname
  refine ⟨by simp [hkind], by simp [hkind], nofun, ?_, ?_, ?_⟩
  · rintro _ ⟨⟩
    exact hbeside.namesImage
  · rintro _ ⟨⟩
    exact hbeside.components_ne
  · rintro _ ⟨⟩
    exact Or.inr ⟨hdir, hbeside⟩

/-- What has a place is laid out in it. -/
theorem LaysOut.not_unplaceable {plan : StorePlan} (h : LaysOut kind storePath storeRoot plan) :
    ¬Unplaceable kind storePath storeRoot := by
  have himage : kind ≠ .device → ∃ image, plan.imagePath = some image := fun hkind =>
    Option.isSome_iff_exists.mp (h.image_iff.mpr hkind)
  intro hnone
  cases hnone with
  | device hkind hmissing =>
    obtain ⟨device, hdevice⟩ := Option.isSome_iff_exists.mp (h.device_iff.mpr hkind)
    obtain ⟨hpath, hroot⟩ := h.device device hdevice
    rw [hpath, hroot] at hmissing
    exact hmissing.elim nofun nofun
  | missing hkind hpath hroot =>
    obtain ⟨image, himage⟩ := himage hkind
    obtain ⟨-, hgiven, -⟩ | ⟨hdir, -⟩ := h.place image himage
    · cases hpath.symm.trans hgiven
    · rw [hpath, hroot] at hdir
      cases hdir
  | nameless hkind hgiven hdir hname =>
    obtain ⟨image, himage⟩ := himage hkind
    obtain ⟨hkind, hpath, -⟩ | ⟨hchosen, front, name, hcomponents, -⟩ := h.place image himage
    · exact hgiven image ⟨hkind, hpath, h.namesImage image himage⟩
    · obtain rfl := Option.some.inj (hdir.symm.trans hchosen)
      exact hname front name hcomponents

/-- The image is none of the directories that lead to the store. -/
theorem LaysOut.image_notMem_ancestors {plan : StorePlan} {image : Path}
    (h : LaysOut kind storePath storeRoot plan) (himage : plan.imagePath = some image) :
    image ∉ plan.storeDir.ancestors := by
  have hlength : plan.storeDir.components.length ≤ image.components.length := by
    obtain ⟨-, -, hhome⟩ | ⟨-, hbeside⟩ := h.place image himage
    · exact hhome.length_le
    · exact hbeside.length_le
  intro hmem
  exact h.apart image himage ((components_prefix_of_mem_ancestors hmem).eq_of_length_le hlength)

/-- An image has a text. -/
theorem LaysOut.image_ne_empty {plan : StorePlan} {image : Path}
    (h : LaysOut kind storePath storeRoot plan) (himage : plan.imagePath = some image) :
    image.text ≠ "" := by
  obtain ⟨front, base, ext, -, hcomponents, -⟩ := h.namesImage image himage
  intro hempty
  rw [components_eq_nil_iff.mpr hempty] at hcomponents
  exact List.append_ne_nil_of_right_ne_nil front (List.cons_ne_nil _ _) hcomponents.symm

/-- What is behind the store has a text, if the given path has one. -/
theorem LaysOut.backing_ne_empty {plan : StorePlan} {backing : Path}
    (h : LaysOut kind storePath storeRoot plan) (hpath : ∀ p ∈ storePath, p.text ≠ "")
    (hbacking : plan.backing = some backing) : backing.text ≠ "" := by
  rw [StorePlan.backing] at hbacking
  obtain himage | ⟨-, hdevice⟩ := Option.or_eq_some_iff.mp hbacking
  · exact h.image_ne_empty himage
  · exact hpath backing (h.device backing hdevice).1

/-- The directory of the store has a text, if the default place has one. -/
theorem LaysOut.storeDir_ne_empty {plan : StorePlan}
    (h : LaysOut kind storePath storeRoot plan) (hroot : ∀ p ∈ storeRoot, p.text ≠ "") :
    plan.storeDir.text ≠ "" := by
  by_cases hkind : kind = .device
  · obtain ⟨device, hdevice⟩ := Option.isSome_iff_exists.mp (h.device_iff.mpr hkind)
    exact hroot plan.storeDir (h.device device hdevice).2
  · obtain ⟨image, himage⟩ := Option.isSome_iff_exists.mp (h.image_iff.mpr hkind)
    rw [Ne, ← components_eq_nil_iff]
    obtain ⟨-, -, front, name, -, hdir⟩ | ⟨-, front, name, hdir, -⟩ := h.place image himage
    · by_cases hempty : front = []
      · rw [if_pos hempty] at hdir
        rw [hdir]
        exact nofun
      · rw [if_neg hempty] at hdir
        rwa [hdir]
    · rw [hdir]
      exact List.append_ne_nil_of_right_ne_nil front (List.cons_ne_nil _ _)

/-- A store without an image of its own is laid out in the chosen directory. -/
theorem make_of_chosen (hkind : kind ≠ .device)
    (hgiven : ∀ image, ¬IsGivenImage kind storePath image) :
    make kind storePath storeRoot = directoryFor storePath storeRoot := by
  cases kind with
  | device => exact absurd rfl hkind
  | dir => rfl
  | image =>
    cases storePath with
    | none => rfl
    | some image =>
      have hext : ¬hasImageExtension image = true := fun hext =>
        hgiven image ⟨rfl, rfl, hasImageExtension_iff.mp hext⟩
      rw [make]
      exact if_neg hext

theorem directoryFor_of_fileName {dir : Path} {name : String}
    (hdir : storePath.or storeRoot = some dir) (hname : dir.fileName = some name) :
    directoryFor storePath storeRoot
      = .ok { storeDir := dir, imagePath := some (dir.withFileName (name ++ imageSuffix)) } := by
  rw [directoryFor, hdir]
  show (siblingImage dir).map _ = _
  rw [siblingImage, hname]
  rfl

theorem directoryFor_of_nameless {dir : Path} (hdir : storePath.or storeRoot = some dir)
    (hname : dir.fileName = none) :
    ∃ failure, directoryFor storePath storeRoot = .error failure := by
  rw [directoryFor, hdir]
  show ∃ failure, (siblingImage dir).map _ = .error failure
  rw [siblingImage, hname]
  exact ⟨_, rfl⟩

/-- A store that is no device and no given image is laid out beside its directory, or has no
place. -/
theorem directoryFor_outcome (hkind : kind ≠ .device)
    (hgiven : ∀ image, ¬IsGivenImage kind storePath image) :
    (∃ plan, directoryFor storePath storeRoot = .ok plan ∧ LaysOut kind storePath storeRoot plan) ∨
      ∃ failure, directoryFor storePath storeRoot = .error failure ∧
        Unplaceable kind storePath storeRoot := by
  cases hdir : storePath.or storeRoot with
  | none =>
    obtain ⟨hpath, hroot⟩ := Option.or_eq_none_iff.mp hdir
    exact Or.inr ⟨_, by rw [directoryFor, hdir], .missing hkind hpath hroot⟩
  | some dir =>
    cases hname : dir.fileName with
    | none =>
      obtain ⟨failure, hfailure⟩ := directoryFor_of_nameless hdir hname
      have hnameless : dir.Nameless := fileName_eq_none_iff.mp hname
      exact Or.inr ⟨failure, hfailure, .nameless hkind hgiven hdir hnameless⟩
    | some name =>
      exact Or.inl ⟨_, directoryFor_of_fileName hdir hname, .of_fileName hkind hdir hname⟩

/-- Planning lays a store out, or there is no place for it. -/
theorem make_outcome (kind : StoreKind) (storePath storeRoot : Option Path) :
    (∃ plan, make kind storePath storeRoot = .ok plan ∧ LaysOut kind storePath storeRoot plan) ∨
      ∃ failure, make kind storePath storeRoot = .error failure ∧
        Unplaceable kind storePath storeRoot := by
  by_cases hkind : kind = .device
  · subst hkind
    cases storePath with
    | none => exact Or.inr ⟨_, rfl, .device rfl (Or.inl rfl)⟩
    | some device =>
      cases storeRoot with
      | none => exact Or.inr ⟨_, rfl, .device rfl (Or.inr rfl)⟩
      | some root => exact Or.inl ⟨_, rfl, .of_device⟩
  · by_cases hgiven : ∃ image, IsGivenImage kind storePath image
    · obtain ⟨image, hgiven⟩ := hgiven
      have hplan : make kind storePath storeRoot
          = .ok { storeDir := directoryOfImage image, imagePath := some image } := by
        obtain ⟨rfl, rfl, himage⟩ := hgiven
        rw [make]
        exact if_pos (hasImageExtension_iff.mpr himage)
      exact Or.inl ⟨_, hplan, .of_given hgiven⟩
    · rw [not_exists] at hgiven
      rw [make_of_chosen hkind hgiven]
      exact directoryFor_outcome hkind hgiven

/-- **Every plan lays the store out.** -/
theorem laysOut_of_make {plan : StorePlan} (h : make kind storePath storeRoot = .ok plan) :
    LaysOut kind storePath storeRoot plan := by
  obtain ⟨plan', hmake, hplan⟩ | ⟨failure, hmake, -⟩ := make_outcome kind storePath storeRoot
  · obtain rfl := Except.ok.inj (hmake.symm.trans h)
    exact hplan
  · cases hmake.symm.trans h

/-- A plan lays the store out, and planning fails exactly where there is no place for
the store. -/
theorem laid_out_or_unplaceable (kind : StoreKind) (storePath storeRoot : Option Path) :
    (∀ plan, make kind storePath storeRoot = .ok plan → LaysOut kind storePath storeRoot plan) ∧
      ((∃ failure, make kind storePath storeRoot = .error failure) ↔
        Unplaceable kind storePath storeRoot) := by
  refine ⟨fun plan hmake => laysOut_of_make hmake, ?_⟩
  obtain ⟨plan, hmake, hplan⟩ | ⟨failure, hmake, hnone⟩ := make_outcome kind storePath storeRoot
  · rw [hmake]
    exact ⟨nofun, fun hnone => absurd hnone hplan.not_unplaceable⟩
  · rw [hmake]
    exact ⟨fun _ => hnone, fun _ => ⟨failure, rfl⟩⟩

/-- An image with a name alone is laid out in the current directory, and a directory that
ends upwards has no image. -/
theorem laid_out_or_unplaceable_relative :
    LaysOut .image (some ⟨"cache.v2.IMG"⟩) none
        { storeDir := ⟨"."⟩, imagePath := some ⟨"cache.v2.IMG"⟩ } ∧
      LaysOut .dir none (some ⟨"/srv/./.hidden//"⟩)
        { storeDir := ⟨"/srv/./.hidden//"⟩, imagePath := some ⟨"/srv/.hidden.img"⟩ } ∧
      Unplaceable .image (some ⟨"a.img/.."⟩) (some ⟨"/srv"⟩) :=
  ⟨(laid_out_or_unplaceable .image (some ⟨"cache.v2.IMG"⟩) none).1 _ (by decide),
    (laid_out_or_unplaceable .dir none (some ⟨"/srv/./.hidden//"⟩)).1 _ (by decide +kernel),
    (laid_out_or_unplaceable .image (some ⟨"a.img/.."⟩) (some ⟨"/srv"⟩)).2.mp ⟨_, rfl⟩⟩

end StorePlan

end BtrfsStore
