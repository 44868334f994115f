import BtrfsStore.Config
import BtrfsStore.Proofs.Config.Entries
/-!
# BtrfsStore.Proofs.Config.Edits

Setting and removing the value at the end of a path of names, as one kind of
change: an **edit** puts a value there or, without one, removes what is there.

`EditStep` says all that an edit does to the entries of a config: it is hindered
by a mapping with a tag and leaves it alone, or it finds nothing to remove, or it
edits the value under the first name in turn, or it removes this value. What is
said about edits from there on is an induction on the path, by `edit_eq_self_iff`
where an edit changes nothing and by `edit_step_of_diverge` where another path is
looked at.

* `lookup_edit`, `edit_of_hindered`: what is found at the end of the path.
* `lookupKeys_edit_of_diverge`: what is found at the end of other paths, whose keys
  may be any values.
* `edit_edit`, `edit_of_settled`: an edit that has been made need not be made
  again, not even after edits elsewhere.
-/

namespace BtrfsStore

namespace Yaml

variable {v w key : Yaml} {name : String}

/-! ### Shapes of values -/

/-- Whether the value is a mapping with a tag. -/
def isTaggedMapping : Yaml → Bool
  | tagged _ v => v.isMapping
  | _ => false

/-- The entries of a mapping without a tag. -/
def plainEntries : Yaml → Entries
  | map entries => entries
  | _ => []

@[simp] theorem get?_map (entries : Entries) :
    (map entries).get? name = Entries.get? name entries := rfl

@[simp] theorem getKey?_map (entries : Entries) :
    (map entries).getKey? key = Entries.getKey? key entries := rfl

/-- Nothing is found in what is no mapping. -/
theorem getKey?_of_not_mapping (hv : v.isMapping = false) (key : Yaml) : v.getKey? key = none := by
  unfold isMapping at hv
  unfold getKey?
  cases hshape : v.untagged with
  | map entries =>
    rw [hshape] at hv
    cases hv
  | _ => rfl

theorem get?_of_not_mapping (hv : v.isMapping = false) (name : String) : v.get? name = none := by
  rw [get?_eq_getKey?, getKey?_of_not_mapping hv]

/-- What is found in a value without a tagged mapping is found in its entries. -/
theorem getKey?_plainEntries (hv : v.isTaggedMapping = false) (key : Yaml) :
    v.getKey? key = Entries.getKey? key v.plainEntries := by
  cases v with
  | tagged t w => exact getKey?_of_not_mapping hv key
  | _ => rfl

theorem get?_plainEntries (hv : v.isTaggedMapping = false) (name : String) :
    v.get? name = Entries.get? name v.plainEntries := by
  rw [get?_eq_getKey?, getKey?_plainEntries hv, Entries.get?_eq_getKey?]

/-- No mapping that can be reached by names has a key twice. -/
inductive Unambiguous : Yaml → Prop
  | map {entries : Entries} (hdistinct : Entries.Distinct entries)
      (hvalues : ∀ e ∈ entries, Unambiguous e.2) : Unambiguous (.map entries)
  | tagged {t : String} {v : Yaml} (hv : Unambiguous v) : Unambiguous (.tagged t v)
  | plain {v : Yaml} (hv : v.isMapping = false) : Unambiguous v

/-- Where no mapping has a key twice, none that names lead to has. -/
theorem WellFormed.unambiguous (hv : WellFormed v) : Unambiguous v := by
  induction hv with
  | map hdistinct _ _ _ ihvalues => exact .map (.of_pairwise hdistinct) ihvalues
  | tagged t _ ih => exact .tagged ih
  | _ => exact .plain rfl

theorem Unambiguous.of_map {entries : Entries} (hu : Unambiguous (.map entries)) :
    Entries.Distinct entries ∧ ∀ e ∈ entries, Unambiguous e.2 := by
  cases hu with
  | map hdistinct hvalues => exact ⟨hdistinct, hvalues⟩
  | plain hv => cases hv

theorem Unambiguous.plainEntries (hu : Unambiguous v) : Unambiguous (.map v.plainEntries) := by
  cases v with
  | map entries => exact hu
  | _ => exact .map Entries.distinct_nil (List.forall_mem_nil _)

/-- What names lead to has no key twice either. -/
theorem Unambiguous.get? (hu : Unambiguous v) (hget : v.get? name = some w) : Unambiguous w := by
  induction hu with
  | map _ hvalues =>
    rw [get?_map, Entries.get?_eq_getKey?] at hget
    obtain ⟨e, he, -, rfl⟩ := Entries.mem_of_getKey? hget
    exact hvalues e he
  | tagged _ ih => exact ih hget
  | plain hv =>
    rw [get?_of_not_mapping hv] at hget
    cases hget

/-- Changing an entry leaves the keys distinct. -/
theorem Unambiguous.map_alter {entries : Entries} {default : Yaml} {f : Yaml → Yaml}
    (hu : Unambiguous (.map entries))
    (hf : Unambiguous (f ((Entries.get? name entries).getD default))) :
    Unambiguous (.map (Entries.alter name default f entries)) := by
  obtain ⟨hdistinct, hvalues⟩ := hu.of_map
  refine .map hdistinct.alter fun e he => ?_
  rcases Entries.mem_alter he with hold | hnew
  · exact hvalues e hold
  · rwa [hnew]

end Yaml

namespace Config

open Yaml

variable {k : String} {ks p q : List String} {value value' : Option Yaml} {c c' w key : Yaml}

theorem unambiguous_empty : Unambiguous empty := .map Entries.distinct_nil (List.forall_mem_nil _)

/-! ### Edits -/

/-- Puts a value at the end of a path. What stands in the way and is no mapping
is replaced; a mapping with a tag is left alone. -/
def overwrite : List String → Yaml → Yaml → Yaml
  | [], v, _ => v
  | k :: ks, v, c =>
    match asMapping c with
    | .map entries => .map (Entries.alter k empty (overwrite ks v) entries)
    | c => c

/-- Puts a value at the end of a path, or removes what is there. -/
def edit (path : List String) : Option Yaml → Yaml → Yaml
  | some v => overwrite path v
  | none => remove path

theorem set_eq_overwrite (k : String) (ks : List String) (v c : Yaml) :
    set (k :: ks) v c = overwrite (k :: ks) v c := by
  induction ks generalizing k c with
  | nil =>
    rw [set, overwrite]
    cases asMapping c with
    | map entries => exact congrArg Yaml.map Entries.put_eq_alter
    | _ => rfl
  | cons k' ks ih =>
    have hset : set (k :: k' :: ks) v c = match asMapping c with
        | .map entries => .map (Entries.alter k empty (set (k' :: ks) v) entries)
        | c => c := rfl
    rw [hset, overwrite]
    cases asMapping c with
    | map entries =>
      have hrest : set (k' :: ks) v = overwrite (k' :: ks) v := funext (ih k')
      exact congrArg (fun f => Yaml.map (Entries.alter k empty f entries)) hrest
    | _ => rfl

/-- Setting an entry and removing one are edits, with and without a value. -/
theorem setOrRemove_eq (hp : p ≠ []) (value : Option String) (c : Yaml) :
    setOrRemove p value c = edit p (value.map .str) c := by
  obtain ⟨k, ks, rfl⟩ := List.exists_cons_of_ne_nil hp
  cases value with
  | some s => exact set_eq_overwrite k ks (.str s) c
  | none => rfl

/-! ### One step of an edit -/

/-- Nothing is put into a mapping with a tag. -/
theorem overwrite_of_tagged (hc : c.isTaggedMapping = true) (v : Yaml) :
    overwrite (k :: ks) v c = c := by
  cases c with
  | tagged t w =>
    have hmapping : asMapping (.tagged t w) = .tagged t w := if_pos hc
    rw [overwrite, hmapping]
  | _ => cases hc

theorem overwrite_of_not_tagged (hc : c.isTaggedMapping = false) (v : Yaml) :
    overwrite (k :: ks) v c
      = .map (Entries.alter k empty (overwrite ks v) c.plainEntries) := by
  cases c with
  | tagged t w =>
    have hmapping : asMapping (.tagged t w) = empty := if_neg (Bool.eq_false_iff.mp hc)
    rw [overwrite, hmapping]
    rfl
  | _ => rfl

/-- A mapping with a tag stands in the way of setting anything in it, and of
removing its own entries, `ks` being what is left of the path after the next
name. -/
def Hinders (ks : List String) (value : Option Yaml) (c : Yaml) : Prop :=
  c.isTaggedMapping = true ∧ (value = none → ks = [])

/-- What an edit does to the entries of a config, `k` being the first name of its
path and `ks` the others. -/
inductive EditStep (k : String) (ks : List String) (value : Option Yaml) (c : Yaml) :
    Yaml → Prop
  /-- A tag is in the way. -/
  | hindered (hhinders : Hinders ks value c) : EditStep k ks value c c
  /-- There is nothing to remove. -/
  | absent (hvalue : value = none) (hget : c.get? k = none) : EditStep k ks value c c
  /-- The value under the name is edited in turn, or an empty mapping in its
  place. -/
  | entered {c' w : Yaml} (hfree : ¬Hinders ks value c) (hlast : value = none → ks ≠ [])
      (hw : c.get? k = some w ∨ value ≠ none ∧ c.get? k = none ∧ w = empty)
      (hget : c'.get? k = some (edit ks value w))
      (hothers : ∀ key, WellFormed key → isText k key = false → c'.getKey? key = c.getKey? key)
      (htagged : c'.isTaggedMapping = c.isTaggedMapping)
      (hsame : c.get? k = some w → edit ks value w = w → c' = c) : EditStep k ks value c c'
  /-- The value under the name is removed. -/
  | removed {c' w : Yaml} (hfree : ¬Hinders ks value c) (hvalue : value = none) (hks : ks = [])
      (hw : c.get? k = some w) (hget : c'.get? k = none)
      (hothers : ∀ key, WellFormed key → isText k key = false → c'.getKey? key = c.getKey? key)
      (htagged : c'.isTaggedMapping = c.isTaggedMapping) : EditStep k ks value c c'

/-- A change that is seen under the name, and under no other key, has entered the value. -/
theorem EditStep.enter {c' w : Yaml} (hfree : ¬Hinders ks value c) (hlast : value = none → ks ≠ [])
    (hw : c.get? k = some w ∨ value ≠ none ∧ c.get? k = none ∧ w = empty)
    (hget : ∀ key,
      c'.getKey? key = if isText k key then some (edit ks value w) else c.getKey? key)
    (htagged : c'.isTaggedMapping = c.isTaggedMapping)
    (hsame : c.get? k = some w → edit ks value w = w → c' = c) : EditStep k ks value c c' := by
  have hown : c'.get? k = some (edit ks value w) := by
    rw [get?_eq_getKey?, hget, isText_self, if_pos rfl]
  refine .entered hfree hlast hw hown (fun key _ hkey => ?_) htagged hsame
  rw [hget, hkey, if_neg Bool.false_ne_true]

/-- Putting a value somewhere is an edit step, whatever has been there. -/
theorem overwrite_step (v : Yaml) : EditStep k ks (some v) c (overwrite (k :: ks) v c) := by
  cases hc : c.isTaggedMapping with
  | true =>
    rw [overwrite_of_tagged hc]
    exact .hindered ⟨hc, nofun⟩
  | false =>
    rw [overwrite_of_not_tagged hc]
    have hfree : ¬Hinders ks (some v) c := fun h => Bool.false_ne_true (hc.symm.trans h.1)
    have hget : ∀ key,
        (Yaml.map (Entries.alter k empty (overwrite ks v) c.plainEntries)).getKey? key
          = if isText k key then some (overwrite ks v ((c.get? k).getD empty))
            else c.getKey? key := by
      intro key
      rw [getKey?_map, Entries.getKey?_alter, ← get?_plainEntries hc, ← getKey?_plainEntries hc]
    -- A missing value is an empty mapping that is edited in turn.
    refine .enter hfree nofun ?_ hget hc.symm ?_
    · cases hk : c.get? k with
      | some w => exact .inl rfl
      | none => exact .inr ⟨nofun, rfl, rfl⟩
    · intro hk hsame
      cases c with
      | map entries => exact congrArg Yaml.map (Entries.alter_eq_self hk hsame)
      | tagged t w =>
        have hnone : (Yaml.tagged t w).get? k = none := get?_of_not_mapping (v := .tagged t w) hc k
        rw [hnone] at hk
        cases hk
      | _ => cases hk

/-- Removing an entry of the config itself. -/
theorem remove_last_step (hu : Unambiguous c) : EditStep k [] none c (remove [k] c) := by
  cases c with
  | map entries =>
    have hdistinct := hu.of_map.1
    cases hk : Entries.get? k entries with
    | none =>
      rw [remove, Entries.erase_eq_self hk]
      exact .absent rfl hk
    | some w =>
      exact .removed (fun h => Bool.false_ne_true h.1) rfl rfl hk
        (Entries.get?_erase_self hdistinct)
        (fun _ hwell hkey => Entries.getKey?_erase_of_ne hdistinct hwell hkey) rfl
  | tagged t w =>
    cases hw : w.isMapping with
    | true => exact .hindered ⟨hw, fun _ => rfl⟩
    | false => exact .absent rfl (get?_of_not_mapping hw k)
  | _ => exact .absent rfl rfl

section

variable {f : Yaml → Yaml}

theorem alterExisting_of_absent (hk : c.get? k = none) : alterExisting k f c = c := by
  fun_induction alterExisting k f c with
  | case1 t v ih => exact congrArg (Yaml.tagged t) (ih hk)
  | case2 entries hsome =>
    rw [get?_map] at hk
    rw [hk] at hsome
    cases hsome
  | case3 | case4 => rfl

theorem isMapping_alterExisting : (alterExisting k f c).isMapping = c.isMapping := by
  fun_induction alterExisting k f c with
  | case1 t v ih => exact ih
  | case2 | case3 | case4 => rfl

theorem isTaggedMapping_alterExisting :
    (alterExisting k f c).isTaggedMapping = c.isTaggedMapping := by
  fun_cases alterExisting k f c with
  | case1 t v => exact isMapping_alterExisting
  | case2 | case3 | case4 => rfl

/-- A change of the value under a name is seen under no other key. -/
theorem getKey?_alterExisting (hk : c.get? k = some w) (key : Yaml) :
    (alterExisting k f c).getKey? key = if isText k key then some (f w) else c.getKey? key := by
  fun_induction alterExisting k f c with
  | case1 t v ih => exact ih hk
  | case2 entries hsome =>
    rw [get?_map] at hk
    rw [getKey?_map, getKey?_map, Entries.getKey?_alter, hk, Option.getD_some]
  | case3 entries hnone =>
    rw [get?_map] at hk
    rw [hk] at hnone
    cases hnone rfl
  | case4 v htagged hmap =>
    cases v with
    | tagged t w => exact (htagged t w rfl).elim
    | map entries => exact (hmap entries rfl).elim
    | _ => cases hk

theorem alterExisting_eq_self (hk : c.get? k = some w) (hf : f w = w) :
    alterExisting k f c = c := by
  fun_induction alterExisting k f c with
  | case1 t v ih => exact congrArg (Yaml.tagged t) (ih hk)
  | case2 entries hsome => exact congrArg Yaml.map (Entries.alter_eq_self hk hf)
  | case3 | case4 => rfl

end

/-- Further up, removing a value is a step into the value that holds it. -/
theorem remove_step {k' : String} : EditStep k (k' :: ks) none c (remove (k :: k' :: ks) c) := by
  have hfree : ¬Hinders (k' :: ks) none c := fun h => nomatch h.2 rfl
  rw [remove]
  · cases hk : c.get? k with
    | none =>
      rw [alterExisting_of_absent hk]
      exact .absent rfl hk
    | some w =>
      exact .enter hfree nofun (.inl hk) (getKey?_alterExisting hk) isTaggedMapping_alterExisting
        fun _ => alterExisting_eq_self hk
  · exact List.cons_ne_nil k' ks

/-- **All that an edit does** to the entries of a config. -/
theorem edit_step (hu : Unambiguous c) (k : String) (ks : List String) (value : Option Yaml) :
    EditStep k ks value c (edit (k :: ks) value c) := by
  cases value with
  | some v => exact overwrite_step v
  | none =>
    -- Only where the path ends is an entry removed; before, tags are looked through.
    cases ks with
    | nil => exact remove_last_step hu
    | cons k' ks => exact remove_step

/-- An edit changes nothing when it is hindered, has nothing to remove or changes
nothing further on. -/
theorem edit_eq_self_iff (hu : Unambiguous c) : edit (k :: ks) value c = c ↔
    Hinders ks value c ∨ (value = none ∧ c.get? k = none) ∨
      ((value = none → ks ≠ []) ∧ ∃ w, c.get? k = some w ∧ edit ks value w = w) := by
  have hstep := edit_step hu k ks value
  generalize edit (k :: ks) value c = d at hstep
  constructor
  · rintro rfl
    cases hstep with
    | hindered hhinders => exact .inl hhinders
    | absent hvalue hget => exact .inr (.inl ⟨hvalue, hget⟩)
    -- What is found under the name afterwards is the edited value: it has been there before.
    | entered _ hlast hw hget _ _ _ =>
      obtain hsome | ⟨-, hnone, -⟩ := hw
      · exact .inr (.inr ⟨hlast, _, hsome, Option.some.inj (hget.symm.trans hsome)⟩)
      · cases hnone.symm.trans hget
    | removed _ _ _ hw hget _ _ => cases hw.symm.trans hget
  · rintro (hhinders | ⟨hvalue, hnone⟩ | ⟨hks, w, hsome, hsettled⟩)
    · cases hstep with
      | hindered _ | absent _ _ => rfl
      | entered hfree _ _ _ _ _ _ | removed hfree _ _ _ _ _ _ => exact absurd hhinders hfree
    · cases hstep with
      | hindered _ | absent _ _ => rfl
      | entered _ _ hw _ _ _ _ =>
        obtain hsome | ⟨hsome, -⟩ := hw
        · cases hnone.symm.trans hsome
        · exact absurd hvalue hsome
      | removed _ _ _ hw _ _ _ => cases hnone.symm.trans hw
    · cases hstep with
      | hindered _ | absent _ _ => rfl
      | @entered _ w' _ _ hw _ _ _ hsame =>
        obtain hw' | ⟨-, hnone, -⟩ := hw
        · obtain rfl := Option.some.inj (hw'.symm.trans hsome)
          exact hsame hsome hsettled
        · cases hnone.symm.trans hsome
      | removed _ hvalue hnil _ _ _ _ => exact absurd hnil (hks hvalue)

/-- Without a value, an edit has nothing to do to an empty mapping. -/
theorem edit_none_empty (p : List String) : edit p none empty = empty := by
  cases p with
  | nil => rfl
  | cons k ks => exact (edit_eq_self_iff unambiguous_empty).mpr (.inr (.inl ⟨rfl, rfl⟩))

/-! ### Keys stay distinct -/

theorem unambiguous_overwrite {v : Yaml} (hv : Unambiguous v) (hu : Unambiguous c) :
    Unambiguous (overwrite p v c) := by
  induction p generalizing c with
  | nil => exact hv
  | cons k ks ih =>
    cases hc : c.isTaggedMapping with
    | true => rwa [overwrite_of_tagged hc]
    | false =>
      rw [overwrite_of_not_tagged hc]
      refine hu.plainEntries.map_alter (ih ?_)
      cases hk : Entries.get? k c.plainEntries with
      | none => exact unambiguous_empty
      | some w => exact hu.plainEntries.get? hk

theorem unambiguous_alterExisting {f : Yaml → Yaml} (hf : ∀ w, Unambiguous w → Unambiguous (f w))
    (hu : Unambiguous c) : Unambiguous (alterExisting k f c) := by
  induction hu with
  | @map entries hdistinct hvalues =>
    have hmap : Unambiguous (.map entries) := .map hdistinct hvalues
    rw [alterExisting]
    split
    next hsome =>
      obtain ⟨w, hw⟩ := Option.isSome_iff_exists.mp hsome
      refine hmap.map_alter ?_
      rw [hw]
      exact hf w (hmap.get? hw)
    next => exact hmap
  | tagged _ ih => exact .tagged ih
  | plain hv => exact .plain (isMapping_alterExisting.trans hv)

theorem unambiguous_remove (hu : Unambiguous c) : Unambiguous (remove p c) := by
  induction p generalizing c with
  | nil => exact hu
  | cons k ks ih =>
    cases ks with
    | nil =>
      cases c with
      | map entries =>
        obtain ⟨hdistinct, hvalues⟩ := hu.of_map
        exact .map hdistinct.erase fun e he => hvalues e ((Entries.mem_erase_iff hdistinct).mp he).1
      | _ => exact hu
    | cons k' ks =>
      rw [remove]
      · exact unambiguous_alterExisting (fun w hw => ih hw) hu
      · exact List.cons_ne_nil k' ks

/-- An edit leaves no key twice if the value that it puts has none. -/
theorem unambiguous_edit (hvalue : ∀ v, value = some v → Unambiguous v) (hu : Unambiguous c) :
    Unambiguous (edit p value c) := by
  cases value with
  | some v => exact unambiguous_overwrite (hvalue v rfl) hu
  | none => exact unambiguous_remove hu

/-! ### What is found at the end of the path -/

/-- A mapping with a tag stands in the way of an edit. -/
def Hindered (path : List String) (value : Option Yaml) (c : Yaml) : Prop :=
  ∃ way k rest w, path = way ++ k :: rest ∧ lookup way c = some w ∧ Hinders rest value w

theorem not_hindered_nil : ¬Hindered [] value c := by
  intro hhindered
  obtain ⟨way, k, rest, w, hpath, -⟩ := hhindered
  cases way <;> cases hpath

/-- An edit is hindered at once or further on. -/
theorem hindered_cons : Hindered (k :: ks) value c ↔
    Hinders ks value c ∨ ∃ w, c.get? k = some w ∧ Hindered ks value w := by
  constructor
  · rintro ⟨_ | ⟨j, way⟩, k', rest, w, hpath, hway, hhinders⟩
    · obtain ⟨rfl, rfl⟩ := List.cons.inj hpath
      obtain rfl := Option.some.inj hway
      exact .inl hhinders
    · obtain ⟨rfl, rfl⟩ := List.cons.inj hpath
      obtain ⟨w', hw', hrest⟩ := Option.bind_eq_some_iff.mp hway
      exact .inr ⟨w', hw', way, k', rest, w, rfl, hrest, hhinders⟩
  · rintro (hhinders | ⟨w, hw, way, k', rest, w', rfl, hway, hhinders⟩)
    · exact ⟨[], k, ks, c, rfl, rfl, hhinders⟩
    · refine ⟨k :: way, k', rest, w', rfl, ?_, hhinders⟩
      rw [lookup, hw]
      exact hway

theorem not_hindered_empty : ¬Hindered p value empty := by
  cases p with
  | nil => exact not_hindered_nil
  | cons k ks =>
    rw [hindered_cons]
    rintro (⟨htagged, -⟩ | ⟨w, hw, -⟩)
    · cases htagged
    · cases hw

/-- An edit that nothing hinders does what it is for. -/
theorem lookup_edit (hu : Unambiguous c) (hp : p ≠ [] ∨ value ≠ none)
    (hfree : ¬Hindered p value c) : lookup p (edit p value c) = value := by
  -- An edit goes on in the value under the first name, so the config varies.
  induction p generalizing c with
  | nil =>
    cases value with
    | some v => rfl
    | none =>
      obtain hp | hvalue := hp
      · exact absurd rfl hp
      · exact absurd rfl hvalue
  | cons k ks ih =>
    obtain ⟨hhere, hrest⟩ := not_or.mp (mt hindered_cons.mpr hfree)
    have hstep := edit_step hu k ks value
    generalize edit (k :: ks) value c = d at hstep
    rw [lookup]
    cases hstep with
    | hindered hhinders => exact absurd hhinders hhere
    | absent hvalue hget => rw [hget, hvalue]; rfl
    | removed _ hvalue _ _ hget _ _ => rw [hget, hvalue]; rfl
    | @entered _ w _ hlast hw hget _ _ _ =>
      rw [hget, Option.bind_some]
      have hgoal : ks ≠ [] ∨ value ≠ none := by
        cases value with
        | some v => exact .inr (Option.some_ne_none v)
        | none => exact .inl (hlast rfl)
      obtain hsome | ⟨-, -, rfl⟩ := hw
      · exact ih (hu.get? hsome) hgoal fun h => hrest ⟨w, hsome, h⟩
      · exact ih unambiguous_empty hgoal not_hindered_empty

/-- A tag in the way keeps an edit from doing anything. -/
theorem edit_of_hindered (hu : Unambiguous c) (hhindered : Hindered p value c) :
    edit p value c = c := by
  induction p generalizing c with
  | nil => exact absurd hhindered not_hindered_nil
  | cons k ks ih =>
    rw [edit_eq_self_iff hu]
    obtain hhinders | ⟨w, hw, hbelow⟩ := hindered_cons.mp hhindered
    · exact .inl hhinders
    · have hks : ks ≠ [] := fun h => not_hindered_nil (h ▸ hbelow)
      exact .inr (.inr ⟨fun _ => hks, w, hw, ih (hu.get? hw) hbelow⟩)

/-! ### What is found at the end of other paths -/

section

variable {α : Type} {a b : α} {as bs : List α}

/-- Neither path leads through the end of the other. -/
def Diverge (as bs : List α) : Prop := ¬as <+: bs ∧ ¬bs <+: as

instance [DecidableEq α] (as bs : List α) : Decidable (Diverge as bs) :=
  inferInstanceAs (Decidable (¬as <+: bs ∧ ¬bs <+: as))

theorem not_diverge_nil_left : ¬Diverge [] as := fun h => h.1 List.nil_prefix

theorem not_diverge_nil_right : ¬Diverge as [] := fun h => h.2 List.nil_prefix

/-- Paths diverge at their first keys or after them. -/
theorem diverge_cons : Diverge (a :: as) (b :: bs) ↔ a = b → Diverge as bs := by
  by_cases hab : a = b
  · subst hab
    simp [Diverge, List.cons_prefix_cons]
  · simp [Diverge, List.cons_prefix_cons, hab, Ne.symm hab]

theorem Diverge.symm (h : Diverge as bs) : Diverge bs as := ⟨h.2, h.1⟩

end

/-- Names diverge as keys if they diverge. -/
theorem diverge_map_str : Diverge (p.map Yaml.str) (q.map Yaml.str) ↔ Diverge p q := by
  induction p generalizing q with
  | nil => exact iff_of_false not_diverge_nil_left not_diverge_nil_left
  | cons k ks ih =>
    cases q with
    | nil => exact iff_of_false not_diverge_nil_right not_diverge_nil_right
    | cons k' ks' => rw [List.map_cons, List.map_cons, diverge_cons, diverge_cons, str.injEq, ih]

/-- As far as another path goes, an edit changes nothing under its first key,
unless both go on there. -/
theorem edit_step_of_diverge {keys : List Yaml} (value : Option Yaml) (hu : Unambiguous c)
    (hkey : WellFormed key) (hpq : Diverge ((k :: ks).map Yaml.str) (key :: keys)) :
    (edit (k :: ks) value c).isTaggedMapping = c.isTaggedMapping ∧
      ((edit (k :: ks) value c).getKey? key = c.getKey? key ∨
        (.str k = key ∧ Diverge (ks.map .str) keys) ∧
          ∃ w, (c.getKey? key = some w ∨ c.getKey? key = none ∧ w = empty) ∧
            (edit (k :: ks) value c).getKey? key = some (edit ks value w)) := by
  have hrest := diverge_cons.mp hpq
  have hstep := edit_step hu k ks value
  generalize edit (k :: ks) value c = d at hstep
  cases hstep with
  | hindered _ | absent _ _ => exact ⟨rfl, .inl rfl⟩
  | @entered _ w _ _ hw hget hothers htagged _ =>
    refine ⟨htagged, ?_⟩
    cases hname : isText k key with
    | false => exact .inl (hothers key hkey hname)
    | true =>
      obtain rfl := eq_str_of_isText hname
      rw [← get?_eq_getKey?, ← get?_eq_getKey?]
      exact .inr ⟨⟨rfl, hrest rfl⟩, w, hw.imp_right And.right, hget⟩
  | removed _ _ hks _ _ hothers htagged =>
    subst hks
    refine ⟨htagged, .inl (hothers key hkey ?_)⟩
    by_contra hname
    exact not_diverge_nil_left (hrest (eq_str_of_isText (eq_true_of_ne_false hname)).symm)

/-- **An edit elsewhere** does not change what is found at the end of a path, whatever
its keys are. -/
theorem lookupKeys_edit_of_diverge {keys : List Yaml} (hu : Unambiguous c)
    (hkeys : ∀ key ∈ keys, WellFormed key) (hpq : Diverge (p.map Yaml.str) keys) :
    lookupKeys keys (edit p value c) = lookupKeys keys c := by
  induction p generalizing keys c with
  | nil => exact absurd hpq not_diverge_nil_left
  | cons k ks ih =>
    cases keys with
    | nil => exact absurd hpq not_diverge_nil_right
    | cons key keys =>
      obtain ⟨hkey, hfurther⟩ := List.forall_mem_cons.mp hkeys
      rw [lookupKeys, lookupKeys]
      obtain ⟨-, hsame | ⟨⟨rfl, hrest⟩, w, hw, hget⟩⟩ := edit_step_of_diverge value hu hkey hpq
      · rw [hsame]
      · rw [hget, Option.bind_some]
        obtain hsome | ⟨hnone, rfl⟩ := hw
        · rw [hsome, Option.bind_some]
          exact ih (hu.get? ((get?_eq_getKey? k c).trans hsome)) hfurther hrest
        · rw [hnone, Option.bind_none, ih unambiguous_empty hfurther hrest]
          -- The other path goes on, and an empty mapping holds nothing.
          cases keys with
          | nil => exact absurd hrest not_diverge_nil_right
          | cons _ _ => rfl

/-- `edit_step_of_diverge` for another path of names. -/
theorem edit_step_of_diverge_names {k' : String} {ks' : List String} (value : Option Yaml)
    (hu : Unambiguous c) (hpq : Diverge (k :: ks) (k' :: ks')) :
    (edit (k :: ks) value c).isTaggedMapping = c.isTaggedMapping ∧
      ((edit (k :: ks) value c).get? k' = c.get? k' ∨
        (k = k' ∧ Diverge ks ks') ∧ ∃ w, (c.get? k' = some w ∨ c.get? k' = none ∧ w = empty) ∧
          (edit (k :: ks) value c).get? k' = some (edit ks value w)) := by
  have hstep := edit_step_of_diverge value hu (.str k') (diverge_map_str.mpr hpq)
  simpa only [get?_eq_getKey?, diverge_map_str, str.injEq] using hstep

/-- What hinders an edit is not changed by edits elsewhere. -/
theorem hindered_edit_iff (hu : Unambiguous c) (hpq : Diverge p q) :
    Hindered q value' (edit p value c) ↔ Hindered q value' c := by
  induction p generalizing q c with
  | nil => exact absurd hpq not_diverge_nil_left
  | cons k ks ih =>
    cases q with
    | nil => exact absurd hpq not_diverge_nil_right
    | cons k' ks' =>
      obtain ⟨htagged, helse⟩ := edit_step_of_diverge_names value hu hpq
      rw [hindered_cons, hindered_cons, Hinders, Hinders, htagged]
      obtain hsame | ⟨⟨rfl, hrest⟩, w, hw, hget⟩ := helse
      · rw [hsame]
      · obtain hsome | ⟨hnone, rfl⟩ := hw
        · simp only [hget, hsome, Option.some.injEq, exists_eq_left', ih (hu.get? hsome) hrest]
        · simp only [hget, hnone, Option.some.injEq, exists_eq_left', ih unambiguous_empty hrest,
            not_hindered_empty, reduceCtorEq, false_and, exists_false]

/-! ### Edits that have been made -/

/-- Making an edit again changes nothing. -/
theorem edit_edit (hu : Unambiguous c) (hvalue : ∀ v, value = some v → Unambiguous v) :
    edit p value (edit p value c) = edit p value c := by
  induction p generalizing c with
  | nil => cases value <;> rfl
  | cons k ks ih =>
    rw [edit_eq_self_iff (unambiguous_edit hvalue hu)]
    have hstep := edit_step hu k ks value
    generalize edit (k :: ks) value c = d at hstep
    cases hstep with
    | hindered hhinders => exact .inl hhinders
    | absent hvalue hget => exact .inr (.inl ⟨hvalue, hget⟩)
    | entered _ hlast hw hget _ _ _ =>
      refine .inr (.inr ⟨hlast, _, hget, ?_⟩)
      obtain hsome | ⟨-, -, rfl⟩ := hw
      · exact ih (hu.get? hsome)
      · exact ih unambiguous_empty
    | removed _ hvalue _ _ hget _ _ => exact .inr (.inl ⟨hvalue, hget⟩)

/-- An edit that changes nothing does not do so after an edit elsewhere either. -/
theorem edit_of_settled (hu : Unambiguous c) (hvalue : ∀ v, value = some v → Unambiguous v)
    (hpq : Diverge p q) (hsettled : edit q value' c = c) :
    edit q value' (edit p value c) = edit p value c := by
  induction p generalizing q c with
  | nil => exact absurd hpq not_diverge_nil_left
  | cons k ks ih =>
    cases q with
    | nil => exact absurd hpq not_diverge_nil_right
    | cons k' ks' =>
      rw [edit_eq_self_iff hu] at hsettled
      rw [edit_eq_self_iff (unambiguous_edit hvalue hu)]
      obtain ⟨htagged, helse⟩ := edit_step_of_diverge_names value hu hpq
      rw [Hinders, htagged]
      obtain hsame | ⟨⟨rfl, hrest⟩, w, hw, hget⟩ := helse
      · rw [hsame]
        exact hsettled
      · -- Both edits go on in the same value: what settles the second one is there.
        have hks' : ks' ≠ [] := fun h => not_diverge_nil_right (h ▸ hrest)
        refine hsettled.imp_right fun hsettled => .inr ⟨fun _ => hks', _, hget, ?_⟩
        obtain hsome | ⟨hnone, rfl⟩ := hw
        · obtain ⟨-, hnone⟩ | ⟨-, w', hw', hsettled⟩ := hsettled
          · cases hnone.symm.trans hsome
          · obtain rfl := Option.some.inj (hsome.symm.trans hw')
            exact ih (hu.get? hsome) hrest hsettled
        · obtain ⟨rfl, -⟩ | ⟨-, w', hw', -⟩ := hsettled
          · exact ih unambiguous_empty hrest (edit_none_empty ks')
          · cases hnone.symm.trans hw'

end Config

end BtrfsStore
