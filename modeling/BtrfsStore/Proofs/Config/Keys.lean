import Mathlib.Data.List.Forall2
import BtrfsStore.Yaml.Value
/-!
# BtrfsStore.Proofs.Config.Keys

Keys of mappings, and what is found under them.

A key of a mapping is any value. Two keys are the same if they differ in nothing but the
order of entries, the sign of a zero and the mark in front of a tag. That keys which are
the same as a third one are the same as each other (`WellFormed.sameKey_of_sameKey`) takes
a third one that has no key twice itself: only then are as many entries found in another
mapping as it has. So keys that are not the same as each other have no third one in common
(`Apart`), and a mapping in which no two keys are the same has at most one entry for a key.

`getKey?` and `lookupKeys` find a value under a key and at the end of a path of keys. A text
is the same as no other value, so that they are `get?` and `lookup` where all keys are
names.
-/

namespace BtrfsStore

/-! ### Numbers as keys -/

namespace Binary64

variable {a b c : Binary64}

/-- The number is one of the two zeros. -/
def IsZero (a : Binary64) : Prop := ∃ negative exponent, a = .finite negative 0 exponent

/-- Numbers are the same key if they are equal, and all zeros are. -/
theorem sameKey_iff : a.sameKey b = true ↔ a = b ∨ a.IsZero ∧ b.IsZero := by
  unfold sameKey
  split
  next s e s' e' => exact iff_of_true rfl (.inr ⟨⟨s, e, rfl⟩, s', e', rfl⟩)
  next hzero =>
    rw [beq_iff_eq]
    refine ⟨.inl, ?_⟩
    rintro (heq | ⟨⟨s, e, rfl⟩, s', e', rfl⟩)
    · exact heq
    · exact (hzero s e s' e' rfl rfl).elim

theorem sameKey_refl (a : Binary64) : a.sameKey a = true := sameKey_iff.mpr (.inl rfl)

theorem sameKey_trans (hab : a.sameKey b = true) (hbc : b.sameKey c = true) :
    a.sameKey c = true := by
  rw [sameKey_iff] at hab hbc ⊢
  obtain rfl | ⟨ha, hb⟩ := hab
  · exact hbc
  · obtain rfl | ⟨-, hc⟩ := hbc
    · exact .inr ⟨ha, hb⟩
    · exact .inr ⟨ha, hc⟩

theorem sameKey_symm (hab : a.sameKey b = true) : b.sameKey a = true := by
  rw [sameKey_iff] at hab ⊢
  exact hab.imp Eq.symm And.symm

end Binary64

namespace Yaml

variable {a b c key : Yaml} {name : String}

-- Only here are keys compared by computing; later modules use the laws.
attribute [local simp] sameKey sameItems sameEntries isText

/-! ### Texts as keys -/

/-- Nothing but a text is a text. -/
theorem eq_str_of_isText (hkey : isText name key = true) : key = .str name := by
  cases key with
  | str s =>
    obtain rfl : name = s := by simpa using hkey
    rfl
  | _ => cases hkey

theorem isText_self (name : String) : isText name (.str name) = true := by simp

/-- A text is the same key as itself and as nothing else. -/
theorem sameKey_str (name : String) (key : Yaml) : sameKey (.str name) key = isText name key := by
  cases key <;> simp

/-- Only a text is the same key as a text. -/
theorem sameKey_of_isText {other : Yaml} (hname : isText name other = true) :
    sameKey key other = isText name key := by
  rw [eq_str_of_isText hname]
  cases key <;> simp [eq_comm]

/-! ### Composed keys -/

/-- Two entries have the same key and values that would be the same keys. -/
def SameEntry (e e' : Yaml × Yaml) : Prop := sameKey e.1 e'.1 = true ∧ sameKey e.2 e'.2 = true

/-- Sequences are compared item by item. -/
theorem sameItems_iff {as bs : List Yaml} : sameItems as bs = true ↔
    List.Forall₂ (fun a b => sameKey a b = true) as bs := by
  induction as generalizing bs with
  | nil => cases bs <;> simp
  | cons a as ih => cases bs <;> simp [ih]

/-- Entries are looked for among the other entries, wherever these stand. -/
theorem sameEntries_iff {as bs : Entries} :
    sameEntries as bs = true ↔ ∀ e ∈ as, ∃ e' ∈ bs, SameEntry e e' := by
  induction as with
  | nil => simp
  | cons e as ih => simp [ih, SameEntry]

theorem sameKey_real_iff {x : Binary64} :
    sameKey (.real x) b = true ↔ ∃ y, b = .real y ∧ x.sameKey y = true := by
  cases b <;> simp

theorem sameKey_seq_iff {as : List Yaml} : sameKey (.seq as) b = true ↔
    ∃ bs, b = .seq bs ∧ as.length = bs.length ∧
      ∀ i (hi : i < as.length) (hi' : i < bs.length), sameKey as[i] bs[i] = true := by
  cases b <;> simp [sameItems_iff, List.forall₂_iff_get]

/-- Mappings are the same key if they are of one length and the entries of the first one are
found in the second. -/
theorem sameKey_map_iff {as : Entries} : sameKey (.map as) b = true ↔
    ∃ bs, b = .map bs ∧ as.length = bs.length ∧ ∀ e ∈ as, ∃ e' ∈ bs, SameEntry e e' := by
  cases b <;> simp [sameEntries_iff]

/-- The mark in front of a tag does not matter. -/
theorem sameKey_tagged_iff {t : String} : sameKey (.tagged t a) b = true ↔
    ∃ t' b', b = .tagged t' b' ∧ Tag.bareName t = Tag.bareName t' ∧ sameKey a b' = true := by
  cases b <;> simp

/-! ### Values without a key twice -/

/-- If no two of a list are found in the same place of another list that is no longer, all
places of that one are taken. -/
theorem exists_of_length_eq {α β : Type} {R : α → β → Prop} {as : List α} {bs : List β}
    (hlength : as.length = bs.length) (hapart : as.Pairwise fun a a' => ∀ b, R a b → ¬R a' b)
    (hall : ∀ a ∈ as, ∃ b ∈ bs, R a b) : ∀ b ∈ bs, ∃ a ∈ as, R a b := by
  induction as generalizing bs with
  | nil =>
    obtain rfl := List.length_eq_zero_iff.mp hlength.symm
    exact List.forall_mem_nil _
  | cons a as ih =>
    obtain ⟨hfirst, hapart⟩ := List.pairwise_cons.mp hapart
    obtain ⟨⟨b₀, hb₀, hR⟩, hall⟩ := List.forall_mem_cons.mp hall
    obtain ⟨before, after, rfl⟩ := List.mem_iff_append.mp hb₀
    -- The others are found in the other places.
    have hrest : ∀ a' ∈ as, ∃ b ∈ before ++ after, R a' b := by
      intro a' ha'
      obtain ⟨b, hb, hR'⟩ := hall a' ha'
      have hne : b ≠ b₀ := fun h => hfirst a' ha' b₀ hR (h ▸ hR')
      exact ⟨b, by simpa [hne] using hb, hR'⟩
    have hothers := ih (by simp at hlength ⊢; omega) hapart hrest
    intro b hb
    by_cases hb' : b = b₀
    · exact ⟨a, List.mem_cons_self, hb' ▸ hR⟩
    · obtain ⟨a', ha', hR'⟩ := hothers b (by simpa [hb'] using hb)
      exact ⟨a', List.mem_cons_of_mem a ha', hR'⟩

/-- No mapping in the value has a key twice, at whatever depth, and be it in another key. -/
inductive WellFormed : Yaml → Prop
  | null : WellFormed .null
  | bool (b : Bool) : WellFormed (.bool b)
  | int (n : Int) : WellFormed (.int n)
  | real (x : Binary64) : WellFormed (.real x)
  | str (s : String) : WellFormed (.str s)
  | seq {items : List Yaml} (hitems : ∀ v ∈ items, WellFormed v) : WellFormed (.seq items)
  | map {entries : Entries}
      (hdistinct : (entries.map Prod.fst).Pairwise fun k k' => sameKey k k' = false)
      (hkeys : ∀ e ∈ entries, WellFormed e.1) (hvalues : ∀ e ∈ entries, WellFormed e.2) :
      WellFormed (.map entries)
  | tagged (t : String) {v : Yaml} (hv : WellFormed v) : WellFormed (.tagged t v)

namespace WellFormed

/-- A value without a key twice is the same key as itself. -/
theorem sameKey_refl (ha : WellFormed a) : sameKey a a = true := by
  induction ha with
  | null => rfl
  | bool | int | str => simp
  | real x => simpa using x.sameKey_refl
  | seq _ ih =>
    exact sameKey_seq_iff.mpr ⟨_, rfl, rfl, fun i hi _ => ih _ (List.getElem_mem hi)⟩
  | map _ _ _ ihkeys ihvalues =>
    exact sameKey_map_iff.mpr ⟨_, rfl, rfl, fun e he => ⟨e, he, ihkeys e he, ihvalues e he⟩⟩
  | tagged t _ ih => exact sameKey_tagged_iff.mpr ⟨t, _, rfl, rfl, ih⟩

/-- What is the same as a second value that is the same as a third one is the same as this.
-/
theorem sameKey_trans (ha : WellFormed a) (hab : sameKey a b = true)
    (hbc : sameKey b c = true) : sameKey a c = true := by
  induction ha generalizing b c with
  | null | bool | int | str =>
    -- Only the value itself is the same key.
    cases b <;> simp_all
  | real x =>
    obtain ⟨y, rfl, hxy⟩ := sameKey_real_iff.mp hab
    obtain ⟨z, rfl, hyz⟩ := sameKey_real_iff.mp hbc
    exact sameKey_real_iff.mpr ⟨z, rfl, x.sameKey_trans hxy hyz⟩
  | seq _ ih =>
    obtain ⟨bs, rfl, hlength, hab⟩ := sameKey_seq_iff.mp hab
    obtain ⟨cs, rfl, hlength', hbc⟩ := sameKey_seq_iff.mp hbc
    refine sameKey_seq_iff.mpr ⟨cs, rfl, hlength.trans hlength', fun i hi hi'' => ?_⟩
    have hi' := hlength ▸ hi
    exact ih _ (List.getElem_mem hi) (hab i hi hi') (hbc i hi' hi'')
  | map _ _ _ ihkeys ihvalues =>
    obtain ⟨bs, rfl, hlength, hab⟩ := sameKey_map_iff.mp hab
    obtain ⟨cs, rfl, hlength', hbc⟩ := sameKey_map_iff.mp hbc
    refine sameKey_map_iff.mpr ⟨cs, rfl, hlength.trans hlength', fun e he => ?_⟩
    obtain ⟨e', he', hkey, hvalue⟩ := hab e he
    obtain ⟨e'', he'', hkey', hvalue'⟩ := hbc e' he'
    exact ⟨e'', he'', ihkeys e he hkey hkey', ihvalues e he hvalue hvalue'⟩
  | tagged t _ ih =>
    obtain ⟨t', b, rfl, ht, hab⟩ := sameKey_tagged_iff.mp hab
    obtain ⟨t'', c, rfl, ht', hbc⟩ := sameKey_tagged_iff.mp hbc
    exact sameKey_tagged_iff.mpr ⟨t'', c, rfl, ht.trans ht', ih hab hbc⟩

/-- Keys that are the same as a key are the same as each other. -/
theorem sameKey_of_sameKey (ha : WellFormed a) (hab : sameKey a b = true)
    (hac : sameKey a c = true) : sameKey b c = true := by
  induction ha generalizing b c with
  | null | bool | int | str => cases b <;> simp_all
  | real x =>
    obtain ⟨y, rfl, hxy⟩ := sameKey_real_iff.mp hab
    obtain ⟨z, rfl, hxz⟩ := sameKey_real_iff.mp hac
    exact sameKey_real_iff.mpr ⟨z, rfl, y.sameKey_trans (x.sameKey_symm hxy) hxz⟩
  | seq _ ih =>
    obtain ⟨bs, rfl, hlength, hab⟩ := sameKey_seq_iff.mp hab
    obtain ⟨cs, rfl, hlength', hac⟩ := sameKey_seq_iff.mp hac
    refine sameKey_seq_iff.mpr ⟨cs, rfl, hlength.symm.trans hlength', fun i hi' hi'' => ?_⟩
    have hi := hlength ▸ hi'
    exact ih _ (List.getElem_mem hi) (hab i hi hi') (hac i hi hi'')
  | @map entries hdistinct hkeys hvalues ihkeys ihvalues =>
    obtain ⟨bs, rfl, hlength, hab⟩ := sameKey_map_iff.mp hab
    obtain ⟨cs, rfl, hlength', hac⟩ := sameKey_map_iff.mp hac
    refine sameKey_map_iff.mpr ⟨cs, rfl, hlength.symm.trans hlength', fun e' he' => ?_⟩
    -- No two entries of the key are found in one entry, so that none of the others is left out.
    have hapart : entries.Pairwise fun e₁ e₂ => ∀ e', SameEntry e₁ e' → ¬SameEntry e₂ e' := by
      refine (List.pairwise_map.mp hdistinct).imp_of_mem fun {e₁ e₂} he₁ he₂ hne e' h₁ h₂ => ?_
      have hback := ihkeys e₂ he₂ h₂.1 (hkeys e₂ he₂).sameKey_refl
      have hsame := (hkeys e₁ he₁).sameKey_trans h₁.1 hback
      exact Bool.false_ne_true (hne.symm.trans hsame)
    obtain ⟨e, he, hkey, hvalue⟩ := exists_of_length_eq hlength hapart hab e' he'
    obtain ⟨e'', he'', hkey', hvalue'⟩ := hac e he
    exact ⟨e'', he'', ihkeys e he hkey hkey', ihvalues e he hvalue hvalue'⟩
  | tagged t _ ih =>
    obtain ⟨t', b, rfl, ht, hab⟩ := sameKey_tagged_iff.mp hab
    obtain ⟨t'', c, rfl, ht', hac⟩ := sameKey_tagged_iff.mp hac
    exact sameKey_tagged_iff.mpr ⟨t'', c, rfl, ht.symm.trans ht', ih hab hac⟩

end WellFormed

/-- No key is the same as both. -/
def Apart (a b : Yaml) : Prop :=
  ∀ key, WellFormed key → sameKey key a = true → sameKey key b = false

theorem Apart.symm (h : Apart a b) : Apart b a := by
  intro key hkey hb
  by_contra ha
  have hb' := h key hkey (eq_true_of_ne_false ha)
  exact Bool.false_ne_true (hb'.symm.trans hb)

/-- Keys that differ have no key in common, since it would make them the same. -/
theorem apart_of_sameKey_eq_false (hab : sameKey a b = false) : Apart a b := by
  intro key hkey ha
  by_contra hb
  have hsame := hkey.sameKey_of_sameKey ha (eq_true_of_ne_false hb)
  exact Bool.false_ne_true (hab.symm.trans hsame)

/-! ### Values under keys -/

/-- The value under a key. -/
def Entries.getKey? (key : Yaml) (entries : Entries) : Option Yaml :=
  (entries.find? fun e => sameKey key e.1).map (·.2)

/-- The value under a key of a mapping, possibly with a tag. -/
def getKey? (v key : Yaml) : Option Yaml :=
  match v.untagged with
  | map entries => Entries.getKey? key entries
  | _ => none

/-- The value at the end of a path of keys. -/
def lookupKeys : List Yaml → Yaml → Option Yaml
  | [], v => some v
  | key :: keys, v => (v.getKey? key).bind (lookupKeys keys)

theorem wellFormed_of_mem_names (path : List String) : ∀ key ∈ path.map str, WellFormed key := by
  simp only [List.forall_mem_map]
  exact fun name _ => .str name

/-- A name is a key like others. -/
theorem Entries.get?_eq_getKey? (name : String) (entries : Entries) :
    get? name entries = getKey? (.str name) entries := by
  simp only [get?, getKey?, sameKey_str]

theorem get?_eq_getKey? (name : String) (v : Yaml) : v.get? name = v.getKey? (.str name) := by
  unfold get? getKey?
  cases v.untagged with
  | map entries => exact Entries.get?_eq_getKey? name entries
  | _ => rfl

/-- A path of names is a path of keys. -/
theorem lookup_eq_lookupKeys (path : List String) (v : Yaml) :
    lookup path v = lookupKeys (path.map .str) v := by
  induction path generalizing v with
  | nil => rfl
  | cons name path ih =>
    rw [lookup, List.map_cons, lookupKeys, get?_eq_getKey?, funext ih]

end Yaml

end BtrfsStore
