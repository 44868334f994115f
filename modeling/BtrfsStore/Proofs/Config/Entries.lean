import BtrfsStore.Proofs.Config.Keys
/-!
# BtrfsStore.Proofs.Config.Entries

The entries of a mapping as a function of their keys.

`Entries.getKey?` finds the first entry with a key. Changing the entry under a name
changes what is found there and nothing else. So does removing it, as long as no key
occurs twice (`Entries.Distinct`); without this, moving the last entry into the gap could
bring it before another entry with its key.
-/

namespace BtrfsStore.Yaml

namespace Entries

variable {name : String} {key k value default : Yaml} {f : Yaml → Yaml} {entries : Entries}

/-! ### Finding an entry -/

@[simp] theorem get?_nil : get? name [] = none := rfl

theorem getKey?_cons : getKey? key ((k, value) :: entries)
    = if sameKey key k then some value else getKey? key entries := by
  cases hkey : sameKey key k <;> simp [getKey?, hkey]

theorem get?_cons : get? name ((key, value) :: entries)
    = if isText name key then some value else get? name entries := by
  rw [get?_eq_getKey?, get?_eq_getKey?, getKey?_cons, sameKey_str]

theorem get?_eq_none_iff : get? name entries = none ↔ ∀ e ∈ entries, isText name e.1 = false := by
  simp [get?]

theorem mem_of_getKey? (hget : getKey? key entries = some value) :
    ∃ e ∈ entries, sameKey key e.1 = true ∧ e.2 = value := by
  obtain ⟨e, hfind, rfl⟩ := Option.map_eq_some_iff.mp hget
  have hkey : sameKey key e.1 = true := by simpa using List.find?_some hfind
  exact ⟨e, List.mem_of_find?_eq_some hfind, hkey, rfl⟩

/-! ### Changing an entry -/

/-- A change is seen under its name and under no other key. -/
theorem getKey?_alter : getKey? key (alter name default f entries)
    = if isText name key then some (f ((get? name entries).getD default))
      else getKey? key entries := by
  induction entries with
  | nil =>
    rw [alter, getKey?_cons, sameKey_of_isText (isText_self name)]
    rfl
  | cons e rest ih =>
    obtain ⟨k, v⟩ := e
    rw [alter]
    cases hk : isText name k with
    | true =>
      rw [if_pos rfl, getKey?_cons, getKey?_cons, get?_cons, hk, sameKey_of_isText hk]
      cases isText name key <;> rfl
    | false =>
      rw [if_neg Bool.false_ne_true, getKey?_cons, ih, getKey?_cons, get?_cons, hk]
      cases hkey : isText name key with
      | true =>
        rw [eq_str_of_isText hkey, sameKey_str, hk]
        rfl
      | false => rfl

theorem put_eq_alter : put name value entries = alter name default (fun _ => value) entries := by
  induction entries with
  | nil => rfl
  | cons e rest ih =>
    obtain ⟨k, v⟩ := e
    rw [put, alter, ih]

/-- A change that does not change the value leaves the entries alone. -/
theorem alter_eq_self (hget : get? name entries = some value) (hf : f value = value) :
    alter name default f entries = entries := by
  induction entries with
  | nil => cases hget
  | cons e rest ih =>
    obtain ⟨k, v⟩ := e
    rw [get?_cons] at hget
    rw [alter]
    cases hk : isText name k with
    | true =>
      rw [hk, if_pos rfl] at hget
      obtain rfl := Option.some.inj hget
      rw [if_pos rfl, hf]
    | false =>
      rw [hk, if_neg Bool.false_ne_true] at hget
      rw [if_neg Bool.false_ne_true, ih hget]

/-- The values after a change are the earlier ones and the new one. -/
theorem mem_alter {e : Yaml × Yaml} (he : e ∈ alter name default f entries) :
    e ∈ entries ∨ e.2 = f ((get? name entries).getD default) := by
  induction entries with
  | nil =>
    obtain rfl := List.mem_singleton.mp he
    exact .inr rfl
  | cons e' rest ih =>
    obtain ⟨k, v⟩ := e'
    rw [alter] at he
    rw [get?_cons]
    cases hk : isText name k with
    | true =>
      rw [hk, if_pos rfl] at he
      rcases List.mem_cons.mp he with rfl | hrest
      · exact .inr rfl
      · exact .inl (List.mem_cons_of_mem _ hrest)
    | false =>
      rw [hk, if_neg Bool.false_ne_true] at he
      rw [if_neg Bool.false_ne_true]
      rcases List.mem_cons.mp he with rfl | hrest
      · exact .inl List.mem_cons_self
      · exact (ih hrest).imp_left (List.mem_cons_of_mem _)

/-! ### Distinct keys -/

/-- No key occurs twice. -/
def Distinct (entries : Entries) : Prop := (entries.map Prod.fst).Pairwise Apart

theorem distinct_nil : Distinct [] := List.Pairwise.nil

theorem distinct_cons {e : Yaml × Yaml} :
    Distinct (e :: entries) ↔ (∀ e' ∈ entries, Apart e.1 e'.1) ∧ Distinct entries := by
  simp only [Distinct, List.map_cons, List.pairwise_cons, List.forall_mem_map]

/-- It is enough that no two keys are the same. -/
theorem Distinct.of_pairwise
    (hdistinct : (entries.map Prod.fst).Pairwise fun k k' => sameKey k k' = false) :
    Distinct entries :=
  hdistinct.imp apart_of_sameKey_eq_false

/-- A key that is the same as none before may be added. -/
theorem Distinct.concat (hd : Distinct entries) (hnew : ∀ e ∈ entries, sameKey key e.1 = false) :
    Distinct (entries ++ [(key, value)]) := by
  rw [Distinct, List.map_append]
  refine List.pairwise_append.mpr ⟨hd, List.pairwise_singleton _ _, ?_⟩
  intro k hk k' hk'
  obtain rfl := List.mem_singleton.mp hk'
  obtain ⟨e, he, rfl⟩ := List.mem_map.mp hk
  exact (apart_of_sameKey_eq_false (hnew e he)).symm

/-- The order of the entries does not matter. -/
theorem Distinct.perm {entries' : Entries} (hd : Distinct entries) (hp : entries'.Perm entries) :
    Distinct entries' :=
  ((hp.map Prod.fst).pairwise_iff Apart.symm).mpr hd

/-- With distinct keys, every entry with a key is the one that is found. -/
theorem getKey?_eq_some_iff (hd : Distinct entries) (hkey : WellFormed key) :
    getKey? key entries = some value ↔
      ∃ e ∈ entries, sameKey key e.1 = true ∧ e.2 = value := by
  refine ⟨mem_of_getKey?, fun hmem => ?_⟩
  induction entries with
  | nil =>
    obtain ⟨e, he, -⟩ := hmem
    cases he
  | cons first rest ih =>
    obtain ⟨hfirst, hrest⟩ := distinct_cons.mp hd
    obtain ⟨e, he, hsame, rfl⟩ := hmem
    rw [← Prod.eta first, getKey?_cons]
    rcases List.mem_cons.mp he with rfl | he
    · rw [if_pos hsame]
    · have hother : sameKey key first.1 = false := (hfirst e he).symm key hkey hsame
      rw [hother, if_neg Bool.false_ne_true]
      exact ih hrest ⟨e, he, hsame, rfl⟩

/-- A change adds the name as a key if it is not there. -/
theorem map_fst_alter : (alter name default f entries).map Prod.fst
    = if (get? name entries).isSome then entries.map Prod.fst
      else entries.map Prod.fst ++ [.str name] := by
  induction entries with
  | nil => rfl
  | cons e rest ih =>
    obtain ⟨k, v⟩ := e
    rw [alter, get?_cons]
    cases hk : isText name k with
    | true => rfl
    | false =>
      rw [if_neg Bool.false_ne_true, List.map_cons, ih, if_neg Bool.false_ne_true]
      split <;> rfl

/-- A changed entry keeps its key, and a new one has a name that is not there. -/
theorem Distinct.alter (hd : Distinct entries) : Distinct (alter name default f entries) := by
  rw [Distinct, map_fst_alter]
  cases hget : get? name entries with
  | some v => exact hd
  | none =>
    have hnew : ∀ e ∈ entries, sameKey (.str name) e.1 = false := fun e he =>
      (sameKey_str name e.1).trans (get?_eq_none_iff.mp hget e he)
    have hconcat : Distinct (entries ++ [(.str name, .null)]) := hd.concat hnew
    simpa [Distinct] using hconcat

/-! ### Removing an entry -/

/-- What follows a removed entry is kept, in another order. -/
theorem erase_cons_perm (hkey : isText name key = true) :
    (erase name ((key, value) :: entries)).Perm entries := by
  rw [erase, if_pos hkey]
  cases hlast : entries.getLast? with
  | none =>
    obtain rfl := List.getLast?_eq_none_iff.mp hlast
    exact .refl _
  | some last =>
    obtain ⟨init, rfl⟩ := List.getLast?_eq_some_iff.mp hlast
    rw [List.dropLast_concat]
    exact (List.perm_append_singleton last init).symm

theorem erase_eq_self (hget : get? name entries = none) : erase name entries = entries := by
  induction entries with
  | nil => rfl
  | cons e rest ih =>
    obtain ⟨hfirst, hrest⟩ := List.forall_mem_cons.mp (get?_eq_none_iff.mp hget)
    rw [erase, if_neg (by rw [hfirst]; exact Bool.false_ne_true), ih (get?_eq_none_iff.mpr hrest)]

/-- With distinct keys, just the entry with the name is removed. -/
theorem mem_erase_iff (hd : Distinct entries) {e : Yaml × Yaml} :
    e ∈ erase name entries ↔ e ∈ entries ∧ isText name e.1 = false := by
  induction entries with
  | nil => simp [erase]
  | cons first rest ih =>
    obtain ⟨hfirst, hrest⟩ := distinct_cons.mp hd
    obtain ⟨k, v⟩ := first
    cases hk : isText name k with
    | true =>
      rw [(erase_cons_perm hk).mem_iff, List.mem_cons]
      constructor
      · intro he
        have hother := hfirst e he (.str name) (.str name) ((sameKey_str name k).trans hk)
        exact ⟨.inr he, (sameKey_str name e.1).symm.trans hother⟩
      · rintro ⟨rfl | he, hother⟩
        · rw [hk] at hother
          cases hother
        · exact he
    | false =>
      rw [erase, if_neg (by rw [hk]; exact Bool.false_ne_true), List.mem_cons, List.mem_cons,
        ih hrest]
      constructor
      · rintro (rfl | ⟨he, hother⟩)
        · exact ⟨.inl rfl, hk⟩
        · exact ⟨.inr he, hother⟩
      · rintro ⟨rfl | he, hother⟩
        · exact .inl rfl
        · exact .inr ⟨he, hother⟩

theorem Distinct.erase (hd : Distinct entries) : Distinct (erase name entries) := by
  induction entries with
  | nil => exact distinct_nil
  | cons first rest ih =>
    obtain ⟨hfirst, hrest⟩ := distinct_cons.mp hd
    obtain ⟨k, v⟩ := first
    cases hk : isText name k with
    | true => exact hrest.perm (erase_cons_perm hk)
    | false =>
      rw [Entries.erase, if_neg (by rw [hk]; exact Bool.false_ne_true)]
      refine distinct_cons.mpr ⟨fun e he => hfirst e ?_, ih hrest⟩
      exact ((mem_erase_iff hrest).mp he).1

/-- Nothing is found under a name that has been removed. -/
theorem get?_erase_self (hd : Distinct entries) : get? name (erase name entries) = none :=
  get?_eq_none_iff.mpr fun _ he => ((mem_erase_iff hd).mp he).2

/-- Other entries stay, though not all in their places. -/
theorem getKey?_erase_of_ne (hd : Distinct entries) (hkey : WellFormed key)
    (hne : isText name key = false) : getKey? key (erase name entries) = getKey? key entries := by
  refine Option.ext fun v => ?_
  rw [getKey?_eq_some_iff hd.erase hkey, getKey?_eq_some_iff hd hkey]
  constructor
  · rintro ⟨e, he, hsame, hv⟩
    exact ⟨e, ((mem_erase_iff hd).mp he).1, hsame, hv⟩
  · rintro ⟨e, he, hsame, hv⟩
    have hname : isText name e.1 = false := by
      by_contra htext
      rw [sameKey_of_isText (eq_true_of_ne_false htext), hne] at hsame
      cases hsame
    exact ⟨e, (mem_erase_iff hd).mpr ⟨he, hname⟩, hsame, hv⟩

end Entries

end BtrfsStore.Yaml
