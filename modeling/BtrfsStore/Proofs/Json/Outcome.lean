import BtrfsStore.Json.Record
import BtrfsStore.Proofs.Json.RoundTrip
/-!
# BtrfsStore.Proofs.Json.Outcome

Outcomes that are written as JSON and read back.

A text that is not set is left out, and what is left out is read as not set. The
warning is left out too, if it is empty, but the reader asks for it: an outcome
without warnings cannot be read back (`ofJson?_toJson`).
-/

namespace BtrfsStore

namespace Json

/-! ### Members that may be left out -/

section Members

variable {entries : List (String × Option Json)}

/-- What was written under a name is found there. -/
theorem lookup_members (hnames : (entries.map Prod.fst).Nodup) (name : String) :
    (entries.filterMap fun e => e.2.map fun j => (e.1, j)).lookup name
      = (entries.lookup name).join := by
  induction entries with
  | nil => rfl
  | cons e entries ih =>
    obtain ⟨key, value⟩ := e
    obtain ⟨hkey, hrest⟩ := List.nodup_cons.mp hnames
    cases value with
    | some j => cases hname : name == key <;> simp [List.lookup_cons, hname, ih hrest]
    | none =>
      cases hname : name == key with
      | false => simp [List.lookup_cons, hname, ih hrest]
      | true =>
        -- No later entry has the name of one that is left out.
        have habsent : entries.lookup name = none := by
          rw [List.lookup_eq_none_iff]
          intro e he
          have hmem : e.1 ∈ entries.map Prod.fst := List.mem_map_of_mem he
          have hne : key ≠ e.1 := fun heq => hkey (heq ▸ hmem)
          simpa [eq_of_beq hname] using hne
        simp [List.lookup_cons, hname, ih hrest, habsent]

theorem map_fst_members_sublist :
    ((entries.filterMap fun e => e.2.map fun j => (e.1, j)).map Prod.fst).Sublist
      (entries.map Prod.fst) := by
  induction entries with
  | nil => simp
  | cons e entries ih =>
    obtain ⟨name, value⟩ := e
    cases value with
    | none => exact ih.cons name
    | some j => exact ih.cons_cons name

/-- The written members determine the object. -/
theorem exact_members (hnames : (entries.map Prod.fst).Nodup)
    (hvalues : ∀ e ∈ entries, ∀ j ∈ e.2, Exact j) : Exact (members entries) := by
  refine .obj (hnames.sublist map_fst_members_sublist) fun m hm => ?_
  obtain ⟨e, he, hvalue⟩ := List.mem_filterMap.mp hm
  obtain ⟨j, hj, rfl⟩ := Option.map_eq_some_iff.mp hvalue
  exact hvalues e he j hj

end Members

/-- A text is read as it was written, also if it is not set. -/
theorem optional_str?_map (s : Option String) : optional str? (s.map .str) = some s := by
  cases s <;> rfl

end Json

open Json

namespace StoreOutcome

/-- The entries of an outcome, in the order in which they are written. -/
def entries (o : StoreOutcome) : List (String × Option Json) :=
  [("useStore", some (.bool o.useStore)),
    ("storeBackendAvailable", some (.bool o.backendAvailable)),
    ("distro", o.distro.map .str), ("stateDir", o.stateDir.map .str),
    ("storePath", o.storePath.map .str), ("mountDevice", o.mountDevice.map .str),
    ("mountFsType", o.mountFsType.map .str), ("mountUnit", o.mountUnit.map .str),
    ("mountDeviceUUID", o.mountDeviceUuid.map .str),
    ("warning", if o.warning.isEmpty then none else some (.str o.warning))]

theorem toJson_eq_members (o : StoreOutcome) : o.toJson = members o.entries := rfl

theorem nodup_entries (o : StoreOutcome) : (o.entries.map Prod.fst).Nodup := by
  simp [entries]

theorem exact_toJson (o : StoreOutcome) : Exact o.toJson := by
  have htext : ∀ s : Option String, ∀ j ∈ s.map Json.str, Exact j := by
    rintro s j hj
    obtain ⟨t, -, rfl⟩ := Option.map_eq_some_iff.mp hj
    exact .str t
  have hbool : ∀ b : Bool, ∀ j ∈ some (Json.bool b), Exact j := by
    rintro b j hj
    obtain rfl := Option.some.inj hj
    exact .bool b
  have hwarning : ∀ j ∈ (if o.warning.isEmpty then none else some (Json.str o.warning)),
      Exact j := by
    intro j hj
    split at hj
    · cases hj
    · obtain rfl := Option.some.inj hj
      exact .str o.warning
  rw [toJson_eq_members]
  refine exact_members o.nodup_entries ?_
  simp only [entries, List.forall_mem_cons]
  exact ⟨hbool _, hbool _, htext _, htext _, htext _, htext _, htext _, htext _, htext _,
    hwarning, fun _ hnil => nomatch hnil⟩

/-- Of a written outcome everything is found again but an empty warning. -/
theorem ofJson?_toJson (o : StoreOutcome) :
    ofJson? o.toJson = if o.warning = "" then none else some o := by
  have hfound : ∀ name, (o.entries.filterMap fun e => e.2.map fun j => (e.1, j)).lookup name
      = (o.entries.lookup name).join := lookup_members o.nodup_entries
  rw [toJson_eq_members, ofJson?, members]
  simp only [fields?, Option.bind_eq_bind, Option.bind_some, hfound]
  simp only [entries, List.lookup_cons, String.reduceBEq, Option.join_some, optional_str?_map,
    Option.bind_some, required, bool?]
  by_cases hwarning : o.warning = ""
  · simp [hwarning]
  · simp [hwarning, str?]

/-- **A written outcome is read back unless it has no warning.** Written without a
warning it is refused, and otherwise it is read as it was. -/
theorem outcome_read_back_unless_no_warning (o : StoreOutcome) :
    (read? o.toJson.render).bind ofJson? = if o.warning = "" then none else some o := by
  rw [read?_render o.exact_toJson, Option.bind_some, ofJson?_toJson]

/-- The outcome of a run that has nothing to report is not read back. -/
theorem silent_outcome_not_read_back :
    (read? ({} : StoreOutcome).toJson.render).bind ofJson? = none := by
  decide +kernel

end StoreOutcome

end BtrfsStore
