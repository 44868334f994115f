import Mathlib.Data.List.Infix
import BtrfsStore.Proofs.Config.Loading
import BtrfsStore.Proofs.History
import BtrfsStore.Scripted
/-!
# BtrfsStore.Proofs.Config.Recording

What a config says of an outcome after the outcome has been recorded in it.

Recording is a sequence of edits (`record_eq_make`), none of which is made where
another one is made. So each does what it would do alone, what they leave alone
they leave alone together, and once they have been made there is nothing to be
made again.

* `record_shows_outcome`: the managed entries say what the outcome says, as far
  as no mapping with a tag is in the way.
* `record_keeps_other_entries`: all other entries stay, and recording an outcome
  again changes nothing.
-/

namespace BtrfsStore.Config

open Yaml

variable {c config : Yaml} {q : List String} {value : Option Yaml} {outcome : InitOutcome}

/-! ### Several edits -/

/-- Paths with the values to put there, or none to remove what is there. -/
abbrev Edits := List (List String × Option Yaml)

namespace Edits

variable {edits : Edits}

/-- Makes edits one after the other. -/
def make (edits : Edits) (c : Yaml) : Yaml := edits.foldl (fun c e => edit e.1 e.2 c) c

/-- The values to put have no key twice. -/
def Unambiguous (edits : Edits) : Prop := ∀ e ∈ edits, ∀ v, e.2 = some v → v.Unambiguous

/-- No edit is made where another one is made. -/
def Separate (edits : Edits) : Prop := edits.Pairwise fun e e' => Diverge e.1 e'.1

theorem make_cons (e : List String × Option Yaml) (edits : Edits) (c : Yaml) :
    make (e :: edits) c = make edits (edit e.1 e.2 c) := rfl

theorem make_append (edits edits' : Edits) (c : Yaml) :
    make (edits ++ edits') c = make edits' (make edits c) := List.foldl_append

theorem Unambiguous.make (he : Unambiguous edits) (hu : c.Unambiguous) :
    (make edits c).Unambiguous := by
  induction edits generalizing c with
  | nil => exact hu
  | cons e edits ih =>
    obtain ⟨hfirst, hrest⟩ := List.forall_mem_cons.mp he
    exact ih hrest (unambiguous_edit hfirst hu)

/-- A property of configs that no edit changes is not changed by several. -/
theorem make_induction {P : Yaml → Prop} (he : Unambiguous edits) (hu : c.Unambiguous)
    (hedit : ∀ e ∈ edits, ∀ c : Yaml, c.Unambiguous → P c → P (edit e.1 e.2 c)) (hc : P c) :
    P (make edits c) := by
  induction edits generalizing c with
  | nil => exact hc
  | cons e edits ih =>
    obtain ⟨hfirst, hrest⟩ := List.forall_mem_cons.mp he
    obtain ⟨hstep, hsteps⟩ := List.forall_mem_cons.mp hedit
    exact ih hrest (unambiguous_edit hfirst hu) hsteps (hstep c hu hc)

/-- No edit that is made elsewhere changes what is found at the end of a path of keys. -/
theorem lookupKeys_make_of_diverge {keys : List Yaml} (he : Unambiguous edits)
    (hu : c.Unambiguous) (hkeys : ∀ key ∈ keys, key.WellFormed)
    (hq : ∀ e ∈ edits, Diverge (e.1.map Yaml.str) keys) :
    lookupKeys keys (make edits c) = lookupKeys keys c :=
  make_induction (P := fun d => lookupKeys keys d = lookupKeys keys c) he hu
    (fun e hmem _ hd hsame => (lookupKeys_edit_of_diverge hd hkeys (hq e hmem)).trans hsame) rfl

theorem lookup_make_of_diverge (he : Unambiguous edits) (hu : c.Unambiguous)
    (hq : ∀ e ∈ edits, Diverge e.1 q) : lookup q (make edits c) = lookup q c := by
  rw [lookup_eq_lookupKeys, lookup_eq_lookupKeys]
  exact lookupKeys_make_of_diverge he hu (wellFormed_of_mem_names q)
    fun e hmem => diverge_map_str.mpr (hq e hmem)

/-- Edits elsewhere neither hinder an edit nor clear the way for it. -/
theorem hindered_make_iff (he : Unambiguous edits) (hu : c.Unambiguous)
    (hq : ∀ e ∈ edits, Diverge e.1 q) :
    Hindered q value (make edits c) ↔ Hindered q value c :=
  make_induction (P := fun d => Hindered q value d ↔ Hindered q value c) he hu
    (fun e hmem _ hd hsame => (hindered_edit_iff hd (hq e hmem)).trans hsame) .rfl

theorem edit_make_of_settled (he : Unambiguous edits) (hu : c.Unambiguous)
    (hq : ∀ e ∈ edits, Diverge e.1 q) (hsettled : edit q value c = c) :
    edit q value (make edits c) = make edits c :=
  make_induction (P := fun d => edit q value d = d) he hu
    (fun e hmem _ hd hsame => edit_of_settled hd (he e hmem) (hq e hmem) hsame) hsettled

section

variable {e : List String × Option Yaml} (hs : Separate edits) (he : Unambiguous edits)
  (hu : c.Unambiguous) (hmem : e ∈ edits)

include hs he hu hmem

/-- One of several separate edits is made in a config `d` that is the given one
as far as this edit goes, and nothing of it is undone. -/
theorem make_split : ∃ d : Yaml, d.Unambiguous ∧ lookup e.1 d = lookup e.1 c ∧
    (Hindered e.1 e.2 d ↔ Hindered e.1 e.2 c) ∧
    lookup e.1 (make edits c) = lookup e.1 (edit e.1 e.2 d) ∧
    edit e.1 e.2 (make edits c) = make edits c := by
  -- The edits before this one and those after it are made elsewhere.
  obtain ⟨before, after, rfl⟩ := List.mem_iff_append.mp hmem
  obtain ⟨-, hrest, hacross⟩ := List.pairwise_append.mp hs
  have hbefore : ∀ e' ∈ before, Diverge e'.1 e.1 :=
    fun e' he' => hacross e' he' e List.mem_cons_self
  have hafter : ∀ e' ∈ after, Diverge e'.1 e.1 :=
    fun e' he' => (List.rel_of_pairwise_cons hrest he').symm
  obtain ⟨hubefore, huedit, huafter⟩ :=
    (List.forall_mem_append.mp he).imp_right List.forall_mem_cons.mp
  have hd := Unambiguous.make hubefore hu
  have hedited := unambiguous_edit (p := e.1) huedit hd
  refine ⟨make before c, hd, lookup_make_of_diverge hubefore hu hbefore,
    hindered_make_iff hubefore hu hbefore, ?_, ?_⟩
  · rw [make_append, make_cons, lookup_make_of_diverge huafter hedited hafter]
  · rw [make_append, make_cons]
    exact edit_make_of_settled huafter hedited hafter (edit_edit hd huedit)

/-- Each of several separate edits does what it is for unless a tag is in its
way. -/
theorem lookup_make (hp : e.1 ≠ [] ∨ e.2 ≠ none) (hfree : ¬Hindered e.1 e.2 c) :
    lookup e.1 (make edits c) = e.2 := by
  obtain ⟨d, hd, -, hhindered, hlookup, -⟩ := make_split hs he hu hmem
  rw [hlookup, lookup_edit hd hp (mt hhindered.mp hfree)]

theorem lookup_make_of_hindered (hhindered : Hindered e.1 e.2 c) :
    lookup e.1 (make edits c) = lookup e.1 c := by
  obtain ⟨d, hd, hsame, hiff, hlookup, -⟩ := make_split hs he hu hmem
  rw [hlookup, edit_of_hindered hd (hiff.mpr hhindered), hsame]

end

/-- Making separate edits again changes nothing. -/
theorem make_make (hs : Separate edits) (he : Unambiguous edits) (hu : c.Unambiguous) :
    make edits (make edits c) = make edits c := by
  have hsettled : ∀ e ∈ edits, edit e.1 e.2 (make edits c) = make edits c := by
    intro e hmem
    obtain ⟨d, -, -, -, -, hsettled⟩ := make_split hs he hu hmem
    exact hsettled
  exact make_induction (P := fun d => d = make edits c) he (he.make hu)
    (fun e hmem d _ hd => hd ▸ hsettled e hmem) rfl

end Edits

/-! ### The edits of an outcome -/

/-- The paths of the entries that recording an outcome manages. -/
def managedPaths : List (List String) :=
  [["snapshot", "backend"], ["engine", "storePath"], ["engine", "wsl", "mode"],
    ["engine", "wsl", "distro"], ["engine", "wsl", "stateDir"],
    ["engine", "wsl", "mount", "device"], ["engine", "wsl", "mount", "fstype"],
    ["engine", "wsl", "mount", "deviceUUID"], ["engine", "wsl", "mount", "unit"]]

/-- The entries that recording an outcome changes, with their values; those
without a value are removed. -/
def changes (outcome : InitOutcome) : List (List String × Option String) :=
  (["snapshot", "backend"], some outcome.backend.name) ::
    (["engine", "storePath"], some outcome.storePath) ::
      match outcome.wslMode with
      | none => [(["engine", "wsl"], none)]
      | some mode => (["engine", "wsl", "mode"], some mode.name) :: wslEntries outcome.result

/-- The edits that record an outcome. -/
def recordEdits (outcome : InitOutcome) : Edits :=
  (changes outcome).map fun e => (e.1, e.2.map .str)

/-- Only managed entries are changed, and `engine.wsl` without WSL. -/
theorem map_fst_changes (outcome : InitOutcome) : (changes outcome).map Prod.fst =
    if outcome.wslMode.isSome then managedPaths
    else [["snapshot", "backend"], ["engine", "storePath"], ["engine", "wsl"]] := by
  cases hmode : outcome.wslMode <;> simp only [changes, hmode] <;> rfl

theorem ne_nil_of_mem_changes {e : List String × Option String} (he : e ∈ changes outcome) :
    e.1 ≠ [] := by
  have hmem := List.mem_map_of_mem (f := Prod.fst) he
  rw [map_fst_changes] at hmem
  generalize e.1 = p at hmem
  revert p
  split <;> decide

/-- **Recording an outcome** is making its edits. -/
theorem record_eq_make (outcome : InitOutcome) (config : Yaml) :
    record outcome config = (recordEdits outcome).make config := by
  have hfold : record outcome config
      = (changes outcome).foldl (fun c e => setOrRemove e.1 e.2 c) config := by
    cases hmode : outcome.wslMode <;> simp only [record, changes, hmode] <;> rfl
  rw [hfold, recordEdits, Edits.make, List.foldl_map]
  exact List.foldl_ext _ _ _ fun c e he => setOrRemove_eq (ne_nil_of_mem_changes he) e.2 c

/-- No two entries that are changed lie below each other. -/
theorem separate_recordEdits (outcome : InitOutcome) : (recordEdits outcome).Separate := by
  have hpaths : ((changes outcome).map Prod.fst).Pairwise Diverge := by
    rw [map_fst_changes]
    split <;> decide
  exact List.pairwise_map.mpr (List.pairwise_map.mp hpaths)

theorem unambiguous_recordEdits (outcome : InitOutcome) : (recordEdits outcome).Unambiguous := by
  intro e he v hv
  obtain ⟨e, -, rfl⟩ := List.mem_map.mp he
  obtain ⟨s, -, rfl⟩ := Option.map_eq_some_iff.mp hv
  exact .plain rfl

theorem mem_map_fst_changes {e : List String × Option Yaml} (he : e ∈ recordEdits outcome) :
    e.1 ∈ (changes outcome).map Prod.fst := by
  obtain ⟨e', he', rfl⟩ := List.mem_map.mp he
  exact List.mem_map.mpr ⟨e', he', rfl⟩

/-! ### What the managed entries say -/

/-- The entries about WSL say how the store is mounted there. -/
structure ShowsMount (mode : WslMode) (result : StoreOutcome) (config : Yaml) : Prop where
  mode : lookup ["engine", "wsl", "mode"] config = some (.str mode.name)
  distro : lookup ["engine", "wsl", "distro"] config = result.distro.map .str
  stateDir : lookup ["engine", "wsl", "stateDir"] config = result.stateDir.map .str
  device : lookup ["engine", "wsl", "mount", "device"] config = result.mountDevice.map .str
  fsType : lookup ["engine", "wsl", "mount", "fstype"] config = result.mountFsType.map .str
  deviceUuid :
    lookup ["engine", "wsl", "mount", "deviceUUID"] config = result.mountDeviceUuid.map .str
  unit : lookup ["engine", "wsl", "mount", "unit"] config = result.mountUnit.map .str

/-- The managed entries say what the outcome says. -/
structure Shows (outcome : InitOutcome) (config : Yaml) : Prop where
  backend : lookup ["snapshot", "backend"] config = some (.str outcome.backend.name)
  storePath : lookup ["engine", "storePath"] config = some (.str outcome.storePath)
  /-- Nothing is said about WSL without it. -/
  outside : outcome.wslMode = none → lookup ["engine", "wsl"] config = none
  inside : ∀ mode, outcome.wslMode = some mode → ShowsMount mode outcome.result config

theorem shows_of_lookup (hlookup : ∀ e ∈ changes outcome, lookup e.1 config = e.2.map .str) :
    Shows outcome config := by
  obtain ⟨hbackend, hrest⟩ := List.forall_mem_cons.mp hlookup
  obtain ⟨hstorePath, hwsl⟩ := List.forall_mem_cons.mp hrest
  refine ⟨hbackend, hstorePath, fun hmode => ?_, fun mode hmode => ?_⟩
  · rw [hmode] at hwsl
    exact hwsl _ List.mem_cons_self
  · rw [hmode] at hwsl
    simp only [wslEntries, List.forall_mem_cons] at hwsl
    obtain ⟨hmode, hdistro, hstateDir, hdevice, hfsType, hdeviceUuid, hunit, -⟩ := hwsl
    exact ⟨hmode, hdistro, hstateDir, hdevice, hfsType, hdeviceUuid, hunit⟩

/-- None of the mappings that hold managed entries has a tag. -/
def Untagged (config : Yaml) : Prop :=
  ∀ p ∈ [[], ["snapshot"], ["engine"], ["engine", "wsl"], ["engine", "wsl", "mount"]],
    ∀ v ∈ lookup p config, v.isTaggedMapping = false

instance (config : Yaml) : Decidable (Untagged config) :=
  inferInstanceAs (Decidable (∀ p ∈ _, ∀ v ∈ lookup p config, _))

/-- Without a tag on a mapping above the entries nothing hinders the recording. -/
theorem Untagged.not_hindered (hc : Untagged config) {e : List String × Option Yaml}
    (he : e ∈ recordEdits outcome) : ¬Hindered e.1 value config := by
  rintro ⟨way, k, rest, w, hpath, hway, htagged, -⟩
  -- What stands in the way of a change is one of the mappings above its entry.
  have hparents : ∀ p ∈ (changes outcome).map Prod.fst, ∀ way ∈ p.inits, way ≠ p →
      way ∈ [[], ["snapshot"], ["engine"], ["engine", "wsl"], ["engine", "wsl", "mount"]] := by
    rw [map_fst_changes]
    split <;> decide
  have hin : way ∈ e.1.inits := (List.mem_inits _ _).mpr ⟨k :: rest, hpath.symm⟩
  have hne : way ≠ e.1 := by
    rw [hpath]
    exact fun h => by simpa using congrArg List.length h
  rw [hc way (hparents e.1 (mem_map_fst_changes he) way hin hne) w hway] at htagged
  cases htagged

/-- **Recording an outcome.** In a config that has been read, each entry about
the outcome is written or removed unless a mapping with a tag is in the way, and
stays as it was if one is. -/
theorem record_shows_outcome {σ : Type} (host : Host σ) (s : σ) (path : Path) (config : Yaml)
    (outcome : InitOutcome) (hload : ((load path).run.runWith host s).1 = .ok config) :
    (∀ e ∈ changes outcome,
      (¬Hindered e.1 (e.2.map .str) config →
        lookup e.1 (record outcome config) = e.2.map .str) ∧
      (Hindered e.1 (e.2.map .str) config →
        lookup e.1 (record outcome config) = lookup e.1 config)) ∧
    (Untagged config → Shows outcome (record outcome config)) := by
  have hu := unambiguous_of_load hload
  have hs := separate_recordEdits outcome
  have he := unambiguous_recordEdits outcome
  have hentries : ∀ e ∈ changes outcome,
      (¬Hindered e.1 (e.2.map .str) config →
        lookup e.1 (record outcome config) = e.2.map .str) ∧
      (Hindered e.1 (e.2.map .str) config →
        lookup e.1 (record outcome config) = lookup e.1 config) := by
    intro e hmem
    have hedit : (e.1, e.2.map .str) ∈ recordEdits outcome := List.mem_map_of_mem hmem
    rw [record_eq_make]
    exact ⟨Edits.lookup_make hs he hu hedit (.inl (ne_nil_of_mem_changes hmem)),
      Edits.lookup_make_of_hindered hs he hu hedit⟩
  refine ⟨hentries, fun huntagged => shows_of_lookup fun e hmem => (hentries e hmem).1 ?_⟩
  exact huntagged.not_hindered (e := (e.1, e.2.map .str)) (List.mem_map_of_mem hmem)

/-- A host with a config file. -/
def hostWithConfig (text : String) : Scripted.State :=
  { files := (({} : FileTree).writeText ⟨"/config.yaml"⟩ text).1 }

/-- A store in WSL. -/
def wslOutcome : InitOutcome where
  backend := .btrfs
  storePath := "/store"
  wslMode := some .required
  result := { useStore := true, distro := some "Ubuntu", mountDevice := some "/dev/sdd1" }

/-- A workspace without a store. -/
def fallbackOutcome : InitOutcome where
  backend := .copy
  storePath := "/store"
  wslMode := none
  result := .fallback "WSL is not available"

/-- A store in WSL, in a config where a scalar is in the way of its entries. -/
theorem record_shows_outcome_wsl :
    ∃ config, ((load ⟨"/config.yaml"⟩).run.runWith Scripted.host
        (hostWithConfig "engine: remote\nname: demo\n")).1 = .ok config ∧ Untagged config ∧
      Shows wslOutcome (record wslOutcome config) := by
  have hload : ((load ⟨"/config.yaml"⟩).run.runWith Scripted.host
      (hostWithConfig "engine: remote\nname: demo\n")).1.toOption.any
        (fun config => decide (Untagged config)) = true := by
    decide +kernel
  obtain ⟨config, hconfig, huntagged⟩ := exists_ok_of_any hload
  have huntagged := of_decide_eq_true huntagged
  exact ⟨config, hconfig, huntagged,
    (record_shows_outcome Scripted.host _ _ config wslOutcome hconfig).2 huntagged⟩

/-- Nothing is written into a mapping with a tag: the store that it names is still
the earlier one. -/
theorem record_leaves_tagged_mapping :
    ∃ config, ((load ⟨"/config.yaml"⟩).run.runWith Scripted.host
        (hostWithConfig "engine: !custom\n  storePath: /old\n")).1 = .ok config ∧
      lookup ["engine", "storePath"] (record fallbackOutcome config) = some (.str "/old") ∧
      ¬Shows fallbackOutcome (record fallbackOutcome config) := by
  have hload : ((load ⟨"/config.yaml"⟩).run.runWith Scripted.host
      (hostWithConfig "engine: !custom\n  storePath: /old\n")).1.toOption.any (fun config =>
        (lookup ["engine", "storePath"] (record fallbackOutcome config)).any
          (isText "/old")) = true := by
    decide +kernel
  obtain ⟨config, hconfig, hold⟩ := exists_ok_of_any hload
  obtain ⟨v, hlookup, hv⟩ := (Option.any_eq_true _ _).mp hold
  obtain rfl := eq_str_of_isText hv
  refine ⟨config, hconfig, hlookup, fun hshows => ?_⟩
  have hsame : "/old" = fallbackOutcome.storePath := by
    simpa using hlookup.symm.trans hshows.storePath
  exact absurd hsame (by decide)

/-! ### What stays -/

/-- What is not managed is not changed: no edit is made on the way to it and none below it. -/
theorem diverge_of_mem_recordEdits {path : List Yaml}
    (hmanaged : ∀ m ∈ managedPaths, Diverge path (m.map Yaml.str))
    (hwsl : outcome.wslMode = none → ¬["engine", "wsl"].map Yaml.str <+: path)
    {e : List String × Option Yaml} (he : e ∈ recordEdits outcome) :
    Diverge (e.1.map Yaml.str) path := by
  have hmem := mem_map_fst_changes he
  rw [map_fst_changes] at hmem
  cases hmode : outcome.wslMode with
  | some mode =>
    rw [hmode] at hmem
    exact (hmanaged e.1 hmem).symm
  | none =>
    rw [hmode] at hmem
    -- `engine.wsl` itself is not a managed path, but on the way to some
    have hway : ["engine", "wsl"].map Yaml.str <+: ["engine", "wsl", "mode"].map Yaml.str :=
      List.IsPrefix.map Yaml.str (by decide)
    have hprefix : ¬path <+: ["engine", "wsl"].map Yaml.str := fun h =>
      (hmanaged ["engine", "wsl", "mode"] (by decide)).1 (h.trans hway)
    obtain hbackend | hmem := List.mem_cons.mp hmem
    · exact hbackend ▸ (hmanaged ["snapshot", "backend"] (by decide)).symm
    obtain hstorePath | hmem := List.mem_cons.mp hmem
    · exact hstorePath ▸ (hmanaged ["engine", "storePath"] (by decide)).symm
    · exact List.mem_singleton.mp hmem ▸ ⟨hwsl hmode, hprefix⟩

/-- **Other entries.** An entry that is not on the way to a managed one and not
below one stays as it is, whatever the keys on its path are, and recording an outcome
again changes nothing. -/
theorem record_keeps_other_entries (config : Yaml) (outcome : InitOutcome)
    (hu : Unambiguous config) :
    (∀ path : List Yaml, (∀ key ∈ path, key.WellFormed) →
      (∀ m ∈ managedPaths, Diverge path (m.map Yaml.str)) →
      (outcome.wslMode = none → ¬["engine", "wsl"].map Yaml.str <+: path) →
      lookupKeys path (record outcome config) = lookupKeys path config) ∧
    record outcome (record outcome config) = record outcome config := by
  have he := unambiguous_recordEdits outcome
  refine ⟨fun path hkeys hmanaged hwsl => ?_, ?_⟩
  · rw [record_eq_make]
    exact Edits.lookupKeys_make_of_diverge he hu hkeys
      fun e => diverge_of_mem_recordEdits hmanaged hwsl
  · rw [record_eq_make, record_eq_make]
    exact Edits.make_make (separate_recordEdits outcome) he hu

/-- A config with entries about WSL and others that recording does not manage, among them
one under a number. -/
def configWithEndpoint : Yaml :=
  .map [(.str "engine", .map [(.str "wsl", .str "on"), (.str "mode", .null),
    (.int 5432, .map [(.str "endpoint", .str "x")])])]

/-- A fallback removes `engine.wsl` and keeps what stands under a number beside it. -/
theorem record_keeps_other_entries_endpoint :
    Unambiguous configWithEndpoint ∧
      lookupKeys [.str "engine", .int 5432, .str "endpoint"]
        (record fallbackOutcome configWithEndpoint) = some (.str "x") ∧
      record fallbackOutcome (record fallbackOutcome configWithEndpoint)
        = record fallbackOutcome configWithEndpoint := by
  have hentries : (Yaml.map [(.str "endpoint", .str "x")]).WellFormed :=
    .map (List.pairwise_singleton _ _) (List.forall_mem_singleton.mpr (.str _))
      (List.forall_mem_singleton.mpr (.str _))
  have hengine : (Yaml.map [(.str "wsl", .str "on"), (.str "mode", .null),
      (.int 5432, .map [(.str "endpoint", .str "x")])]).WellFormed := by
    refine .map (by simp [sameKey]) ?_ ?_ <;> simp only [List.forall_mem_cons]
    · exact ⟨.str _, .str _, .int _, List.forall_mem_nil _⟩
    · exact ⟨.str _, .null, hentries, List.forall_mem_nil _⟩
  have hconfig : configWithEndpoint.WellFormed :=
    .map (List.pairwise_singleton _ _) (List.forall_mem_singleton.mpr (.str _))
      (List.forall_mem_singleton.mpr hengine)
  obtain ⟨hkeeps, hagain⟩ :=
    record_keeps_other_entries configWithEndpoint fallbackOutcome hconfig.unambiguous
  refine ⟨hconfig.unambiguous, ?_, hagain⟩
  have hpath := hkeeps [.str "engine", .int 5432, .str "endpoint"] (by
    simp only [List.forall_mem_cons]
    exact ⟨.str _, .int _, .str _, List.forall_mem_nil _⟩)
    (by simp [managedPaths, diverge_cons, not_diverge_nil_left, not_diverge_nil_right])
    (fun _ => by simp [List.cons_prefix_cons])
  rw [hpath]
  simp [configWithEndpoint, lookupKeys, getKey?, untagged, Entries.getKey?, sameKey]

end BtrfsStore.Config
