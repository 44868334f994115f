import BtrfsStore.Proofs.Config.Edits
/-!
# BtrfsStore.Proofs.Config.Loading

What is known about a config that has been read: no mapping to which names lead
has a key twice. Reading refuses a mapping with a key twice, whatever the keys are,
and everything that is read is put together from such mappings.
-/

namespace BtrfsStore

namespace Yaml

namespace Document

variable {α β : Type} {P Q : α → Prop}

/-! ### Values of computations -/

theorem exists_of_bind_eq_ok {ε : Type} {x : Except ε α} {f : α → Except ε β} {b : β}
    (hbind : (x >>= f) = .ok b) : ∃ a, x = .ok a ∧ f a = .ok b := by
  cases x with
  | error e => cases hbind
  | ok a => exact ⟨a, rfl, hbind⟩

/-- Every value that a computation can give satisfies `P`. -/
def Gives (P : α → Prop) (x : Budget α) : Prop := ∀ n a n', x.run n = .ok (a, n') → P a

theorem gives_true (x : Budget α) : Gives (fun _ => True) x := fun _ _ _ _ => trivial

theorem gives_pure {a : α} (ha : P a) : Gives P (pure a) := by
  intro n a' n' hrun
  obtain ⟨rfl, -⟩ := Prod.mk.inj (Except.ok.inj hrun)
  exact ha

theorem gives_throw {e : String} : Gives P (throw e) := nofun

/-- A step that does not count gives what it gives on its own. -/
theorem gives_lift {x : Except String α} (hx : ∀ a, x = .ok a → P a) :
    Gives P (liftM x) := by
  intro n a n' hrun
  cases x with
  | error e => cases hrun
  | ok a' =>
    obtain ⟨rfl, -⟩ := Prod.mk.inj (Except.ok.inj hrun)
    exact hx a' rfl

/-- What the first part of a computation gives may be used of the second. -/
theorem gives_bind {R : β → Prop} {x : Budget α} {f : α → Budget β} (hx : Gives Q x)
    (hf : ∀ a, Q a → Gives R (f a)) : Gives R (x >>= f) := by
  intro n b n' hrun
  rw [StateT.run_bind] at hrun
  obtain ⟨⟨a, m⟩, hfirst, hrest⟩ := exists_of_bind_eq_ok hrun
  exact hf a (hx n a m hfirst) m b n' hrest

/-- What every turn keeps holds after a loop. -/
theorem gives_foldlM {f : α → β → Budget α} {l : List β} {a : α} (ha : P a)
    (hf : ∀ a b, P a → Gives P (f a b)) : Gives P (l.foldlM f a) := by
  induction l generalizing a with
  | nil => exact gives_pure ha
  | cons b l ih =>
    rw [List.foldlM_cons]
    exact gives_bind (hf a b ha) fun a' ha' => ih ha'

/-! ### Values of nodes -/

theorem unambiguous_withName {tag : Tag} {v : Yaml} (hv : Unambiguous v) :
    Unambiguous (withName tag v) := by
  unfold withName
  cases tag.name? with
  | some name => exact .tagged hv
  | none => exact hv

/-- A tag adds no entry. -/
theorem unambiguous_withTag {tag : Option Tag} {v : Yaml} (hv : Unambiguous v) :
    Unambiguous (withTag tag v) := by
  cases tag with
  | some tag => exact unambiguous_withName hv
  | none => exact hv

/-- A plain scalar stands for no mapping. -/
theorem isMapping_of_resolve {text : String} {v : Yaml} (hv : Scalar.resolve text = some v) :
    v.isMapping = false := by
  unfold Scalar.resolve at hv
  repeat' split at hv
  all_goals
    cases hv
    try rfl

theorem eq_some_of_orComplain {text : String} {o : Option α} {a : α}
    (ho : orComplain text o = .ok a) : o = some a := by
  cases o with
  | none => cases ho
  | some a' => exact congrArg some (Except.ok.inj ho)

theorem isMapping_of_untaggedScalar {text : String} {plain : Bool} {v : Yaml}
    (hv : untaggedScalar text plain = .ok v) : v.isMapping = false := by
  unfold untaggedScalar at hv
  split at hv
  · exact isMapping_of_resolve (eq_some_of_orComplain hv)
  · obtain rfl := Except.ok.inj hv
    rfl

/-- A scalar has no entries, whatever its tag is. -/
theorem unambiguous_ofScalar {tag : Option Tag} {text : String} {plain : Bool} {v : Yaml}
    (hv : ofScalar tag text plain = .ok v) : Unambiguous v := by
  cases tag with
  | none => exact .plain (isMapping_of_untaggedScalar hv)
  | some tag =>
    simp only [ofScalar, wholeNumber] at hv
    split_ifs at hv
    · obtain ⟨b, -, rfl⟩ := Option.map_eq_some_iff.mp (eq_some_of_orComplain hv)
      exact .plain rfl
    · split at hv
      · obtain rfl := Except.ok.inj hv
        exact .plain rfl
      · cases hv
    · obtain ⟨x, -, rfl⟩ := Option.map_eq_some_iff.mp (eq_some_of_orComplain hv)
      exact .plain rfl
    · obtain rfl := Except.ok.inj hv
      exact .plain rfl
    · obtain ⟨w, hscalar, hw⟩ := exists_of_bind_eq_ok hv
      obtain rfl := Except.ok.inj hw
      exact unambiguous_withName (.plain (isMapping_of_untaggedScalar hscalar))
    · obtain rfl := Except.ok.inj hv
      exact .plain rfl

/-- An entry is added only if its key differs from all keys before. -/
theorem distinct_addEntry {entries entries' : Entries} {key value : Yaml}
    (hadd : addEntry entries key value = .ok entries') (hd : Entries.Distinct entries) :
    entries' = entries ++ [(key, value)] ∧ Entries.Distinct entries' := by
  unfold addEntry at hadd
  split at hadd
  next => cases hadd
  next hnew =>
    obtain rfl := Except.ok.inj hadd
    exact ⟨rfl, hd.concat (by simpa using hnew)⟩

/-- **Whatever node is read**, aliases included, no mapping of its value has a key twice. -/
theorem ofNode_unambiguous (anchors : List (Nat × Node)) (depth : Nat) (node : Node) :
    Gives Unambiguous (ofNode anchors depth node) := by
  -- The induction is on the levels that are left; an alias leads to any node.
  induction depth generalizing node with
  | zero =>
    rw [ofNode]
    refine gives_bind (gives_true _) fun node _ => ?_
    cases node with
    | scalar p text plain => exact gives_lift fun v => unambiguous_ofScalar
    | _ => exact gives_throw
  | succ depth ih =>
    rw [ofNode]
    refine gives_bind (gives_true _) fun node _ => ?_
    cases node with
    | scalar p text plain => exact gives_lift fun v => unambiguous_ofScalar
    | seq p items =>
      exact gives_bind (gives_true _) fun values _ =>
        gives_pure (unambiguous_withTag (.plain rfl))
    | map p entries =>
      refine gives_bind (Q := fun done : Entries => Entries.Distinct done ∧
        ∀ e ∈ done, Unambiguous e.2) ?_ fun done hdone =>
          gives_pure (unambiguous_withTag (.map hdone.1 hdone.2))
      refine gives_foldlM ⟨Entries.distinct_nil, List.forall_mem_nil _⟩ fun done entry hdone => ?_
      refine gives_bind (gives_true _) fun key _ => gives_bind (ih entry.2) fun value hvalue => ?_
      refine gives_lift fun done' hadd => ?_
      obtain ⟨rfl, hdistinct⟩ := distinct_addEntry hadd hdone.1
      exact ⟨hdistinct, List.forall_mem_append.mpr
        ⟨hdone.2, List.forall_mem_singleton.mpr hvalue⟩⟩
    | _ => exact gives_throw

end Document

/-- The value that a text describes has no key twice. -/
theorem unambiguous_ofText {text : String} {v : Yaml} (hv : ofText text = .ok v) :
    Unambiguous v := by
  unfold ofText at hv
  obtain ⟨tokens, -, hv⟩ := Document.exists_of_bind_eq_ok hv
  obtain ⟨node?, -, hv⟩ := Document.exists_of_bind_eq_ok hv
  cases node? with
  | none =>
    obtain rfl := Except.ok.inj hv
    exact .plain rfl
  | some node =>
    obtain ⟨⟨value, rest⟩, hvalue, hv⟩ := Document.exists_of_bind_eq_ok hv
    obtain rfl := Except.ok.inj hv
    exact Document.ofNode_unambiguous node.anchored Document.maxDepth node _ value rest hvalue

end Yaml

namespace Config

open Yaml (Unambiguous)

variable {σ : Type} {host : Host σ} {s : σ} {path : Path} {config : Yaml}

/-- A config is read in two questions: whether its file is there and, if so, what it holds.
-/
theorem load_run (path : Path) : (load path).run =
    .ask (.pathExists path) fun found =>
      if found then .ask (.readText path) fun text =>
        .done ((text.mapError (ConfigFault.unreadable path)).bind (ofText path))
      else .done (.ok empty) := by
  refine congrArg (Action.ask (.pathExists path)) (funext fun found => ?_)
  cases found with
  | false => rfl
  | true =>
    refine congrArg (Action.ask (.readText path)) (funext fun text => ?_)
    cases text <;> rfl

/-- A config that a text holds is empty or the value that the text describes. -/
theorem unambiguous_of_ofText {text : String} (hconfig : ofText path text = .ok config) :
    Unambiguous config := by
  unfold ofText at hconfig
  split_ifs at hconfig
  · obtain rfl := Except.ok.inj hconfig
    exact unambiguous_empty
  · split at hconfig
    · cases hconfig
    next hvalue =>
      split_ifs at hconfig
      obtain rfl := Except.ok.inj hconfig
      exact Yaml.unambiguous_ofText hvalue

/-- **A config that has been read** has no key twice. -/
theorem unambiguous_of_load (hload : ((load path).run.runWith host s).1 = .ok config) :
    Unambiguous config := by
  rw [load_run, Action.runWith_ask] at hload
  split_ifs at hload
  · obtain ⟨text, -, hconfig⟩ := Yaml.Document.exists_of_bind_eq_ok hload
    exact unambiguous_of_ofText hconfig
  · obtain rfl := Except.ok.inj hload
    exact unambiguous_empty

end Config

end BtrfsStore
