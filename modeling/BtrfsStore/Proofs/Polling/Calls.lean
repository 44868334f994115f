import Mathlib.Data.ENat.Lattice
import BtrfsStore.Proofs.Polling
/-!
# BtrfsStore.Proofs.Polling.Calls

How often a bounded retry calls its probe, and when it waits.

What a probe finds may depend on the state that it keeps, and on a host that changes while
the retry waits. `Call.nth` therefore gives the calls of a probe on a host as if there were
no end to the attempts: each call starts from the states that the one before it and the
pause between the two leave. A poll makes the first calls of this sequence and ends with
one of them (`pollMore_endsWith`): the first that finds something (`firstFound`), or the
last attempt.

A call of a probe that asks nothing leaves no trace in the history. `noting` makes a probe
keep a note of what each call finds, and `pollMore_noting` says that this changes nothing
else about a poll.
-/

namespace BtrfsStore.Retry

variable {σ τ α : Type} {interval : Nat}

/-! ### The calls of a probe -/

/-- What a call of a probe comes to on a host. -/
structure Call (σ τ α : Type) where
  /-- What the probe asks, with the answers. -/
  history : History
  /-- What it finds. -/
  found : Option α
  /-- The state that the probe keeps after the call. -/
  kept : σ
  /-- The state of the host after the call. -/
  left : τ

/-- The call of a probe that keeps the state `s`, on a host in the state `t`. -/
def Call.of (host : Host τ) (probe : StateT σ Action (Option α)) (s : σ) (t : τ) :
    Call σ τ α where
  history := (probe.run s).record host t
  found := ((probe.run s).runWith host t).1.1
  kept := ((probe.run s).runWith host t).1.2
  left := ((probe.run s).runWith host t).2

/-- The calls of a probe one after the other, counted from zero, with a pause between two
of them. -/
def Call.nth (host : Host τ) (interval : Nat) (probe : StateT σ Action (Option α)) (s : σ)
    (t : τ) : Nat → Call σ τ α
  | 0 => .of host probe s t
  | n + 1 =>
    let first := Call.of host probe s t
    Call.nth host interval probe first.kept (host.answer (.sleep interval) first.left).2 n

/-- What a run that ends with the call leaves. -/
def Call.result (c : Call σ τ α) : (Option α × σ) × τ := ((c.found, c.kept), c.left)

variable {calls : Nat → Call σ τ α}

/-- The history of the first calls: a pause stands between two of them and nowhere else. -/
def callsHistory (interval : Nat) (calls : Nat → Call σ τ α) (n : Nat) : History :=
  List.intercalate [⟨.sleep interval, ()⟩] ((List.range n).map fun i => (calls i).history)

theorem callsHistory_one : callsHistory interval calls 1 = (calls 0).history :=
  List.intercalate_singleton

theorem callsHistory_succ_succ (n : Nat) :
    callsHistory interval calls (n + 2)
      = (calls 0).history ++ ⟨.sleep interval, ()⟩ ::
        callsHistory interval (fun i => calls (i + 1)) (n + 1) := by
  rw [callsHistory, callsHistory, List.range_succ_eq_map, List.map_cons, List.map_map,
    List.range_succ_eq_map, List.map_cons, List.intercalate_cons_cons, List.append_assoc,
    List.map_cons]
  rfl

/-! ### The call that a poll ends with -/

/-- `EndsWith interval attempts calls n h r`: a poll ends with the call `n`, counted from
zero. Its history is `h`, and it leaves `r`. -/
structure EndsWith (interval attempts : Nat) (calls : Nat → Call σ τ α) (n : Nat) (h : History)
    (r : (Option α × σ) × τ) : Prop where
  within : n < attempts
  /-- The calls before find nothing. -/
  in_vain : ∀ i < n, (calls i).found = none
  /-- The call itself finds nothing only if it is the last attempt. -/
  exhausted : (calls n).found = none → n + 1 = attempts
  history_eq : h = callsHistory interval calls (n + 1)
  result_eq : r = (calls n).result

namespace EndsWith

variable {attempts n : Nat} {h : History} {r : (Option α × σ) × τ}

/-- A poll ends with its first call if that finds something, or if there is no further
attempt. -/
theorem first (hlast : (calls 0).found = none → attempts = 0) :
    EndsWith interval (attempts + 1) calls 0 (calls 0).history (calls 0).result where
  within := Nat.zero_lt_succ attempts
  in_vain i hi := absurd hi (Nat.not_lt_zero i)
  exhausted hnone := by rw [hlast hnone]
  history_eq := callsHistory_one.symm
  result_eq := rfl

/-- A call that finds nothing is followed by a pause and by the rest of the calls. -/
theorem succ (hfirst : (calls 0).found = none)
    (hrest : EndsWith interval attempts (fun i => calls (i + 1)) n h r) :
    EndsWith interval (attempts + 1) calls (n + 1)
      ((calls 0).history ++ ⟨.sleep interval, ()⟩ :: h) r where
  within := Nat.succ_lt_succ hrest.within
  in_vain
    | 0, _ => hfirst
    | i + 1, hi => hrest.in_vain i (Nat.lt_of_succ_lt_succ hi)
  exhausted hnone := congrArg Nat.succ (hrest.exhausted hnone)
  history_eq := by rw [callsHistory_succ_succ, hrest.history_eq]
  result_eq := hrest.result_eq

end EndsWith

/-- A poll makes the first calls of the sequence and ends with one of them. -/
theorem pollMore_endsWith (host : Host τ) (interval : Nat)
    (probe : StateT σ Action (Option α)) (more : Nat) (s : σ) (t : τ) :
    ∃ n, EndsWith interval (more + 1) (Call.nth host interval probe s t) n
      (((pollMore interval probe more).run s).record host t)
      (((pollMore interval probe more).run s).runWith host t) := by
  induction more generalizing s t with
  | zero => exact ⟨0, .first fun _ => rfl⟩
  | succ more ih =>
    rw [pollMore_succ_run, Action.record_bind, Action.runWith_bind]
    have hanswer : ((probe.run s).runWith host t).1
        = ((Call.of host probe s t).found, (Call.of host probe s t).kept) := rfl
    rw [hanswer]
    cases hfound : (Call.of host probe s t).found with
    | some a =>
      have hends : EndsWith interval (more + 2) (Call.nth host interval probe s t) 0
          (Call.of host probe s t).history (Call.of host probe s t).result :=
        .first fun hnone => by cases hfound.symm.trans hnone
      rw [Call.result, hfound, ← List.append_nil (Call.history _)] at hends
      exact ⟨0, hends⟩
    | none =>
      -- The rest is a poll from the states which the first call and the pause leave.
      obtain ⟨n, hends⟩ := ih (Call.of host probe s t).kept
        (host.answer (.sleep interval) (Call.of host probe s t).left).2
      exact ⟨n + 1, .succ hfound hends⟩

/-! ### The number of the calls -/

/-- The number of the first call that finds something, counted from one. It is infinite if
there is none. -/
noncomputable def firstFound (calls : Nat → Call σ τ α) : ℕ∞ :=
  ⨅ (n : Nat) (_ : (calls n).found ≠ none), (n + 1 : ℕ∞)

theorem firstFound_le {n : Nat} (hfound : (calls n).found ≠ none) :
    firstFound calls ≤ (n + 1 : Nat) :=
  iInf₂_le n hfound

theorem le_firstFound {k : Nat} (hnone : ∀ n, n + 1 < k → (calls n).found = none) :
    k ≤ firstFound calls := by
  refine le_iInf₂ fun n hfound => ?_
  by_contra hlt
  exact hfound (hnone n (by exact_mod_cast not_le.mp hlt))

namespace EndsWith

variable {attempts n : Nat} {h : History} {r : (Option α × σ) × τ}

/-- There are as many calls as it takes to find something, or else as many as there are
attempts. -/
theorem count_eq (hends : EndsWith interval attempts calls n h r) :
    (n + 1 : Nat) = min (firstFound calls) attempts := by
  have hfirst : (n + 1 : Nat) ≤ firstFound calls :=
    le_firstFound fun i hi => hends.in_vain i (Nat.lt_of_succ_lt_succ hi)
  refine le_antisymm (le_min hfirst (by exact_mod_cast hends.within)) ?_
  by_cases hfound : (calls n).found = none
  · rw [hends.exhausted hfound]
    exact min_le_right _ _
  · exact (min_le_left _ _).trans (firstFound_le hfound)

/-- Nothing is found exactly if the first call that would find something comes after the last
attempt. -/
theorem found_eq_none_iff (hends : EndsWith interval attempts calls n h r) :
    r.1.1 = none ↔ attempts < firstFound calls := by
  rw [hends.result_eq]
  constructor
  · intro hnone
    have hnext : (n + 2 : Nat) ≤ firstFound calls := by
      refine le_firstFound fun i hi => ?_
      rcases Nat.lt_succ_iff_lt_or_eq.mp (Nat.lt_of_succ_lt_succ hi) with hlt | rfl
      · exact hends.in_vain i hlt
      · exact hnone
    rw [← hends.exhausted hnone]
    exact lt_of_lt_of_le (by exact_mod_cast Nat.lt_succ_self (n + 1)) hnext
  · intro hlt
    by_contra hfound
    have hwithin : ((n + 1 : Nat) : ℕ∞) ≤ attempts := by exact_mod_cast hends.within
    exact absurd (hwithin.trans_lt hlt) (firstFound_le hfound).not_gt

end EndsWith

/-! ### Probes that keep notes -/

/-- The probe, keeping a note of what each of its calls finds. -/
def noting (probe : StateT σ Action (Option α)) :
    StateT (σ × List (Option α)) Action (Option α) := do
  let (s, notes) ← get
  let (found, s') ← probe.run s
  set (s', notes ++ [found])
  pure found

variable {probe : StateT σ Action (Option α)}

theorem noting_run (s : σ) (notes : List (Option α)) :
    (noting probe).run (s, notes)
      = (fun p => (p.1, p.2, notes ++ [p.1])) <$> probe.run s := by
  rw [map_eq_pure_bind]
  simp [noting]

/-- Notes change nothing else about a poll. -/
theorem pollMore_noting (more : Nat) (s : σ) (notes : List (Option α)) :
    (fun p => (p.1, p.2.1)) <$> (pollMore interval (noting probe) more).run (s, notes)
      = (pollMore interval probe more).run s := by
  induction more generalizing s notes with
  | zero =>
    simp only [pollMore, noting_run, Functor.map_map]
    exact id_map _
  | succ more ih =>
    rw [pollMore_succ_run, pollMore_succ_run, noting_run, bind_map_left, map_bind]
    refine congrArg (Action.bind (probe.run s)) (funext fun p => ?_)
    obtain ⟨_ | a, s'⟩ := p
    · exact congrArg (Action.ask (.sleep interval)) (funext fun _ => ih s' (notes ++ [none]))
    · rfl

namespace Call

/-- The call of a probe that keeps notes besides. -/
def withNotes (c : Call σ τ α) (notes : List (Option α)) : Call (σ × List (Option α)) τ α :=
  { c with kept := (c.kept, notes) }

@[simp] theorem withNotes_history (c : Call σ τ α) (notes : List (Option α)) :
    (c.withNotes notes).history = c.history := rfl

@[simp] theorem withNotes_found (c : Call σ τ α) (notes : List (Option α)) :
    (c.withNotes notes).found = c.found := rfl

theorem of_noting (host : Host τ) (s : σ) (notes : List (Option α)) (t : τ) :
    Call.of host (noting probe) (s, notes) t
      = (Call.of host probe s t).withNotes (notes ++ [(Call.of host probe s t).found]) := by
  simp only [Call.of, withNotes, noting_run, Action.record_map, Action.runWith_map]

/-- A probe that keeps notes makes the same calls, and has noted all of them so far. -/
theorem nth_noting (host : Host τ) (s : σ) (notes : List (Option α)) (t : τ) (n : Nat) :
    Call.nth host interval (noting probe) (s, notes) t n
      = (Call.nth host interval probe s t n).withNotes (notes
        ++ (List.range (n + 1)).map fun i => (Call.nth host interval probe s t i).found) := by
  induction n generalizing s notes t with
  | zero => exact of_noting host s notes t
  | succ n ih =>
    rw [Call.nth, of_noting]
    refine (ih _ _ _).trans ?_
    rw [List.range_succ_eq_map (n := n + 1), List.map_cons, List.map_map, List.append_assoc]
    rfl

end Call

namespace EndsWith

variable {host : Host τ} {s : σ} {notes : List (Option α)} {t : τ} {attempts n : Nat}
  {h : History} {r : (Option α × σ × List (Option α)) × τ}

theorem of_noting (hends : EndsWith interval attempts
      (Call.nth host interval (noting probe) (s, notes) t) n h r) :
    EndsWith interval attempts (Call.nth host interval probe s t) n h ((r.1.1, r.1.2.1), r.2) where
  within := hends.within
  in_vain i hi := by simpa [Call.nth_noting] using hends.in_vain i hi
  exhausted hnone := hends.exhausted (by simpa [Call.nth_noting] using hnone)
  history_eq := by
    rw [hends.history_eq]
    simp only [callsHistory, Call.nth_noting, Call.withNotes_history]
  result_eq := by
    rw [hends.result_eq, Call.nth_noting]
    rfl

/-- The notes tell of the calls in vain, and at last of what the poll has found. -/
theorem notes_eq (hends : EndsWith interval attempts
      (Call.nth host interval (noting probe) (s, notes) t) n h r) :
    r.1.2.2 = notes ++ (List.replicate n none ++ [r.1.1]) := by
  have hvain : (List.range n).map (fun i => (Call.nth host interval probe s t i).found)
      = List.replicate n none :=
    List.eq_replicate_iff.mpr ⟨by simp, by simpa using hends.of_noting.in_vain⟩
  rw [hends.result_eq, Call.nth_noting, ← hvain, List.range_succ, List.map_append]
  rfl

end EndsWith

/-! ### Bounded retries -/

/-- **A probe is called until it finds something or the attempts are used up.** A poll makes
`n + 1` calls: as many as it takes to find something, but not more than there are attempts,
of which there is always one. All calls but the last find nothing, and the poll ends with
what the last one finds and leaves. It finds nothing exactly if the first call that would
find something comes after the last attempt. There is one pause between two calls and no
other.

A probe that notes what its calls find has `n + 1` notes in the end; apart from them, it
makes no difference. -/
theorem polled_until_found_or_exhausted (r : Retry) (host : Host τ)
    (probe : StateT σ Action (Option α)) (s : σ) (t : τ) :
    let calls := Call.nth host r.interval probe s t
    let attempts := max 1 r.attempts
    let history := ((r.poll probe).run s).record host t
    let result := ((r.poll probe).run s).runWith host t
    let noted := (r.poll (noting probe)).run (s, [])
    ∃ n : Nat, (n + 1 : Nat) = min (firstFound calls) attempts ∧
      (∀ i < n, (calls i).found = none) ∧ result = (calls n).result ∧
      (result.1.1 = none ↔ attempts < firstFound calls) ∧
      history = callsHistory r.interval calls (n + 1) ∧
      noted.record host t = history ∧
      noted.runWith host t
        = ((result.1.1, result.1.2, List.replicate n none ++ [result.1.1]), result.2) := by
  intro calls attempts history result noted
  -- Without its notes, the poll of the noting probe is the poll itself.
  have hforget : (fun p => (p.1, p.2.1)) <$> noted = (r.poll probe).run s :=
    pollMore_noting (r.attempts - 1) s []
  have hhistory : history = noted.record host t := by
    simp only [history, ← hforget, Action.record_map]
  have hresult : result = (((noted.runWith host t).1.1, (noted.runWith host t).1.2.1),
      (noted.runWith host t).2) := by
    simp only [result, ← hforget, Action.runWith_map]
  obtain ⟨n, hnoted⟩ := pollMore_endsWith host r.interval (noting probe) (r.attempts - 1) (s, []) t
  have hattempts : r.attempts - 1 + 1 = attempts := by omega
  have hends : EndsWith r.interval attempts calls n history result := by
    rw [← hattempts, hhistory, hresult]
    exact hnoted.of_noting
  refine ⟨n, hends.count_eq, hends.in_vain, hends.result_eq, hends.found_eq_none_iff,
    hends.history_eq, hhistory.symm, ?_⟩
  rw [hresult]
  exact Prod.ext (Prod.ext rfl (Prod.ext rfl hnoted.notes_eq)) rfl

end BtrfsStore.Retry
