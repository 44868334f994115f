import Mathlib.Logic.Function.Iterate
import BtrfsStore.Proofs.Filesystem
import BtrfsStore.Proofs.Polling.Calls
/-!
# BtrfsStore.Proofs.Verification

How a freshly formatted device is verified, and what is left behind.

The signature is looked for over and over, with a pause between two looks. What such
looks get to see depends on the host alone: `Host.heard` is the answer to each of them,
told without any loop, as if there were no end to the looks. `pollMore_on_host` then says
where a poll stops in this sequence. For the verification it stops at the first look that
shows btrfs, or after ten; only in the second case there is a trial mount, whose run is a
`TrialRun`.
-/

namespace BtrfsStore

variable {σ α : Type}

/-! ### Asking the same over and over -/

/-- A host after a command and the pause behind it. -/
def Host.afterRound (host : Host σ) (c : Command) (pause : Nat) (s : σ) : σ :=
  (host.answer (.sleep pause) (host.answer (.run c) s).2).2

/-- The answers of a host to a command that is asked over and over with a pause between
two questions, counted from zero. -/
def Host.heard (host : Host σ) (c : Command) (pause : Nat) (s : σ) (n : Nat) :
    Except Failure String :=
  (host.answer (.run c) ((host.afterRound c pause)^[n] s)).1

/-- The command with each of the answers, and a pause between two of them. -/
def Command.repeated (c : Command) (pause : Nat) (answers : List (Except Failure String)) :
    History :=
  (answers.map c.event).intersperse ⟨.sleep pause, ()⟩

theorem Command.repeated_cons_cons (c : Command) (pause : Nat) (a b : Except Failure String)
    (answers : List (Except Failure String)) :
    c.repeated pause (a :: b :: answers)
      = c.event a :: ⟨.sleep pause, ()⟩ :: c.repeated pause (b :: answers) := rfl

theorem Command.repeated_eq_intercalate (c : Command) (pause : Nat)
    (answers : List (Except Failure String)) :
    c.repeated pause answers
      = List.intercalate [⟨.sleep pause, ()⟩] (answers.map fun a => [c.event a]) := by
  induction answers with
  | nil => rfl
  | cons a answers ih =>
    cases answers with
    | nil => rfl
    | cons b answers =>
      rw [repeated_cons_cons, ih]
      simp [List.intercalate_cons_cons]

/-- The questions of a sequence of answers hold no other command. -/
theorem Command.mem_repeated {c : Command} {pause : Nat} {answers : List (Except Failure String)}
    {e : Event} (he : e ∈ c.repeated pause answers) :
    (∃ a ∈ answers, e = c.event a) ∨ e = ⟨.sleep pause, ()⟩ := by
  induction answers with
  | nil => cases he
  | cons a answers ih =>
    cases answers with
    | nil => exact .inl ⟨a, List.mem_cons_self, List.mem_singleton.mp he⟩
    | cons b answers =>
      rw [repeated_cons_cons] at he
      rcases List.mem_cons.mp he with rfl | he
      · exact .inl ⟨a, List.mem_cons_self, rfl⟩
      rcases List.mem_cons.mp he with rfl | he
      · exact .inr rfl
      rcases ih he with ⟨a', ha', rfl⟩ | rfl
      · exact .inl ⟨a', List.mem_cons_of_mem a ha', rfl⟩
      · exact .inr rfl

/-- The first answers to a command, with the pauses between them. -/
def Host.rounds (host : Host σ) (c : Command) (pause : Nat) (s : σ) (n : Nat) : History :=
  c.repeated pause ((List.range n).map (host.heard c pause s))

namespace Retry

variable {interval : Nat} {probe : Action (Option α)}

/-- The calls of a probe by a single command find what the host has to say to it. -/
theorem Call.nth_command (host : Host σ) (interval : Nat) {c : Command}
    {found : Except Failure String → Option α}
    (hprobe : probe = .ask (.run c) fun a => .done (found a)) (s : σ) (n : Nat) :
    Call.nth host interval (StateT.lift probe : StateT Unit Action _) () s n
      = { history := [c.event (host.heard c interval s n)]
          found := found (host.heard c interval s n)
          kept := ()
          left := (host.answer (.run c) ((host.afterRound c interval)^[n] s)).2 } := by
  subst hprobe
  induction n generalizing s with
  | zero => rfl
  | succ n ih => exact ih (host.afterRound c interval s)

/-- A poll by a single command stops at the first answer in which something is found, or
at the last attempt. -/
theorem pollMore_on_host (host : Host σ) (interval : Nat) {c : Command}
    {found : Except Failure String → Option α}
    (hprobe : probe = .ask (.run c) fun a => .done (found a)) (more : Nat) (s : σ) :
    ∃ n ≤ more, (∀ i < n, found (host.heard c interval s i) = none) ∧
      (found (host.heard c interval s n) = none → n = more) ∧
      (pollMore interval (liftM probe : Attempt (Option α)) more).outcome.record host s
        = host.rounds c interval s (n + 1) ∧
      ((pollMore interval (liftM probe : Attempt (Option α)) more).outcome.runWith host s).1
        = .ok (found (host.heard c interval s n)) := by
  have houtcome : (pollMore interval (liftM probe : Attempt (Option α)) more).outcome
      = (fun p => .ok p.1) <$> (pollMore interval (StateT.lift probe) more).run () :=
    outcome_poll_liftM ⟨more + 1, interval⟩ probe
  rw [houtcome, Action.record_map, Action.runWith_map]
  obtain ⟨n, hwithin, hvain, hexhausted, hhistory, hresult⟩ :=
    pollMore_endsWith host interval (StateT.lift probe : StateT Unit Action _) more () s
  simp only [callsHistory, Call.nth_command host interval hprobe]
    at hvain hexhausted hhistory hresult
  refine ⟨n, Nat.le_of_lt_succ hwithin, hvain, fun hnone => Nat.succ.inj (hexhausted hnone),
    ?_, ?_⟩
  · rw [hhistory, Host.rounds, Command.repeated_eq_intercalate, List.map_map]
    rfl
  · exact congrArg (fun r => Except.ok r.1.1) hresult

end Retry

namespace Filesystem

variable {root : Target} {device : String}

/-! ### Looking for the signature -/

/-- What a look at the signature finds. -/
def shown (answer : Except Failure String) : Option Unit :=
  match reading 2 answer with
  | .ok (some fsType) => if fsType = btrfsType then some () else none
  | _ => none

theorem confirmed_eq (root : Target) (device : String) :
    confirmed root device
      = .ask (.run (signatureProbe root device)) fun a => .done (shown a) := by
  rw [confirmed, probedType, outcome_typeOrNone, Attempt.outcome_runWithin, Action.ask_map,
    Action.ask_bind]
  refine congrArg (Action.ask _) (funext fun a => ?_)
  rw [Action.done_map, Action.done_bind, shown]
  rcases reading 2 a with f | _ | fsType <;> rfl

theorem shown_eq_none_iff {a : Except Failure String} :
    shown a = none ↔ ¬Names btrfsType a := by
  rw [names_iff 2, shown]
  rcases reading 2 a with f | _ | fsType
  · simp
  · simp
  · by_cases hbtrfs : fsType = btrfsType
    · simp [hbtrfs]
    · simp [hbtrfs]

/-- A look at the signature mounts nothing. -/
theorem not_mounts_of_mem_rounds {host : Host σ} {s : σ} {pause n : Nat} {e : Event}
    (he : e ∈ host.rounds (signatureProbe root device) pause s n) : ¬e.query.Runs "mount" := by
  rcases Command.mem_repeated he with ⟨a, -, rfl⟩ | rfl
  · simp [Query.Runs, signatureProbe]
  · simp [Query.Runs]

/-- A trial mounts something, if it succeeds. -/
theorem TrialRun.exists_mounts {h : History} (ht : TrialRun root device h (.ok ())) :
    ∃ e ∈ h, e.query.Runs "mount" := by
  cases ht with
  | @mounted output mountOutput u d hdir =>
    refine ⟨(trialMount root device (Text.trim output)).event (.ok mountOutput), by simp, ?_⟩
    simp [Query.Runs, trialMount]

/-! ### The verification -/

/-- The verification ends with the first look that shows btrfs, or with a trial after ten
looks. -/
theorem verify_on_host (host : Host σ) (s : σ) (root : Target) (device : String) :
    let heard := host.heard (signatureProbe root device) 500 s
    let looks := host.rounds (signatureProbe root device) 500 s
    let record := (verify root device).outcome.record host s
    let result := ((verify root device).outcome.runWith host s).1
    (∃ n < 10, (∀ i < n, ¬Names btrfsType (heard i)) ∧ Names btrfsType (heard n) ∧
        record = looks (n + 1) ∧ result = .ok ()) ∨
      ((∀ n < 10, ¬Names btrfsType (heard n)) ∧
        ∃ trial, record = looks 10 ++ trial ∧ TrialRun root device trial result) := by
  intro heard looks record result
  obtain ⟨n, hn, hbefore, hlast, hlooks, hfound⟩ :=
    Retry.pollMore_on_host host 500 (confirmed_eq root device) 9 s
  have hbefore : ∀ i < n, ¬Names btrfsType (heard i) :=
    fun i hi => shown_eq_none_iff.mp (hbefore i hi)
  -- A run of `verify` is the poll and what follows its value.
  have hrun : (verify root device).outcome
      = (Retry.pollMore 500 (liftM (confirmed root device) : Attempt (Option Unit)) 9).outcome
        >>= Attempt.andThen _ := Attempt.outcome_bind _ _
  have hrecord : record = _ := (congrArg (Action.record host · s) hrun).trans
    (Action.record_bind host _ _ s)
  have hresult : result = _ := (congrArg (Action.runWith host · s |>.1) hrun).trans
    (congrArg Prod.fst (Action.runWith_bind host _ _ s))
  rw [hlooks, hfound] at hrecord
  rw [hfound] at hresult
  cases hshown : shown (heard n) with
  | some u =>
    have hnames : Names btrfsType (heard n) := by
      rw [← not_not (a := Names btrfsType (heard n)), ← shown_eq_none_iff, hshown]
      simp
    rw [hshown] at hrecord hresult
    refine .inl ⟨n, Nat.lt_succ_of_le hn, hbefore, hnames, ?_, hresult⟩
    rw [hrecord]
    exact List.append_nil _
  | none =>
    obtain rfl : n = 9 := hlast hshown
    rw [hshown] at hrecord hresult
    refine .inr ⟨fun n hn => ?_, _, hrecord, ?_⟩
    · rcases Nat.lt_succ_iff_lt_or_eq.mp hn with hlt | rfl
      · exact hbefore n hlt
      · exact shown_eq_none_iff.mp hshown
    · rw [hresult]
      exact probeMount_run (Action.leads_record host _ _)

/-- **A device is verified by its signature, or else by a trial mount.** Up to ten looks
at the signature, half a second apart, decide, each by what the host has to say to it. As
soon as one of them shows btrfs the verification has succeeded; nothing else is done.
Otherwise all ten are followed by a trial and nothing else, which then decides. -/
theorem verified_by_signature_or_trial (host : Host σ) (s : σ) (root : Target)
    (device : String) :
    let heard := host.heard (signatureProbe root device) 500 s
    let looks := host.rounds (signatureProbe root device) 500 s
    let record := (verify root device).outcome.record host s
    let result := ((verify root device).outcome.runWith host s).1
    (result = .ok () ∧ (∀ e ∈ record, ¬e.query.Runs "mount") ↔
        ∃ n < 10, Names btrfsType (heard n)) ∧
      (∀ n < 10, Names btrfsType (heard n) → (∀ i < n, ¬Names btrfsType (heard i)) →
        record = looks (n + 1) ∧ result = .ok ()) ∧
      ((∀ n < 10, ¬Names btrfsType (heard n)) →
        ∃ trial, record = looks 10 ++ trial ∧ TrialRun root device trial result) := by
  intro heard looks record result
  rcases verify_on_host host s root device with
    ⟨n, hn, hbefore, hnames, hrecord, hresult⟩ | ⟨hnone, trial, hrecord, htrial⟩
  · refine ⟨iff_of_true ⟨hresult, fun e he => ?_⟩ ⟨n, hn, hnames⟩, ?_, ?_⟩
    · rw [show record = looks (n + 1) from hrecord] at he
      exact not_mounts_of_mem_rounds he
    · intro m _ hm hfirst
      -- There is only one first look that shows btrfs.
      rcases Nat.lt_trichotomy m n with hlt | rfl | hgt
      · exact absurd hm (hbefore m hlt)
      · exact ⟨hrecord, hresult⟩
      · exact absurd hnames (hfirst n hgt)
    · exact fun hnone => absurd hnames (hnone n hn)
  · refine ⟨iff_of_false ?_ ?_, fun n hn hnames => absurd hnames (hnone n hn),
      fun _ => ⟨trial, hrecord, htrial⟩⟩
    · rintro ⟨hresult, hmounts⟩
      rw [show ((verify root device).outcome.runWith host s).1 = .ok () from hresult] at htrial
      obtain ⟨e, he, hruns⟩ := htrial.exists_mounts
      refine hmounts e ?_ hruns
      rw [show record = looks 10 ++ trial from hrecord]
      exact List.mem_append_right _ he
    · rintro ⟨n, hn, hnames⟩
      exact hnone n hn hnames

end Filesystem

end BtrfsStore
