import BtrfsStore.Proofs.Milestones.Wsl
/-!
# BtrfsStore.Proofs.SystemdWait

The wait for systemd in a freshly started distro.

A reply to the question for its state either says that it is ready (`Ready`), or that it
may still become so (`Waits`), or settles that it is not. The wait goes on as long as
replies say `Waits`. What decides about the questions is therefore one reply after the
other, while the state that a failure reports is the last one that any of them has shown:
a question that fails leaves it as it is (`leads_askSystemd_iff`).

`awaited_run` gives the runs of the wait for all replies. `Host.replaying` is a host with
a given sequence of replies, on which the run is then determined.
-/

namespace BtrfsStore

/-! ### Hosts with a sequence of replies -/

/-- A host that gives a sequence of replies, one to each command. It has nothing else. -/
def Host.replaying (replies : Nat → Except Failure String) : Host Nat where
  answer
    | .run _, i => (replies i, i + 1)
    | .locate _, i => (none, i)
    | .isRoot, i => (false, i)
    | .sleep _, i => ((), i)
    | .pathExists _, i => (false, i)
    | .makeDirectories _, i => (.error .notFound, i)
    | .removeFile _, i => (.error .notFound, i)
    | .readText _, i => (.error .notFound, i)
    | .writeText _ _, i => (.error .notFound, i)

/-- The replies to the commands of a history. -/
def History.replies (h : History) : List (Except Failure String) :=
  h.filterMap fun
    | ⟨.run _, answer⟩ => some answer
    | _ => none

/-- The commands of a run get the replies of the sequence, in its order. -/
theorem Action.replies_record_replaying {α : Type} (replies : Nat → Except Failure String)
    (x : Action α) (i : Nat) :
    ∃ n, (x.record (.replaying replies) i).replies = (List.range' i n).map replies := by
  induction x generalizing i with
  | done a => exact ⟨0, rfl⟩
  | ask q next ih =>
    cases q with
    | run c =>
      obtain ⟨n, hn⟩ := ih (replies i) (i + 1)
      refine ⟨n + 1, ?_⟩
      rw [List.range'_succ, List.map_cons, ← hn]
      rfl
    | _ => exact ih _ i

namespace Wsl

open Attempt

variable {user : Target} {h : History}

/-! ### Replies -/

/-- The reply says that systemd runs, if need be without some units. -/
def Ready : Except Failure String → Prop
  | .ok output => Text.trim output = "running" ∨ Text.trim output = "degraded"
  | .error _ => False

/-- The question has failed, or the reply says that systemd is starting. -/
def Waits : Except Failure String → Prop
  | .ok output => Text.trim output = "starting" ∨ Text.trim output = "initializing"
  | .error _ => True

/-- The states that replies show. -/
def statesShown (replies : List (Except Failure String)) : List String :=
  replies.filterMap fun reply => reply.toOption.map Text.trim

/-- The state that is reported after some replies: the last one that any of them shows. -/
def reportedState (replies : List (Except Failure String)) : String :=
  match (statesShown replies).getLast? with
  | some state => if state = "" then "unknown" else state
  | none => "unknown"

/-- The failure of a wait that has ended in a state. -/
def notRunning (state : String) : Failure :=
  .operation ("systemd is not running in the distro (state " ++ state ++ "); " ++ systemdHint)

/-! ### One question -/

theorem heard_none_iff {s : String} {reply : Except Failure String} :
    (heard s reply).1 = none ↔ Waits reply := by
  cases reply with
  | error f => simp [heard, Waits]
  | ok output =>
    simp only [heard, Waits, isReadyState]
    split
    next hready => rcases hready with hready | hready <;> simp [hready]
    next =>
      split
      next hstarting => simp [hstarting]
      next hsettled => simp [hsettled]

theorem heard_true_iff {s : String} {reply : Except Failure String} :
    (heard s reply).1 = some true ↔ Ready reply := by
  cases reply with
  | error f => simp [heard, Ready]
  | ok output =>
    simp only [heard, Ready, isReadyState]
    split
    next hready => simp [hready]
    next hready =>
      simp only [hready, iff_false]
      split <;> simp

theorem heard_snd (replies : List (Except Failure String)) (reply : Except Failure String) :
    (heard ((statesShown replies).getLast?.getD "") reply).2
      = (statesShown (replies ++ [reply])).getLast?.getD "" := by
  rw [statesShown, statesShown, List.filterMap_append]
  cases reply <;> simp [heard, Except.toOption]

/-! ### The wait -/

/-- The questions that get the replies, with a pause of one second between two of them. -/
def conversation (user : Target) (replies : List (Except Failure String)) : History :=
  (replies.map (systemdQuestion user).event).intersperse ⟨.sleep 1000, ()⟩

/-- The reply after the others is not followed by a pause. -/
theorem conversation_concat (replies : List (Except Failure String))
    (reply : Except Failure String) :
    conversation user (replies ++ [reply])
      = replies.flatMap (fun r => [(systemdQuestion user).event r, ⟨.sleep 1000, ()⟩])
        ++ [(systemdQuestion user).event reply] := by
  induction replies with
  | nil => rfl
  | cons r replies ih =>
    rw [List.flatMap_cons, List.append_assoc, ← ih]
    cases replies <;> rfl

theorem replies_conversation (replies : List (Except Failure String)) :
    (conversation user replies).replies = replies := by
  induction replies with
  | nil => rfl
  | cons r replies ih =>
    cases replies with
    | nil => rfl
    | cons r' replies => exact congrArg (List.cons r) ih

/-- The rounds of the wait are questions that get replies to wait for. -/
theorem rounds_askSystemd {n : Nat} {s s' : String}
    (hr : Retry.Rounds 1000 (askSystemd user) n s h s') {before : List (Except Failure String)}
    (hs : s = (statesShown before).getLast?.getD "") :
    ∃ replies : List (Except Failure String), replies.length = n ∧ (∀ r ∈ replies, Waits r) ∧
      h = replies.flatMap (fun r => [(systemdQuestion user).event r, ⟨.sleep 1000, ()⟩]) ∧
      s' = (statesShown (before ++ replies)).getLast?.getD "" := by
  induction hr generalizing before with
  | zero s => exact ⟨[], rfl, List.forall_mem_nil _, rfl, by rw [hs, List.append_nil]⟩
  | succ hl _ ih =>
    obtain ⟨reply, rfl, hheard⟩ := leads_askSystemd_iff.mp hl
    have hwaits : Waits reply := heard_none_iff.mp (congrArg Prod.fst hheard).symm
    have hlast := congrArg Prod.snd hheard
    rw [hs, heard_snd] at hlast
    obtain ⟨replies, rfl, hwait, rfl, hstate⟩ := ih hlast
    refine ⟨reply :: replies, rfl, List.forall_mem_cons.mpr ⟨hwaits, hwait⟩, rfl, ?_⟩
    rw [hstate, List.append_assoc, List.singleton_append]

/-- The runs of the wait: all replies but the last one are to wait for, and the last one
is only if there are no more questions. It decides. -/
inductive AwaitRun (user : Target) : History → Except Failure Unit → Prop
  | mk {before : List (Except Failure String)} {reply : Except Failure String}
      {r : Except Failure Unit} (hlength : before.length < 15) (hwait : ∀ a ∈ before, Waits a)
      (hlast : Waits reply → before.length = 14) (hok : r = .ok () ↔ Ready reply)
      (hfailed : r ≠ .ok () → r = .error (notRunning (reportedState (before ++ [reply])))) :
      AwaitRun user (conversation user (before ++ [reply])) r

theorem reportedState_eq (replies : List (Except Failure String)) :
    reportedState replies
      = if ((statesShown replies).getLast?.getD "").isEmpty then "unknown"
        else (statesShown replies).getLast?.getD "" := by
  rw [reportedState]
  cases (statesShown replies).getLast? with
  | none => rfl
  | some state => simp

theorem awaited_run {r : Except Failure Unit} (hl : (ensureSystemd user).outcome.Leads h r) :
    AwaitRun user h r := by
  unfold ensureSystemd at hl
  rw [outcome_bind, outcome_liftM, Action.leads_bind] at hl
  obtain ⟨h₁, polled, h₂, hpoll, hrest, rfl⟩ := hl
  obtain ⟨⟨ready, last⟩, hpolled, rfl⟩ := Action.leads_map.mp hpoll
  obtain ⟨n, hn, h₀, s, h₃, hrounds, hlast, rfl, hnone⟩ := Retry.leads_pollMore.mp hpolled
  have hblank : "" = (statesShown []).getLast?.getD "" := rfl
  obtain ⟨replies, rfl, hwait, rfl, rfl⟩ := rounds_askSystemd hrounds hblank
  obtain ⟨reply, rfl, hheard⟩ := leads_askSystemd_iff.mp hlast
  have hready : ready = _ := congrArg Prod.fst hheard
  have hshown : last = _ := congrArg Prod.snd hheard
  rw [List.nil_append, heard_snd] at hshown
  rw [← conversation_concat]
  simp only [andThen_ok] at hrest
  rw [outcome_ite] at hrest
  -- If the last reply is one to wait after, there were no more questions to ask.
  have hlast : Waits reply → replies.length = 14 := fun h =>
    hnone (hready.trans (heard_none_iff.mpr h))
  split at hrest
  next htrue =>
    obtain ⟨rfl, rfl⟩ := Action.leads_done.mp hrest
    rw [List.append_nil]
    have hreply : Ready reply := heard_true_iff.mp (hready.symm.trans htrue)
    exact .mk (Nat.lt_succ_of_le hn) hwait hlast (iff_of_true rfl hreply)
      fun hne => absurd rfl hne
  next hfalse =>
    obtain ⟨rfl, rfl⟩ := Action.leads_done.mp hrest
    rw [List.append_nil, hshown, ← reportedState_eq]
    have hreply : ¬Ready reply := fun h => hfalse (hready.trans (heard_true_iff.mpr h))
    exact .mk (Nat.lt_succ_of_le hn) hwait hlast (iff_of_false nofun hreply) fun _ => rfl

/-! ### A given sequence of replies -/

theorem Ready.not_waits {reply : Except Failure String} (h : Ready reply) : ¬Waits reply := by
  cases reply with
  | error f => exact h.elim
  | ok output => rcases h with h | h <;> simp [Waits, h]

variable {replies : Nat → Except Failure String} {n : Nat}

/-- The reply that ends the wait is the only one that can be the first to say that systemd
is ready. -/
theorem ready_iff_exists (hn : n < 15) (hwait : ∀ i < n, Waits (replies i))
    (hlast : Waits (replies n) → n = 14) :
    Ready (replies n) ↔ ∃ k < 15, Ready (replies k) ∧ ∀ i < k, Waits (replies i) := by
  constructor
  · exact fun hready => ⟨n, hn, hready, hwait⟩
  · rintro ⟨k, hk, hready, hbefore⟩
    rcases Nat.lt_trichotomy k n with hlt | rfl | hgt
    · exact absurd (hwait k hlt) hready.not_waits
    · exact hready
    · have hend : n = 14 := hlast (hbefore n hgt)
      omega

/-- The replies of a run are the first ones of the sequence. -/
theorem eq_map_range_of_concat {before : List (Except Failure String)}
    {reply : Except Failure String} {m : Nat}
    (h : before ++ [reply] = (List.range' 0 m).map replies) :
    before = (List.range before.length).map replies ∧ reply = replies before.length := by
  obtain rfl : before.length + 1 = m := by simpa using congrArg List.length h
  rw [← List.range_eq_range', List.range_succ, List.map_append, List.map_singleton] at h
  obtain ⟨hbefore, hreply⟩ := List.append_inj' h rfl
  exact ⟨hbefore, List.singleton_inj.mp hreply⟩

/-- **The wait for systemd takes as many replies as it has to.** On a host with a sequence
of replies it ends with the first one that settles the matter, or with the fifteenth. It
pauses for a second between two questions only. It succeeds if one of the first fifteen
replies says that systemd is ready and all before it are such that it may still become
so; otherwise it reports the last state that a reply has shown. -/
theorem systemd_awaited (user : Target) (replies : Nat → Except Failure String) :
    let record := (ensureSystemd user).outcome.record (.replaying replies) 0
    let result := ((ensureSystemd user).outcome.runWith (.replaying replies) 0).1
    ∃ n < 15, (∀ i < n, Waits (replies i)) ∧ (Waits (replies n) → n = 14) ∧
      record = conversation user ((List.range (n + 1)).map replies) ∧
      (result = .ok () ↔ ∃ k < 15, Ready (replies k) ∧ ∀ i < k, Waits (replies i)) ∧
      (result ≠ .ok () →
        result = .error (notRunning (reportedState ((List.range (n + 1)).map replies)))) := by
  intro record result
  have hrun : AwaitRun user record result := awaited_run (Action.leads_record _ _ _)
  obtain ⟨m, hm⟩ := Action.replies_record_replaying replies (ensureSystemd user).outcome 0
  change record.replies = _ at hm
  clear_value record result
  obtain @⟨before, reply, _, hlength, hwait, hlast, hok, hfailed⟩ := hrun
  rw [replies_conversation] at hm
  obtain ⟨hbefore, rfl⟩ := eq_map_range_of_concat hm
  have hwait : ∀ i < before.length, Waits (replies i) := by
    rw [hbefore] at hwait
    simpa using hwait
  have hasked : before ++ [replies before.length]
      = (List.range (before.length + 1)).map replies := by
    rw [List.range_succ, List.map_append, ← hbefore, List.map_singleton]
  rw [hasked] at hfailed ⊢
  exact ⟨before.length, hlength, hwait, hlast, rfl,
    hok.trans (ready_iff_exists hlength hwait hlast), hfailed⟩

end Wsl

end BtrfsStore
