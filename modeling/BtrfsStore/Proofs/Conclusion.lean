import Mathlib.Data.List.TakeWhile
import BtrfsStore.Platform
import BtrfsStore.Proofs.Stages
/-!
# BtrfsStore.Proofs.Conclusion

How a run ends: a run of `provision` is an attempt that does not know whether
the request insists on the store, followed by a report that does.

`Native.outcome_provision` and `Wsl.outcome_provision` cut the two apart. What
the report makes of a failure is `Reported`: the failure itself, or a fallback
in which its message is recorded.
-/

namespace BtrfsStore

/-! ### Recorded messages -/

namespace Text

theorem trimChars_eq_nil_iff (cs : List Char) : trimChars cs = [] ↔ ∀ c ∈ cs, isBlank c = true := by
  simp only [trimChars, dropEndWhile, List.reverse_eq_nil_iff, List.dropWhile_eq_nil_iff,
    List.mem_reverse]
  constructor
  · intro h
    cases hrest : cs.dropWhile isBlank with
    | nil => exact List.dropWhile_eq_nil_iff.mp hrest
    | cons c rest =>
      -- The first character that is left is not blank, and yet it is to be trimmed.
      have hc : isBlank c = false := isBlank_of_mem_head?_dropWhile (by rw [hrest]; rfl)
      rw [h c (by simp [hrest])] at hc
      cases hc
  · intro h c hc
    exact h c ((List.dropWhile_sublist _).subset hc)

/-- Nothing is left of blank texts, and of no others. -/
theorem trim_eq_empty_iff (s : String) : trim s = "" ↔ isBlankText s = true := by
  rw [isBlankText, List.all_eq_true, ← trimChars_eq_nil_iff, trim, ← String.toList_inj]
  simp

theorem isBlankText_append (s t : String) :
    isBlankText (s ++ t) = (isBlankText s && isBlankText t) := by
  rw [isBlankText, String.toList_append, List.all_append]
  rfl

theorem isBlankText_append_left {s : String} (h : isBlankText s = false) (t : String) :
    isBlankText (s ++ t) = false := by
  rw [isBlankText_append, h, Bool.false_and]

theorem isBlankText_append_right (s : String) {t : String} (h : isBlankText t = false) :
    isBlankText (s ++ t) = false := by
  rw [isBlankText_append, h, Bool.and_false]

end Text

/-- The trimmed message stands in a text of warnings as lines of its own. -/
def Recorded (message warnings : String) : Prop :=
  Text.trim message ≠ "" ∧ ∃ before after, warnings = before ++ Text.trim message ++ after ∧
    (before = "" ∨ ∃ b, before = b ++ "\n") ∧ (after = "" ∨ ∃ a, after = "\n" ++ a)

/-- A message that is not blank is recorded whatever was recorded before. -/
theorem recorded_addWarning {message : String} (h : Text.trim message ≠ "") (old : String) :
    Recorded message (StoreOutcome.addWarning old message) := by
  refine ⟨h, ?_⟩
  by_cases hold : old = ""
  · exact ⟨"", "", by simp [StoreOutcome.addWarning, h, hold], .inl rfl, .inl rfl⟩
  · exact ⟨old ++ "\n", "", by simp [StoreOutcome.addWarning, h, hold], .inr ⟨old, rfl⟩, .inl rfl⟩

/-- A warning stays recorded. -/
theorem Recorded.addWarning {message warnings : String} (h : Recorded message warnings)
    (more : String) : Recorded message (StoreOutcome.addWarning warnings more) := by
  obtain ⟨hne, before, after, hsplit, hbefore, hafter⟩ := h
  by_cases hmore : Text.trim more = ""
  · exact ⟨hne, before, after, by simp [StoreOutcome.addWarning, hmore, hsplit], hbefore, hafter⟩
  have hold : warnings ≠ "" := by
    rw [hsplit]
    simp [hne]
  refine ⟨hne, before, after ++ "\n" ++ Text.trim more, ?_, hbefore, .inr ?_⟩
  · simp only [StoreOutcome.addWarning, String.isEmpty_iff, hmore, hold, if_false]
    simp only [hsplit, String.append_assoc]
  · rcases hafter with rfl | ⟨a, rfl⟩
    · exact ⟨Text.trim more, by simp⟩
    · exact ⟨a ++ "\n" ++ Text.trim more, by simp only [String.append_assoc]⟩

/-- Every failure has something to say. -/
theorem Failure.trim_message_ne (f : Failure) : Text.trim f.message ≠ "" := by
  -- Each message holds a fixed word; the groups are by where it stands.
  have hvisible : Text.isBlankText f.message = false := by
    open Text in
    cases f with
    | io | inventory | partitionNotFound | invalidMountUnit | missingTools | wslUnavailable
      | operation => exact isBlankText_append_left (by decide) _
    | ambiguousDisk | diskInUse | mountedForeign | foreignFilesystem | unformatted =>
      exact isBlankText_append_right _ (by decide)
    | verifyFailed | mountTypeMismatch | stage =>
      exact isBlankText_append_left (isBlankText_append_right _ (by decide)) _
    | command =>
      exact isBlankText_append_left
        (isBlankText_append_left (isBlankText_append_right _ (by decide)) _) _
  rw [Ne, Text.trim_eq_empty_iff, hvisible]
  simp

/-! ### Reports -/

/-- The outcome tells the caller to go on without a store, and has nothing of a
store in it. -/
structure StoreOutcome.IsFallback (o : StoreOutcome) : Prop where
  useStore : o.useStore = false
  stateDir : o.stateDir = none
  storePath : o.storePath = none
  mountDevice : o.mountDevice = none
  mountFsType : o.mountFsType = none
  mountUnit : o.mountUnit = none
  mountDeviceUuid : o.mountDeviceUuid = none

/-- A failure as the result of a run: the failure itself if the request insists
on the store, or else a fallback in which its message is recorded. -/
def Reported (require : Bool) (f : Failure) (r : Except Failure StoreOutcome) : Prop :=
  if require then r = .error f
  else ∃ o : StoreOutcome, r = .ok o ∧ o.IsFallback ∧ Recorded f.message o.warning

/-- The run has failed in the given stage. -/
def FailsIn (stage : Stage) (require : Bool) (r : Except Failure StoreOutcome) : Prop :=
  ∃ f, Reported require (.stage stage f) r

theorem isFallback_fallback (message : String) : (StoreOutcome.fallback message).IsFallback :=
  ⟨rfl, rfl, rfl, rfl, rfl, rfl, rfl⟩

/-- A fallback records why there is no store. -/
theorem recorded_fallback (f : Failure) :
    Recorded f.message (StoreOutcome.fallback f.message).warning := by
  simp only [StoreOutcome.fallback, StoreOutcome.warn]
  exact recorded_addWarning f.trim_message_ne ""

/-! ### On a Linux host -/

namespace Native

/-- What the end of an attempt becomes. -/
def conclude (require : Bool) : Except Failure StoreOutcome → Except Failure StoreOutcome
  | .ok o => .ok o
  | .error f => if require then .error f else .ok (.fallback f.message)

/-- What `require` decides it decides at the end of a run, and nowhere else. -/
theorem outcome_provision (request : StoreRequest) (storeRoot : Option Path) :
    (provision request storeRoot).outcome
      = conclude request.require <$> (prepare request storeRoot).outcome := by
  rw [provision, Attempt.outcome_observe_bind, map_eq_pure_bind]
  refine congrArg (Action.bind (prepare request storeRoot).outcome) (funext fun r => ?_)
  rcases r with f | o
  · simp only [Attempt.outcome_ite, conclude]
    split <;> rfl
  · rfl

/-- A run with a store is one of an attempt that succeeds. -/
theorem conclude_ok {require : Bool} {r : Except Failure StoreOutcome} {o : StoreOutcome}
    (hr : conclude require r = .ok o) (hstore : o.useStore = true) : r = .ok o := by
  cases r with
  | ok o' => exact hr
  | error f =>
    cases require with
    | true => cases hr
    | false =>
      obtain rfl := Except.ok.inj hr
      cases hstore

/-- A failure ends a run if a store is required, and is reported as a warning otherwise. -/
theorem reported_conclude (require : Bool) (f : Failure) :
    Reported require f (conclude require (.error f)) := by
  cases require with
  | true => rfl
  | false => exact ⟨_, rfl, isFallback_fallback _, recorded_fallback f⟩

end Native

/-! ### On a Windows host -/

namespace Wsl

/-- How the run of an attempt ends: without a distro, or with the end of its
stages and the outcome so far. -/
abbrev Ended : Type := Except String (Except Failure Unit × StoreOutcome)

/-- The run up to its report. -/
def attempt (request : StoreRequest) (storeRoot : Option Path) : Action Ended := do
  match ← chooseDistro request with
  | .error reason => pure (.error reason)
  | .ok distro =>
    Except.ok <$> (runStages request storeRoot distro.name).runFrom { distro := some distro.name }

/-- What the end of an attempt becomes. -/
def conclude (require : Bool) : Ended → Except Failure StoreOutcome
  | .error reason =>
    if require then .error (.wslUnavailable reason)
    else .ok (.fallback (Failure.wslUnavailable reason).message)
  | .ok (.ok (), o) => .ok (o.warn shutdownHint)
  | .ok (.error f, o) =>
    if require then .error f else .ok ((o.abandon f).warn shutdownHint)

/-- In WSL, too, what `require` decides it decides at the end of a run. -/
theorem outcome_provision (request : StoreRequest) (storeRoot : Option Path) :
    (provision request storeRoot).outcome
      = conclude request.require <$> attempt request storeRoot := by
  simp only [provision, attempt, Attempt.outcome_bind, Attempt.outcome_lift, map_eq_pure_bind,
    bind_assoc, pure_bind]
  refine congrArg (Action.bind (chooseDistro request)) (funext fun r => ?_)
  rcases r with reason | distro
  · simp only [Attempt.andThen_ok, unavailable, Attempt.outcome_ite, conclude]
    split <;> rfl
  · simp only [Attempt.andThen_ok, Attempt.outcome_bind, Attempt.outcome_lift, map_eq_pure_bind,
      bind_assoc, pure_bind]
    refine congrArg (Action.bind ((runStages request storeRoot distro.name).runFrom _))
      (funext fun p => ?_)
    obtain ⟨f | u, o⟩ := p
    · simp only [Attempt.outcome_ite, conclude]
      split <;> rfl
    · rfl

theorem reported_unavailable (require : Bool) (reason : String) :
    Reported require (.wslUnavailable reason) (conclude require (.error reason)) := by
  cases require with
  | true => rfl
  | false => exact ⟨_, rfl, isFallback_fallback _, recorded_fallback _⟩

theorem reported_conclude (require : Bool) (f : Failure) (o : StoreOutcome) :
    Reported require f (conclude require (.ok (.error f, o))) := by
  cases require with
  | true => rfl
  | false =>
    refine ⟨_, rfl, ⟨rfl, rfl, rfl, rfl, rfl, rfl, rfl⟩, ?_⟩
    simp only [StoreOutcome.abandon, StoreOutcome.warn]
    exact (recorded_addWarning f.trim_message_ne _).addWarning _

end Wsl

end BtrfsStore
