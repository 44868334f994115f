import BtrfsStore.Proofs.Milestones
import BtrfsStore.Proofs.UnitFile
import BtrfsStore.Scripted
/-!
# BtrfsStore.Proofs.Activation

Whether a mount unit that is started is also recognised.

The file of a unit declares a filesystem type, and activating the unit waits for a
type. The two are computed apart: the file falls back on btrfs for a blank type, and
systemd drops blanks around a value, while the wait takes the type as it stands in the
unit. A look at a directory yields one word. So the wait recognises what the file
declares exactly if the type of the unit is a single word.
-/

namespace BtrfsStore

open UnitFile

namespace MountSupervision

open Attempt Filesystem

variable {root : Target} {verbose : Bool} {unit : MountUnit} {name dir expected declared : String}
  {h : History}

/-! ### A host on which the mount works -/

/-- The command has run to its end, with success or with an exit code. -/
def Ended : Except Failure String → Prop
  | .ok _ => True
  | .error f => f.exitCode.isSome

instance : DecidablePred Ended
  | .ok _ => .isTrue trivial
  | .error _ => inferInstanceAs (Decidable (_ = true))

/-- The command has written the type, apart from blanks around it. -/
def Writes (fsType : String) : Except Failure String → Prop
  | .ok output => Text.trim output = Text.trim fsType
  | .error _ => False

instance (fsType : String) : DecidablePred (Writes fsType)
  | .ok _ => inferInstanceAs (Decidable (_ = _))
  | .error _ => .isFalse id

/-- The event is one of a host on which the unit can be started and then shows the
declared type: the question for its state ends, a start succeeds, and the directory
always shows the type. -/
def Cooperates (root : Target) (unit : MountUnit) (declared : String) : Event → Prop
  | ⟨.run c, answer⟩ =>
    (c = activeCheck root unit.name → Ended answer) ∧
      (c = startUnit root unit.name → answer.isOk = true) ∧
      (c = mountPointCheck root unit.mountPoint → Writes declared answer)
  | _ => True

instance (root : Target) (unit : MountUnit) (declared : String) :
    DecidablePred (Cooperates root unit declared)
  | ⟨.run _, _⟩ => inferInstanceAs (Decidable (_ ∧ _ ∧ _))
  | ⟨.locate _, _⟩ | ⟨.isRoot, _⟩ | ⟨.sleep _, _⟩ | ⟨.pathExists _, _⟩ | ⟨.makeDirectories _, _⟩
  | ⟨.removeFile _, _⟩ | ⟨.readText _, _⟩ | ⟨.writeText _ _, _⟩ => .isTrue trivial

/-! ### The steps -/

theorem ok_of_ended {a : Except Failure String} (ha : Ended a) :
    ∃ active, activity a = .ok active := by
  cases a with
  | ok output => exact ⟨_, rfl⟩
  | error f => exact ⟨false, if_pos ha⟩

/-- A start that is answered well succeeds. -/
theorem leads_start {r : Except Failure Unit}
    (hl : (start root verbose name).outcome.Leads h r)
    (hstarts : ∀ a, (startUnit root name).event a ∈ h → a.isOk = true) : r = .ok () := by
  unfold start at hl
  obtain ⟨a, rest, rfl, hstarted⟩ := leads_observe_runWithin.mp hl
  cases a with
  | ok output => exact (Action.leads_done.mp hstarted).2
  | error f => exact absurd (hstarts (.error f) List.mem_cons_self) Bool.false_ne_true

theorem reading_of_writes {m : Except Failure String} (hm : Writes declared m) :
    reading 1 m = .ok (Text.firstWord declared) := by
  cases m with
  | ok output =>
    rw [reading, ← Text.firstWord_trim output, show Text.trim output = Text.trim declared from hm,
      Text.firstWord_trim]
  | error f => exact hm.elim

/-- How a wait for a type ends if the directory always shows `found`. -/
def waitResult (dir expected : String) (found : Option String) : Except Failure Unit :=
  if found = some expected then .ok ()
  else .error (.mountTypeMismatch dir expected (found.getD "nothing"))

/-- The last look decides, since every look finds the same. -/
theorem leads_awaitType {found : Option String} {r : Except Failure Unit}
    (hl : (awaitType root dir expected).outcome.Leads h r)
    (hfound : ∀ m, (mountPointCheck root dir).event m ∈ h → reading 1 m = .ok found) :
    r = waitResult dir expected found := by
  unfold awaitType at hl
  rw [outcome_bind, Action.leads_bind] at hl
  obtain ⟨h₁, polled, h₂, hpoll, hrest, rfl⟩ := hl
  rw [outcome_liftM, Action.leads_map] at hpoll
  obtain ⟨⟨v, s⟩, hpoll, rfl⟩ := hpoll
  obtain ⟨n, -, h₀, s₁, h₃, -, hlast, rfl, -⟩ := Retry.leads_pollMore.mp hpoll
  obtain ⟨m, rfl, hm⟩ := leads_lookForType.mp hlast
  rw [hfound m (by simp), lookResult] at hm
  rw [waitResult]
  split at hm
  next hexpected =>
    obtain ⟨rfl, -⟩ := Prod.mk.inj hm
    rw [if_pos hexpected]
    exact (Action.leads_done.mp hrest).2
  next hexpected =>
    obtain ⟨rfl, rfl⟩ := Prod.mk.inj hm
    rw [if_neg hexpected]
    exact (Action.leads_done.mp hrest).2

theorem activate_run {r : Except Failure Unit} (hvalid : unit.firstFault = none)
    (hl : (activate root verbose unit).outcome.Leads h r)
    (hanswers : ∀ e ∈ h, Cooperates root unit declared e) :
    r = waitResult unit.mountPoint unit.fsType (Text.firstWord declared) := by
  have hawait : ∀ {h' : History}, h' ⊆ h →
      (awaitType root unit.mountPoint unit.fsType).outcome.Leads h' r →
      r = waitResult unit.mountPoint unit.fsType (Text.firstWord declared) := by
    intro h' hsub hl'
    refine leads_awaitType hl' fun m hm => reading_of_writes ?_
    have hshown : Cooperates root unit declared _ := hanswers _ (hsub hm)
    exact hshown.2.2 rfl
  unfold activate at hl
  rw [outcome_bind, outcome_check hvalid, Action.done_bind, andThen_ok, outcome_bind,
    Action.leads_bind] at hl
  obtain ⟨h₁, active, h₂, hactive, hrest, rfl⟩ := hl
  obtain ⟨a, rfl, rfl⟩ := leads_isActive.mp hactive
  have hasked : Cooperates root unit declared ((activeCheck root unit.name).event a) :=
    hanswers _ (by simp)
  obtain ⟨active, hactivity⟩ := ok_of_ended (hasked.1 rfl)
  rw [hactivity, andThen_ok] at hrest
  cases active with
  | true => exact hawait (by simp) hrest
  | false =>
    rw [Bool.not_false, if_pos rfl, outcome_bind, Action.leads_bind] at hrest
    obtain ⟨h₃, started, h₄, hstart, hrest, rfl⟩ := hrest
    obtain rfl : started = .ok () := by
      refine leads_start hstart fun a ha => ?_
      have hstarted : Cooperates root unit declared ((startUnit root unit.name).event a) :=
        hanswers _ (by simp [ha])
      exact hstarted.2.1 rfl
    exact hawait (by simp) hrest

end MountSupervision

/-! ### The declared type -/

/-- The declared type is the one that the unit names if that is a single word. -/
theorem MountUnit.firstWord_effectiveFsType (u : MountUnit) :
    Text.firstWord u.effectiveFsType = some u.fsType ↔ Text.isWord u.fsType.toList = true := by
  by_cases hblank : Text.isBlankText u.fsType = true
  · rw [effectiveFsType, orDefault, if_pos hblank]
    have hdefault : Text.firstWord btrfsType = some btrfsType := by decide
    rw [hdefault, Option.some.injEq]
    constructor
    · intro htype
      rw [← htype] at hblank
      exact absurd hblank (by decide)
    · intro hword
      obtain ⟨hne, hchars⟩ := Text.isWord_iff.mp hword
      obtain ⟨c, hc⟩ := List.exists_mem_of_ne_nil _ hne
      exact absurd (List.all_eq_true.mp hblank c hc) (by simp [hchars c hc])
  · rw [effectiveFsType, orDefault, if_neg hblank]
    exact Text.firstWord_eq_self_iff

namespace MountSupervision

/-- On a host where a unit can be started and then always shows the type that its file
declares, activating it succeeds exactly if the first word of that type is the type in
the unit. For a unit without line breaks this means that the type in the unit is a single
word: a blank type, which the file replaces by btrfs, or a type with blanks around it is
declared and waited for in different forms. -/
theorem activate_waits_for_unit_type {σ : Type} (host : Host σ) (s : σ) (root : Target)
    (verbose : Bool) (unit : MountUnit) (declared : String) (hvalid : unit.firstFault = none)
    (hdeclared : value? unit.render "Mount" "Type" = some declared)
    (hanswers : ∀ e ∈ (activate root verbose unit).outcome.record host s,
      Cooperates root unit declared e) :
    ((activate root verbose unit).outcome.runWith host s).1
        = (if Text.firstWord declared = some unit.fsType then .ok ()
          else .error (.mountTypeMismatch unit.mountPoint unit.fsType
            ((Text.firstWord declared).getD "nothing"))) ∧
      (unit.OneLine → declared = readBack unit.effectiveFsType ∧
        (Text.firstWord declared = some unit.fsType ↔
          Text.isWord unit.fsType.toList = true)) := by
  refine ⟨activate_run hvalid (Action.leads_record host _ s) hanswers, fun hline => ?_⟩
  rw [MountUnit.value?_type hline, Option.some.injEq] at hdeclared
  refine ⟨hdeclared.symm, ?_⟩
  rw [← hdeclared, firstWord_readBack, MountUnit.firstWord_effectiveFsType]

/-- A unit for a btrfs store. -/
def storeUnit (fsType : String) : MountUnit :=
  { name := "store.mount", source := "/dev/sdb1", mountPoint := "/store", fsType }

/-- A host that starts the unit and then shows btrfs on its directory. -/
def hostWithLiveMount : Scripted.State :=
  (({} : Scripted.State).on "systemctl" ["is-active"] [.failure 3 "inactive"]).on "findmnt" []
    [.output "btrfs\n"]

/-- A unit that names btrfs, on a host that has its mount: the wait is over with the first
look. -/
theorem activate_waits_for_unit_type_btrfs :
    (storeUnit "btrfs").firstFault = none ∧
      value? (storeUnit "btrfs").render "Mount" "Type" = some "btrfs" ∧
      (∀ e ∈ (activate .hostRoot false (storeUnit "btrfs")).outcome.record Scripted.host
        hostWithLiveMount, Cooperates .hostRoot (storeUnit "btrfs") "btrfs" e) ∧
      ((activate .hostRoot false (storeUnit "btrfs")).outcome.runWith Scripted.host
        hostWithLiveMount).1 = .ok () := by
  have hvalid : (storeUnit "btrfs").firstFault = none := by decide
  have hdeclared : value? (storeUnit "btrfs").render "Mount" "Type" = some "btrfs" := by
    decide +kernel
  have hanswers : ∀ e ∈ (activate .hostRoot false (storeUnit "btrfs")).outcome.record Scripted.host
      hostWithLiveMount, Cooperates .hostRoot (storeUnit "btrfs") "btrfs" e := by
    decide +kernel
  have hrun := (activate_waits_for_unit_type Scripted.host hostWithLiveMount .hostRoot false
    (storeUnit "btrfs") "btrfs" hvalid hdeclared hanswers).1
  rw [if_pos (by decide)] at hrun
  exact ⟨hvalid, hdeclared, hanswers, hrun⟩

/-- The file of a unit with a blank type declares btrfs, and the host shows just that,
but the unit is not recognised. -/
theorem activate_misses_declared_type :
    (storeUnit "").firstFault = none ∧
      value? (storeUnit "").render "Mount" "Type" = some "btrfs" ∧
      (∀ e ∈ (activate .hostRoot false (storeUnit "")).outcome.record Scripted.host
        hostWithLiveMount, Cooperates .hostRoot (storeUnit "") "btrfs" e) ∧
      ((activate .hostRoot false (storeUnit "")).outcome.runWith Scripted.host
        hostWithLiveMount).1 = .error (.mountTypeMismatch "/store" "" "btrfs") :=
  ⟨by decide, by decide +kernel, by decide +kernel, by decide +kernel⟩

end MountSupervision

end BtrfsStore
