import BtrfsStore.Proofs.Course.Native
import BtrfsStore.Scripted
/-!
# BtrfsStore.Proofs.Prerequisites

When a run on a Linux host looks for its tools: after it has made room for the
store, and before it creates, formats or mounts anything.

So a run that finds tools missing has changed nothing if it keeps the store. If
it reinitialises the store, the old one has been unmounted and its image removed
by then.
-/

namespace BtrfsStore

open Filesystem

namespace Native

open Attempt

/-- The runs that end because tools are missing. -/
inductive ToolsRun (request : StoreRequest) (storeRoot : Option Path) : History → Prop
  | mk {plan : StorePlan} {clear look tools : History}
      (hplan : StorePlan.ofRequest request storeRoot = .ok plan)
      (hclear : request.reinit = true ∧ Cleared plan clear ∨ request.reinit = false ∧ clear = [])
      (hlook : ∀ e ∈ look, e.query.Within lookSteps)
      (htools : ∀ e ∈ tools, LooksForTools e.query) :
      ToolsRun request storeRoot (clear ++ look ++ tools)

variable {request : StoreRequest} {plan : StorePlan} {backing : Path} {h : History}
  {cause : Failure}

/-- A directory that is on btrfs is taken without a look for tools. -/
theorem takeCourse_not_prerequisites {dir : Path} :
    ¬(takeCourse dir).Run h (.error (.stage .prerequisites cause)) := by
  intro hr
  obtain ⟨h₁, there, h₂, -, -, hrest, -⟩ := hr.of_other_stage (by simp)
  cases there with
  | true => simpa using (Course.run_finish.mp hrest).2
  | false =>
    obtain ⟨h₃, _, h₄, -, -, hend, -⟩ := Course.Run.of_other_stage hrest (by simp)
    simpa using (Course.run_finish.mp hend).2

theorem mountCourse_prerequisites
    (hr : (mountCourse request plan backing).Run h (.error (.stage .prerequisites cause))) :
    ∀ e ∈ h, LooksForTools e.query := by
  rcases Course.run_milestone.mp hr with ⟨s, f, -, hasked, -, -⟩ | ⟨h₁, _, h₂, -, -, hrest, rfl⟩
  · exact hasked
  -- Once they are found, no later failure is one of the prerequisites.
  obtain ⟨_, _, h₃, -, -, hformat, -⟩ := hrest.of_other_stage (by simp)
  obtain ⟨_, _, h₄, -, -, hmount, -⟩ := hformat.of_other_stage (by simp)
  obtain ⟨_, _, h₅, -, -, hgive, -⟩ := hmount.of_other_stage (by simp)
  obtain ⟨_, _, h₆, -, -, hend, -⟩ := hgive.of_other_stage (by simp)
  simpa using (Course.run_finish.mp hend).2

theorem course_prerequisites {storeRoot : Option Path}
    (hplan : StorePlan.ofRequest request storeRoot = .ok plan)
    (hr : (course request plan backing).Run h (.error (.stage .prerequisites cause))) :
    ToolsRun request storeRoot h := by
  have hequip : ∀ {h : History}, (Course.milestone none (Query.Within lookSteps)
      (fun onBtrfs h => onBtrfs = true → ShowsBtrfs h) fun onBtrfs : Bool =>
      if onBtrfs then takeCourse plan.storeDir else mountCourse request plan backing).Run h
        (.error (.stage .prerequisites cause)) →
      ∃ look tools, (∀ e ∈ look, e.query.Within lookSteps) ∧
        (∀ e ∈ tools, LooksForTools e.query) ∧ h = look ++ tools := by
    intro h hr
    obtain ⟨look, onBtrfs, tools, hlook, -, hrest, rfl⟩ := hr.of_other_stage (by simp)
    cases onBtrfs with
    | true => exact absurd hrest takeCourse_not_prerequisites
    | false => exact ⟨look, tools, hlook, mountCourse_prerequisites hrest, rfl⟩
  unfold course Course.milestoneIf at hr
  cases hreinit : request.reinit with
  | true =>
    rw [hreinit] at hr
    obtain ⟨clear, _, h₁, -, hcleared, hrest, rfl⟩ := Course.Run.of_other_stage hr (by simp)
    obtain ⟨look, tools, hlook, htools, rfl⟩ := hequip hrest
    rw [← List.append_assoc]
    exact .mk hplan (.inl ⟨hreinit, hcleared⟩) hlook htools
  | false =>
    rw [hreinit] at hr
    obtain ⟨look, tools, hlook, htools, rfl⟩ := hequip hr
    have hrun : ToolsRun request storeRoot ([] ++ look ++ tools) :=
      .mk hplan (.inr ⟨hreinit, rfl⟩) hlook htools
    exact hrun

theorem prepare_toolsRun {storeRoot : Option Path}
    (hl : (prepare request storeRoot).outcome.Leads h (.error (.stage .prerequisites cause))) :
    ToolsRun request storeRoot h := by
  rcases prepare_run hl with ⟨f, hplan, -, hf⟩ | ⟨plan, backing, hplan, -, hcourse⟩
  · obtain rfl := Except.error.inj hf
    cases StorePlan.isPlain_of_ofRequest hplan
  · exact course_prerequisites hplan hcourse

end Native

/-- **A run on a Linux host looks for its tools after it has made room for the
store.** If they are missing, the store that was to be reinitialised has been
released and its image removed, and nothing has been changed otherwise. -/
theorem native_prerequisites_follow_removal {σ : Type} (host : Host σ) (s : σ)
    (request : StoreRequest) (storeRoot : Option Path) (cause : Failure)
    (hfailed : ((Native.prepare request storeRoot).outcome.runWith host s).1
      = .error (.stage .prerequisites cause)) :
    Native.ToolsRun request storeRoot
        ((Native.provision request storeRoot).outcome.record host s) ∧
      FailsIn .prerequisites request.require
        ((Native.provision request storeRoot).outcome.runWith host s).1 := by
  have hl := Action.leads_record host (Native.prepare request storeRoot).outcome s
  rw [hfailed] at hl
  rw [Native.outcome_provision, Action.record_map, Action.runWith_map]
  constructor
  · exact Native.prepare_toolsRun hl
  · rw [hfailed]
    exact ⟨cause, Native.reported_conclude request.require _⟩

/-- A Linux host without the tool that formats. -/
def hostWithoutMkfs : Scripted.State := ({} : Scripted.State).without ["mkfs.btrfs"]

/-- A run with `reinit` on a host that lacks `mkfs.btrfs`. -/
theorem native_prerequisites_follow_removal_no_mkfs :
    ((Native.prepare { reinit := true } (some ⟨"/store"⟩)).outcome.runWith Scripted.host
        hostWithoutMkfs).1 = .error (.stage .prerequisites (.missingTools ["mkfs.btrfs"])) ∧
      Native.ToolsRun { reinit := true } (some ⟨"/store"⟩)
        ((Native.provision { reinit := true } (some ⟨"/store"⟩)).outcome.record Scripted.host
          hostWithoutMkfs) := by
  have hfailed : ((Native.prepare { reinit := true } (some ⟨"/store"⟩)).outcome.runWith
      Scripted.host hostWithoutMkfs).1
        = .error (.stage .prerequisites (.missingTools ["mkfs.btrfs"])) := by
    decide +kernel
  exact ⟨hfailed, (native_prerequisites_follow_removal Scripted.host hostWithoutMkfs
    { reinit := true } (some ⟨"/store"⟩) _ hfailed).1⟩

/-- The image is removed although a tool is missing. -/
theorem native_removes_image_without_mkfs :
    ((Native.provision { reinit := true, require := true } (some ⟨"/store"⟩)).outcome.runWith
        Scripted.host hostWithoutMkfs).1
          = .error (.stage .prerequisites (.missingTools ["mkfs.btrfs"])) ∧
      ∃ e ∈ (Native.provision { reinit := true, require := true } (some ⟨"/store"⟩)).outcome.record
        Scripted.host hostWithoutMkfs, e.query = .run (Native.removeImage ⟨"/store.img"⟩) :=
  ⟨by decide +kernel, by decide +kernel⟩

end BtrfsStore
