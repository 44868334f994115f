import BtrfsStore.Proofs.Filesystem
import BtrfsStore.Proofs.Warnings
import BtrfsStore.Scripted
/-!
# BtrfsStore.Proofs.Unmounting

How a failed unmount is told to be that of a busy directory.

The kind of a failure is looked up in its whole message, and this message quotes the
directory. No phrase for a busy directory holds a colon, and `umount` writes the
directory between two of them, so that such a phrase is in what `umount` says or else in
the directory itself, with the blank before it (`infix_append_cons_iff`). A directory in
whose path such a phrase stands is therefore taken for busy, whatever `umount` says of
it (`ReadsBusy`).
-/

namespace BtrfsStore

/-! ### Occurrences -/

namespace Text

/-- A pattern does not reach across a character that is not in it. -/
theorem infix_append_cons_iff {pat cs ds : List Char} {c : Char} (hc : c ∉ pat) :
    pat <:+: cs ++ c :: ds ↔ pat <:+: cs ∨ pat <:+: ds := by
  have hback : ∀ {back : List Char}, (∀ d ∈ back, d ∈ pat) → back <+: c :: ds → back = [] := by
    intro back hsub hbegins
    rcases List.prefix_cons_iff.mp hbegins with hnil | ⟨rest, rfl, -⟩
    · exact hnil
    · exact absurd (hsub c List.mem_cons_self) hc
  rw [List.infix_append_iff, List.infix_cons_iff]
  constructor
  · rintro (hcs | (hbegins | hds) | ⟨front, back, rfl, hfront, hbegins⟩)
    · exact Or.inl hcs
    · obtain rfl := hback (fun _ hd => hd) hbegins
      exact Or.inl List.nil_infix
    · exact Or.inr hds
    · obtain rfl := hback (fun _ hd => List.mem_append_right _ hd) hbegins
      rw [List.append_nil]
      exact Or.inl hfront.isInfix
  · rintro (hcs | hds)
    · exact Or.inl hcs
    · exact Or.inr (Or.inl (Or.inr hds))

theorem toList_foldCase_append (s t : String) :
    (foldCase (s ++ t)).toList = (foldCase s).toList ++ (foldCase t).toList := by
  simp [foldCase]

end Text

/-! ### Answers to a command -/

/-- If the event asks for the command, its answer has the property. -/
def Event.Answered (c : Command) (P : Except Failure String → Prop) : Event → Prop
  | ⟨.run asked, answer⟩ => asked = c → P answer
  | _ => True

instance (c : Command) (P : Except Failure String → Prop) [DecidablePred P] :
    DecidablePred (Event.Answered c P)
  | ⟨.run asked, answer⟩ => inferInstanceAs (Decidable (asked = c → P answer))
  | ⟨.locate _, _⟩ | ⟨.isRoot, _⟩ | ⟨.sleep _, _⟩ | ⟨.pathExists _, _⟩ | ⟨.makeDirectories _, _⟩
  | ⟨.removeFile _, _⟩ | ⟨.readText _, _⟩ | ⟨.writeText _ _, _⟩ => .isTrue trivial

/-! ### Messages of `umount` -/

namespace FailureKind

/-- The phrases that tell of something busy. -/
def busyPhrases : List String :=
  ["objectinuse", " in use", "being used by another process", "target is busy",
    "device or resource busy"]

/-- Such a phrase stands in the text, in letters of any case. -/
def SaysBusy (text : String) : Prop :=
  ∃ phrase ∈ busyPhrases, phrase.toList <:+: (Text.foldCase text).toList

instance : DecidablePred SaysBusy := fun _ => inferInstanceAs (Decidable (∃ _ ∈ _, _))

/-- These phrases are looked for first, and no other ones tell of the same. -/
theorem ofText_eq_deviceBusy_iff {text : String} : ofText text = .deviceBusy ↔ SaysBusy text := by
  have hany : busyPhrases.any (Text.contains (Text.foldCase text)) = true ↔ SaysBusy text := by
    simp only [SaysBusy, List.any_eq_true, Text.contains_iff]
  have hphrases : phrases = (.deviceBusy, busyPhrases) :: phrases.tail := rfl
  have hothers : ∀ entry ∈ phrases.tail, entry.1 ≠ .deviceBusy := by decide
  rw [← hany, ofText, hphrases]
  cases hbusy : busyPhrases.any (Text.contains (Text.foldCase text)) with
  | true => simp [hbusy]
  | false =>
    rw [List.find?_cons_of_neg (by simp [hbusy])]
    split
    next kind words hfound =>
      exact iff_of_false (hothers _ (List.mem_of_find?_eq_some hfound)) Bool.false_ne_true
    next => exact iff_of_false nofun Bool.false_ne_true

/-- No such phrase reaches across a colon. -/
theorem saysBusy_colon {s t : String} : SaysBusy (s ++ ":" ++ t) ↔ SaysBusy s ∨ SaysBusy t := by
  have hcolon : ∀ phrase ∈ busyPhrases, ':' ∉ phrase.toList := by decide
  have hfold : (Text.foldCase ":").toList = [':'] := by decide
  simp only [SaysBusy, Text.toList_foldCase_append, hfold, List.append_assoc, List.singleton_append]
  constructor
  · rintro ⟨phrase, hphrase, hoccurs⟩
    rcases (Text.infix_append_cons_iff (hcolon phrase hphrase)).mp hoccurs with hs | ht
    · exact Or.inl ⟨phrase, hphrase, hs⟩
    · exact Or.inr ⟨phrase, hphrase, ht⟩
  · rintro (⟨phrase, hphrase, hs⟩ | ⟨phrase, hphrase, ht⟩)
    · exact ⟨phrase, hphrase, (Text.infix_append_cons_iff (hcolon phrase hphrase)).mpr (Or.inl hs)⟩
    · exact ⟨phrase, hphrase, (Text.infix_append_cons_iff (hcolon phrase hphrase)).mpr (Or.inr ht)⟩

end FailureKind

namespace Filesystem

open FailureKind

/-- `umount` has ended with status 32 and says why. -/
def umountFailure (dir reason : String) : Failure :=
  .exited "unmount store" 32 ("umount: " ++ dir ++ ": " ++ reason)

/-- The path, after a blank, says itself that something is busy. -/
def ReadsBusy (dir : String) : Prop := SaysBusy (" " ++ dir)

instance : DecidablePred ReadsBusy := fun _ => inferInstanceAs (Decidable (SaysBusy _))

variable {root : Target} {dir reason : String}

/-- What `umount` says is no longer changed by trimming if its reason is not. -/
theorem tight_umount (hreason : Text.Tight reason.toList) (hne : reason ≠ "") :
    Text.Tight ("umount: " ++ dir ++ ": " ++ reason).toList := by
  have hchars : reason.toList ≠ [] := by simpa using hne
  constructor
  · simp [Text.isBlank]
  · rw [String.toList_append, List.getLast?_append_of_ne_nil _ hchars]
    exact hreason.2

theorem stderrSuffix_of_tight {stderr : String} (h : Text.Tight stderr.toList) (hne : stderr ≠ "") :
    Failure.stderrSuffix stderr = ": " ++ stderr := by
  rw [Failure.stderrSuffix, h.trim_eq]
  exact if_neg (by simpa using hne)

theorem message_umountFailure (hreason : Text.Tight reason.toList) (hne : reason ≠ "") :
    (umountFailure dir reason).message
      = "unmount store: exit status 32: umount" ++ ":" ++ (" " ++ dir) ++ ":"
        ++ (" " ++ reason) := by
  have htight : Text.Tight ("umount: " ++ dir ++ ": " ++ reason).toList := tight_umount hreason hne
  have hmessage : (umountFailure dir reason).message
      = "unmount store" ++ ": " ++ ("exit status " ++ "32")
        ++ Failure.stderrSuffix (Text.trim ("umount: " ++ dir ++ ": " ++ reason)) := rfl
  rw [hmessage, htight.trim_eq, stderrSuffix_of_tight htight (by simp [hne]), ← String.toList_inj]
  simp

/-- The directory is taken for busy if `umount` says so, or if its path reads like that. -/
theorem umountFailure_busy_iff (hreason : Text.Tight reason.toList) (hne : reason ≠ "") :
    ofFailure (umountFailure dir reason) = .deviceBusy ↔
      ReadsBusy dir ∨ SaysBusy (" " ++ reason) := by
  have hfront : ¬SaysBusy "unmount store: exit status 32: umount" := by decide +kernel
  rw [ofFailure, ofText_eq_deviceBusy_iff, message_umountFailure hreason hne, saysBusy_colon,
    saysBusy_colon, ReadsBusy]
  simp only [hfront, false_or]

theorem notMounted_busy_iff :
    ofFailure (umountFailure dir "not mounted.") = .deviceBusy ↔ ReadsBusy dir := by
  have hreason : ¬SaysBusy (" " ++ "not mounted.") := by decide +kernel
  have htight : Text.Tight "not mounted.".toList := by simp [Text.Tight, Text.isBlank]
  rw [umountFailure_busy_iff htight (by decide)]
  simp only [hreason, or_false]

theorem targetBusy_busy : ofFailure (umountFailure dir "target is busy.") = .deviceBusy := by
  have hreason : SaysBusy (" " ++ "target is busy.") := by decide +kernel
  have htight : Text.Tight "target is busy.".toList := by simp [Text.Tight, Text.isBlank]
  exact (umountFailure_busy_iff htight (by decide)).mpr (Or.inr hreason)

/-! ### A directory that cannot be unmounted -/

/-- The answer is a failure with the exit code by which nothing is mounted. -/
def FindsNothing : Except Failure String → Prop
  | .ok _ => False
  | .error f => f.exitCode = some 1

instance : DecidablePred FindsNothing
  | .ok _ => .isFalse id
  | .error f => inferInstanceAs (Decidable (f.exitCode = some 1))

theorem FindsNothing.silent {m : Except Failure String} (h : FindsNothing m) : Silent 1 m := by
  cases m with
  | ok output => exact h.elim
  | error f => exact h

/-- The event is one of a host on which `umount` fails on the directory for a reason. -/
def UmountSays (root : Target) (dir reason : String) : Event → Prop :=
  Event.Answered (unmountStore root dir) (· = .error (umountFailure dir reason))

instance (root : Target) (dir reason : String) : DecidablePred (UmountSays root dir reason) :=
  inferInstanceAs (DecidablePred (Event.Answered _ _))

/-- The event is one of a host on which nothing is found to be mounted on the directory. -/
def NothingMounted (root : Target) (dir : String) : Event → Prop :=
  Event.Answered (mountPointCheck root dir) FindsNothing

instance (root : Target) (dir : String) : DecidablePred (NothingMounted root dir) :=
  inferInstanceAs (DecidablePred (Event.Answered _ _))

/-! ### Releasing it -/

variable {h : History} {r : Except Failure Unit}

/-- The unmount comes first. If it is told to be that of a busy directory, it stays the
only command; else what is mounted decides. -/
theorem ReleaseRun.of_umountSays (hr : ReleaseRun root dir h r)
    (hanswers : ∀ e ∈ h, UmountSays root dir reason e) :
    (Busy (.error (umountFailure dir reason)) ∧
        h = [(unmountStore root dir).event (.error (umountFailure dir reason))] ∧
        ∃ f, r = .error f) ∨
      ¬Busy (.error (umountFailure dir reason)) ∧
        ∃ m, (mountPointCheck root dir).event m ∈ h ∧ (r = .ok () ↔ Silent 1 m) := by
  cases hr with
  | @busy u f hu =>
    obtain rfl : u = .error (umountFailure dir reason) := hanswers _ List.mem_cons_self rfl
    exact Or.inl ⟨hu, rfl, _, rfl⟩
  | @mounted u m f hu hm =>
    obtain rfl : u = .error (umountFailure dir reason) := hanswers _ List.mem_cons_self rfl
    exact Or.inr ⟨hu, m, by simp, iff_of_false nofun hm⟩
  | @released u m hu hm =>
    obtain rfl : u = .error (umountFailure dir reason) := hanswers _ List.mem_cons_self rfl
    exact Or.inr ⟨hu, m, by simp, iff_of_true rfl hm⟩

/-- **A directory that is not mounted is released, unless its path itself tells of
something busy**; then it is taken for one that is in use. A directory that is in use is
never released. In both of these cases the unmount is the only command. -/
theorem release_told_by_message {σ : Type} (host : Host σ) (s : σ) (root : Target) (dir : String) :
    let record := (release root dir).outcome.record host s
    let result := ((release root dir).outcome.runWith host s).1
    ((∀ e ∈ record, UmountSays root dir "not mounted." e) →
      (∀ e ∈ record, NothingMounted root dir e) →
      (result = .ok () ↔ ¬ReadsBusy dir) ∧
        (ReadsBusy dir →
          record = [(unmountStore root dir).event (.error (umountFailure dir "not mounted."))])) ∧
    ((∀ e ∈ record, UmountSays root dir "target is busy." e) →
      (∃ f, result = .error f) ∧ record =
        [(unmountStore root dir).event (.error (umountFailure dir "target is busy."))]) := by
  intro record result
  have hrun : ReleaseRun root dir record result := release_run (Action.leads_record _ _ _)
  refine ⟨fun hanswers hnothing => ?_, fun hanswers => ?_⟩
  · rcases hrun.of_umountSays hanswers with ⟨hbusy, honly, f, hf⟩ | ⟨hfree, m, hm, hok⟩
    · have hreads : ReadsBusy dir := notMounted_busy_iff.mp hbusy
      rw [hf]
      exact ⟨iff_of_false nofun fun hnot => hnot hreads, fun _ => honly⟩
    · have hreads : ¬ReadsBusy dir := fun h => hfree (notMounted_busy_iff.mpr h)
      have hfinds : FindsNothing m := hnothing _ hm rfl
      exact ⟨iff_of_true (hok.mpr hfinds.silent) hreads, fun h => absurd h hreads⟩
  · rcases hrun.of_umountSays hanswers with ⟨-, honly, hf⟩ | ⟨hfree, -⟩
    · exact ⟨hf, honly⟩
    · exact absurd targetBusy_busy hfree

/-- A host on which `umount` fails on the directory for a reason, and nothing is found to
be mounted. -/
def hostWithoutMount (dir reason : String) : Scripted.State :=
  (({} : Scripted.State).on "umount" [] [.failure 32 ("umount: " ++ dir ++ ": " ++ reason)]).on
    "findmnt" [] [.failure 1 ""]

/-- A plain directory is released when it is not mounted, and not while it is busy. -/
theorem release_told_by_message_plain :
    let free := hostWithoutMount "/srv/store" "not mounted."
    let busy := hostWithoutMount "/srv/store" "target is busy."
    let run := (release .hostRoot "/srv/store").outcome
    (∀ e ∈ run.record Scripted.host free,
        UmountSays .hostRoot "/srv/store" "not mounted." e ∧
          NothingMounted .hostRoot "/srv/store" e) ∧
      (run.runWith Scripted.host free).1 = .ok () ∧
      (∀ e ∈ run.record Scripted.host busy, UmountSays .hostRoot "/srv/store" "target is busy." e) ∧
      ∃ f, (run.runWith Scripted.host busy).1 = .error f := by
  intro free busy run
  have hfree : ∀ e ∈ run.record Scripted.host free,
      UmountSays .hostRoot "/srv/store" "not mounted." e ∧
        NothingMounted .hostRoot "/srv/store" e := by
    decide +kernel
  have hbusy : ∀ e ∈ run.record Scripted.host busy,
      UmountSays .hostRoot "/srv/store" "target is busy." e := by
    decide +kernel
  have hreleased := (release_told_by_message Scripted.host free .hostRoot "/srv/store").1
    (fun e he => (hfree e he).1) fun e he => (hfree e he).2
  have hheld := (release_told_by_message Scripted.host busy .hostRoot "/srv/store").2 hbusy
  exact ⟨hfree, hreleased.1.mpr (by decide +kernel), hbusy, hheld.1⟩

/-- A directory whose name tells of something in use: `umount` says that it is not
mounted, the host would find nothing there, and it is refused without looking. -/
theorem release_refuses_name_in_use :
    let host := hostWithoutMount "/srv/disk in use" "not mounted."
    let run := (release .hostRoot "/srv/disk in use").outcome
    let check := mountPointCheck .hostRoot "/srv/disk in use"
    (∀ e ∈ run.record Scripted.host host,
        UmountSays .hostRoot "/srv/disk in use" "not mounted." e) ∧
      FindsNothing (Scripted.host.answer (.run check) host).1 ∧
      (run.runWith Scripted.host host).1 ≠ .ok () :=
  ⟨by decide +kernel, by decide +kernel, by decide +kernel⟩

end Filesystem

end BtrfsStore
