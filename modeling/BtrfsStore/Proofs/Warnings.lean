import Mathlib.Data.List.Basic
import BtrfsStore.Proofs.Conclusion
import BtrfsStore.Proofs.Text
/-!
# BtrfsStore.Proofs.Warnings

The lines of recorded warnings. A message is recorded on lines of its own, so
that what was recorded last is what the last lines say, and all lines are those of
the messages, one message after the other (`warn_run`).

The text of the warnings never ends in a blank character (`Text.Tight`). This is the
invariant behind it: a carriage return at the end of one message would be taken for
a part of the line ending once another message follows.
-/

namespace BtrfsStore

/-! ### Recording

A warning joins the earlier ones and changes no other field of the outcome. -/

namespace StoreOutcome

variable (o : StoreOutcome) (message : String)

@[simp] theorem warn_useStore : (o.warn message).useStore = o.useStore := by
  simp only [warn]

@[simp] theorem warn_distro : (o.warn message).distro = o.distro := by
  simp only [warn]

@[simp] theorem warn_stateDir : (o.warn message).stateDir = o.stateDir := by
  simp only [warn]

@[simp] theorem warn_storePath : (o.warn message).storePath = o.storePath := by
  simp only [warn]

@[simp] theorem warn_mountDevice : (o.warn message).mountDevice = o.mountDevice := by
  simp only [warn]

@[simp] theorem warn_mountFsType : (o.warn message).mountFsType = o.mountFsType := by
  simp only [warn]

@[simp] theorem warn_mountUnit : (o.warn message).mountUnit = o.mountUnit := by
  simp only [warn]

@[simp] theorem warn_mountDeviceUuid : (o.warn message).mountDeviceUuid = o.mountDeviceUuid := by
  simp only [warn]

@[simp] theorem warn_warning : (o.warn message).warning = addWarning o.warning message := by
  simp only [warn]

end StoreOutcome

/-! ### The last warning -/

/-- A message of a single line is the last warning once it is recorded. -/
theorem StoreOutcome.getLast?_warnings_warn (o : StoreOutcome) {message : String}
    (hline : '\n' ∉ message.toList) (hne : message ≠ "") (htrim : Text.trim message = message) :
    (o.warn message).warnings.getLast? = some message := by
  have hchars : message.toList ≠ [] := by simpa using hne
  have hlast : Text.linesOf message.toList = [message.toList] :=
    Text.linesOf_of_notMem hchars hline
  -- The message comes after the earlier warnings, if there are any.
  have hlines : ∃ before, Text.lines (o.warn message).warning = before ++ [message] := by
    simp only [warn, addWarning, htrim, String.isEmpty_iff, hne, if_false]
    split
    · exact ⟨[], by simp [Text.lines, hlast]⟩
    · refine ⟨(Text.linesOf (o.warning.toList ++ ['\n'])).map String.ofList, ?_⟩
      have hjoined : (o.warning ++ "\n" ++ message).toList
          = o.warning.toList ++ '\n' :: message.toList := by simp
      rw [Text.lines, hjoined, Text.linesOf_append_newline, hlast]
      simp
  obtain ⟨before, hbefore⟩ := hlines
  rw [warnings, hbefore]
  simp [hne]

/-! ### All warnings -/

namespace Text

/-- The characters neither begin nor end with a blank one. There may be none at
all. -/
def Tight (cs : List Char) : Prop :=
  (∀ c ∈ cs.head?, isBlank c = false) ∧ ∀ c ∈ cs.getLast?, isBlank c = false

theorem tight_nil : Tight [] := ⟨by simp, by simp⟩

/-- What has been trimmed is tight. -/
theorem tight_trimChars (cs : List Char) : Tight (trimChars cs) :=
  ⟨not_of_mem_head?_strip, not_of_mem_getLast?_strip⟩

/-- There is nothing to trim. -/
theorem Tight.trimChars_eq {cs : List Char} (h : Tight cs) : trimChars cs = cs :=
  strip_eq_self h.1 h.2

theorem Tight.trim_eq {s : String} (h : Tight s.toList) : trim s = s := by
  rw [trim, h.trimChars_eq, String.ofList_toList]

/-- Texts that are tight are so with a newline in between. -/
theorem Tight.append_newline {cs ds : List Char} (hcs : Tight cs) (hds : Tight ds) (hne : cs ≠ [])
    (hne' : ds ≠ []) : Tight (cs ++ '\n' :: ds) := by
  constructor
  · rw [List.head?_append_of_ne_nil _ hne]
    exact hcs.1
  · rw [List.getLast?_append_of_ne_nil _ (List.cons_ne_nil _ _), List.getLast?_cons_of_ne_nil hne']
    exact hds.2

/-- What a character does to the lines depends on the next one and on the other
lines. -/
theorem linesOf_cons_congr {c : Char} {cs ds : List Char} (hhead : cs.head? = ds.head?)
    (hlines : linesOf cs = linesOf ds) : linesOf (c :: cs) = linesOf (c :: ds) := by
  simp only [linesOf, hhead, hlines]

/-- A newline at the end of a text ends its last line, unless there is nothing before
it, or a carriage return, which goes with it. -/
theorem linesOf_concat_newline {cs : List Char} (hne : cs ≠ [])
    (hlast : ∀ c ∈ cs.getLast?, c ≠ '\n' ∧ c ≠ '\r') : linesOf (cs ++ ['\n']) = linesOf cs := by
  induction cs with
  | nil => exact absurd rfl hne
  | cons c cs ih =>
    cases cs with
    | nil =>
      obtain ⟨hnewline, hreturn⟩ := hlast c rfl
      simp [linesOf, hnewline, hreturn]
    | cons d ds => exact linesOf_cons_congr rfl (ih (List.cons_ne_nil d ds) hlast)

/-- The lines of a tight text are not changed by what comes after them. -/
theorem linesOf_tight_append {cs : List Char} (hcs : Tight cs) (hne : cs ≠ []) (ds : List Char) :
    linesOf (cs ++ '\n' :: ds) = linesOf cs ++ linesOf ds := by
  have hlast : ∀ c ∈ cs.getLast?, c ≠ '\n' ∧ c ≠ '\r' := by
    intro c hc
    have hblank := hcs.2 c hc
    constructor <;> rintro rfl <;> cases hblank
  rw [linesOf_append_newline, linesOf_concat_newline hne hlast]

end Text

namespace StoreOutcome

/-- The lines that a message brings to the warnings: those of the trimmed message
that are not empty. -/
def messageLines (message : String) : List String :=
  (Text.lines (Text.trim message)).filter (!·.isEmpty)

/-- One more message brings its lines, after all others. -/
theorem warn_step {o : StoreOutcome} (htight : Text.Tight o.warning.toList) (message : String) :
    (o.warn message).warnings = o.warnings ++ messageLines message ∧
      Text.Tight (o.warn message).warning.toList := by
  have hmessage : Text.Tight (Text.trim message).toList := by
    rw [Text.trim, String.toList_ofList]
    exact Text.tight_trimChars _
  rw [warnings, warnings, messageLines, warn_warning, addWarning]
  by_cases hblank : Text.trim message = ""
  · have hnone : Text.lines (Text.trim message) = [] := by rw [hblank]; rfl
    rw [hnone]
    simp [hblank, htight]
  by_cases hold : o.warning = ""
  · have hnone : Text.lines o.warning = [] := by rw [hold]; rfl
    rw [hnone]
    simp [hblank, hold, hmessage]
  simp only [String.isEmpty_iff, hblank, hold, if_false]
  have hjoined : (o.warning ++ "\n" ++ Text.trim message).toList
      = o.warning.toList ++ '\n' :: (Text.trim message).toList := by simp
  have holdNe : o.warning.toList ≠ [] := by simpa using hold
  constructor
  · rw [Text.lines, hjoined, Text.linesOf_tight_append htight holdNe, List.map_append,
      List.filter_append]
    rfl
  · rw [hjoined]
    exact htight.append_newline hmessage holdNe (by simpa using hblank)

/-- Messages that are warned of one after the other are all there, in order, and the ends
stay tight. -/
theorem warn_run {o : StoreOutcome} (htight : Text.Tight o.warning.toList)
    (messages : List String) :
    (messages.foldl warn o).warnings = o.warnings ++ messages.flatMap messageLines ∧
      Text.Tight (messages.foldl warn o).warning.toList := by
  induction messages generalizing o with
  | nil => exact ⟨by simp, htight⟩
  | cons message messages ih =>
    obtain ⟨hlines, hnext⟩ := warn_step htight message
    obtain ⟨hrest, hend⟩ := ih hnext
    refine ⟨?_, hend⟩
    rw [List.foldl_cons, hrest, hlines, List.flatMap_cons, List.append_assoc]

/-- **No warning is lost, split or merged.** The warnings are the lines of the trimmed
messages that are not empty, in the order of the messages, and their text neither
begins nor ends with a blank character. A fallback has its reason as the first
message. -/
theorem warnings_are_message_lines (messages : List String) :
    ((messages.foldl warn {}).warnings = messages.flatMap messageLines ∧
        Text.Tight (messages.foldl warn {}).warning.toList) ∧
      ∀ reason, (messages.foldl warn (fallback reason)).warnings
          = (reason :: messages).flatMap messageLines ∧
        Text.Tight (messages.foldl warn (fallback reason)).warning.toList := by
  have hempty : ∀ messages : List String,
      (messages.foldl warn {}).warnings = messages.flatMap messageLines ∧
        Text.Tight (messages.foldl warn {}).warning.toList :=
    fun messages => warn_run (o := {}) Text.tight_nil messages
  exact ⟨hempty messages, fun reason => hempty (reason :: messages)⟩

end StoreOutcome

end BtrfsStore
