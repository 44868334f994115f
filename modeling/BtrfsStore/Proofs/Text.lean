import BtrfsStore.Text.Blank
import BtrfsStore.Text.Decimal
import BtrfsStore.Text.Find
import BtrfsStore.Text.Lines
/-!
# BtrfsStore.Proofs.Text

How written text is read back: the words between blanks, what is left between blanks
at the ends, the lines before newlines, and decimal numbers. Also what a search for a text
in another one finds.
-/

namespace BtrfsStore.Text

/-! ### Occurrences -/

theorem occursIn_iff {pat cs : List Char} : occursIn pat cs = true ↔ pat <:+: cs := by
  induction cs with
  | nil => simp [occursIn]
  | cons c cs ih => simp [occursIn, ih, List.infix_cons_iff]

/-- A text contains another one if this is a part of it. -/
theorem contains_iff {s pat : String} : contains s pat = true ↔ pat.toList <:+: s.toList :=
  occursIn_iff

/-! ### Words -/

/-- Whether the characters are one word: there are some, and none of them is blank. -/
def isWord (cs : List Char) : Bool := !cs.isEmpty && cs.all (!isBlank ·)

theorem isWord_iff {cs : List Char} :
    isWord cs = true ↔ cs ≠ [] ∧ ∀ c ∈ cs, isBlank c = false := by
  simp [isWord]

/-- A word. -/
structure Word where
  chars : List Char
  isWord : isWord chars = true

namespace Word

/-- The word as a text. -/
def text (w : Word) : String := String.ofList w.chars

theorem ne_nil (w : Word) : w.chars ≠ [] := (isWord_iff.mp w.isWord).1

theorem not_blank (w : Word) : ∀ c ∈ w.chars, isBlank c = false :=
  (isWord_iff.mp w.isWord).2

end Word

/-- Blanks between two words. -/
def gap (n : Nat) : List Char := List.replicate n ' '

theorem isBlank_of_mem_gap {n : Nat} {c : Char} (hc : c ∈ gap n) : isBlank c = true := by
  obtain ⟨-, rfl⟩ := List.mem_replicate.mp hc
  rfl

theorem wordsOf_blank_cons {c : Char} {cs : List Char} (hc : isBlank c = true) :
    wordsOf (c :: cs) = wordsOf cs := by
  cases cs <;> simp [wordsOf, hc]

/-- Blanks before the first word do not matter. -/
theorem wordsOf_blanks_append {blanks : List Char} (hblanks : ∀ c ∈ blanks, isBlank c = true)
    (rest : List Char) : wordsOf (blanks ++ rest) = wordsOf rest := by
  induction blanks with
  | nil => rfl
  | cons c cs ih =>
    rw [List.cons_append, wordsOf_blank_cons (hblanks c List.mem_cons_self)]
    exact ih fun d hd => hblanks d (List.mem_cons_of_mem c hd)

/-- Characters that are not blank are one word, if a blank or nothing follows. -/
theorem wordsOf_append {cs rest : List Char} (hword : isWord cs = true)
    (hrest : ∀ c ∈ rest.head?, isBlank c = true) :
    wordsOf (cs ++ rest) = cs :: wordsOf rest := by
  obtain ⟨hne, hcs⟩ := isWord_iff.mp hword
  clear hword
  induction cs with
  | nil => exact absurd rfl hne
  | cons c cs ih =>
    have hc : isBlank c = false := hcs c List.mem_cons_self
    cases cs with
    | nil =>
      cases rest with
      | nil => simp [wordsOf, hc]
      | cons d ds => simp [wordsOf, hc, hrest d rfl]
    | cons d ds =>
      have hd : isBlank d = false := hcs d (by simp)
      have hmore := ih (by simp) fun e he => hcs e (List.mem_cons_of_mem c he)
      rw [List.cons_append] at hmore
      rw [List.cons_append, List.cons_append, wordsOf]
      simp [hc, hd, hmore]

/-- A word is read off before the blanks after it. -/
theorem Word.wordsOf_append_gap (w : Word) (n : Nat) (rest : List Char) :
    wordsOf (w.chars ++ (gap (n + 1) ++ rest)) = w.chars :: wordsOf rest := by
  rw [wordsOf_append w.isWord (by simp [gap, List.replicate_succ, isBlank]),
    wordsOf_blanks_append fun _ => isBlank_of_mem_gap]

/-- A word at the end of a text. -/
theorem Word.wordsOf_last (w : Word) (n : Nat) : wordsOf (w.chars ++ gap n) = [w.chars] := by
  have hend : ∀ c ∈ (gap n).head?, isBlank c = true :=
    fun c hc => isBlank_of_mem_gap (List.mem_of_head? hc)
  have hblanks : wordsOf (gap n ++ []) = wordsOf [] :=
    wordsOf_blanks_append (fun _ => isBlank_of_mem_gap) []
  rw [List.append_nil] at hblanks
  rw [wordsOf_append w.isWord hend, hblanks, wordsOf]

/-- The words of a line: between them and around them there are only blanks. -/
inductive SplitsInto : List Char → List (List Char) → Prop
  | blank {cs : List Char} (hblank : ∀ c ∈ cs, isBlank c = true) : SplitsInto cs []
  | word {blanks word rest : List Char} {words : List (List Char)}
      (hblanks : ∀ c ∈ blanks, isBlank c = true) (hword : isWord word = true)
      (hend : ∀ c ∈ rest.head?, isBlank c = true) (hrest : SplitsInto rest words) :
      SplitsInto (blanks ++ (word ++ rest)) (word :: words)

theorem SplitsInto.wordsOf_eq {cs : List Char} {words : List (List Char)}
    (h : SplitsInto cs words) : wordsOf cs = words := by
  induction h with
  | @blank cs hblank =>
    have hnone : wordsOf (cs ++ []) = wordsOf [] := wordsOf_blanks_append hblank []
    rwa [List.append_nil] at hnone
  | word hblanks hword hend hrest ih =>
    rw [wordsOf_blanks_append hblanks, wordsOf_append hword hend, ih]

theorem SplitsInto.cons_blank {c : Char} {cs : List Char} {words : List (List Char)}
    (hc : isBlank c = true) (h : SplitsInto cs words) : SplitsInto (c :: cs) words := by
  cases h with
  | blank hblank => exact .blank (List.forall_mem_cons.mpr ⟨hc, hblank⟩)
  | word hblanks hword hend hrest =>
    exact .word (List.forall_mem_cons.mpr ⟨hc, hblanks⟩) hword hend hrest

/-- A character that is not blank joins the word right after it, or is one by itself. -/
theorem SplitsInto.exists_cons {c : Char} {cs : List Char} {words : List (List Char)}
    (hc : isBlank c = false) (h : SplitsInto cs words) :
    ∃ words', SplitsInto (c :: cs) words' := by
  have hone : isWord [c] = true := by simp [isWord, hc]
  have hnone : ∀ d ∈ ([] : List Char), isBlank d = true := List.forall_mem_nil _
  cases h with
  | blank hblank =>
    exact ⟨_, .word hnone hone (fun d hd => hblank d (List.mem_of_head? hd)) (.blank hblank)⟩
  | @word blanks word rest words hblanks hword hend hrest =>
    cases blanks with
    | nil =>
      have hjoined : isWord (c :: word) = true := by
        obtain ⟨-, hchars⟩ := isWord_iff.mp hword
        exact isWord_iff.mpr ⟨by simp, List.forall_mem_cons.mpr ⟨hc, hchars⟩⟩
      exact ⟨_, .word hnone hjoined hend hrest⟩
    | cons b blanks =>
      have hb : isBlank b = true := hblanks b List.mem_cons_self
      exact ⟨_, .word hnone hone (by simpa using hb) (.word hblanks hword hend hrest)⟩

/-- Every text splits into words. -/
theorem exists_splitsInto (cs : List Char) : ∃ words, SplitsInto cs words := by
  induction cs with
  | nil => exact ⟨[], .blank (List.forall_mem_nil _)⟩
  | cons c cs ih =>
    obtain ⟨words, hwords⟩ := ih
    cases hc : isBlank c with
    | true => exact ⟨words, hwords.cons_blank hc⟩
    | false => exact hwords.exists_cons hc

/-- Splitting a text into words has one result. -/
theorem splitsInto_iff {cs : List Char} {words : List (List Char)} :
    SplitsInto cs words ↔ wordsOf cs = words := by
  refine ⟨SplitsInto.wordsOf_eq, ?_⟩
  rintro rfl
  obtain ⟨words, hwords⟩ := exists_splitsInto cs
  rwa [hwords.wordsOf_eq]

theorem wordsOf_eq_nil_iff {cs : List Char} : wordsOf cs = [] ↔ ∀ c ∈ cs, isBlank c = true := by
  rw [← splitsInto_iff]
  constructor
  · intro h
    cases h with
    | blank hblank => exact hblank
  · exact .blank

theorem firstWord_eq_none_iff {s : String} : firstWord s = none ↔ isBlankText s = true := by
  simp [firstWord, words, isBlankText, wordsOf_eq_nil_iff]

theorem SplitsInto.append_blanks {cs blanks : List Char} {words : List (List Char)}
    (h : SplitsInto cs words) (hblanks : ∀ c ∈ blanks, isBlank c = true) :
    SplitsInto (cs ++ blanks) words := by
  induction h with
  | blank hblank => exact .blank (List.forall_mem_append.mpr ⟨hblank, hblanks⟩)
  | @word pre word rest words hpre hword hend hrest ih =>
    rw [List.append_assoc, List.append_assoc]
    refine .word hpre hword ?_ ih
    cases rest with
    | nil => exact fun c hc => hblanks c (List.mem_of_head? hc)
    | cons d ds => exact hend

/-- Blanks after the last word do not matter. -/
theorem wordsOf_append_blanks {blanks : List Char} (hblanks : ∀ c ∈ blanks, isBlank c = true)
    (cs : List Char) : wordsOf (cs ++ blanks) = wordsOf cs := by
  obtain ⟨words, hwords⟩ := exists_splitsInto cs
  rw [hwords.wordsOf_eq, (hwords.append_blanks hblanks).wordsOf_eq]

theorem isWord_of_mem_wordsOf {cs word : List Char} (hword : word ∈ wordsOf cs) :
    isWord word = true := by
  obtain ⟨words, hwords⟩ := exists_splitsInto cs
  rw [hwords.wordsOf_eq] at hword
  induction hwords with
  | blank hblank => cases hword
  | word hpre hfirst hend hrest ih =>
    rcases List.mem_cons.mp hword with rfl | hmem
    · exact hfirst
    · exact ih hmem

/-- Only a text that is a word is the first word of itself. -/
theorem firstWord_eq_self_iff {s : String} : firstWord s = some s ↔ isWord s.toList = true := by
  rw [firstWord, words, List.head?_map]
  constructor
  · intro hfirst
    obtain ⟨word, hhead, rfl⟩ := Option.map_eq_some_iff.mp hfirst
    rw [String.toList_ofList]
    exact isWord_of_mem_wordsOf (List.mem_of_head? hhead)
  · intro hword
    have hone : wordsOf (s.toList ++ []) = s.toList :: wordsOf [] := wordsOf_append hword (by simp)
    rw [List.append_nil] at hone
    rw [hone, List.head?_cons, Option.map_some, String.ofList_toList]

/-! ### Ends -/

/-- Drops the characters at both ends that satisfy `p`. -/
def strip (p : Char → Bool) (cs : List Char) : List Char := dropEndWhile p (cs.dropWhile p)

/-- Trimming is stripping blanks. -/
theorem trimChars_eq_strip : trimChars = strip isBlank := rfl

theorem exists_dropEndWhile (p : Char → Bool) (cs : List Char) :
    ∃ after, cs = dropEndWhile p cs ++ after ∧ ∀ c ∈ after, p c = true := by
  refine ⟨(cs.reverse.takeWhile p).reverse, ?_, ?_⟩
  · rw [dropEndWhile, ← List.reverse_append, List.takeWhile_append_dropWhile, List.reverse_reverse]
  · exact fun c hc => List.all_eq_true.mp List.all_takeWhile c (List.mem_reverse.mp hc)

/-- Stripping takes away from both ends only. -/
theorem exists_strip (p : Char → Bool) (cs : List Char) :
    ∃ before after, cs = before ++ strip p cs ++ after ∧
      (∀ c ∈ before, p c = true) ∧ ∀ c ∈ after, p c = true := by
  obtain ⟨after, hend, hafter⟩ := exists_dropEndWhile p (cs.dropWhile p)
  refine ⟨cs.takeWhile p, after, ?_, ?_, hafter⟩
  · rw [List.append_assoc, strip, ← hend, List.takeWhile_append_dropWhile]
  · exact fun c hc => List.all_eq_true.mp List.all_takeWhile c hc

theorem dropWhile_eq_self {p : Char → Bool} {cs : List Char} (h : ∀ c ∈ cs.head?, p c = false) :
    cs.dropWhile p = cs := by
  cases cs with
  | nil => rfl
  | cons c cs => exact List.dropWhile_cons_of_neg (by simp [h c rfl])

theorem not_of_mem_head?_dropWhile {p : Char → Bool} {cs : List Char} :
    ∀ c ∈ (cs.dropWhile p).head?, p c = false := by
  intro c hc
  have hnot := List.head?_dropWhile_not p cs
  rw [hc] at hnot
  simpa using hnot

/-- There is nothing to drop at the beginning of what is left. -/
theorem not_of_mem_head?_strip {p : Char → Bool} {cs : List Char} :
    ∀ c ∈ (strip p cs).head?, p c = false := by
  intro c hc
  obtain ⟨after, hend, -⟩ := exists_dropEndWhile p (cs.dropWhile p)
  have hfirst : c ∈ (cs.dropWhile p).head? := by
    rw [hend, List.head?_append, show (dropEndWhile p (cs.dropWhile p)).head? = some c from hc]
    rfl
  exact not_of_mem_head?_dropWhile c hfirst

/-- There is nothing to drop at the end of what is left. -/
theorem not_of_mem_getLast?_strip {p : Char → Bool} {cs : List Char} :
    ∀ c ∈ (strip p cs).getLast?, p c = false := by
  intro c hc
  rw [strip, dropEndWhile, List.getLast?_reverse] at hc
  exact not_of_mem_head?_dropWhile c hc

theorem strip_eq_self {p : Char → Bool} {cs : List Char} (hhead : ∀ c ∈ cs.head?, p c = false)
    (hlast : ∀ c ∈ cs.getLast?, p c = false) : strip p cs = cs := by
  have hend : ∀ c ∈ cs.reverse.head?, p c = false := by
    rw [List.head?_reverse]
    exact hlast
  rw [strip, dropWhile_eq_self hhead, dropEndWhile, dropWhile_eq_self hend, List.reverse_reverse]

theorem strip_strip (p : Char → Bool) (cs : List Char) : strip p (strip p cs) = strip p cs :=
  strip_eq_self not_of_mem_head?_strip not_of_mem_getLast?_strip

theorem strip_of_forall {p : Char → Bool} {cs : List Char} (hcs : ∀ c ∈ cs, p c = false) :
    strip p cs = cs :=
  strip_eq_self (fun c hc => hcs c (List.mem_of_head? hc))
    fun c hc => hcs c (List.mem_of_getLast? hc)

theorem dropEndWhile_concat {p : Char → Bool} {c : Char} (hc : p c = true) (cs : List Char) :
    dropEndWhile p (cs ++ [c]) = dropEndWhile p cs := by
  rw [dropEndWhile, List.reverse_concat, List.dropWhile_cons_of_pos hc, dropEndWhile]

/-- What is dropped at the end anyway may be missing. -/
theorem strip_concat {p : Char → Bool} {c : Char} (hc : p c = true) (cs : List Char) :
    strip p (cs ++ [c]) = strip p cs := by
  rw [strip, strip, List.dropWhile_append]
  cases cs.dropWhile p with
  | nil => simp [hc]
  | cons d ds => exact dropEndWhile_concat hc (d :: ds)

/-- Blanks at the ends of a text are part of no word. -/
theorem wordsOf_strip {p : Char → Bool} (hp : ∀ c, p c = true → isBlank c = true)
    (cs : List Char) : wordsOf (strip p cs) = wordsOf cs := by
  obtain ⟨before, after, hcs, hbefore, hafter⟩ := exists_strip p cs
  have hwords : wordsOf (before ++ strip p cs ++ after) = wordsOf (strip p cs) := by
    rw [wordsOf_append_blanks fun c hc => hp c (hafter c hc),
      wordsOf_blanks_append fun c hc => hp c (hbefore c hc)]
  rw [← hwords, ← hcs]

theorem firstWord_strip {p : Char → Bool} (hp : ∀ c, p c = true → isBlank c = true)
    (s : String) : firstWord (String.ofList (strip p s.toList)) = firstWord s := by
  rw [firstWord, words, String.toList_ofList, wordsOf_strip hp]
  rfl

/-- Trimming keeps the first word. -/
theorem firstWord_trim (s : String) : firstWord (trim s) = firstWord s := by
  rw [trim, trimChars_eq_strip, firstWord_strip fun _ hc => hc]

/-! ### Lines -/

theorem linesOf_ne_nil {cs : List Char} (hne : cs ≠ []) : linesOf cs ≠ [] := by
  induction cs with
  | nil => exact absurd rfl hne
  | cons c cs ih =>
    rw [linesOf]
    split
    · simp
    next =>
      split
      next hreturn =>
        -- A carriage return that is dropped stands before a newline.
        refine ih fun hnil => ?_
        simp [hnil] at hreturn
      next => split <;> simp

/-- A newline ends a line, whatever comes after it. -/
theorem linesOf_append_newline (cs ds : List Char) :
    linesOf (cs ++ '\n' :: ds) = linesOf (cs ++ ['\n']) ++ linesOf ds := by
  induction cs with
  | nil => simp
  | cons c cs ih =>
    have hhead : (cs ++ '\n' :: ds).head? = (cs ++ ['\n']).head? := by
      cases cs <;> rfl
    simp only [List.cons_append, linesOf, ih, hhead]
    split
    · rfl
    · split
      · rfl
      · -- The text up to the newline has a first line, which the character joins.
        cases hlines : linesOf (cs ++ ['\n']) with
        | nil => exact absurd hlines (linesOf_ne_nil (by simp))
        | cons l ls => rfl

/-- A text without a newline is a single line. -/
theorem linesOf_of_notMem {cs : List Char} (hne : cs ≠ []) (hcs : '\n' ∉ cs) :
    linesOf cs = [cs] := by
  induction cs with
  | nil => exact absurd rfl hne
  | cons c cs ih =>
    obtain ⟨hc, hrest⟩ : '\n' ≠ c ∧ '\n' ∉ cs := by simpa using hcs
    cases cs with
    | nil => simp [linesOf, hc.symm]
    | cons d ds =>
      have hd : d ≠ '\n' := fun heq => hrest (heq ▸ List.mem_cons_self)
      rw [linesOf, ih (by simp) hrest]
      simp [hc.symm, hd]

theorem newline_notMem_of_mem_linesOf {cs line : List Char} (hline : line ∈ linesOf cs) :
    '\n' ∉ line := by
  induction cs generalizing line with
  | nil => cases hline
  | cons c cs ih =>
    rw [linesOf] at hline
    split at hline
    · rcases List.mem_cons.mp hline with rfl | hline
      · exact List.not_mem_nil
      · exact ih hline
    next hc =>
      split at hline
      · exact ih hline
      · split at hline
        next =>
          obtain rfl := List.mem_singleton.mp hline
          simpa using Ne.symm hc
        next first others hlines =>
          rw [hlines] at ih
          rcases List.mem_cons.mp hline with rfl | hline
          · have hfirst : '\n' ∉ first := ih List.mem_cons_self
            simpa [Ne.symm hc] using hfirst
          · exact ih (List.mem_cons_of_mem first hline)

/-- A newline ends a line without one. A carriage return right before it goes with it. -/
theorem exists_linesOf_append_newline {line : List Char} (hline : '\n' ∉ line)
    (rest : List Char) :
    ∃ line', linesOf (line ++ '\n' :: rest) = line' :: linesOf rest ∧
      (line = line' ∨ line = line' ++ ['\r']) := by
  induction line with
  | nil => exact ⟨[], linesOf_newline rest, .inl rfl⟩
  | cons c cs ih =>
    obtain ⟨hc, hcs⟩ : '\n' ≠ c ∧ '\n' ∉ cs := by simpa using hline
    obtain ⟨line', hlines, hsame⟩ := ih hcs
    by_cases hreturn : c = '\r' ∧ cs = []
    · obtain ⟨rfl, rfl⟩ := hreturn
      exact ⟨[], linesOf_crlf rest, .inr rfl⟩
    · have hkeep : ¬(c = '\r' && (cs ++ '\n' :: rest).head? == some '\n') = true := by
        cases cs with
        | nil => simpa using hreturn
        | cons d ds =>
          have hd : d ≠ '\n' := fun heq => hcs (heq ▸ List.mem_cons_self)
          simp [hd]
      refine ⟨c :: line', ?_, ?_⟩
      · rw [List.cons_append, linesOf, if_neg hc.symm, if_neg hkeep, hlines]
      · rcases hsame with rfl | rfl
        · exact .inl rfl
        · exact .inr rfl

/-- The characters are a part of one line. -/
def Unbroken (cs : List Char) : Prop := '\n' ∉ cs ∧ '\r' ∉ cs

instance : DecidablePred Unbroken := fun _ => inferInstanceAs (Decidable (_ ∧ _))

/-- Other characters are read off before the ending of their line. -/
theorem linesOf_append_of_nil_cons {line rest : List Char} {lines : List (List Char)}
    (hline : Unbroken line) (hrest : linesOf rest = [] :: lines) :
    linesOf (line ++ rest) = line :: lines := by
  obtain ⟨hnewline, hreturn⟩ := hline
  induction line with
  | nil => exact hrest
  | cons c cs ih =>
    obtain ⟨hc, hcs⟩ : '\n' ≠ c ∧ '\n' ∉ cs := by simpa using hnewline
    obtain ⟨hc', hcs'⟩ : '\r' ≠ c ∧ '\r' ∉ cs := by simpa using hreturn
    rw [List.cons_append, linesOf, ih hcs hcs']
    simp [hc.symm, hc'.symm]

theorem linesOf_line_append {line : List Char} (hnewline : '\n' ∉ line) (hreturn : '\r' ∉ line)
    (rest : List Char) : linesOf (line ++ '\n' :: rest) = line :: linesOf rest :=
  linesOf_append_of_nil_cons ⟨hnewline, hreturn⟩ (linesOf_newline rest)

/-- The newline that ends a line may have a carriage return before it. -/
theorem linesOf_line_append_crlf {line : List Char} (hline : Unbroken line) (rest : List Char) :
    linesOf (line ++ '\r' :: '\n' :: rest) = line :: linesOf rest :=
  linesOf_append_of_nil_cons hline (linesOf_crlf rest)

theorem unbroken_append {cs ds : List Char} :
    Unbroken (cs ++ ds) ↔ Unbroken cs ∧ Unbroken ds := by
  simp only [Unbroken, List.mem_append, not_or]
  exact and_and_and_comm

/-- Lines are read back from a text in which each of them is ended by a newline. -/
theorem linesOf_flatMap {lines : List (List Char)} (hlines : ∀ line ∈ lines, Unbroken line) :
    linesOf (lines.flatMap (· ++ ['\n'])) = lines := by
  induction lines with
  | nil => rfl
  | cons line lines ih =>
    obtain ⟨⟨hnewline, hreturn⟩, hrest⟩ := List.forall_mem_cons.mp hlines
    rw [List.flatMap_cons, List.append_assoc, List.singleton_append,
      linesOf_line_append hnewline hreturn, ih hrest]

/-! ### Decimal numbers -/

theorem isDigit_of_mem_toDigits {n : Nat} {c : Char} (hc : c ∈ Nat.toDigits 10 n) :
    c.isDigit = true :=
  Nat.isDigit_of_mem_toDigits (by decide) (by decide) hc

/-- A number is written as one word. -/
def Word.ofNat (n : Nat) : Word where
  chars := Nat.toDigits 10 n
  isWord := by
    refine isWord_iff.mpr ⟨Nat.toDigits_ne_nil, fun c hc => ?_⟩
    obtain ⟨hlow, hhigh⟩ : 48 ≤ c.toNat ∧ c.toNat ≤ 57 := by
      simpa [Char.isDigit, UInt32.le_iff_toNat_le] using isDigit_of_mem_toDigits hc
    simp only [isBlank]
    grind

theorem le_ofDigitChars (cs : List Char) (acc : Nat) : acc ≤ Nat.ofDigitChars 10 cs acc := by
  induction cs generalizing acc with
  | nil => simp
  | cons c cs ih =>
    rw [Nat.ofDigitChars_cons]
    have := ih (10 * acc + (c.toNat - '0'.toNat))
    omega

/-- Digits are read as the number that they denote, if it is below the bound. -/
theorem readDigits_eq_ok {bound acc : Nat} {cs : List Char} (hdigits : ∀ c ∈ cs, c.isDigit = true)
    (hlt : Nat.ofDigitChars 10 cs acc < bound) :
    readDigits bound acc cs = .ok (Nat.ofDigitChars 10 cs acc) := by
  induction cs generalizing acc with
  | nil => simp [readDigits]
  | cons c cs ih =>
    rw [Nat.ofDigitChars_cons, Nat.mul_comm] at hlt ⊢
    have hnext := Nat.lt_of_le_of_lt (le_ofDigitChars cs _) hlt
    rw [readDigits, if_pos (hdigits c List.mem_cons_self)]
    simp only [hnext, if_true]
    exact ih (fun d hd => hdigits d (List.mem_cons_of_mem c hd)) hlt

/-- A number below the bound is read back from its digits. -/
theorem readNat_ofNat {bound n : Nat} (hn : n < bound) :
    readNat bound (Word.ofNat n).text = .ok n := by
  have hread : readDigits bound 0 (Nat.toDigits 10 n) = .ok n := by
    have hlt : Nat.ofDigitChars 10 (Nat.toDigits 10 n) 0 < bound := by
      rwa [Nat.ofDigitChars_ten_toDigits]
    rw [readDigits_eq_ok (fun _ => isDigit_of_mem_toDigits) hlt, Nat.ofDigitChars_ten_toDigits]
  rw [readNat, Word.text, String.toList_ofList]
  simp only [Word.ofNat]
  split
  next hnil => exact absurd hnil Nat.toDigits_ne_nil
  next cs hplus =>
    -- No number starts with a sign.
    have hmem : '+' ∈ Nat.toDigits 10 n := hplus ▸ List.mem_cons_self
    exact absurd (isDigit_of_mem_toDigits hmem) (by decide)
  next => exact hread

theorem word64_pos : 0 < word64 := by decide

/-- The digits of a number, with or without a sign in front of them. -/
def Denotes (column : List Char) (n : Nat) : Prop :=
  ∃ digits, (column = digits ∨ column = '+' :: digits) ∧ digits ≠ [] ∧
    (∀ c ∈ digits, c.isDigit = true) ∧ Nat.ofDigitChars 10 digits 0 = n

theorem readDigits_eq_ok_iff {bound acc n : Nat} {cs : List Char} (hacc : acc < bound) :
    readDigits bound acc cs = .ok n ↔
      (∀ c ∈ cs, c.isDigit = true) ∧ Nat.ofDigitChars 10 cs acc = n ∧ n < bound := by
  constructor
  · intro hread
    induction cs generalizing acc with
    | nil =>
      obtain rfl : acc = n := by simpa [readDigits] using hread
      exact ⟨List.forall_mem_nil _, rfl, hacc⟩
    | cons c cs ih =>
      rw [readDigits] at hread
      split at hread
      next hdigit =>
        simp only at hread
        split at hread
        next hnext =>
          obtain ⟨hdigits, hvalue, hlt⟩ := ih hnext hread
          rw [Nat.ofDigitChars_cons, Nat.mul_comm]
          exact ⟨List.forall_mem_cons.mpr ⟨hdigit, hdigits⟩, hvalue, hlt⟩
        next => cases hread
      next => cases hread
  · rintro ⟨hdigits, rfl, hlt⟩
    exact readDigits_eq_ok hdigits hlt

/-- A column is read as a number exactly if its digits denote it and it fits. -/
theorem readNat_eq_ok_iff {bound n : Nat} {column : List Char} (hbound : 0 < bound) :
    readNat bound (String.ofList column) = .ok n ↔ Denotes column n ∧ n < bound := by
  -- The mark of a positive number is no digit: a column denotes a number in one way only.
  have hplus : ∀ cs : List Char, ¬∀ c ∈ '+' :: cs, c.isDigit = true :=
    fun cs hdigits => absurd (hdigits '+' List.mem_cons_self) (by decide)
  rw [readNat, String.toList_ofList]
  split
  next => simp [Denotes]
  next cs =>
    split
    next hempty =>
      obtain rfl : cs = [] := by simpa using hempty
      simp only [reduceCtorEq, false_iff]
      rintro ⟨⟨digits, heq | heq, hne, hdigits, -⟩, -⟩
      · exact hplus [] (heq ▸ hdigits)
      · exact hne (List.cons.inj heq).2.symm
    next hne =>
      rw [readDigits_eq_ok_iff hbound]
      constructor
      · rintro ⟨hdigits, hvalue, hlt⟩
        exact ⟨⟨cs, .inr rfl, by simpa using hne, hdigits, hvalue⟩, hlt⟩
      · rintro ⟨⟨digits, heq | heq, -, hdigits, hvalue⟩, hlt⟩
        · exact absurd (heq ▸ hdigits) (hplus cs)
        · obtain ⟨-, rfl⟩ := List.cons.inj heq
          exact ⟨hdigits, hvalue, hlt⟩
  next hne hnoPlus =>
    rw [readDigits_eq_ok_iff hbound]
    constructor
    · rintro ⟨hdigits, hvalue, hlt⟩
      exact ⟨⟨column, .inl rfl, hne, hdigits, hvalue⟩, hlt⟩
    · rintro ⟨⟨digits, rfl | rfl, -, hdigits, hvalue⟩, hlt⟩
      · exact ⟨hdigits, hvalue, hlt⟩
      · exact absurd rfl (hnoPlus digits)

end BtrfsStore.Text
