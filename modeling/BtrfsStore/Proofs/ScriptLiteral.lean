import Mathlib.Data.List.Basic
import BtrfsStore.VirtualDisk
/-!
# BtrfsStore.Proofs.ScriptLiteral

The literals in which scripts hold a path, as a script is read.

A reader of scripts takes five characters for a single quote, and a literal between single
quotes ends at the first one that has no other one right after it (`readLiteral`). Of these
five `VirtualDisk.literal` writes only the straight one twice. A path is read back without
the curly ones (`readBody_replaceChar`), and otherwise it is not: what is read and the quotes
in it account for all characters that have been used up (`length_of_readBody`), and a curly
quote has been paid for once only.
-/

namespace BtrfsStore.VirtualDisk

open Text

/-! ### Reading a literal -/

/-- The single quotes other than the straight one. -/
def isCurlyQuote (c : Char) : Bool :=
  c = '\u2018' ∨ c = '\u2019' ∨ c = '\u201a' ∨ c = '\u201b'

/-- What a script takes for a single quote. -/
def isSingleQuote (c : Char) : Bool := c = '\x27' ∨ isCurlyQuote c

/-- Reads the inside of a literal and its last quote: the text and what comes after the
literal. Two quotes in a row stand for one, the second of them. -/
def readBody : List Char → Option (List Char × List Char)
  | [] => none
  | [c] => if isSingleQuote c then some ([], []) else none
  | c :: d :: cs =>
    if isSingleQuote c then
      if isSingleQuote d then (readBody cs).map fun p => (d :: p.1, p.2) else some ([], d :: cs)
    else (readBody (d :: cs)).map fun p => (c :: p.1, p.2)

/-- Reads a literal at the beginning of a text. -/
def readLiteral : List Char → Option (List Char × List Char)
  | [] => none
  | c :: cs => if isSingleQuote c then readBody cs else none

variable {c : Char} {cs text rest : List Char}

/-! ### What is read -/

theorem isSingleQuote_straight : isSingleQuote '\x27' = true := rfl

theorem readBody_cons (hc : isSingleQuote c = false) (cs : List Char) :
    readBody (c :: cs) = (readBody cs).map fun p => (c :: p.1, p.2) := by
  cases cs with
  | nil => simp [readBody, hc]
  | cons d cs => simp [readBody, hc]

/-- A quote that is written twice is read. -/
theorem readBody_pair (hc : isSingleQuote c = true) (cs : List Char) :
    readBody (c :: c :: cs) = (readBody cs).map fun p => (c :: p.1, p.2) := by
  simp [readBody, hc]

/-- A quote without another one behind it ends the literal. -/
theorem readBody_end (hc : isSingleQuote c = true)
    (hrest : ∀ d ∈ rest.head?, isSingleQuote d = false) :
    readBody (c :: rest) = some ([], rest) := by
  cases rest with
  | nil => simp [readBody, hc]
  | cons d rest => simp [readBody, hc, hrest d rfl]

/-- Quotes in the text have been written twice, and one more ends it. -/
theorem length_of_readBody (h : readBody cs = some (text, rest)) :
    cs.length = text.length + text.countP isSingleQuote + 1 + rest.length := by
  fun_induction readBody cs generalizing text rest with
  | case1 => cases h
  | case2 c hc =>
    cases h
    rfl
  | case3 => cases h
  | case4 c d cs hc hd ih =>
    obtain ⟨⟨text', rest'⟩, hread, hp⟩ := Option.map_eq_some_iff.mp h
    cases hp
    have hlength := ih hread
    simp only [List.countP_cons_of_pos hd, List.length_cons] at hlength ⊢
    omega
  | case5 c d cs hc hd =>
    cases h
    simp
    omega
  | case6 c d cs hc ih =>
    obtain ⟨⟨text', rest'⟩, hread, hp⟩ := Option.map_eq_some_iff.mp h
    cases hp
    have hlength := ih hread
    simp only [List.countP_cons_of_neg hc, List.length_cons] at hlength ⊢
    omega

/-- A quote is a straight one or a curly one. -/
theorem countP_isSingleQuote (text : List Char) :
    text.countP isSingleQuote = text.count '\x27' + text.countP isCurlyQuote := by
  induction text with
  | nil => rfl
  | cons c text ih =>
    by_cases hc : c = '\x27'
    · subst hc
      have hcurly : ¬isCurlyQuote '\x27' = true := by decide
      rw [List.countP_cons_of_pos isSingleQuote_straight, List.count_cons_self,
        List.countP_cons_of_neg hcurly, ih]
      omega
    · have hsame : isSingleQuote c = isCurlyQuote c := by simp [isSingleQuote, hc]
      rw [List.countP_cons, List.countP_cons, List.count_cons_of_ne hc, ih, hsame]
      omega

/-! ### Literals of paths -/

/-- The text with each straight quote written twice. -/
def doubled (text : List Char) : List Char :=
  text.flatMap fun c => if c = '\x27' then ['\x27', '\x27'] else [c]

theorem toList_literal (path : Path) :
    (literal path).toList = '\x27' :: (doubled path.text.toList ++ ['\x27']) := by
  simp [literal, replaceChar, doubled]

theorem length_doubled (text : List Char) :
    (doubled text).length = text.length + text.count '\x27' := by
  induction text with
  | nil => rfl
  | cons c text ih =>
    by_cases hc : c = '\x27'
    · simp [doubled, hc] at ih ⊢
      omega
    · simp [doubled, hc] at ih ⊢
      omega

/-- A text is read back if it has no curly quotes. -/
theorem readBody_doubled (htext : ∀ c ∈ text, isCurlyQuote c = false)
    (hrest : ∀ c ∈ rest.head?, isSingleQuote c = false) :
    readBody (doubled text ++ '\x27' :: rest) = some (text, rest) := by
  induction text with
  | nil => exact readBody_end isSingleQuote_straight hrest
  | cons c text ih =>
    obtain ⟨hc, htext⟩ := List.forall_mem_cons.mp htext
    have hread := ih htext
    by_cases hquote : c = '\x27'
    · subst hquote
      have hdoubled : doubled ('\x27' :: text) = '\x27' :: '\x27' :: doubled text := rfl
      rw [hdoubled, List.cons_append, List.cons_append, readBody_pair isSingleQuote_straight,
        hread]
      rfl
    · have hplain : isSingleQuote c = false := by simp [isSingleQuote, hquote, hc]
      have hdoubled : doubled (c :: text) = c :: doubled text := by simp [doubled, hquote]
      rw [hdoubled, List.cons_append, readBody_cons hplain, hread]
      rfl

/-- A text that is read back has no curly quotes. -/
theorem not_curly_of_readBody (h : readBody (doubled text ++ '\x27' :: rest) = some (text, rest)) :
    ∀ c ∈ text, isCurlyQuote c = false := by
  have hlength := length_of_readBody h
  rw [List.length_append, length_doubled, List.length_cons] at hlength
  -- Only the straight quotes have been written twice, but all that are read have been.
  have hnone : text.countP isCurlyQuote = 0 := by
    rw [countP_isSingleQuote] at hlength
    omega
  exact fun c hc => Bool.eq_false_iff.mpr (List.countP_eq_zero.mp hnone c hc)

/-- What is read of a literal, if no other quote comes right after it. -/
theorem readLiteral_literal_iff (path : Path) (hrest : ∀ c ∈ rest.head?, isSingleQuote c = false) :
    readLiteral ((literal path).toList ++ rest) = some (path.text.toList, rest) ↔
      ∀ c ∈ path.text.toList, isCurlyQuote c = false := by
  have hread : readLiteral ((literal path).toList ++ rest)
      = readBody (doubled path.text.toList ++ '\x27' :: rest) := by
    rw [toList_literal, List.cons_append, List.append_assoc, List.singleton_append, readLiteral,
      if_pos isSingleQuote_straight]
  rw [hread]
  exact ⟨not_curly_of_readBody, fun htext => readBody_doubled htext hrest⟩

/-! ### Scripts -/

/-- The scripts about a disk. -/
def diskScripts (path : Path) (bytes : Nat) : List String :=
  [createScript path bytes, partitionScript path, dismountScript path]

/-- In each script a literal of the path is followed by something other than a quote. -/
theorem exists_literal {path : Path} {bytes : Nat} {script : String}
    (hscript : script ∈ diskScripts path bytes) :
    ∃ before after, script = before ++ literal path ++ after ∧
      ∀ c ∈ after.toList.head?, isSingleQuote c = false := by
  simp only [diskScripts, List.mem_cons, List.not_mem_nil, or_false] at hscript
  rcases hscript with rfl | rfl | rfl
  · refine ⟨stopOnFailure ++ "; New-VHD -Path ",
      " -SizeBytes " ++ toString bytes ++ " -Dynamic | Out-Null", ?_, ?_⟩
    · simp only [createScript, String.append_assoc]
    · have hblank : isSingleQuote ' ' = false := by decide
      simpa using hblank
  · obtain ⟨lines, hlines⟩ : ∃ lines, partitionScript path
        = stopOnFailure ++ "\n" ++ ("$path = " ++ literal path ++ "\n" ++ lines) := by
      rw [partitionScript, joinWith, String.intercalate_cons_cons, String.intercalate_cons_cons]
      exact ⟨_, rfl⟩
    refine ⟨stopOnFailure ++ "\n" ++ "$path = ", "\n" ++ lines, ?_, ?_⟩
    · simp only [hlines, String.append_assoc]
    · have hnewline : isSingleQuote '\n' = false := by decide
      simpa using hnewline
  · exact ⟨stopOnFailure ++ "; Dismount-VHD -Path ", "", by simp [dismountScript], by simp⟩

/-- **A path can leave its literal with a curly quote only.** In each script about a disk,
reading the literal of the path consumes just this literal and yields the path, exactly if
no curly single quote is in the path: only the straight one is written twice. -/
theorem literal_read_back_unless_curly (path : Path) (bytes : Nat) :
    ∀ script ∈ diskScripts path bytes, ∃ before after,
      script = before ++ literal path ++ after ∧
        (readLiteral (literal path ++ after).toList = some (path.text.toList, after.toList) ↔
          ∀ c ∈ path.text.toList, isCurlyQuote c = false) := by
  intro script hscript
  obtain ⟨before, after, hsplit, hafter⟩ := exists_literal hscript
  refine ⟨before, after, hsplit, ?_⟩
  rw [String.toList_append]
  exact readLiteral_literal_iff path hafter

/-- The disk of someone with a straight quote in the name. -/
def straightPath : Path := ⟨"C:\\Users\\o'neil\\btrfs.vhdx"⟩

/-- A straight quote in a path is read back as one. -/
theorem literal_read_back_unless_curly_straight :
    dismountScript straightPath ∈ diskScripts straightPath 1024 ∧
      ∃ before after, dismountScript straightPath = before ++ literal straightPath ++ after ∧
        readLiteral (literal straightPath ++ after).toList
          = some ("C:\\Users\\o'neil\\btrfs.vhdx".toList, after.toList) := by
  have hscript : dismountScript straightPath ∈ diskScripts straightPath 1024 := by
    simp [diskScripts]
  have hall : straightPath.text.toList.all (!isCurlyQuote ·) = true := by decide
  have hplain : ∀ c ∈ straightPath.text.toList, isCurlyQuote c = false := by
    intro c hc
    simpa using List.all_eq_true.mp hall c hc
  obtain ⟨before, after, hsplit, hread⟩ :=
    literal_read_back_unless_curly straightPath 1024 _ hscript
  exact ⟨hscript, before, after, hsplit, hread.mpr hplain⟩

/-- The disk of someone with a curly quote in the name. -/
def curlyPath : Path := ⟨"C:\\Users\\o\u2019neil\\btrfs.vhdx"⟩

/-- The literal of such a path ends within it, and what comes after that is a part of the
script. -/
theorem curly_quote_ends_literal :
    readLiteral (literal curlyPath).toList
        = some ("C:\\Users\\o".toList, "neil\\btrfs.vhdx'".toList) ∧
      curlyPath.text.toList ≠ "C:\\Users\\o".toList := by
  decide +kernel

end BtrfsStore.VirtualDisk
