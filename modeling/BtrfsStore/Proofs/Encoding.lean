import BtrfsStore.Text.Encoding
/-!
# BtrfsStore.Proofs.Encoding

What the decoder makes of text that was encoded properly.

Both encodings are inverted one character at a time: `utf8Step_encoded` reads a
character off UTF-8 and `decodeUtf16_unitsOfChar_append` one off UTF-16, whatever
comes after it. What is left is the guess. UTF-8 without NUL characters has no zero
bytes and never the first byte of the mark, so that it is not taken for UTF-16
(`looksLikeUtf16_eq_false`). In UTF-16 the bytes at odd positions are the high
bytes of the units, so that the guess counts the units below 256
(`looksLikeUtf16_bytesOf`).
-/

namespace BtrfsStore.Text

/-! ### The bytes of a text -/

/-- The loop behind `ByteArray.toList` collects the bytes from an index on. -/
theorem byteArray_toList_loop (bytes : ByteArray) (i : Nat) (front : List UInt8) :
    ByteArray.toList.loop bytes i front = front.reverse ++ bytes.data.toList.drop i := by
  fun_induction ByteArray.toList.loop bytes i front with
  | case1 i front hi ih =>
    have hlt : i < bytes.data.size := hi
    have hlen : i < bytes.data.toList.length := by
      rw [Array.length_toList]
      exact hlt
    have hget : bytes.get! i = bytes.data.toList[i] := by
      show bytes.data[i]! = _
      rw [getElem!_pos bytes.data i hlt, Array.getElem_toList]
    rw [ih, List.reverse_cons, List.append_assoc, hget, List.singleton_append,
      ← List.drop_eq_getElem_cons]
  | case2 i front hi =>
    have hle : bytes.data.toList.length ≤ i := by
      rw [Array.length_toList]
      exact Nat.le_of_not_lt hi
    rw [List.drop_eq_nil_of_le hle, List.append_nil]

/-- A text is encoded character by character. -/
theorem encodeUtf8_eq (s : String) :
    encodeUtf8 s = s.toList.flatMap String.utf8EncodeChar := by
  have hbytes : s.toByteArray.data.toList = s.toList.flatMap String.utf8EncodeChar := by
    rw [← String.utf8Encode_toList, List.utf8Encode, List.toList_data_toByteArray]
  rw [encodeUtf8, String.toUTF8_eq_toByteArray, ByteArray.toList, byteArray_toList_loop, hbytes,
    List.reverse_nil, List.nil_append, List.drop_zero]

/-! ### UTF-8

A character takes one to four bytes, and the first of them tells how many. -/

section

variable {b b1 b2 b3 : UInt8} (rest : List UInt8)

theorem utf8Step_one (hb : b.toNat < 0x80) : utf8Step b rest = (Char.ofNat b.toNat, 0) := by
  simp only [utf8Step, hb, if_true]

theorem utf8Step_two (hb : 0xc2 ≤ b.toNat ∧ b.toNat ≤ 0xdf) (h1 : isTail 0x80 0xbf b1 = true) :
    utf8Step b (b1 :: rest) = (Char.ofNat (b.toNat % 32 * 64 + tailBits b1), 1) := by
  have hlead : ¬b.toNat < 0x80 := by omega
  simp only [utf8Step, hlead, if_false, hb, and_self, if_true, h1]

theorem utf8Step_three (hb : 0xe0 ≤ b.toNat ∧ b.toNat ≤ 0xef)
    (h1 : isTail (secondOfThree b.toNat).1 (secondOfThree b.toNat).2 b1 = true)
    (h2 : isTail 0x80 0xbf b2 = true) :
    utf8Step b (b1 :: b2 :: rest)
      = (Char.ofNat ((b.toNat % 16 * 64 + tailBits b1) * 64 + tailBits b2), 2) := by
  have hlead : ¬b.toNat < 0x80 ∧ ¬(0xc2 ≤ b.toNat ∧ b.toNat ≤ 0xdf) := by omega
  simp only [utf8Step, hlead, if_false, hb, and_self, if_true, h1, h2]

theorem utf8Step_four (hb : 0xf0 ≤ b.toNat ∧ b.toNat ≤ 0xf4)
    (h1 : isTail (secondOfFour b.toNat).1 (secondOfFour b.toNat).2 b1 = true)
    (h2 : isTail 0x80 0xbf b2 = true) (h3 : isTail 0x80 0xbf b3 = true) :
    utf8Step b (b1 :: b2 :: b3 :: rest)
      = (Char.ofNat (((b.toNat % 8 * 64 + tailBits b1) * 64 + tailBits b2) * 64 + tailBits b3),
          3) := by
  have hlead : ¬b.toNat < 0x80 ∧ ¬(0xc2 ≤ b.toNat ∧ b.toNat ≤ 0xdf) ∧
      ¬(0xe0 ≤ b.toNat ∧ b.toNat ≤ 0xef) := by omega
  simp only [utf8Step, hlead, if_false, hb, and_self, if_true, h1, h2, h3]

end

theorem isTail_ofNat {low high n : Nat} (hlow : low ≤ n) (hhigh : n ≤ high) (hn : n < 256) :
    isTail low high (UInt8.ofNat n) = true := by
  have htoNat : (UInt8.ofNat n).toNat = n := UInt8.toNat_ofNat_of_lt' hn
  simp [isTail, htoNat, hlow, hhigh]

/-- Six bits of a code point stand in a byte after the first. -/
theorem isTail_tailByte (n : Nat) : isTail 0x80 0xbf (UInt8.ofNat (n % 64 + 128)) = true :=
  isTail_ofNat (by omega) (by omega) (by omega)

@[simp] theorem tailBits_tailByte (n : Nat) : tailBits (UInt8.ofNat (n % 64 + 128)) = n % 64 := by
  rw [tailBits, UInt8.toNat_ofNat']
  omega

/-- The encoding of a character is a first byte and some more, of which the decoder
takes exactly as many as there are. -/
theorem utf8Step_encoded (c : Char) (rest : List UInt8) :
    ∃ b tail, String.utf8EncodeChar c = b :: tail ∧
      utf8Step b (tail ++ rest) = (c, tail.length) := by
  have hvalid : c.toNat < 0xd800 ∨ 0xdfff < c.toNat ∧ c.toNat < 0x110000 := c.valid
  have hval : c.val.toNat = c.toNat := rfl
  have hchar : ∀ n, n = c.toNat → Char.ofNat n = c := by
    rintro n rfl
    exact Char.ofNat_toNat c
  have hbyte : ∀ n, n < 256 → (UInt8.ofNat n).toNat = n := fun n => UInt8.toNat_ofNat_of_lt'
  simp only [String.utf8EncodeChar, hval]
  generalize c.toNat = v at *
  split
  next h1 =>
    refine ⟨_, [], rfl, ?_⟩
    have hb := hbyte v (by omega)
    rw [utf8Step_one _ (by omega), hb, hchar v rfl]
    rfl
  split
  next h1 h2 =>
    refine ⟨_, [_], rfl, ?_⟩
    have hb := hbyte (v / 64 % 32 + 192) (by omega)
    rw [List.singleton_append, utf8Step_two _ (by omega) (isTail_tailByte _)]
    simp only [hb, tailBits_tailByte]
    rw [hchar _ (by omega)]
    rfl
  split
  next h1 h2 h3 =>
    refine ⟨_, [_, _], rfl, ?_⟩
    have hb := hbyte (v / 4096 % 16 + 224) (by omega)
    -- The limits exclude what would be written with fewer bytes, and the surrogates.
    have hsecond : isTail (secondOfThree (v / 4096 % 16 + 224)).1
        (secondOfThree (v / 4096 % 16 + 224)).2 (UInt8.ofNat (v / 64 % 64 + 128)) = true := by
      refine isTail_ofNat ?_ ?_ (by omega)
      all_goals
        rw [secondOfThree]
        split
        · simp only; omega
        · split <;> simp only <;> omega
    rw [List.cons_append, List.singleton_append, utf8Step_three _ (by omega) (by rwa [hb])
      (isTail_tailByte _)]
    simp only [hb, tailBits_tailByte]
    rw [hchar _ (by omega)]
    rfl
  next h1 h2 h3 =>
    refine ⟨_, [_, _, _], rfl, ?_⟩
    have hb := hbyte (v / 262144 % 8 + 240) (by omega)
    have hsecond : isTail (secondOfFour (v / 262144 % 8 + 240)).1
        (secondOfFour (v / 262144 % 8 + 240)).2 (UInt8.ofNat (v / 4096 % 64 + 128)) = true := by
      refine isTail_ofNat ?_ ?_ (by omega)
      all_goals
        rw [secondOfFour]
        split
        · simp only; omega
        · split <;> simp only <;> omega
    rw [List.cons_append, List.cons_append, List.singleton_append, utf8Step_four _ (by omega)
      (by rwa [hb]) (isTail_tailByte _) (isTail_tailByte _)]
    simp only [hb, tailBits_tailByte]
    rw [hchar _ (by omega)]
    rfl

/-- A character is read off, whatever comes after it. -/
theorem decodeUtf8_encodeChar_append (c : Char) (rest : List UInt8) :
    decodeUtf8 (String.utf8EncodeChar c ++ rest) = c :: decodeUtf8 rest := by
  obtain ⟨b, tail, hbytes, hstep⟩ := utf8Step_encoded c rest
  rw [hbytes, List.cons_append, decodeUtf8, hstep, List.drop_left]

theorem decodeUtf8_encodeUtf8 (s : String) : decodeUtf8 (encodeUtf8 s) = s.toList := by
  rw [encodeUtf8_eq]
  induction s.toList with
  | nil => rw [List.flatMap_nil, decodeUtf8]
  | cons c cs ih => rw [List.flatMap_cons, decodeUtf8_encodeChar_append, ih]

/-! ### UTF-16 -/

/-- The units of a character: itself, or a surrogate pair. -/
def unitsOfChar (c : Char) : List Nat :=
  if c.toNat < 0x10000 then [c.toNat]
  else [0xd800 + (c.toNat - 0x10000) / 1024, 0xdc00 + (c.toNat - 0x10000) % 1024]

/-- The UTF-16 units of a text. -/
def encodeUtf16 (s : String) : List Nat := s.toList.flatMap unitsOfChar

/-- The bytes of a unit, the low one first. -/
def bytesOfUnit (u : Nat) : List UInt8 := [UInt8.ofNat (u % 256), UInt8.ofNat (u / 256)]

/-- The bytes of units, the low byte of each first. -/
def bytesOf (units : List Nat) : List UInt8 := units.flatMap bytesOfUnit

theorem unitsOfChar_lt (c : Char) : ∀ u ∈ unitsOfChar c, u < 0x10000 := by
  have hvalid : c.toNat < 0xd800 ∨ 0xdfff < c.toNat ∧ c.toNat < 0x110000 := c.valid
  unfold unitsOfChar
  split
  · simpa using ‹_›
  · simp only [List.forall_mem_cons]
    exact ⟨by omega, by omega, List.forall_mem_nil _⟩

theorem encodeUtf16_lt (s : String) : ∀ u ∈ encodeUtf16 s, u < 0x10000 := by
  intro u hu
  obtain ⟨c, -, hc⟩ := List.mem_flatMap.mp hu
  exact unitsOfChar_lt c u hc

theorem decodeUtf16_plain {u : Nat} (hlead : isLeadUnit u = false) (htrail : isTrailUnit u = false)
    (rest : List Nat) : decodeUtf16 (u :: rest) = Char.ofNat u :: decodeUtf16 rest := by
  cases rest <;> simp [decodeUtf16, hlead, htrail]

/-- A character is read off, whatever comes after it. -/
theorem decodeUtf16_unitsOfChar_append (c : Char) (rest : List Nat) :
    decodeUtf16 (unitsOfChar c ++ rest) = c :: decodeUtf16 rest := by
  have hvalid : c.toNat < 0xd800 ∨ 0xdfff < c.toNat ∧ c.toNat < 0x110000 := c.valid
  unfold unitsOfChar
  split
  next hplain =>
    -- No character is a surrogate.
    have hlead : isLeadUnit c.toNat = false := by simp [isLeadUnit]; omega
    have htrail : isTrailUnit c.toNat = false := by simp [isTrailUnit]; omega
    rw [List.singleton_append, decodeUtf16_plain hlead htrail, Char.ofNat_toNat]
  next hpair =>
    have hlead : isLeadUnit (0xd800 + (c.toNat - 0x10000) / 1024) = true := by
      simp [isLeadUnit]; omega
    have htrail : isTrailUnit (0xdc00 + (c.toNat - 0x10000) % 1024) = true := by
      simp [isTrailUnit]; omega
    have hjoined : 0x10000 + (0xd800 + (c.toNat - 0x10000) / 1024 - 0xd800) * 1024
        + (0xdc00 + (c.toNat - 0x10000) % 1024 - 0xdc00) = c.toNat := by omega
    rw [List.cons_append, List.singleton_append, decodeUtf16, hlead, htrail, Bool.and_self,
      if_pos rfl, hjoined, Char.ofNat_toNat]

theorem decodeUtf16_encodeUtf16 (s : String) : decodeUtf16 (encodeUtf16 s) = s.toList := by
  unfold encodeUtf16
  induction s.toList with
  | nil => rfl
  | cons c cs ih => rw [List.flatMap_cons, decodeUtf16_unitsOfChar_append, ih]

theorem unitsOf_bytesOf {units : List Nat} (hunits : ∀ u ∈ units, u < 0x10000) :
    unitsOf (bytesOf units) = units := by
  induction units with
  | nil => rfl
  | cons u units ih =>
    obtain ⟨hu, hrest⟩ := List.forall_mem_cons.mp hunits
    have hlow : (UInt8.ofNat (u % 256)).toNat = u % 256 :=
      UInt8.toNat_ofNat_of_lt' (show _ < 256 by omega)
    have hhigh : (UInt8.ofNat (u / 256)).toNat = u / 256 :=
      UInt8.toNat_ofNat_of_lt' (show _ < 256 by omega)
    have hbytes : bytesOf (u :: units)
        = UInt8.ofNat (u % 256) :: UInt8.ofNat (u / 256) :: bytesOf units := rfl
    rw [hbytes, unitsOf, hlow, hhigh, ih hrest]
    congr 1
    omega

/-! ### The guess -/

theorem mem_of_mem_oddBytes {bytes : List UInt8} {b : UInt8} (hb : b ∈ oddBytes bytes) :
    b ∈ bytes := by
  fun_induction oddBytes bytes with
  | case1 first second rest ih =>
    rcases List.mem_cons.mp hb with rfl | hrest
    · simp
    · simp [ih hrest]
  | case2 => cases hb

/-- Bytes that are neither zero nor the first of the mark are not taken for
UTF-16. -/
theorem looksLikeUtf16_eq_false {bytes : List UInt8} (hbytes : ∀ b ∈ bytes, b ≠ 0 ∧ b ≠ 0xff) :
    looksLikeUtf16 bytes = false := by
  have hzeros : (oddBytes bytes).count 0 = 0 :=
    List.count_eq_zero.mpr fun hzero => (hbytes 0 (mem_of_mem_oddBytes hzero)).1 rfl
  unfold looksLikeUtf16
  split
  next => exact absurd rfl (hbytes 0xff (by simp)).2
  next => simp [hzeros]

/-- Only a NUL character is encoded with a zero byte, and none with the first byte
of the mark. -/
theorem utf8EncodeChar_ne {c : Char} (hc : c.toNat ≠ 0) :
    ∀ b ∈ String.utf8EncodeChar c, b ≠ 0 ∧ b ≠ 0xff := by
  have hval : c.val.toNat = c.toNat := rfl
  have hbyte : ∀ n, 0 < n → n < 255 → UInt8.ofNat n ≠ 0 ∧ UInt8.ofNat n ≠ 0xff := by
    intro n hpos hlt
    simp only [ne_eq, ← UInt8.toNat_inj, UInt8.toNat_ofNat_of_lt' (show n < 256 by omega)]
    exact ⟨by simp; omega, by simp; omega⟩
  simp only [String.utf8EncodeChar, hval]
  split
  · simpa using hbyte _ (by omega) (by omega)
  split
  · simp only [List.forall_mem_cons]
    exact ⟨hbyte _ (by omega) (by omega), hbyte _ (by omega) (by omega), List.forall_mem_nil _⟩
  split
  · simp only [List.forall_mem_cons]
    exact ⟨hbyte _ (by omega) (by omega), hbyte _ (by omega) (by omega),
      hbyte _ (by omega) (by omega), List.forall_mem_nil _⟩
  · simp only [List.forall_mem_cons]
    exact ⟨hbyte _ (by omega) (by omega), hbyte _ (by omega) (by omega),
      hbyte _ (by omega) (by omega), hbyte _ (by omega) (by omega), List.forall_mem_nil _⟩

theorem oddBytes_bytesOf (units : List Nat) :
    oddBytes (bytesOf units) = units.map fun u => UInt8.ofNat (u / 256) := by
  induction units with
  | nil => rfl
  | cons u units ih => exact congrArg (List.cons _) ih

/-- The zero bytes at odd positions are those of the units below 256. -/
theorem count_oddBytes_bytesOf {units : List Nat} (hunits : ∀ u ∈ units, u < 0x10000) :
    (oddBytes (bytesOf units)).count 0 = units.countP (· < 0x100) := by
  rw [oddBytes_bytesOf, List.count, List.countP_map]
  refine List.countP_congr fun u hu => ?_
  have hlt : u / 256 < 256 := by have := hunits u hu; omega
  simp only [Function.comp_apply, beq_iff_eq, ← UInt8.toNat_inj, UInt8.toNat_ofNat_of_lt' hlt,
    decide_eq_true_eq]
  show u / 256 = 0 ↔ u < 0x100
  omega

/-- UTF-16 is recognised without a mark if more than half of its units are below
256. -/
theorem looksLikeUtf16_bytesOf {units : List Nat} (hunits : ∀ u ∈ units, u < 0x10000)
    (hmost : units.length < units.countP (· < 0x100) * 2) :
    looksLikeUtf16 (bytesOf units) = true := by
  have hlength : (oddBytes (bytesOf units)).length = units.length := by
    rw [oddBytes_bytesOf, List.length_map]
  unfold looksLikeUtf16
  split
  · rfl
  · rw [count_oddBytes_bytesOf hunits, hlength]
    exact decide_eq_true hmost

/-! ### Output -/

variable {s : String}

theorem toNat_ne_zero {c : Char} (hnul : '\x00' ∉ s.toList) (hc : c ∈ s.toList) :
    c.toNat ≠ 0 := by
  intro hzero
  obtain rfl : c = '\x00' := Char.toNat_inj.mp hzero
  exact hnul hc

theorem decodeOutput_encodeUtf8 (hnul : '\x00' ∉ s.toList) : decodeOutput (encodeUtf8 s) = s := by
  have hbytes : ∀ b ∈ encodeUtf8 s, b ≠ 0 ∧ b ≠ 0xff := by
    intro b hb
    rw [encodeUtf8_eq] at hb
    obtain ⟨c, hc, hmem⟩ := List.mem_flatMap.mp hb
    exact utf8EncodeChar_ne (toNat_ne_zero hnul hc) b hmem
  rw [decodeOutput, looksLikeUtf16_eq_false hbytes, if_neg Bool.false_ne_true,
    decodeUtf8_encodeUtf8, String.ofList_toList]

/-- A text is read back from units that are taken for UTF-16, with marks in front of
it or not. -/
theorem decodeOutput_bytesOf (units : List Nat) (marks : List Char) (hnul : '\x00' ∉ s.toList)
    (hstart : s.toList.head? ≠ some byteOrderMark) (hmarks : ∀ c ∈ marks, c = byteOrderMark)
    (hunits : ∀ u ∈ units, u < 0x10000) (hlooks : looksLikeUtf16 (bytesOf units) = true)
    (hdecoded : decodeUtf16 units = marks ++ s.toList) : decodeOutput (bytesOf units) = s := by
  have hdrop : (marks ++ s.toList).dropWhile (· == byteOrderMark) = s.toList := by
    rw [List.dropWhile_append_of_pos (by simpa using hmarks)]
    cases hs : s.toList with
    | nil => rfl
    | cons c cs =>
      rw [hs] at hstart
      exact List.dropWhile_cons_of_neg (by simpa using hstart)
  have hkeep : s.toList.filter (·.toNat != 0) = s.toList :=
    List.filter_eq_self.mpr fun c hc => by simpa using toNat_ne_zero hnul hc
  rw [decodeOutput, if_pos hlooks, unitsOf_bytesOf hunits, hdecoded, hdrop, hkeep,
    String.ofList_toList]

theorem decodeOutput_marked (hnul : '\x00' ∉ s.toList)
    (hstart : s.toList.head? ≠ some byteOrderMark) :
    decodeOutput (0xff :: 0xfe :: bytesOf (encodeUtf16 s)) = s := by
  have hmark : unitsOfChar byteOrderMark = [0xfeff] := by decide
  have hdecoded : decodeUtf16 (0xfeff :: encodeUtf16 s) = [byteOrderMark] ++ s.toList := by
    have hread := decodeUtf16_unitsOfChar_append byteOrderMark (encodeUtf16 s)
    rw [hmark, decodeUtf16_encodeUtf16] at hread
    exact hread
  have hunits : ∀ u ∈ 0xfeff :: encodeUtf16 s, u < 0x10000 :=
    List.forall_mem_cons.mpr ⟨by decide, encodeUtf16_lt s⟩
  exact decodeOutput_bytesOf (0xfeff :: encodeUtf16 s) [byteOrderMark] hnul hstart (by simp) hunits
    rfl hdecoded

theorem decodeOutput_unmarked (hnul : '\x00' ∉ s.toList)
    (hstart : s.toList.head? ≠ some byteOrderMark)
    (hmost : (encodeUtf16 s).length < (encodeUtf16 s).countP (· < 0x100) * 2) :
    decodeOutput (bytesOf (encodeUtf16 s)) = s :=
  decodeOutput_bytesOf (encodeUtf16 s) [] hnul hstart (List.forall_mem_nil _) (encodeUtf16_lt s)
    (looksLikeUtf16_bytesOf (encodeUtf16_lt s) hmost) (decodeUtf16_encodeUtf16 s)

/-- **Output is read as it was written.** A text without NUL characters is read back
from UTF-8. If it does not begin with the mark, it is also read back from UTF-16 with
the mark in front, and without it if more than half of its units are below 256. -/
theorem output_read_as_written (s : String) (hnul : '\x00' ∉ s.toList) :
    decodeOutput (encodeUtf8 s) = s ∧
      (s.toList.head? ≠ some byteOrderMark →
        decodeOutput (0xff :: 0xfe :: bytesOf (encodeUtf16 s)) = s ∧
          ((encodeUtf16 s).length < (encodeUtf16 s).countP (· < 0x100) * 2 →
            decodeOutput (bytesOf (encodeUtf16 s)) = s)) :=
  ⟨decodeOutput_encodeUtf8 hnul, fun hstart =>
    ⟨decodeOutput_marked hnul hstart, decodeOutput_unmarked hnul hstart⟩⟩

/-- A text with characters of one to four bytes, one of them a surrogate pair. -/
def mixedText : String := "* \u00dcbuntu-\u20ac-😀  Running\r\n"

/-- A text with characters of all lengths is read in each of the three forms. -/
theorem output_read_as_written_mixed :
    '\x00' ∉ mixedText.toList ∧ mixedText.toList.head? ≠ some byteOrderMark ∧
      (encodeUtf16 mixedText).length < (encodeUtf16 mixedText).countP (· < 0x100) * 2 ∧
      decodeOutput (encodeUtf8 mixedText) = mixedText ∧
      decodeOutput (0xff :: 0xfe :: bytesOf (encodeUtf16 mixedText)) = mixedText ∧
      decodeOutput (bytesOf (encodeUtf16 mixedText)) = mixedText := by
  have hnul : '\x00' ∉ mixedText.toList := by decide
  have hstart : mixedText.toList.head? ≠ some byteOrderMark := by decide
  have hmost : (encodeUtf16 mixedText).length
      < (encodeUtf16 mixedText).countP (· < 0x100) * 2 := by decide
  obtain ⟨hutf8, hutf16⟩ := output_read_as_written mixedText hnul
  exact ⟨hnul, hstart, hmost, hutf8, (hutf16 hstart).1, (hutf16 hstart).2 hmost⟩

end BtrfsStore.Text
