import BtrfsStore.Json.Reader
import BtrfsStore.Proofs.Text
/-!
# BtrfsStore.Proofs.Json.RoundTrip

Written JSON is read back (`read?_render`).

What a value is read from is its text with more text behind it, so that the value
can be a part of another one. Only a number does not say itself where it ends; what
follows it has to be no part of a number.
-/

namespace BtrfsStore.Json

/-! ### Strings -/

/-- A hexadecimal digit is read as what it stands for. -/
theorem hexValue?_hexDigit {n : Nat} (hn : n < 16) : hexValue? (hexDigit n) = some n := by
  have hall : ∀ m < 16, hexValue? (hexDigit m) = some m := by decide
  exact hall n hn

/-- The number of a control character is read back as the character. -/
theorem unicodeEscape?_control {c : Char} (hc : c.toNat < 0x20) (rest : List Char) :
    unicodeEscape? ('0' :: '0' :: hexDigit (c.toNat / 16) :: hexDigit (c.toNat % 16) :: rest)
      = some (c, rest) := by
  have hhigh := hexValue?_hexDigit (n := c.toNat / 16) (by omega)
  have hlow := hexValue?_hexDigit (n := c.toNat % 16) (by omega)
  have hzero : hexValue? '0' = some 0 := rfl
  have hunit : c.toNat / 16 * 16 + c.toNat % 16 = c.toNat := by omega
  have hplane : ¬ (0xd800 ≤ c.toNat ∧ c.toNat ≤ 0xdbff) := by omega
  have hpair : ¬ (0xdc00 ≤ c.toNat ∧ c.toNat ≤ 0xdfff) := by omega
  simp [unicodeEscape?, hexUnit?, hzero, hhigh, hlow, hunit, hplane, hpair]

theorem length_le_flatMap_escapeChar (cs : List Char) :
    cs.length ≤ (cs.flatMap escapeChar).length := by
  induction cs with
  | nil => simp
  | cons c cs ih =>
    have hne : 1 ≤ (escapeChar c).length := by
      fun_cases escapeChar c <;> simp
    rw [List.flatMap_cons, List.length_append, List.length_cons]
    omega

/-- A letter after a backslash is read as the character that it stands for. -/
theorem readString_plainEscape {e c : Char} (hne : e ≠ 'u') (he : plainEscape? e = some c)
    (fuel : Nat) (acc rest : List Char) :
    readString (fuel + 1) acc ('\\' :: e :: rest) = readString fuel (c :: acc) rest := by
  rw [readString]
  · simp [he]
  · exact hne

/-- What is written for a character is read as the character. -/
theorem readString_escapeChar (c : Char) (fuel : Nat) (acc rest : List Char) :
    readString (fuel + 1) acc (escapeChar c ++ rest) = readString fuel (c :: acc) rest := by
  fun_cases escapeChar c with
  | case8 hquote hslash hnewline hreturn htab hback hfeed hcontrol =>
    have hread := unicodeEscape?_control hcontrol rest
    simp only [List.cons_append, List.nil_append]
    rw [readString, hread]
    rfl
  | case9 hquote hslash hnewline hreturn htab hback hfeed hcontrol =>
    simp only [List.cons_append, List.nil_append]
    rw [readString, if_neg hcontrol]
    -- The character begins none of the other forms.
    all_goals simp [hquote, hslash]
  | _ =>
    subst_vars
    exact readString_plainEscape (by decide) rfl fuel acc rest

/-- The rest of a written string is read up to its closing quote. -/
theorem readString_escaped {cs : List Char} {fuel : Nat} (hfuel : cs.length < fuel)
    (acc rest : List Char) :
    readString fuel acc (cs.flatMap escapeChar ++ '"' :: rest)
      = some (String.ofList (acc.reverse ++ cs), rest) := by
  induction cs generalizing fuel acc with
  | nil =>
    obtain ⟨fuel, rfl⟩ := Nat.exists_eq_succ_of_ne_zero (Nat.ne_of_gt hfuel)
    simp [readString]
  | cons c cs ih =>
    obtain ⟨fuel, rfl⟩ := Nat.exists_eq_succ_of_ne_zero (Nat.ne_of_gt (Nat.zero_lt_of_lt hfuel))
    have hmore : cs.length < fuel := by simpa using hfuel
    rw [List.flatMap_cons, List.append_assoc, readString_escapeChar, ih hmore]
    simp

/-! ### Numbers -/

/-- What does not continue a number. -/
def EndsNumber (rest : List Char) : Prop :=
  ∀ c ∈ rest.head?, c.isDigit = false ∧ c ≠ '.' ∧ c.isAlpha = false

/-- A number of several digits does not begin with a zero. -/
theorem head?_toDigits_ne_zero {n : Nat} (hn : 0 < n) : (Nat.toDigits 10 n).head? ≠ some '0' := by
  induction n using Nat.strongRecOn with
  | ind n ih =>
    rw [Nat.toDigits_eq_if (by decide)]
    split
    next hsmall => simpa using Nat.ne_of_gt hn
    next hlarge =>
      have hfirst := ih (n / 10) (by omega) (by omega)
      cases htens : Nat.toDigits 10 (n / 10) with
      | nil => exact absurd htens Nat.toDigits_ne_nil
      | cons c cs => simpa [htens] using hfirst

/-- Digits are read as the whole number that they denote. -/
theorem readNumber_toDigits (negative : Bool) (n : Nat) {rest : List Char}
    (hrest : EndsNumber rest) :
    readNumber negative (Nat.toDigits 10 n ++ rest) = some (ofWhole negative n, rest) := by
  have hdigits : ∀ c ∈ Nat.toDigits 10 n, c.isDigit = true :=
    fun _ => Text.isDigit_of_mem_toDigits
  have hspan : rest.takeWhile Char.isDigit = [] ∧ rest.dropWhile Char.isDigit = rest := by
    cases rest with
    | nil => simp
    | cons c cs => simp [(hrest c rfl).1]
  have hmark : rest.takeWhile (fun c => c.isAlpha) = [] := by
    cases rest with
    | nil => rfl
    | cons c cs => simp [(hrest c rfl).2.2]
  have hwhole : (Nat.toDigits 10 n ++ rest).takeWhile Char.isDigit = Nat.toDigits 10 n := by
    rw [List.takeWhile_append_of_pos hdigits, hspan.1, List.append_nil]
  have hdrop : (Nat.toDigits 10 n ++ rest).dropWhile Char.isDigit = rest := by
    rw [List.dropWhile_append_of_pos hdigits, hspan.2]
  have hvalue : DecimalLiteral.valueOf (Nat.toDigits 10 n) = n := by
    have hfold := Nat.ofDigitChars_ten_toDigits (n := n)
    simpa [DecimalLiteral.valueOf, Nat.ofDigitChars_eq_foldl, Nat.mul_comm] using hfold
  have hguard : (!(Nat.toDigits 10 n).isEmpty && ((Nat.toDigits 10 n).length == 1
      || (Nat.toDigits 10 n).head? != some '0')) = true := by
    rcases Nat.eq_zero_or_pos n with rfl | hn
    · rfl
    · simp [Nat.toDigits_ne_nil, head?_toDigits_ne_zero hn]
  have hpass : (guard (true = true) : Option Unit) = some () := rfl
  rw [readNumber, hwhole, hdrop, hguard, hpass]
  simp only [Option.bind_eq_bind, Option.bind_some]
  split
  next more => exact absurd rfl (hrest '.' rfl).2.1
  next => simp [hmark, hvalue]

/-! ### Written values -/

/-- A value that its text determines: its numbers are whole and fit in 64 bits, and
no two members of an object have the same name. -/
inductive Exact : Json → Prop
  | null : Exact .null
  | bool (b : Bool) : Exact (.bool b)
  | int {n : Int} (hlow : -(Nat.pow 2 63 : Int) ≤ n) (hhigh : n < (Nat.pow 2 64 : Int)) :
      Exact (.int n)
  | str (s : String) : Exact (.str s)
  | arr {items : List Json} (hitems : ∀ j ∈ items, Exact j) : Exact (.arr items)
  | obj {members : List (String × Json)} (hnames : (members.map Prod.fst).Nodup)
      (hmembers : ∀ m ∈ members, Exact m.2) : Exact (.obj members)

/-- The characters of a value. -/
def chars (j : Json) : List Char := j.render.toList

/-- The characters of a member. -/
def memberChars (m : String × Json) : List Char :=
  '"' :: m.1.toList.flatMap escapeChar ++ '"' :: ':' :: m.2.chars

/-- The texts after the first one, with the commas before them. -/
def behind {α : Type} (text : α → List Char) (more : List α) : List Char :=
  more.flatMap fun a => ',' :: text a

theorem renderItems_eq_map (items : List Json) : renderItems items = items.map render := by
  induction items with
  | nil => rfl
  | cons j js ih => rw [renderItems, ih, List.map_cons]

theorem renderMembers_eq_map (members : List (String × Json)) :
    renderMembers members = members.map fun m => quote m.1 ++ ":" ++ m.2.render := by
  induction members with
  | nil => rfl
  | cons m ms ih => rw [renderMembers, ih, List.map_cons]

theorem toList_intercalate_map {α : Type} (text : α → String) (a : α) (more : List α) :
    (String.intercalate "," ((a :: more).map text)).toList
      = (text a).toList ++ behind (fun b => (text b).toList) more := by
  induction more generalizing a with
  | nil => simp [behind]
  | cons b more ih =>
    rw [List.map_cons, List.map_cons, String.intercalate_cons_cons, ← List.map_cons,
      String.toList_append, ih]
    simp [behind]

@[simp] theorem chars_str (s : String) :
    chars (.str s) = '"' :: (s.toList.flatMap escapeChar ++ ['"']) := by
  simp [chars, render, quote]

@[simp] theorem chars_arr_cons (j : Json) (js : List Json) :
    chars (.arr (j :: js)) = '[' :: (j.chars ++ (behind chars js ++ [']'])) := by
  rw [chars, render, renderItems_eq_map, String.toList_append, String.toList_append,
    toList_intercalate_map]
  simp only [List.append_assoc]
  rfl

@[simp] theorem chars_obj_cons (m : String × Json) (ms : List (String × Json)) :
    chars (.obj (m :: ms)) = '\x7b' :: (memberChars m ++ (behind memberChars ms ++ ['\x7d'])) := by
  have htext : ∀ m : String × Json, (quote m.1 ++ ":" ++ m.2.render).toList = memberChars m := by
    simp [quote, memberChars, chars]
  rw [chars, render, renderMembers_eq_map, String.toList_append, String.toList_append,
    toList_intercalate_map, htext, funext htext]
  simp only [List.append_assoc]
  rfl

/-! ### Reading numbers and strings as values -/

/-- What may follow a value: nothing, or what goes on with an array or an object. -/
def EndsValue (rest : List Char) : Prop :=
  ∀ c ∈ rest.head?, c = ',' ∨ c = ']' ∨ c = '\x7d'

/-- Where a value may end a number may. -/
theorem EndsValue.endsNumber {rest : List Char} (h : EndsValue rest) : EndsNumber rest := by
  intro c hc
  rcases h c hc with rfl | rfl | rfl <;> exact ⟨rfl, by decide, rfl⟩

theorem skipBlank_cons {c : Char} (hc : c ∉ [' ', '\n', '\r', '\t']) (cs : List Char) :
    skipBlank (c :: cs) = c :: cs := by
  rw [skipBlank, List.dropWhile_cons_of_neg]
  simpa [and_assoc] using hc

theorem readValue_digit {c : Char} (hc : c.isDigit = true) (fuel : Nat) (cs : List Char) :
    readValue (fuel + 1) (c :: cs) = readNumber false (c :: cs) := by
  have hother : ∀ d : Char, d.isDigit = false → c ≠ d := by
    rintro d hd rfl
    simp [hd] at hc
  have hskip : skipBlank (c :: cs) = c :: cs :=
    skipBlank_cons (by simp [hother]) cs
  rw [readValue, hskip]
  -- Every other form begins with another character.
  split <;> simp_all

theorem chars_ofNat (n : Nat) : chars (.int n) = Nat.toDigits 10 n := by
  simp [chars, render, Int.repr]

theorem chars_negSucc (n : Nat) : chars (.int (.negSucc n)) = '-' :: Nat.toDigits 10 (n + 1) := by
  simp [chars, render, Int.repr]

theorem exists_toDigits_eq_cons (n : Nat) :
    ∃ c cs, Nat.toDigits 10 n = c :: cs ∧ c.isDigit = true := by
  obtain ⟨c, cs, hcons⟩ := List.exists_cons_of_ne_nil (Nat.toDigits_ne_nil (n := n) (b := 10))
  exact ⟨c, cs, hcons, Text.isDigit_of_mem_toDigits (hcons ▸ List.mem_cons_self)⟩

/-- A number is read back where it fits into the words for whole numbers. -/
theorem readValue_int {n : Int} (hlow : -(Nat.pow 2 63 : Int) ≤ n)
    (hhigh : n < (Nat.pow 2 64 : Int)) {rest : List Char} (hrest : EndsNumber rest) (fuel : Nat) :
    readValue (fuel + 1) (chars (.int n) ++ rest) = some (.int n, rest) := by
  cases n with
  | ofNat n =>
    obtain ⟨c, cs, hcons, hdigit⟩ := exists_toDigits_eq_cons n
    have hread := readNumber_toDigits false n hrest
    have hfits : n < Nat.pow 2 64 := Int.ofNat_lt.mp hhigh
    rw [hcons] at hread
    rw [Int.ofNat_eq_natCast, chars_ofNat, hcons, List.cons_append, readValue_digit hdigit,
      ← List.cons_append, hread, ofWhole, if_neg (by simp), if_pos hfits]
  | negSucc n =>
    have hfits : ¬ (n + 1 = 0 ∨ Nat.pow 2 63 < n + 1) := by omega
    have hread := readNumber_toDigits true (n + 1) hrest
    rw [chars_negSucc, List.cons_append, readValue, skipBlank_cons (by decide)]
    simp only [hread, ofWhole, if_true, if_neg hfits]
    rfl

/-- A text is read back, escapes included. -/
theorem readValue_str {s : String} {fuel : Nat} (hfuel : (chars (.str s)).length < fuel + 1)
    (rest : List Char) :
    readValue (fuel + 1) (chars (.str s) ++ rest) = some (.str s, rest) := by
  have hescaped := length_le_flatMap_escapeChar s.toList
  have hchars : s.toList.length < fuel + 1 := by
    simp only [chars_str, List.length_cons, List.length_append] at hfuel
    omega
  have hread := readString_escaped hchars [] rest
  rw [chars_str, List.cons_append, readValue, skipBlank_cons (by decide)]
  simp [hread]

/-! ### Reading arrays and objects -/

/-- No value begins with a blank or with the end of an array. -/
theorem exists_chars_eq_cons {j : Json} (hj : Exact j) :
    ∃ c cs, j.chars = c :: cs ∧ c ∉ [' ', '\n', '\r', '\t'] ∧ c ≠ ']' := by
  have hdigit : ∀ c : Char, c.isDigit = true → c ∉ [' ', '\n', '\r', '\t'] ∧ c ≠ ']' := by
    have hblanks : ∀ c ∈ [' ', '\n', '\r', '\t'], c.isDigit = false := by simp
    refine fun c hc => ⟨fun hblank => ?_, ?_⟩
    · simp [hblanks c hblank] at hc
    · rintro rfl
      cases hc
  cases hj with
  | null => exact ⟨'n', _, rfl, by decide, by decide⟩
  | bool b =>
    cases b with
    | false => exact ⟨'f', _, rfl, by decide, by decide⟩
    | true => exact ⟨'t', _, rfl, by decide, by decide⟩
  | @int n hlow hhigh =>
    cases n with
    | ofNat n =>
      obtain ⟨c, cs, hcons, hc⟩ := exists_toDigits_eq_cons n
      exact ⟨c, cs, by rw [← hcons, Int.ofNat_eq_natCast, chars_ofNat], hdigit c hc⟩
    | negSucc n => exact ⟨'-', _, chars_negSucc n, by decide, by decide⟩
  | str s => exact ⟨'"', _, chars_str s, by decide, by decide⟩
  | @arr items hitems =>
    cases items with
    | nil => exact ⟨'[', _, rfl, by decide, by decide⟩
    | cons j js => exact ⟨'[', _, chars_arr_cons j js, by decide, by decide⟩
  | @obj members hnames hmembers =>
    cases members with
    | nil => exact ⟨'\x7b', _, rfl, by decide, by decide⟩
    | cons m ms => exact ⟨'\x7b', _, chars_obj_cons m ms, by decide, by decide⟩

theorem endsValue_behind {α : Type} (text : α → List Char) (more : List α) {c : Char}
    (hc : c = ']' ∨ c = '\x7d') (rest : List Char) : EndsValue (behind text more ++ c :: rest) := by
  cases more with
  | nil =>
    rintro d hd
    obtain rfl : c = d := by simpa [behind] using hd
    exact .inr hc
  | cons a more =>
    rintro d hd
    obtain rfl : ',' = d := by simpa [behind] using hd
    exact .inl rfl

/-- A member with a new name is added at the end. -/
theorem addMember_of_notMem {members : List (String × Json)} {name : String}
    (hnew : name ∉ members.map Prod.fst) (value : Json) :
    addMember members name value = members ++ [(name, value)] := by
  rw [addMember, if_neg]
  simpa using hnew

/-- With so much fuel texts are read back that are shorter. The pieces of arrays and
objects are read after those in `acc`. -/
structure ReadsBack (fuel : Nat) : Prop where
  value : ∀ {j : Json}, Exact j → j.chars.length < fuel →
    ∀ {rest : List Char}, EndsValue rest → readValue fuel (j.chars ++ rest) = some (j, rest)
  items : ∀ {j : Json} {js : List Json}, (∀ k ∈ j :: js, Exact k) →
    (j.chars ++ behind chars js).length + 1 < fuel → ∀ (acc : List Json) (rest : List Char),
      readItems fuel acc (j.chars ++ (behind chars js ++ ']' :: rest))
        = some (.arr (acc.reverse ++ j :: js), rest)
  members : ∀ {acc : List (String × Json)} {m : String × Json} {ms : List (String × Json)},
    ((acc ++ m :: ms).map Prod.fst).Nodup → (∀ n ∈ m :: ms, Exact n.2) →
    (memberChars m ++ behind memberChars ms).length + 1 < fuel → ∀ rest : List Char,
      readMembers fuel acc (memberChars m ++ (behind memberChars ms ++ '\x7d' :: rest))
        = some (.obj (acc ++ m :: ms), rest)

namespace ReadsBack

variable {fuel : Nat}

theorem value_succ (ih : ReadsBack fuel) {j : Json} (hj : Exact j)
    (hfuel : j.chars.length < fuel + 1) {rest : List Char} (hrest : EndsValue rest) :
    readValue (fuel + 1) (j.chars ++ rest) = some (j, rest) := by
  cases hj with
  | null => rfl
  | bool b => cases b <;> rfl
  | int hlow hhigh => exact readValue_int hlow hhigh hrest.endsNumber fuel
  | str s => exact readValue_str hfuel rest
  | @arr items hitems =>
    cases items with
    | nil => rfl
    | cons j js =>
      have hlength : (j.chars ++ behind chars js).length + 1 < fuel := by
        simp only [chars_arr_cons, List.length_cons, List.length_append, List.length_nil] at hfuel ⊢
        omega
      -- The first item does not begin like the end of the list.
      obtain ⟨c, cs, hcons, hblank, hend⟩ := exists_chars_eq_cons (hitems j List.mem_cons_self)
      have hread := ih.items hitems hlength [] rest
      have hsplit : j.chars ++ (behind chars js ++ [']']) ++ rest
          = j.chars ++ (behind chars js ++ ']' :: rest) := by simp
      rw [chars_arr_cons, List.cons_append, readValue, skipBlank_cons (by decide), hsplit]
      simp only [hcons, List.cons_append, skipBlank_cons hblank] at hread ⊢
      split
      next heq => exact absurd (List.cons.inj heq).1 hend
      next => exact hread
  | @obj members hnames hmembers =>
    cases members with
    | nil => rfl
    | cons m ms =>
      have hlength : (memberChars m ++ behind memberChars ms).length + 1 < fuel := by
        simp only [chars_obj_cons, List.length_cons, List.length_append, List.length_nil] at hfuel ⊢
        omega
      have hread : readMembers fuel []
            (memberChars m ++ (behind memberChars ms ++ '\x7d' :: rest))
          = some (.obj (m :: ms), rest) := ih.members hnames hmembers hlength rest
      have hsplit : memberChars m ++ (behind memberChars ms ++ ['\x7d']) ++ rest
          = memberChars m ++ (behind memberChars ms ++ '\x7d' :: rest) := by simp
      rw [chars_obj_cons, List.cons_append, readValue, skipBlank_cons (by decide), hsplit]
      rw [memberChars, List.cons_append] at hread ⊢
      exact hread

/-- Items are read back one after the other, each with less fuel. -/
theorem items_succ (ih : ReadsBack fuel) {j : Json} {js : List Json}
    (hitems : ∀ k ∈ j :: js, Exact k)
    (hfuel : (j.chars ++ behind chars js).length + 1 < fuel + 1) (acc : List Json)
    (rest : List Char) :
    readItems (fuel + 1) acc (j.chars ++ (behind chars js ++ ']' :: rest))
      = some (.arr (acc.reverse ++ j :: js), rest) := by
  rw [List.length_append] at hfuel
  have hvalue := ih.value (hitems j List.mem_cons_self) (by omega)
    (endsValue_behind chars js (.inl rfl) rest)
  rw [readItems, hvalue]
  simp only [Option.bind_eq_bind, Option.bind_some]
  cases js with
  | nil =>
    rw [behind, List.flatMap_nil, List.nil_append, skipBlank_cons (by decide)]
    simp
  | cons k ks =>
    have hmore := ih.items (fun i hi => hitems i (List.mem_cons_of_mem j hi))
      (by simp [behind] at hfuel ⊢; omega) (j :: acc) rest
    have hbehind : behind chars (k :: ks) ++ ']' :: rest
        = ',' :: (k.chars ++ (behind chars ks ++ ']' :: rest)) := by simp [behind]
    rw [hbehind, skipBlank_cons (by decide)]
    simp only [hmore]
    simp

/-- Members are read back likewise; their names have to differ from those before. -/
theorem members_succ (ih : ReadsBack fuel) {acc : List (String × Json)} {m : String × Json}
    {ms : List (String × Json)} (hnames : ((acc ++ m :: ms).map Prod.fst).Nodup)
    (hmembers : ∀ n ∈ m :: ms, Exact n.2)
    (hfuel : (memberChars m ++ behind memberChars ms).length + 1 < fuel + 1) (rest : List Char) :
    readMembers (fuel + 1) acc (memberChars m ++ (behind memberChars ms ++ '\x7d' :: rest))
      = some (.obj (acc ++ m :: ms), rest) := by
  obtain ⟨name, value⟩ := m
  have hescaped := length_le_flatMap_escapeChar name.toList
  simp only [memberChars, List.length_append, List.length_cons] at hfuel
  have hshort : name.toList.length < fuel := by omega
  have hname := readString_escaped hshort []
    (':' :: (value.chars ++ (behind memberChars ms ++ '\x7d' :: rest)))
  have hvalue := ih.value (hmembers (name, value) List.mem_cons_self) (by simp only; omega)
    (endsValue_behind memberChars ms (.inr rfl) rest)
  -- None of the members that have been read has this name.
  have hadd : addMember acc name value = acc ++ [(name, value)] := by
    rw [List.map_append, List.map_cons] at hnames
    obtain ⟨-, -, hapart⟩ := List.nodup_append.mp hnames
    have hnew : name ∉ acc.map Prod.fst := fun hmem => hapart name hmem name List.mem_cons_self rfl
    exact addMember_of_notMem hnew value
  have hchars : memberChars (name, value) ++ (behind memberChars ms ++ '\x7d' :: rest)
      = '"' :: (name.toList.flatMap escapeChar
        ++ '"' :: ':' :: (value.chars ++ (behind memberChars ms ++ '\x7d' :: rest))) := by
    simp [memberChars]
  rw [hchars, readMembers, skipBlank_cons (by decide)]
  simp only [hname, Option.bind_eq_bind, Option.bind_some, List.reverse_nil, List.nil_append,
    String.ofList_toList]
  rw [skipBlank_cons (by decide)]
  simp only [hvalue, Option.bind_some, hadd]
  cases ms with
  | nil =>
    rw [behind, List.flatMap_nil, List.nil_append, skipBlank_cons (by decide)]
    rfl
  | cons n ns =>
    have hnames' : ((acc ++ [(name, value)] ++ n :: ns).map Prod.fst).Nodup := by
      simpa using hnames
    have hmore := ih.members hnames' (fun i hi => hmembers i (List.mem_cons_of_mem _ hi))
      (by simp [behind] at hfuel ⊢; omega) rest
    have hbehind : behind memberChars (n :: ns) ++ '\x7d' :: rest
        = ',' :: (memberChars n ++ (behind memberChars ns ++ '\x7d' :: rest)) := by simp [behind]
    rw [hbehind, skipBlank_cons (by decide)]
    simp only [hmore]
    simp

end ReadsBack

/-- Whatever the fuel is, what is short enough for it is read back. -/
theorem readsBack (fuel : Nat) : ReadsBack fuel := by
  induction fuel with
  | zero =>
    exact ⟨fun _ hfuel => absurd hfuel (Nat.not_lt_zero _),
      fun _ hfuel => absurd hfuel (Nat.not_lt_zero _),
      fun _ _ hfuel => absurd hfuel (Nat.not_lt_zero _)⟩
  | succ fuel ih => exact ⟨ih.value_succ, ih.items_succ, ih.members_succ⟩

/-- **Written JSON is read back.** -/
theorem read?_render {j : Json} (hj : Exact j) : read? j.render = some j := by
  have hend : EndsValue [] := by simp [EndsValue]
  have hvalue := (readsBack (j.chars.length + 2)).value hj (by omega) hend
  rw [List.append_nil, chars] at hvalue
  rw [read?, hvalue]
  rfl

end BtrfsStore.Json
