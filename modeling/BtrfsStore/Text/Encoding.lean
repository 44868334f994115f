/-!
# BtrfsStore.Text.Encoding

Turning the bytes that a command wrote into text. Most tools write UTF-8;
the Windows side of WSL writes UTF-16 with the low byte first, with or
without a byte order mark, so the encoding is guessed from the bytes.

Bytes that are no valid encoding never stop the decoder: each maximal piece
that begins like a character but is not one becomes one replacement
character.
-/

namespace BtrfsStore.Text

/-- Stands for bytes that encode no character. -/
def replacement : Char := '\ufffd'

/-! ### UTF-8 -/

/-- A byte that may follow the first byte of a character, within limits. -/
def isTail (low high : Nat) (b : UInt8) : Bool := low ≤ b.toNat && b.toNat ≤ high

/-- The limits for the second byte of a three-byte character, which exclude
overlong forms and surrogates. -/
def secondOfThree (lead : Nat) : Nat × Nat :=
  if lead = 0xe0 then (0xa0, 0xbf) else if lead = 0xed then (0x80, 0x9f) else (0x80, 0xbf)

/-- The limits for the second byte of a four-byte character, which exclude
overlong forms and numbers above the last code point. -/
def secondOfFour (lead : Nat) : Nat × Nat :=
  if lead = 0xf0 then (0x90, 0xbf) else if lead = 0xf4 then (0x80, 0x8f) else (0x80, 0xbf)

/-- The low six bits of a following byte. -/
def tailBits (b : UInt8) : Nat := b.toNat % 64

/-- The character that starts with the byte `b`, and how many of the
following bytes belong to it. -/
def utf8Step (b : UInt8) (rest : List UInt8) : Char × Nat :=
  let lead := b.toNat
  if lead < 0x80 then (Char.ofNat lead, 0)
  else if 0xc2 ≤ lead ∧ lead ≤ 0xdf then
    match rest with
    | b1 :: _ =>
      if isTail 0x80 0xbf b1 then (Char.ofNat (lead % 32 * 64 + tailBits b1), 1)
      else (replacement, 0)
    | [] => (replacement, 0)
  else if 0xe0 ≤ lead ∧ lead ≤ 0xef then
    match rest with
    | b1 :: more =>
      if isTail (secondOfThree lead).1 (secondOfThree lead).2 b1 then
        match more with
        | b2 :: _ =>
          if isTail 0x80 0xbf b2 then
            (Char.ofNat ((lead % 16 * 64 + tailBits b1) * 64 + tailBits b2), 2)
          else (replacement, 1)
        | [] => (replacement, 1)
      else (replacement, 0)
    | [] => (replacement, 0)
  else if 0xf0 ≤ lead ∧ lead ≤ 0xf4 then
    match rest with
    | b1 :: more =>
      if isTail (secondOfFour lead).1 (secondOfFour lead).2 b1 then
        match more with
        | b2 :: last =>
          if isTail 0x80 0xbf b2 then
            match last with
            | b3 :: _ =>
              if isTail 0x80 0xbf b3 then
                (Char.ofNat
                  (((lead % 8 * 64 + tailBits b1) * 64 + tailBits b2) * 64 + tailBits b3), 3)
              else (replacement, 2)
            | [] => (replacement, 2)
          else (replacement, 1)
        | [] => (replacement, 1)
      else (replacement, 0)
    | [] => (replacement, 0)
  else (replacement, 0)

/-- Decodes UTF-8, with a replacement character for each piece that is not
valid. -/
def decodeUtf8 : List UInt8 → List Char
  | [] => []
  | b :: rest =>
    let step := utf8Step b rest
    step.1 :: decodeUtf8 (rest.drop step.2)
termination_by bytes => bytes.length
decreasing_by simp only [List.length_drop, List.length_cons]; omega

/-- The bytes of a text in UTF-8. -/
def encodeUtf8 (s : String) : List UInt8 := s.toUTF8.toList

/-- Decodes UTF-8 that has to be valid throughout. -/
def decodeStrict? (bytes : List UInt8) : Option String :=
  let text := String.ofList (decodeUtf8 bytes)
  if encodeUtf8 text = bytes then some text else none

/-! ### UTF-16 -/

/-- The 16-bit units of a byte string with the low byte first; an odd last
byte is dropped. -/
def unitsOf : List UInt8 → List Nat
  | low :: high :: rest => (low.toNat + 256 * high.toNat) :: unitsOf rest
  | _ => []

/-- The first unit of a surrogate pair. -/
def isLeadUnit (u : Nat) : Bool := 0xd800 ≤ u && u ≤ 0xdbff

/-- The second unit of a surrogate pair. -/
def isTrailUnit (u : Nat) : Bool := 0xdc00 ≤ u && u ≤ 0xdfff

/-- Decodes UTF-16, with a replacement character for each surrogate without a
partner. -/
def decodeUtf16 : List Nat → List Char
  | [] => []
  | [u] => [if isLeadUnit u || isTrailUnit u then replacement else Char.ofNat u]
  | u :: v :: rest =>
    if isLeadUnit u && isTrailUnit v then
      Char.ofNat (0x10000 + (u - 0xd800) * 1024 + (v - 0xdc00)) :: decodeUtf16 rest
    else
      (if isLeadUnit u || isTrailUnit u then replacement else Char.ofNat u)
        :: decodeUtf16 (v :: rest)

/-- The byte order mark, which is no part of the text. -/
def byteOrderMark : Char := '\ufeff'

/-! ### Guessing the encoding -/

/-- The bytes at odd positions. -/
def oddBytes : List UInt8 → List UInt8
  | _ :: b :: rest => b :: oddBytes rest
  | _ => []

/-- Whether the bytes look like UTF-16 with the low byte first: they begin
with its mark, or more than half of the high bytes are zero. -/
def looksLikeUtf16 (bytes : List UInt8) : Bool :=
  match bytes with
  | 0xff :: 0xfe :: _ => true
  | _ => (oddBytes bytes).length < (oddBytes bytes).count 0 * 2

/-- The text that a command wrote. In UTF-16 output, marks at the start and
NUL characters anywhere are dropped. -/
def decodeOutput (bytes : List UInt8) : String :=
  if looksLikeUtf16 bytes then
    String.ofList
      (((decodeUtf16 (unitsOf bytes)).dropWhile (· == byteOrderMark)).filter (·.toNat != 0))
  else String.ofList (decodeUtf8 bytes)

end BtrfsStore.Text
