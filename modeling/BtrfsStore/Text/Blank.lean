/-!
# BtrfsStore.Text.Blank

Blank characters, and the two things every reader of tool output does with
them: trimming a text and splitting it into words.

The algorithms work on lists of characters, so that their laws follow the
data; the `String` forms at the end are what the rest of the library calls.
-/

namespace BtrfsStore.Text

/-! ### Blank characters -/

/-- The characters with the Unicode property `White_Space`. -/
def isBlank (c : Char) : Bool :=
  let n := c.toNat
  (0x09 ≤ n && n ≤ 0x0d) || n == 0x20 || n == 0x85 || n == 0xa0 || n == 0x1680
    || (0x2000 ≤ n && n ≤ 0x200a) || n == 0x2028 || n == 0x2029 || n == 0x202f
    || n == 0x205f || n == 0x3000

/-! ### Trimming -/

/-- Drops the longest tail whose characters all satisfy `p`. -/
def dropEndWhile (p : Char → Bool) (cs : List Char) : List Char :=
  (cs.reverse.dropWhile p).reverse

/-- Drops the blank characters at both ends. -/
def trimChars (cs : List Char) : List Char :=
  dropEndWhile isBlank (cs.dropWhile isBlank)

/-! ### Words -/

/-- The maximal runs of characters that are not blank, in order. -/
def wordsOf : List Char → List (List Char)
  | [] => []
  | c :: cs =>
    if isBlank c then wordsOf cs
    else
      match cs with
      | [] => [[c]]
      | d :: _ =>
        if isBlank d then [c] :: wordsOf cs
        else
          match wordsOf cs with
          | [] => [[c]]
          | w :: ws => (c :: w) :: ws

/-! ### The same on strings -/

/-- The text without the blank characters at its ends. -/
def trim (s : String) : String := String.ofList (trimChars s.toList)

/-- The words of a text. -/
def words (s : String) : List String := (wordsOf s.toList).map String.ofList

/-- A text with nothing but blank characters in it. -/
def isBlankText (s : String) : Bool := s.toList.all isBlank

/-- The first word of a text, if it has one. -/
def firstWord (s : String) : Option String := (words s).head?

/-- The text without the slashes at its end. -/
def dropTrailingSlashes (s : String) : String :=
  String.ofList (dropEndWhile (· == '/') s.toList)

/-- What trimming keeps does not start with a blank character. -/
theorem isBlank_of_mem_head?_dropWhile {cs : List Char} {c : Char}
    (h : (cs.dropWhile isBlank).head? = some c) : isBlank c = false := by
  have := List.head?_dropWhile_not isBlank cs
  rw [h] at this
  simpa using this

end BtrfsStore.Text
