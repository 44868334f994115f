/-!
# BtrfsStore.Text.Find

Finding one text inside another, folding letter case for such a search, and
replacing or removing single characters.
-/

namespace BtrfsStore.Text

/-! ### Searching -/

/-- Whether the pattern occurs as a contiguous part of the text. -/
def occursIn (pat : List Char) : List Char → Bool
  | [] => pat.isEmpty
  | c :: cs => pat.isPrefixOf (c :: cs) || occursIn pat cs

/-- Whether `pat` occurs in `s`. -/
def contains (s pat : String) : Bool := occursIn pat.toList s.toList

/-- Whether `s` begins with `pat`. -/
def startsWith (s pat : String) : Bool := pat.toList.isPrefixOf s.toList

/-! ### Letter case -/

/-- The lower-case form of a character, as far as a search for an ASCII
pattern can see it: apart from the letters `A` to `Z`, the only characters
whose lower-case form holds an ASCII letter are the Kelvin sign and the
capital I with a dot above. All others are left as they are. -/
def foldChar (c : Char) : List Char :=
  if 'A' ≤ c ∧ c ≤ 'Z' then [Char.ofNat (c.toNat + 32)]
  else if c = '\u212a' then ['k']
  else if c = '\u0130' then ['i', '\u0307']
  else [c]

/-- Folds letter case for a search with an ASCII pattern. -/
def foldCase (s : String) : String := String.ofList (s.toList.flatMap foldChar)

/-- Folds the letters `A` to `Z` only. -/
def foldAscii (s : String) : String := String.ofList (s.toList.map Char.toLower)

/-- Equality up to the case of the letters `A` to `Z` and `a` to `z`. -/
def sameAscii (a b : String) : Bool := foldAscii a == foldAscii b

/-! ### Joining and replacing -/

/-- The texts with `sep` between neighbours. -/
def joinWith (sep : String) (parts : List String) : String := String.intercalate sep parts

/-- The text with every occurrence of the character `c` written as `new`. -/
def replaceChar (c : Char) (new : List Char) (s : String) : String :=
  String.ofList (s.toList.flatMap fun d => if d = c then new else [d])

end BtrfsStore.Text
