/-!
# BtrfsStore.Shell.Pattern

Patterns of the shell: an asterisk stands for any text, a question mark for any
character, and a bracket expression for one character out of a set. A quoted
character, and one after a backslash, only stands for itself.
-/

namespace BtrfsStore.Shell

/-- A character of a word, and whether it is quoted. -/
abbrev QuotedChar := Bool × Char

/-- A part of the set of a bracket expression. -/
inductive SetItem where
  | range (first last : Char)
  | class (holds : Char → Bool)

/-- A part of a pattern. -/
inductive PatternItem where
  | anyText
  | anyChar
  /-- One character that is in the set, or that is not if `negated`. -/
  | oneOf (negated : Bool) (set : List SetItem)
  | char (c : Char)

namespace Pattern

/-! ### Bracket expressions -/

/-- A printing character other than the space. -/
def isGraphic (c : Char) : Bool := 0x21 ≤ c.toNat && c.toNat ≤ 0x7e

/-- A character that ends or indents lines, or parts words. -/
def isSpacing (c : Char) : Bool := c == ' ' || (9 ≤ c.toNat && c.toNat ≤ 13)

/-- The classes of characters by their names. -/
def classes : List (String × (Char → Bool)) :=
  [("alnum", Char.isAlphanum), ("alpha", Char.isAlpha), ("blank", fun c => c == ' ' || c == '\t'),
    ("cntrl", fun c => c.toNat < 0x20 || c.toNat == 0x7f), ("digit", Char.isDigit),
    ("graph", isGraphic), ("lower", Char.isLower), ("print", fun c => c == ' ' || isGraphic c),
    ("punct", fun c => isGraphic c && !c.isAlphanum), ("space", isSpacing),
    ("upper", Char.isUpper),
    ("xdigit", fun c => c.isDigit || ('a' ≤ c && c ≤ 'f') || ('A' ≤ c && c ≤ 'F'))]

/-- Reads the name of a class after an opening bracket. -/
def readClass? (cs : List QuotedChar) : Option (SetItem × List QuotedChar) :=
  classes.findSome? fun (name, holds) =>
    let spelled := (":" ++ name ++ ":]").toList
    if (cs.take spelled.length).map (·.2) = spelled ∧ cs.head?.any (!·.1) then
      some (.class holds, cs.drop spelled.length)
    else none

/-- The character that comes next, without the backslash in front of it. -/
def unescaped? : List QuotedChar → Option (Char × List QuotedChar)
  | (false, '\\') :: (_, c) :: rest => some (c, rest)
  | (_, c) :: rest => some (c, rest)
  | [] => none

/-- Reads a set up to its closing bracket, which does not count as such if it
comes first. -/
def readSet : Nat → Bool → List QuotedChar → Option (List SetItem × List QuotedChar)
  | 0, _, _ => none
  | fuel + 1, isFirst, cs =>
    match cs with
    | [] => none
    | c :: rest =>
      if c = (false, ']') ∧ !isFirst then some ([], rest)
      else
        let add (item : SetItem) (rest : List QuotedChar) :
            Option (List SetItem × List QuotedChar) :=
          (readSet fuel false rest).map fun (items, rest) => (item :: items, rest)
        match if c = (false, '[') then readClass? rest else none with
        | some (item, rest) => add item rest
        | none =>
          match unescaped? cs with
          | none => none
          | some (first, rest) =>
            match rest with
            | (false, '-') :: more =>
              if more.head? = some (false, ']') then add (.range first first) rest
              else
                match unescaped? more with
                | some (last, rest) => add (.range first last) rest
                | none => none
            | _ => add (.range first first) rest

/-- Reads a bracket expression after its opening bracket. -/
def readBracket (cs : List QuotedChar) : Option (PatternItem × List QuotedChar) :=
  let negated := cs.head? == some (false, '!')
  let cs := if negated then cs.drop 1 else cs
  (readSet (cs.length + 1) true cs).map fun (set, rest) => (.oneOf negated set, rest)

/-! ### Patterns -/

/-- The pattern of characters, each of which may be quoted. -/
def ofChars : Nat → List QuotedChar → List PatternItem
  | 0, _ => []
  | _, [] => []
  | fuel + 1, (quoted, c) :: rest =>
    if quoted then .char c :: ofChars fuel rest
    else if c = '*' then .anyText :: ofChars fuel rest
    else if c = '?' then .anyChar :: ofChars fuel rest
    else if c = '[' then
      match readBracket rest with
      | some (item, after) => item :: ofChars fuel after
      | none => .char c :: ofChars fuel rest
    else if c = '\\' then
      match rest with
      | (_, d) :: after => .char d :: ofChars fuel after
      | [] => [.char c]
    else .char c :: ofChars fuel rest

/-- The pattern of a word. -/
def ofWord (cs : List QuotedChar) : List PatternItem := ofChars (cs.length + 1) cs

/-- Whether a pattern is more than a text. -/
def isProper (items : List PatternItem) : Bool :=
  items.any fun
    | .char _ => false
    | _ => true

/-- Whether an item other than `anyText` stands for a character. -/
def admits : PatternItem → Char → Bool
  | .anyText, _ | .anyChar, _ => true
  | .oneOf negated set, c =>
    set.any (fun
      | .range first last => first ≤ c && c ≤ last
      | .class holds => holds c) != negated
  | .char d, c => c == d

/-- The texts that are left after each prefix. -/
def tailsOf : List Char → List (List Char)
  | [] => [[]]
  | c :: cs => (c :: cs) :: tailsOf cs

/-- Whether a pattern matches a whole text. -/
def accepts : List PatternItem → List Char → Bool
  | [], cs => cs.isEmpty
  | .anyText :: items, cs => (tailsOf cs).any (accepts items)
  | item :: items, c :: cs => admits item c && accepts items cs
  | _ :: _, [] => false

/-! ### Trimming -/

/-- A text without what a pattern matches at its start, the shortest or the
longest possible piece, if it matches anything there. -/
def cutStart? (longest : Bool) (items : List PatternItem) (cs : List Char) :
    Option (List Char) :=
  let lengths := List.range (cs.length + 1)
  let lengths := if longest then lengths.reverse else lengths
  (lengths.find? fun n => accepts items (cs.take n)).map cs.drop

/-- The same at its end. -/
def cutEnd? (longest : Bool) (items : List PatternItem) (cs : List Char) : Option (List Char) :=
  let lengths := List.range (cs.length + 1)
  let lengths := if longest then lengths else lengths.reverse
  (lengths.find? fun n => accepts items (cs.drop n)).map cs.take

/-- Texts without what a pattern matches at the start of the first one. If the
longest piece is to go and all of the first text matches, nothing is left. -/
def trimStarts (longest : Bool) (items : List PatternItem) :
    List (List Char) → List (List Char)
  | [] => []
  | first :: rest =>
    if longest && accepts items first then [[]]
    else (cutStart? longest items first).getD first :: rest

/-- Texts up to the last of them that ends with a match, without the shortest
piece that matches; none if there is no match. -/
def cutLast? (items : List PatternItem) : List (List Char) → Option (List (List Char))
  | [] => none
  | text :: rest =>
    match cutLast? items rest with
    | some kept => some (text :: kept)
    | none => (cutEnd? false items text).map ([·])

/-- Texts without what a pattern matches at the end of one of them, and without
all that comes after it. The longest piece is looked for in the first text. -/
def trimEnds (longest : Bool) (items : List PatternItem) (texts : List (List Char)) :
    List (List Char) :=
  let kept? := match longest, texts with
    | true, first :: _ => (cutEnd? true items first).map ([·])
    | _, texts => cutLast? items texts
  kept?.getD texts

end Pattern

end BtrfsStore.Shell
