/-!
# BtrfsStore.Yaml.Tag

The tags of YAML nodes. Escapes let a text spell a tag byte by byte, so that a
tag need not be text at all. A tag ends before its first zero byte.

Standard tags say what a scalar means. An application's own tags begin with an
exclamation mark; a value keeps the name of such a tag, which is what follows
the mark.
-/

namespace BtrfsStore.Yaml

/-- The bytes of a tag. -/
abbrev Tag := List UInt8

namespace Tag

/-- The bytes of a text. -/
def ofString (s : String) : Tag := s.toUTF8.toList

/-- The bytes before the first zero byte. -/
def upToNul (t : Tag) : Tag := t.takeWhile (· != 0)

/-- The tag of the given standard type. -/
def standard (name : String) : Tag := ofString ("tag:yaml.org,2002:" ++ name)

/-- The exclamation mark. -/
def mark : UInt8 := 0x21

/-- Whether a tag is an application's own. -/
def isOwn (t : Tag) : Bool := t.head? == some mark

/-- The text that a tag spells, if it spells one. -/
def text? (t : Tag) : Option String := String.fromUTF8? ⟨t.toArray⟩

/-- The name of an application's own tag that is text. The tag that is an
exclamation mark alone is its own name. -/
def name? (t : Tag) : Option String :=
  match t with
  | [] => none
  | b :: rest => if b = mark then text? (if rest.isEmpty then t else rest) else none

/-! ### Names -/

/-- A name without one exclamation mark in front of something else. Names that
differ only in that are the same. -/
def bareName (name : String) : String :=
  match name.toList with
  | '!' :: c :: cs => String.ofList (c :: cs)
  | _ => name

/-- The tag that is written for a name: the bare name, after an exclamation
mark unless it begins with one. -/
def textOf (name : String) : String :=
  let bare := bareName name
  if bare.toList.head? = some '!' then bare else "!" ++ bare

end Tag

end BtrfsStore.Yaml
