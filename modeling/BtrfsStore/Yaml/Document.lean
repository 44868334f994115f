import BtrfsStore.Yaml.Node
import BtrfsStore.Yaml.Scalar
/-!
# BtrfsStore.Yaml.Document

Reading a YAML document: the value that its nodes describe. Aliases are
replaced by what they stand for, within limits that keep a small text from
growing without end.
-/

namespace BtrfsStore.Yaml

namespace Document

/-! ### Limits -/

/-- How deep collections may be nested. -/
def maxDepth : Nat := 128

/-- How often aliases may be followed, per node of the text. -/
def aliasesPerNode : Nat := 100

/-! ### Scalars -/

/-- The value of an option, or a complaint. -/
def orComplain {α : Type} (text : String) : Option α → Except String α
  | some a => .ok a
  | none => .error text

/-- The whole number that a text means. -/
def wholeNumber (text : String) : Except String Yaml :=
  match (Scalar.int? text).filter Scalar.fits with
  | some n => .ok (.int n)
  | none => .error "invalid value: expected an integer"

/-- The meaning of a plain scalar. -/
def plainMeaning (text : String) : Except String Yaml :=
  orComplain "integer out of range" (Scalar.resolve text)

/-- The value of a scalar without a tag. -/
def untaggedScalar (text : String) (plain : Bool) : Except String Yaml :=
  if plain then plainMeaning text else .ok (.str text)

/-- The value with the name of its tag around it, if the tag has one. -/
def withName (tag : Tag) (value : Yaml) : Yaml :=
  match tag.name? with
  | some name => .tagged name value
  | none => value

/-- The value of a scalar. With a tag that is neither standard nor an
application's own, it is a text. -/
def ofScalar (tag : Option Tag) (text : String) (plain : Bool) : Except String Yaml := do
  match tag with
  | none => untaggedScalar text plain
  | some tag =>
    if tag = .standard "bool" then
      orComplain "invalid value: expected a boolean" ((Scalar.bool? text).map .bool)
    else if tag = .standard "int" then wholeNumber text
    else if tag = .standard "float" then
      orComplain "invalid value: expected a float" ((Scalar.real? text).map .real)
    else if tag = .standard "null" then
      if Scalar.isNull text then pure .null else .error "invalid value: expected null"
    else if tag.isOwn then return withName tag (← untaggedScalar text plain)
    else pure (.str text)

/-- The value of a collection with the given tag. -/
def withTag (tag : Option Tag) (value : Yaml) : Yaml :=
  match tag with
  | some tag => withName tag value
  | none => value

/-! ### Collections -/

/-- The number of aliases that may still be followed. -/
abbrev Budget := StateT Nat (Except String)

/-- The node that an alias stands for. -/
def follow (anchors : List (Nat × Node)) : Node → Budget Node
  | .alias a => do
    match ← get with
    | 0 => throw "repetition limit exceeded"
    | n + 1 =>
      set n
      match anchors.reverse.lookup a with
      | some node => pure node
      | none => throw "unknown anchor"
  | node => pure node

/-- Adds an entry to a mapping, whose keys have to differ. -/
def addEntry (entries : List (Yaml × Yaml)) (key value : Yaml) :
    Except String (List (Yaml × Yaml)) :=
  if entries.any fun e => sameKey key e.1 then .error "duplicate entry"
  else .ok (entries ++ [(key, value)])

/-- The value of a node that is nested in fewer than `maxDepth` collections;
the first argument is the number of further levels. -/
def ofNode (anchors : List (Nat × Node)) : Nat → Node → Budget Yaml
  | depth, node => do
    match ← follow anchors node with
    | .alias _ => throw "unknown anchor"
    | .scalar p text plain => ofScalar p.tag text plain
    | .seq p items =>
      match depth with
      | 0 => throw "recursion limit exceeded"
      | depth + 1 =>
        let values ← items.mapM (ofNode anchors depth)
        pure (withTag p.tag (.seq values))
    | .map p entries =>
      match depth with
      | 0 => throw "recursion limit exceeded"
      | depth + 1 =>
        let entries ← entries.foldlM (fun done entry => do
          let key ← ofNode anchors depth entry.1
          let value ← ofNode anchors depth entry.2
          addEntry done key value) []
        pure (withTag p.tag (.map entries))

end Document

/-- The value that a text describes; a text without a node describes null. -/
def ofText (text : String) : Except String Yaml := do
  let tokens ← tokensOf text
  match ← Node.ofTokens? tokens with
  | none => pure .null
  | some node =>
    let budget := Document.aliasesPerNode * node.size
    let (value, _) ← (Document.ofNode node.anchored Document.maxDepth node).run budget
    pure value

end BtrfsStore.Yaml
