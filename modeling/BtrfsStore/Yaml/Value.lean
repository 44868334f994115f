import BtrfsStore.Binary64.Basic
import BtrfsStore.Yaml.Tag
/-!
# BtrfsStore.Yaml.Value

YAML values. The entries of a mapping keep their order, which the workspace
config relies on: replacing a value keeps its place, and removing an entry
moves the last one into the gap.
-/

namespace BtrfsStore

/-- A YAML value. -/
inductive Yaml where
  | null
  | bool (b : Bool)
  | int (n : Int)
  | real (x : Binary64)
  | str (s : String)
  | seq (items : List Yaml)
  | map (entries : List (Yaml × Yaml))
  /-- A value with the name of a tag. -/
  | tagged (name : String) (value : Yaml)
  deriving Repr, Inhabited

namespace Yaml

/-! ### Equality of keys -/

mutual

/-- Whether two values are the same key. The order of the entries of a mapping
does not matter. -/
def sameKey : Yaml → Yaml → Bool
  | null, null => true
  | bool a, bool b => a == b
  | int a, int b => a == b
  | real a, real b => a.sameKey b
  | str a, str b => a == b
  | seq as, seq bs => sameItems as bs
  | map as, map bs => as.length == bs.length && sameEntries as bs
  | tagged s a, tagged t b => Tag.bareName s == Tag.bareName t && sameKey a b
  | _, _ => false

/-- Whether two lists hold the same keys in the same order. -/
def sameItems : List Yaml → List Yaml → Bool
  | [], [] => true
  | a :: as, b :: bs => sameKey a b && sameItems as bs
  | _, _ => false

/-- Whether each entry of the first list is found in the second one. -/
def sameEntries : List (Yaml × Yaml) → List (Yaml × Yaml) → Bool
  | [], _ => true
  | (k, v) :: rest, others =>
    others.any (fun other => sameKey k other.1 && sameKey v other.2) && sameEntries rest others

end

/-- Whether a value is the given text. -/
def isText (s : String) : Yaml → Bool
  | str t => s == t
  | _ => false

/-! ### Entries of a mapping -/

/-- The entries of a mapping. -/
abbrev Entries := List (Yaml × Yaml)

namespace Entries

/-- The value under a name. -/
def get? (name : String) (entries : Entries) : Option Yaml :=
  (entries.find? fun e => isText name e.1).map (·.2)

/-- Replaces the value under a name, or adds an entry at the end. -/
def put (name : String) (value : Yaml) : Entries → Entries
  | [] => [(str name, value)]
  | (k, v) :: rest =>
    if isText name k then (k, value) :: rest else (k, v) :: put name value rest

/-- Changes the value under a name, or adds an entry with the changed
`default` at the end. -/
def alter (name : String) (default : Yaml) (f : Yaml → Yaml) : Entries → Entries
  | [] => [(str name, f default)]
  | (k, v) :: rest =>
    if isText name k then (k, f v) :: rest else (k, v) :: alter name default f rest

/-- Removes the entry with a name; the last entry moves into its place. -/
def erase (name : String) : Entries → Entries
  | [] => []
  | (k, v) :: rest =>
    if isText name k then
      match rest.getLast? with
      | some last => last :: rest.dropLast
      | none => []
    else (k, v) :: erase name rest

end Entries

/-! ### Views -/

/-- The value without the tags around it. -/
def untagged : Yaml → Yaml
  | tagged _ v => v.untagged
  | v => v

/-- Whether the value is a mapping, possibly with a tag. -/
def isMapping (v : Yaml) : Bool :=
  match v.untagged with
  | map _ => true
  | _ => false

/-- The value under a name of a mapping, possibly with a tag. -/
def get? (name : String) (v : Yaml) : Option Yaml :=
  match v.untagged with
  | map entries => Entries.get? name entries
  | _ => none

/-- The value at the end of a path of names. -/
def lookup : List String → Yaml → Option Yaml
  | [], v => some v
  | k :: ks, v => (v.get? k).bind (lookup ks)

end Yaml

end BtrfsStore
