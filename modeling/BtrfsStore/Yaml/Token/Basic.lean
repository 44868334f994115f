import BtrfsStore.Yaml.Cursor
import BtrfsStore.Yaml.Tag
/-!
# BtrfsStore.Yaml.Token.Basic

The tokens of YAML text. The structure that indentation expresses is made
explicit: block collections begin and end with tokens of their own.
-/

namespace BtrfsStore.Yaml

/-- A token. -/
inductive Token where
  | streamEnd
  | versionDirective (major minor : Nat)
  /-- Declares a handle that stands for the beginning of a tag. -/
  | tagDirective (handle : String) (expansion : Tag)
  | documentStart
  | documentEnd
  | blockSequenceStart
  | blockMappingStart
  | blockEnd
  | flowSequenceStart
  | flowSequenceEnd
  | flowMappingStart
  | flowMappingEnd
  | blockEntry
  | flowEntry
  | key
  | value
  | alias (name : String)
  | anchor (name : String)
  /-- A tag; without a handle the suffix is the whole tag. -/
  | tag (handle : String) (suffix : Tag)
  | scalar (text : String) (plain : Bool)
  deriving Repr, DecidableEq, Inhabited

end BtrfsStore.Yaml
