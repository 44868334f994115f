import BtrfsStore.Text.Encoding
/-!
# BtrfsStore.Shell.ByteText

A shell handles bytes, whatever they encode. Inside the shell a text holds one
character for each byte, the one whose number the byte is, so that the length
of a text is its number of bytes and a pattern matches byte by byte.
-/

namespace BtrfsStore.Shell.ByteText

/-- The text that holds the given bytes. -/
def ofBytes (bytes : List UInt8) : String :=
  String.ofList (bytes.map fun b => Char.ofNat b.toNat)

/-- The bytes that a text holds. -/
def toBytes (s : String) : List UInt8 := s.toList.map fun c => UInt8.ofNat c.toNat

/-- The text that holds the bytes of an ordinary text. -/
def encode (s : String) : String := ofBytes (Text.encodeUtf8 s)

/-- The ordinary text whose bytes a text holds. -/
def decode (s : String) : String := String.ofList (Text.decodeUtf8 (toBytes s))

end BtrfsStore.Shell.ByteText
