/-!
# The text encoding

Bytes spell a text if they are valid in the encoding of eight-bit units.
-/

namespace MapIngest.Text

/-- The text that bytes spell, if they are valid. -/
def decode? (bytes : List UInt8) : Option String :=
  String.fromUTF8? (ByteArray.mk bytes.toArray)

end MapIngest.Text
