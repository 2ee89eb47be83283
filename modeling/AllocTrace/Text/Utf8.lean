/-! Text read from bytes in UTF-8. -/

namespace AllocTrace.Text

/-- The text that the bytes encode in UTF-8, if they are valid. -/
def decode? (bytes : List UInt8) : Option String :=
  (ByteArray.mk bytes.toArray).utf8Decode?.map fun cs => String.ofList cs.toList

end AllocTrace.Text
