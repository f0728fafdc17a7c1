/-! Text as the bytes that reach an output. -/
namespace OperationStubs

/-- The UTF-8 bytes of a text. Joining texts joins their bytes. -/
def utf8 (text : String) : List UInt8 :=
  text.toList.flatMap String.utf8EncodeChar

theorem utf8_append (a b : String) : utf8 (a ++ b) = utf8 a ++ utf8 b := by
  simp [utf8]

/-- The text that some bytes encode, if they are valid UTF-8. -/
def ofUtf8? (bytes : List UInt8) : Option String :=
  String.fromUTF8? ⟨bytes.toArray⟩

end OperationStubs
