import TextMacros.Text

/-!
# Encoded texts

Texts are stored and transmitted as UTF-8. Every text has bytes, and bytes are read back as the one
text they encode, or refused.
-/

namespace TextMacros
namespace Text

/-- The UTF-8 encoding of a text. -/
def bytes (text : Text) : List UInt8 := text.flatMap String.utf8EncodeChar

/-- The text that some bytes encode. -/
def ofBytes? (bytes : List UInt8) : Option Text := bytes.toByteArray.utf8Decode?.map Array.toList

theorem bytes_append (first second : Text) :
    bytes (first ++ second) = bytes first ++ bytes second := by
  simp [bytes]

/-- The size of a text is the number of its bytes. -/
theorem length_bytes (text : Text) : text.bytes.length = text.size := by
  induction text with
  | nil => rfl
  | cons symbol rest hypothesis =>
    have rest_length : (rest.flatMap String.utf8EncodeChar).length = size rest := hypothesis
    simp [bytes, rest_length]

/-- The bytes of a text are read back as that text. -/
theorem ofBytes?_bytes (text : Text) : ofBytes? text.bytes = some text := by
  have encoded : text.bytes.toByteArray = List.utf8Encode text := rfl
  simp [ofBytes?, encoded]

end Text
end TextMacros
