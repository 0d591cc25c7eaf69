/-!
# Bytes

Text as the bytes of its UTF-8 form, and back.
-/

namespace SampleModels

abbrev Bytes : Type := List UInt8

def Bytes.ofText (text : String) : Bytes := text.toUTF8.data.toList

/-- The text with that UTF-8 form, if there is one. -/
def Bytes.toText? (bytes : Bytes) : Option String := String.fromUTF8? ⟨bytes.toArray⟩

end SampleModels
