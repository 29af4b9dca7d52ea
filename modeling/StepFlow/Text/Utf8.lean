/-!
# Bytes of text

The text that a string of bytes encodes.
-/

namespace StepFlow.Text

/-- The text that bytes encode in UTF-8, if they do. -/
def utf8? (bs : List UInt8) : Option String :=
  String.fromUTF8? ⟨bs.toArray⟩

end StepFlow.Text
