import CodexPool.Lib.Bytes
import CodexPool.Lib.Text

/-!
# Headers

The headers of a request or a response, by their names in lower case. Most of them are read as
texts that are not blank.
-/

namespace CodexPool

abbrev HeaderMap := List (String × Bytes)

/-- The value of a header as a text: it has visible ASCII characters and tabs only. -/
def headerToStr (value : Bytes) : Option String :=
  if value.all fun b => 32 ≤ b.toNat && b.toNat < 127 || b = 0x09 then
    some (Bytes.fromUtf8Lossy value)
  else none

def headerText (headers : HeaderMap) (name : String) : Option String :=
  (((headers.lookup name).bind headerToStr).map Text.trim).filter (!·.isEmpty)

/-- The values of a header that may be there more than once, `none` for one that is no text. -/
def headerValues (headers : HeaderMap) (name : String) : List (Option String) :=
  (headers.filter (·.1 = name)).map fun header => headerToStr header.2

end CodexPool
