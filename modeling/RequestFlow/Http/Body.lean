import RequestFlow.Json.Reader
import RequestFlow.Text.Wide

/-!
# Request bodies

A body is JSON if its bytes can be decoded and read as such; the encoding is told from a byte order
mark or else from where the first bytes are zero. Any other body is a text, decoded as far as it can
be, and an empty body is null.
-/

namespace RequestFlow
namespace Http

/-- The encodings of JSON. -/
inductive Encoding
  | utf8
  | utf16 (bigEndian : Bool)
  | utf32 (bigEndian : Bool)
  deriving DecidableEq, Repr

/-- The encoding that the zeros among the first bytes tell. JSON begins with ASCII characters, so
that the units of its encoding show. -/
def encodingByZeros : List UInt8 → Encoding
  | 0 :: 0 :: _ :: _ :: _ => .utf32 true
  | 0 :: _ :: _ :: _ :: _ => .utf16 true
  | _ :: 0 :: 0 :: 0 :: _ => .utf32 false
  | _ :: 0 :: _ :: _ :: _ => .utf16 false
  | [0, _] => .utf16 true
  | [_, 0] => .utf16 false
  | _ => .utf8

/-- The encoding of some bytes, and the bytes without a byte order mark. -/
def detect : List UInt8 → Encoding × List UInt8
  | 0x00 :: 0x00 :: 0xFE :: 0xFF :: rest => (.utf32 true, rest)
  | 0xFF :: 0xFE :: 0x00 :: 0x00 :: rest => (.utf32 false, rest)
  | 0xFE :: 0xFF :: rest => (.utf16 true, rest)
  | 0xFF :: 0xFE :: rest => (.utf16 false, rest)
  | 0xEF :: 0xBB :: 0xBF :: rest => (.utf8, rest)
  | bytes => (encodingByZeros bytes, bytes)

/-- Decode bytes in an encoding. -/
def Encoding.decode? (bytes : List UInt8) : Encoding → Option (List Char)
  | .utf8 => Text.decodeUtf8Halves? bytes
  | .utf16 bigEndian => Text.decodeUtf16? bigEndian bytes
  | .utf32 bigEndian => Text.decodeUtf32? bigEndian bytes

/-- The value of bytes that are JSON. -/
def jsonBody? (bytes : List UInt8) : Option Value := do
  let (encoding, content) := detect bytes
  let characters ← encoding.decode? content
  (Json.readChars characters).toOption

/-- The value of a body. -/
def bodyValue (bytes : List UInt8) : Value :=
  if bytes.isEmpty then .null
  else (jsonBody? bytes).getD (.text (String.ofList (Text.decodeUtf8Lenient bytes)))

end Http
end RequestFlow
