import Triage.Json.Reader

/-!
# JSON in message bodies

A body is bytes.  Its encoding is not announced: a byte order mark or the places
of zero bytes among the first four tell it.  In the wider encodings a half of a
surrogate pair may stand by itself, which reads like the escape that names it.
-/

namespace Triage.Json

/-- The encodings that a body may have. -/
inductive BodyEncoding where
  | utf8
  | utf16 (order : Text.ByteOrder)
  | utf32 (order : Text.ByteOrder)
  deriving DecidableEq, Repr

namespace BodyEncoding

/-- The encoding of bytes without a byte order mark.  The first character of JSON
is an ASCII character, so that zero bytes beside it show how wide it is. -/
def ofBytes : List UInt8 → BodyEncoding
  | 0 :: 0 :: _ :: _ :: _ => .utf32 .big
  | 0 :: _ :: _ :: _ :: _ => .utf16 .big
  | _ :: 0 :: 0 :: 0 :: _ => .utf32 .little
  | _ :: 0 :: _ :: _ :: _ => .utf16 .little
  | [0, _] => .utf16 .big
  | [_, 0] => .utf16 .little
  | _ => .utf8

/-- The characters of a code point. -/
def codeChars (code : Nat) : List Char :=
  if Text.isHalf code then '\\' :: 'u' :: Text.hexDigits 4 code else [Char.ofNat code]

/-- The characters of bytes, unless they form none. -/
def decode? (bytes : List UInt8) : BodyEncoding → Option (List Char)
  | .utf8 => some (Text.ofUtf8 bytes)
  | .utf16 order => (Text.ofUtf16? order bytes).map (·.flatMap codeChars)
  | .utf32 order => (Text.ofUtf32? order bytes).map (·.flatMap codeChars)

end BodyEncoding

/-- The byte order mark. -/
def byteOrderMark : Char := Char.ofNat 0xFEFF

/-- The value of a message body, given by its text in UTF-8. -/
def readBody (room : Nat) (body : String) : Except ReadingFault Json :=
  match body.toList with
  | [] => .error .malformed
  | first :: rest =>
      if first == byteOrderMark then readList room rest
      else do
        let bytes := Text.utf8 (first :: rest)
        let characters ← orMalformed ((BodyEncoding.ofBytes bytes).decode? bytes)
        readList room characters

end Triage.Json
