import Listing.Charset.SingleByte
import Listing.Charset.Utf16
import Listing.Charset.Utf8
import Listing.Text.Fold

/-!
Encodings by name, and the text of bytes whose encoding has been detected or not. Which encodings
there are is up to the system: it has codecs by their names, some of which are described here. Names
are compared without regard to case, and whatever stands between their letters and digits counts as
one underscore; most encodings go by several names. Two encodings are asked for in a way of their
own, the Windows code page for Cyrillic and UTF-8, whose byte order mark is dropped. Bytes without a
detected encoding are tried as UTF-8 and then as Cyrillic.
-/

namespace Listing

/-- An encoding. A byte order mark at the start of UTF-8 is dropped or is a character. -/
inductive Charset where
  | ascii
  | latin
  | cyrillic
  | utf8
  | utf8WithMark
  | utf16
  | utf16Little
  | utf16Big
  deriving DecidableEq, Repr

namespace Charset

def names : List (Charset × List String) :=
  [(.ascii, ["ascii", "646", "ansi_x3.4_1968", "ansi_x3_4_1968", "ansi_x3.4_1986", "cp367",
      "csascii", "ibm367", "iso646_us", "iso_646.irv_1991", "iso_ir_6", "us", "us_ascii"]),
    (.latin, ["latin_1", "8859", "cp819", "csisolatin1", "ibm819", "iso8859", "iso8859_1",
      "iso_8859_1", "iso_8859_1_1987", "iso_ir_100", "l1", "latin", "latin1"]),
    (.cyrillic, ["cp1251", "1251", "windows_1251"]),
    (.utf8, ["utf_8_sig"]),
    (.utf8WithMark, ["utf_8", "u8", "utf", "utf8", "utf8_ucs2", "utf8_ucs4", "cp65001"]),
    (.utf16, ["utf_16", "u16", "utf16"]),
    (.utf16Little, ["utf_16_le", "unicodelittleunmarked", "utf_16le"]),
    (.utf16Big, ["utf_16_be", "unicodebigunmarked", "utf_16be"])]

/-- The words of a name in lower case, with one underscore between them. -/
def normalName (name : Text) : Text :=
  let letters := name.fold.map fun c => if c.isAlphanum || c = '.' then c else '_'
  Text.join ['_'] ((letters.splitOn '_').filter fun word => word ≠ [])

def ofName? (name : Text) : Option Charset :=
  (names.find? fun entry => entry.2.any fun other => other.toList == normalName name).map Prod.fst

def decode : Charset → List UInt8 → Except Malformed Text
  | .ascii, bytes => SingleByte.decodeAscii bytes
  | .latin, bytes => .ok (SingleByte.decodeLatin bytes)
  | .cyrillic, bytes => SingleByte.decodeCyrillic bytes
  | .utf8, bytes => Utf8.decode bytes
  | .utf8WithMark, bytes => Utf8.decodeFrom 0 none bytes
  | .utf16, bytes => Utf16.decode bytes
  | .utf16Little, bytes => Utf16.decodeFrom .little 0 bytes
  | .utf16Big, bytes => Utf16.decodeFrom .big 0 bytes

end Charset

/-- What decodes bytes: their text, or in words why they are none. -/
abbrev Codec := List UInt8 → Except String Text

/-- The codecs of a system, by the names of encodings. -/
class Codecs where
  codec? : Text → Option Codec

namespace Charset

def codec (charset : Charset) : Codec := fun bytes =>
  (charset.decode bytes).mapError Malformed.message

/-- A system that has the codecs described here and no others. -/
instance described : Codecs where
  codec? name := (ofName? name).map codec

end Charset

inductive DecodeError where
  | malformed (reason : String)
  | unknownName (name : Text)
  | undetected
  deriving DecidableEq, Repr

def DecodeError.message : DecodeError → String
  | .malformed reason => reason
  | .unknownName name => "unknown encoding: " ++ String.ofList name
  | .undetected => "Could not detect source encoding"

abbrev Detector := List UInt8 → Option Text

def cyrillicNames : List String := ["windows-1251", "cp1251"]

def plainNames : List String := ["utf_8", "utf-8", "utf8"]

/-- The text of bytes in a named encoding. No bytes are the empty text under any name. -/
def decodeAs [Codecs] (name : Text) (bytes : List UInt8) : Except DecodeError Text :=
  if cyrillicNames.any fun known => known.toList == name.fold then
    (Charset.cyrillic.codec bytes).mapError .malformed
  else if plainNames.any fun known => known.toList == name.fold then
    (Charset.utf8.codec bytes).mapError .malformed
  else if bytes = [] then .ok []
  else
    match Codecs.codec? name with
    | some codec => (codec bytes).mapError .malformed
    | none => .error (.unknownName name)

def decodeUndetected (bytes : List UInt8) : Except DecodeError Text :=
  match Utf8.decode bytes, SingleByte.decodeCyrillic bytes with
  | .ok t, _ => .ok t
  | .error _, .ok t => .ok t
  | .error _, .error _ => .error .undetected

/-- The text of bytes by what the detector says of them; an empty name says nothing. -/
def decodeBytes [Codecs] (detect : Detector) (bytes : List UInt8) : Except DecodeError Text :=
  match detect bytes with
  | some (c :: name) => decodeAs (c :: name) bytes
  | _ => decodeUndetected bytes

end Listing
