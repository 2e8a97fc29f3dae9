/-!
Code pages: encodings that read one byte as one character. A page gives each of the 256 byte
values a character or leaves it undefined; the replacement character U+FFFD stands in the page
for an undefined byte, which is what decoding with replacement leaves there.

Most pages keep ASCII in the bytes below 128 and are written as the characters of the bytes
from 128 on, in rows of sixteen. A codec named by a document may give no code page: the name may
name no codec, or a codec that turns bytes into bytes; the codec may read some characters from
several bytes, or fail when asked to replace what it cannot decode.
-/
namespace UpnpBinding.Codec

/-- A code page: the characters of the byte values 0 to 255 in order, U+FFFD for a byte the
page leaves undefined. -/
structure CodePage where
  chars : String
  deriving DecidableEq, Inhabited

namespace CodePage

def undefinedMark : Char := '\uFFFD'

def asciiHalf : String := String.ofList ((List.range 128).map Char.ofNat)

def ofRows (rows : List String) : CodePage := ⟨String.join rows⟩

def ofUpper (rows : List String) : CodePage := ⟨asciiHalf ++ String.join rows⟩

def latin1 : CodePage := ⟨String.ofList ((List.range 256).map Char.ofNat)⟩

def ascii : CodePage := ofUpper [String.ofList (List.replicate 128 undefinedMark)]

def table (p : CodePage) : Array Char := p.chars.toList.toArray

def charIn? (table : Array Char) (b : Nat) : Option Char :=
  match table[b]? with
  | some c => if c == undefinedMark then none else some c
  | none => none

def char? (p : CodePage) (b : Nat) : Option Char := charIn? p.table b

end CodePage

end UpnpBinding.Codec

namespace UpnpBinding.Codec

/-- Why the codec called `name` gives no code page. -/
inductive CodecError where
  | unknown (name : String)
  | notText (name : String)
  | multiByte
  | failed (name : String) (reason : String)
  | notAscii (byte : Nat) (position : Nat)
  deriving DecidableEq, Inhabited

def hexByte (b : Nat) : String :=
  let digit := fun (d : Nat) => if d < 10 then Char.ofNat (48 + d) else Char.ofNat (87 + d)
  String.ofList [digit (b / 16 % 16), digit (b % 16)]

/-- The message of a codec error. A name is quoted at most 400 characters long where the
message says that its codec is not one for text. -/
def CodecError.message : CodecError → String
  | .unknown name => "unknown encoding: " ++ name
  | .notText name =>
    "'" ++ String.ofList (name.toList.take 400) ++
      "' is not a text encoding; use codecs.decode() to handle arbitrary codecs"
  | .multiByte => "multi-byte encodings are not supported"
  | .failed name reason =>
    "decoding with '" ++ name ++ "' codec failed (UnicodeError: " ++ reason ++ ")"
  | .notAscii byte position =>
    "'ascii' codec can't decode byte 0x" ++ hexByte byte ++ " in position " ++
      toString position ++ ": ordinal not in range(128)"

end UpnpBinding.Codec
