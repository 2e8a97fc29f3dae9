import UpnpBinding.Xml.Names
import UpnpBinding.Codec.Page
/-!
The characters of a document. Bytes are decoded in the encoding their first bytes show: UTF-16
when they start with a byte-order mark or with a zero byte in one of the first two places, UTF-8
otherwise; a declaration may switch to a code page, one byte per character, when the bytes that
make up markup keep their ASCII meaning there. Decoding stops at the first bytes that do not form a character; the reader meets that
point as a character that can stand nowhere, or, when the input ends inside a character, as a cut
character.
-/
namespace UpnpBinding.Xml

/-- How the decoded characters end: with the input, at bytes that form no character, inside
a character that the end of the input cuts short, or with one byte left over where characters take
two. -/
inductive Ending where
  | complete
  | malformed
  | truncated
  | oddByte
  deriving DecidableEq, Inhabited

/-- The decoded characters of a document and how they end. -/
structure Source where
  chars : Array Char
  ending : Ending
  deriving Inhabited

/-- The encodings that bytes are decoded in. -/
inductive Encoding where
  | utf8
  | utf16 (bigEndian : Bool)
  | singleByte (page : Codec.CodePage)
  deriving DecidableEq, Inhabited

def isContinuation (b : Nat) : Bool :=
  0x80 ≤ b && b < 0xC0

/-- The character that the `n` bytes from `i` encode, when they are well formed: no overlong
form, no surrogate, nothing above U+10FFFF. -/
def utf8Sequence? (bytes : ByteArray) (i n : Nat) : Option Char :=
  let at_ (k : Nat) : Nat := (bytes.get! (i + k)).toNat
  let b0 := at_ 0
  let b1 := at_ 1
  if n == 2 then
    if b0 ≥ 0xC2 && isContinuation b1 then some (Char.ofNat ((b0 % 0x20) * 0x40 + b1 % 0x40))
    else none
  else if n == 3 then
    let b2 := at_ 2
    let secondOk :=
      if b0 == 0xE0 then 0xA0 ≤ b1 && b1 < 0xC0
      else if b0 == 0xED then 0x80 ≤ b1 && b1 < 0xA0
      else isContinuation b1
    if secondOk && isContinuation b2 then
      some (Char.ofNat ((b0 % 0x10) * 0x1000 + (b1 % 0x40) * 0x40 + b2 % 0x40))
    else none
  else
    let b2 := at_ 2
    let b3 := at_ 3
    let secondOk :=
      if b0 == 0xF0 then 0x90 ≤ b1 && b1 < 0xC0
      else if b0 == 0xF4 then 0x80 ≤ b1 && b1 < 0x90
      else isContinuation b1
    if secondOk && isContinuation b2 && isContinuation b3 then
      some (Char.ofNat ((b0 % 0x08) * 0x40000 + (b1 % 0x40) * 0x1000 + (b2 % 0x40) * 0x40
        + b3 % 0x40))
    else none

/-- The length of the UTF-8 sequence that lead byte `b` announces, or zero when `b` cannot
start one. -/
def utf8Length (b : Nat) : Nat :=
  if b < 0x80 then 1
  else if b < 0xC0 then 0
  else if b < 0xE0 then 2
  else if b < 0xF0 then 3
  else if b < 0xF5 then 4
  else 0

/-- Decode UTF-8 from byte `i` on. A lead byte whose sequence the input cuts short ends the
characters as truncated, whatever the bytes after it are; any other byte that does not start a
well-formed sequence ends them as malformed. -/
def decodeUtf8 (bytes : ByteArray) (i : Nat) (acc : Array Char) : Source :=
  if h : i < bytes.size then
    let b := bytes[i].toNat
    match utf8Length b with
    | 0 => ⟨acc, .malformed⟩
    | 1 => decodeUtf8 bytes (i + 1) (acc.push (Char.ofNat b))
    | n + 2 =>
      if bytes.size < i + (n + 2) then ⟨acc, .truncated⟩
      else
        match utf8Sequence? bytes i (n + 2) with
        | some c => decodeUtf8 bytes (i + (n + 2)) (acc.push c)
        | none => ⟨acc, .malformed⟩
  else ⟨acc, .complete⟩
termination_by bytes.size - i

def unit16 (bigEndian : Bool) (bytes : ByteArray) (i : Nat) : Nat :=
  let a := (bytes.get! i).toNat
  let b := (bytes.get! (i + 1)).toNat
  if bigEndian then a * 0x100 + b else b * 0x100 + a

/-- The character that a high surrogate `u` and the unit `v` after it stand for: the low ten bits
of each give the offset from U+10000. The second unit is not checked, so a pair always gives a
character of the planes above the first. -/
def surrogatePair (u v : Nat) : Char :=
  Char.ofNat (0x10000 + (u % 0x400) * 0x400 + v % 0x400)

/-- Decode UTF-16 from byte `i` on. A high surrogate takes the unit after it, whatever that unit
is, and the end of the input cuts it short when no unit follows; a low surrogate with no high one
before it forms no character; an odd byte at the very end is not part of any character. -/
def decodeUtf16 (bigEndian : Bool) (bytes : ByteArray) (i : Nat) (acc : Array Char) : Source :=
  if h : i + 1 < bytes.size then
    let u := unit16 bigEndian bytes i
    if u < 0xD800 || 0xE000 ≤ u then decodeUtf16 bigEndian bytes (i + 2) (acc.push (Char.ofNat u))
    else if 0xDC00 ≤ u then ⟨acc, .malformed⟩
    else if i + 3 < bytes.size then
      decodeUtf16 bigEndian bytes (i + 4) (acc.push (surrogatePair u (unit16 bigEndian bytes (i + 2))))
    else ⟨acc, .truncated⟩
  else ⟨acc, if i < bytes.size then .oddByte else .complete⟩
termination_by bytes.size - i

/-- Decode single bytes from `i` on by the table of a code page; a byte the page leaves
undefined is malformed. -/
def decodeSingle (table : Array Char) (bytes : ByteArray) (i : Nat) (acc : Array Char) : Source :=
  if h : i < bytes.size then
    match Codec.CodePage.charIn? table bytes[i].toNat with
    | some c => decodeSingle table bytes (i + 1) (acc.push c)
    | none => ⟨acc, .malformed⟩
  else ⟨acc, .complete⟩
termination_by bytes.size - i

def Encoding.decodeFrom (enc : Encoding) (bytes : ByteArray) (i : Nat) (acc : Array Char) : Source :=
  match enc with
  | .utf8 => decodeUtf8 bytes i acc
  | .utf16 bigEndian => decodeUtf16 bigEndian bytes i acc
  | .singleByte page => decodeSingle page.table bytes i acc

def Encoding.detect (bytes : ByteArray) : Encoding :=
  if bytes.size < 2 then .utf8
  else
    let a := (bytes.get! 0).toNat
    let b := (bytes.get! 1).toNat
    if a == 0xFE && b == 0xFF then .utf16 true
    else if a == 0xFF && b == 0xFE then .utf16 false
    else if a == 0 then .utf16 true
    else if b == 0 then .utf16 false
    else .utf8

/-- Whether an ASCII character means something to markup: the white space of markup, and every
printable character but `$`, `@`, the backslash, `^`, the grave accent, the braces and `~`. -/
def isMarkupAscii (n : Nat) : Bool :=
  n == 0x09 || n == 0x0A || n == 0x0D ||
    (0x20 ≤ n && n < 0x7F && !"$@\\^\x60\x7b\x7d~".toList.contains (Char.ofNat n))

/-- Whether the reader can read by a code page: each byte below 128 that means something to
markup stands for itself, no other byte stands for such a character, and no character lies
beyond U+FFFF. -/
def keepsMarkup (p : Codec.CodePage) : Bool :=
  let t := p.table
  (List.range 256).all fun b =>
    let c := Codec.CodePage.charIn? t b
    (0x80 ≤ b || !isMarkupAscii b || c == some (Char.ofNat b)) &&
      match c with
      | some c => (c.toNat == b || 0x80 ≤ c.toNat || !isMarkupAscii c.toNat) && c.toNat ≤ 0xFFFF
      | none => true

def Encoding.unitSize : Encoding → Nat
  | .utf16 _ => 2
  | _ => 1

namespace Source

def size (s : Source) : Nat := s.chars.size

def slice (s : Source) (i j : Nat) : String :=
  String.ofList (s.chars.extract i j).toList

end Source

end UpnpBinding.Xml
