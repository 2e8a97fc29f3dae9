import UpnpBinding.Xml.Reader
import UpnpBinding.Text.Basic
/-!
SOAP envelopes of action calls. A call is an envelope whose body holds one element named for the
action, in the namespace `u` bound to the service type, with one child per argument in order.
Argument values are escaped as character data (`&`, `<`, `>`, and a carriage return as a
character reference, since a reader would turn it into a line feed); the namespace is quoted as
an attribute value.

Reading an envelope finds, in its body, the first element with a given local name; namespaces
are ignored when matching. Received bodies are text; bytes are read as UTF-8, and every maximal
part of a sequence that cannot be completed becomes one U+FFFD: a byte that cannot start a
sequence, or a lead byte with the continuation bytes after it that could still belong to a
well-formed sequence. The text is stripped of spaces, tabs, line ends and NUL at both ends before
it is read as a document.
-/
namespace UpnpBinding.Text

def sequenceLength (b : Nat) : Nat :=
  if b < 0x80 then 1
  else if b < 0xC2 then 0
  else if b < 0xE0 then 2
  else if b < 0xF0 then 3
  else if b < 0xF5 then 4
  else 0

def secondByteFits (lead b : Nat) : Bool :=
  if lead == 0xE0 then 0xA0 ≤ b && b < 0xC0
  else if lead == 0xED then 0x80 ≤ b && b < 0xA0
  else if lead == 0xF0 then 0x90 ≤ b && b < 0xC0
  else if lead == 0xF4 then 0x80 ≤ b && b < 0x90
  else 0x80 ≤ b && b < 0xC0

/-- How many of the bytes after the lead byte at `i`, up to `n - 1` of them, fit a sequence of
length `n`. -/
def fittingAfter (bytes : ByteArray) (i n : Nat) : Nat :=
  let lead := (bytes.get! i).toNat
  let fits := fun (j : Nat) =>
    if i + j < bytes.size then
      let b := (bytes.get! (i + j)).toNat
      if j == 1 then secondByteFits lead b else 0x80 ≤ b && b < 0xC0
    else false
  ((List.range (n - 1)).map (· + 1)).takeWhile fits |>.length

def sequenceValue (bytes : ByteArray) (i n : Nat) : Nat :=
  let at_ := fun (k : Nat) => (bytes.get! (i + k)).toNat
  let leadBits := if n == 2 then at_ 0 % 0x20 else if n == 3 then at_ 0 % 0x10 else at_ 0 % 0x08
  ((List.range (n - 1)).map (· + 1)).foldl (fun v k => v * 0x40 + at_ k % 0x40) leadBits

def decodeLenient (bytes : ByteArray) (i : Nat) (acc : String) : String :=
  if h : i < bytes.size then
    let b := bytes[i].toNat
    let n := sequenceLength b
    if n == 1 then decodeLenient bytes (i + 1) (acc.push (Char.ofNat b))
    else if n == 0 then decodeLenient bytes (i + 1) (acc.push '\uFFFD')
    else
      let k := fittingAfter bytes i n
      if k + 1 == n then decodeLenient bytes (i + 1 + k) (acc.push (Char.ofNat (sequenceValue bytes i n)))
      else decodeLenient bytes (i + 1 + k) (acc.push '\uFFFD')
  else acc
termination_by bytes.size - i

def utf8Lenient (bytes : ByteArray) : String := decodeLenient bytes 0 ""

end UpnpBinding.Text

namespace UpnpBinding

def Xml.Document.lenientText : Xml.Document → String
  | .text t => t
  | .bytes b => Text.utf8Lenient b

namespace Soap

def envelopeNamespace : String := "http://schemas.xmlsoap.org/soap/envelope/"

def encodingNamespace : String := "http://schemas.xmlsoap.org/soap/encoding/"

def xmlDeclaration : String := "<?xml version=\"1.0\"?>"

def contentType : String := "text/xml; charset=\"utf-8\""

/-- One character as character data: `&`, `<` and `>` as entity references, a character that
`extra` names as it says, and any other as itself. -/
def escapeChar (extra : Char → Option String) (c : Char) : String :=
  if c == '&' then "&amp;"
  else if c == '<' then "&lt;"
  else if c == '>' then "&gt;"
  else (extra c).getD (String.singleton c)

def escapeWith (extra : Char → Option String) (s : String) : String :=
  String.join (s.toList.map (escapeChar extra))

/-- The escape of argument values besides `&`, `<` and `>`: a carriage return as a character
reference, since a reader would turn it into a line feed. -/
def valueEscape (c : Char) : Option String :=
  if c == '\r' then some "&#13;" else none

def escapeValue (s : String) : String := escapeWith valueEscape s

/-- The escapes of attribute values besides `&`, `<` and `>`: line ends and tabs as character
references, and with `quote` the double quote as well. -/
def attributeEscape (quote : Bool) (c : Char) : Option String :=
  if c == '\n' then some "&#10;" else if c == '\r' then some "&#13;"
  else if c == '\t' then some "&#9;" else if quote && c == '"' then some "&quot;" else none

/-- A text as a quoted attribute value: line ends and tabs as character references, in double
quotes, or in single quotes when it holds a double quote and no single one; holding both, the
double quotes are escaped too. -/
def quoteAttribute (s : String) : String :=
  if s.contains '"' then
    if s.contains '\'' then "\"" ++ escapeWith (attributeEscape true) s ++ "\""
    else "'" ++ escapeWith (attributeEscape false) s ++ "'"
  else "\"" ++ escapeWith (attributeEscape false) s ++ "\""

def envelope (action ns : String) (arguments : List (String × String)) : String :=
  let args := String.join (arguments.map fun (n, v) => "<" ++ n ++ ">" ++ escapeValue v ++ "</" ++ n ++ ">")
  xmlDeclaration ++ "<s:Envelope xmlns:s=" ++ quoteAttribute envelopeNamespace ++
    " s:encodingStyle=" ++ quoteAttribute encodingNamespace ++ "><s:Body>" ++
    "<u:" ++ action ++ " xmlns:u=" ++ quoteAttribute ns ++ ">" ++ args ++ "</u:" ++ action ++ ">" ++
    "</s:Body></s:Envelope>"

def headers (serviceType action : String) : List (String × String) :=
  [("Content-Type", contentType), ("SOAPAction", serviceType ++ "#" ++ action)]

def isMessagePadding (c : Char) : Bool := Text.isDocumentPadding c

def firstNamed (elements : List Xml.Element) (name : String) : Option Xml.Element :=
  elements.find? (·.tag.localName == name)

/-- The element with local name `name` in the body of an envelope: the first such child of the
first `Body` child that has one; none when the root is not an `Envelope`. -/
def bodyElement? (root : Xml.Element) (name : String) : Option Xml.Element :=
  if root.tag.localName != "Envelope" then none
  else ((root.childrenNamed "Body").findSome? fun b => firstNamed b.children name)

end Soap

/-- Why a received envelope cannot be read. -/
inductive EnvelopeError where
  | unreadable (e : Xml.ReadError)
  deriving Inhabited

def EnvelopeError.message : EnvelopeError → String
  | .unreadable e =>
    match e with
    | .malformed _ => "Invalid XML in envelope: " ++ e.message
    | .entityDeclared .. => "Forbidden XML in envelope: " ++ e.message
    | _ => e.message

namespace Soap

def findInEnvelope (message : Xml.Document) (name : String) :
    Except EnvelopeError (Option Xml.Element) :=
  let text := Text.trimWhile isMessagePadding message.lenientText
  match (Xml.Document.text text).read with
  | .ok root => .ok (bodyElement? root name)
  | .error e => .error (.unreadable e)

def putValue (acc : List (String × Option String)) (key : String) (v : Option String) :
    List (String × Option String) :=
  if acc.any (·.1 == key) then acc.map (fun e => if e.1 == key then (key, v) else e)
  else acc ++ [(key, v)]

def elementValues (e : Xml.Element) : List (String × Option String) :=
  e.children.foldl (fun acc c => putValue acc c.tag.localName c.text) []

def elementNamespace (e : Xml.Element) : Option String := e.tag.uri

end Soap

end UpnpBinding
