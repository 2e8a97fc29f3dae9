import UpnpBinding.Xml.Token
import UpnpBinding.Xml.Error
/-!
Elements of a read document, and start tags read against the namespaces in scope. A name is
expanded to the namespace it is in, if any, and its local part; its text is `{namespace}local`.
An element keeps its attributes in document order, the character data before its first child
element as its text (absent when there is none), and its child elements.

Attributes are taken in document order: a name
seen twice is refused at the second; a value is normalized (each white-space character, and each
carriage return and line feed pair, becomes one space; references are replaced); `xmlns` and
`xmlns:p` declare namespaces for the element and its content and are not attributes of it. Then
prefixed attribute names and the element's own name are expanded with the bindings that hold
inside the element.

A prefix must be bound to a namespace other than the empty one; `xml` is bound to its own
namespace from the start and to no other; `xmlns` can never be declared; and no other prefix,
nor the default namespace, may be bound to either reserved namespace. A namespace name may not
hold a closing brace, the character that separates it from the local part in an expanded name.
-/
namespace UpnpBinding.Xml

/-- An expanded name: its namespace, if any, and its local part. -/
structure QName where
  uri : Option String
  localName : String
  deriving DecidableEq, Inhabited

def QName.text (n : QName) : String :=
  match n.uri with
  | some u => "\x7b" ++ u ++ "\x7d" ++ n.localName
  | none => n.localName

/-- An element of a document. -/
structure Element where
  tag : QName
  attributes : List (QName × String)
  text : Option String
  children : List Element
  deriving Inhabited

namespace Element

def childrenNamed (e : Element) (name : String) : List Element :=
  e.children.filter (fun c => c.tag.localName == name)

def child? (e : Element) (name : String) : Option Element :=
  (e.childrenNamed name).head?

/-- The text of the first child named `name`: empty when that child has no text, absent when
there is no such child. -/
def childText? (e : Element) (name : String) : Option String :=
  (e.child? name).map (fun c => c.text.getD "")

def attribute? (e : Element) (name : String) : Option String :=
  (e.attributes.find? (fun a => a.1 == ⟨none, name⟩)).map Prod.snd

end Element

def xmlNamespace : String := "http://www.w3.org/XML/1998/namespace"

def xmlnsNamespace : String := "http://www.w3.org/2000/xmlns/"

/-- The namespace bindings in scope: the default namespace, if any, and the prefixes, innermost
first. -/
structure Scope where
  defaultUri : Option String
  prefixes : List (String × String)
  deriving Inhabited

def Scope.initial : Scope := ⟨none, [("xml", xmlNamespace)]⟩

def Scope.lookup (sc : Scope) (pre : String) : Option String :=
  (sc.prefixes.find? (fun b => b.1 == pre)).map Prod.snd

/-- Why the declaration of `uri` for the prefix `pre` (none for the default namespace) is
refused, if it is. -/
def bindingFault (pre : Option String) (uri : String) : Option Fault :=
  if uri.isEmpty && pre.isSome then some .undeclaringPrefix
  else if pre == some "xmlns" then some .reservedPrefixXmlns
  else if uri.contains '\x7d' then some .outOfPlace
  else
    let mustBeXml := pre == some "xml"
    let isXml := uri == xmlNamespace
    if mustBeXml && !isXml then some .reservedPrefixXml
    else if !mustBeXml && isXml then some .reservedNamespace
    else if uri == xmlnsNamespace then some .reservedNamespace
    else none

def Scope.bind (sc : Scope) (pre : Option String) (uri : String) : Scope :=
  match pre with
  | some p => { sc with prefixes := (p, uri) :: sc.prefixes }
  | none => { sc with defaultUri := if uri.isEmpty then none else some uri }

def splitQName (name : String) : Option String × String :=
  match name.toList.span (· != ':') with
  | (pre, _ :: rest) => (some (String.ofList pre), String.ofList rest)
  | _ => (none, name)

def predefinedEntity : String → Option Char
  | "lt" => some '<'
  | "gt" => some '>'
  | "amp" => some '&'
  | "quot" => some '"'
  | "apos" => some '\''
  | _ => none

/-- An attribute declared for an element in the document type declaration: whether its values
are kept as character data or tokenized, and its default, if any. -/
structure AttributeDecl where
  elementName : String
  attributeName : String
  isCdata : Bool
  defaultValue : Option String
  deriving Inhabited

/-- How attribute values are read: whether a reference to an undeclared entity is refused (it is
unless the document may declare entities outside itself and does not say it is standalone), and
where that refusal is reported. -/
structure ValueContext where
  checkEntities : Bool
  undefinedAt : Nat
  deriving Inhabited

/-- A space added to a value: a tokenized value has no space at its start and none after
another. -/
def pushSpace (isCdata : Bool) (acc : String) : String :=
  if !isCdata && (acc.isEmpty || acc.back == ' ') then acc else acc.push ' '

/-- The value read so far, `acc`, with the reference `r` whose ampersand stands at `i`. A
reference to an undeclared entity is refused where `ctx` says, or dropped when entities need not
be declared; a bad character reference is refused where it stands. -/
def referenceValue (ctx : ValueContext) (isCdata : Bool) (acc : String) (i : Nat) :
    Reference → Except (Fault × Nat) String
  | .char (some d) => .ok (if d == ' ' then pushSpace isCdata acc else acc.push d)
  | .char none => .error (.badCharRef, i)
  | .entity name =>
    match predefinedEntity name with
    | some d => .ok (acc.push d)
    | none => if ctx.checkEntities then .error (.undefinedEntity, ctx.undefinedAt) else .ok acc

namespace Source

/-- The normalized value of an attribute from the characters in `[i, s.size)`, after `acc`. Each
white-space character, and each carriage return and line feed pair, is a space; references are
replaced as `referenceValue` says; a `<` and a reference that is not well formed are refused. -/
def attributeValue (s : Source) (ctx : ValueContext) (isCdata : Bool) (i : Nat) (acc : String) :
    Except (Fault × Nat) String :=
  if _h : i < s.chars.size then
    let c := s.chars[i]
    if c == '&' then
      match s.reference (i + 1) with
      | .token r next =>
        match referenceValue ctx isCdata acc i r with
        | .ok acc' => if i < next then s.attributeValue ctx isCdata next acc' else .ok acc'
        | .error e => .error e
      | .invalid p => .error (.invalidToken, p)
      | _ => .error (.invalidToken, i)
    else if c == '<' then .error (.invalidToken, i)
    else if c == '\r' then
      if s.chars[i + 1]? == some '\n' then s.attributeValue ctx isCdata (i + 2) (pushSpace isCdata acc)
      else s.attributeValue ctx isCdata (i + 1) (pushSpace isCdata acc)
    else if c == '\n' || c == '\t' || c == ' ' then
      s.attributeValue ctx isCdata (i + 1) (pushSpace isCdata acc)
    else s.attributeValue ctx isCdata (i + 1) (acc.push c)
  else if !isCdata && acc.back? == some ' ' then .ok (acc.dropEnd 1).toString
  else .ok acc
termination_by s.chars.size - i

def valueBetween (s : Source) (ctx : ValueContext) (isCdata : Bool) (i stop : Nat) :
    Except (Fault × Nat) String :=
  (Source.mk (s.chars.extract 0 stop) .complete).attributeValue ctx isCdata i ""

end Source

/-- What reading a start tag's attributes yields so far: the scope inside the element, the raw
names seen, and the plain attributes with their values, last first. -/
structure TagState where
  scope : Scope
  seen : List String
  plain : List (String × String)
  deriving Inhabited

/-- A namespace declaration by an attribute name: the prefix it declares, none for the default
namespace. -/
def declaredPrefix (name : String) : Option (Option String) :=
  if name == "xmlns" then some none
  else if name.startsWith "xmlns:" then some (some (name.drop 6).toString)
  else none

def TagState.take (st : TagState) (tagStart : Nat) (name value : String) :
    Except (Fault × Nat) TagState :=
  match declaredPrefix name with
  | some pre =>
    match bindingFault pre value with
    | some f => .error (f, tagStart)
    | none => .ok { st with scope := st.scope.bind pre value }
  | none => .ok { st with plain := (name, value) :: st.plain }

namespace Source

/-- Whether the attribute's values are kept as character data: unless the first declaration of
it for this element gives it another type. -/
def isCdataIn (decls : List AttributeDecl) (name : String) : Bool :=
  match decls.find? (·.attributeName == name) with
  | some d => d.isCdata
  | none => true

/-- Take the attributes of a start tag in order, into `st`; `decls` are the attributes declared
for the element. -/
def takeAttributes (s : Source) (ctx : ValueContext) (decls : List AttributeDecl) (st : TagState) :
    List RawAttribute → Except (Fault × Nat) TagState
  | [] => .ok st
  | a :: rest => do
    if st.seen.contains a.name then throw (.duplicateAttribute, a.namePos)
    let value ← s.valueBetween ctx (isCdataIn decls a.name) a.valueStart a.valueEnd
    let st ← ({ st with seen := a.name :: st.seen } : TagState).take ctx.undefinedAt a.name value
    s.takeAttributes ctx decls st rest

def takeDefaults (tagStart : Nat) (st : TagState) : List AttributeDecl → Except (Fault × Nat) TagState
  | [] => .ok st
  | d :: rest =>
    match d.defaultValue with
    | some value =>
      if st.seen.contains d.attributeName then takeDefaults tagStart st rest
      else do
        let st ← ({ st with seen := d.attributeName :: st.seen } : TagState).take tagStart d.attributeName value
        takeDefaults tagStart st rest
    | none => takeDefaults tagStart st rest

end Source

/-- Expand attribute names in `scope`, refusing an unbound prefix and two names that expand
alike. `acc` holds the expanded attributes so far, last first. -/
def expandAttributes (scope : Scope) (tagStart : Nat) (acc : List (QName × String)) :
    List (String × String) → Except (Fault × Nat) (List (QName × String))
  | [] => .ok acc.reverse
  | (name, value) :: rest => do
    let q ← match splitQName name with
      | (some pre, loc) =>
        match scope.lookup pre with
        | some uri => pure (QName.mk (some uri) loc)
        | none => throw (Fault.unboundPrefix, tagStart)
      | (none, loc) => pure (QName.mk none loc)
    if acc.any (fun b => b.1 == q) then throw (.duplicateAttribute, tagStart)
    expandAttributes scope tagStart ((q, value) :: acc) rest

/-- Expand an element name in `scope`: a prefixed name in the prefix's namespace, a plain one in
the default namespace. -/
def expandTagName (scope : Scope) (tagStart : Nat) (name : String) :
    Except (Fault × Nat) QName :=
  match splitQName name with
  | (some pre, loc) =>
    match scope.lookup pre with
    | some uri => .ok ⟨some uri, loc⟩
    | none => .error (.unboundPrefix, tagStart)
  | (none, loc) => .ok ⟨scope.defaultUri, loc⟩

/-- A start tag read against `scope`, with `decls` the attributes declared for the element: the
element's expanded name, its attributes, and the scope inside it; or the fault and where it is
reported. -/
def Source.openTag (s : Source) (ctx : ValueContext) (decls : List AttributeDecl) (scope : Scope)
    (name : String) (atts : List RawAttribute) :
    Except (Fault × Nat) (QName × List (QName × String) × Scope) := do
  let st ← s.takeAttributes ctx decls ⟨scope, [], []⟩ atts
  let st ← Source.takeDefaults ctx.undefinedAt st decls
  let attributes ← expandAttributes st.scope ctx.undefinedAt [] st.plain.reverse
  let tag ← expandTagName st.scope ctx.undefinedAt name
  return (tag, attributes, st.scope)

end UpnpBinding.Xml
