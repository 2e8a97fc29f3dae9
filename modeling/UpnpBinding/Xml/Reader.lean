import UpnpBinding.Xml.Declaration
import UpnpBinding.Xml.Namespace
/-!
Reading a document into its root element. Before the root element may stand the XML declaration
(first of all), white space, comments, processing instructions, and one document type
declaration; after it, white space, comments and processing instructions only. The document
type declaration may name an external subset and hold an internal subset; any entity declared
there refuses the document.

Inside the root element, an element's text is the character data before its first child
element; comments and processing instructions do not interrupt it. A reference to an entity
other than the five predefined ones is refused: as undefined when the document cannot declare
entities elsewhere (no external subset, no parameter-entity reference, or standalone), and as
unresolved otherwise.

Each fault is reported at a position: the offending character for a character that cannot stand
where it stands, the start of the token for a token the input cuts short, the name in an end tag
that does not match, and the end of the input when the root element is not closed.
-/
namespace UpnpBinding.Xml

namespace Source

/-- The line and column of position `p`: a line feed, a carriage return, or the two together end
a line; columns count characters from zero. -/
def position (s : Source) (p : Nat) : Position :=
  let step := fun (acc : Nat × Nat × Bool) (c : Char) =>
    let (line, column, afterReturn) := acc
    if c == '\n' then (if afterReturn then (line, column, false) else (line + 1, 0, false))
    else if c == '\r' then (line + 1, 0, true)
    else (line, column + 1, false)
  let (line, column, _) := (s.chars.extract 0 p).foldl step (1, 0, false)
  ⟨line, column⟩

def fail (s : Source) (fault : Fault) (p : Nat) : Except ReadError α :=
  .error (.malformed ⟨fault, s.position p⟩)

def failToken (s : Source) (start : Nat) : Scanned α → Except ReadError β
  | .invalid p => s.fail .invalidToken p
  | .cutChar => s.fail .partialChar start
  | _ => s.fail .unclosedToken start

end Source

/-- An element whose end tag has not been read yet. -/
structure Frame where
  rawName : String
  tag : QName
  attributes : List (QName × String)
  text : Option String
  children : Array Element
  outer : Scope
  deriving Inhabited

namespace Frame

def close (f : Frame) : Element :=
  ⟨f.tag, f.attributes, f.text, f.children.toList⟩

def addData (f : Frame) (t : String) : Frame :=
  if f.children.isEmpty then { f with text := some (f.text.getD "" ++ t) } else f

def addChild (f : Frame) (e : Element) : Frame :=
  { f with children := f.children.push e }

end Frame

def addData (t : String) : List Frame → List Frame
  | f :: rest => f.addData t :: rest
  | [] => []

/-- An attribute declaration being read: the element and attribute it is for, and what its type
says so far. -/
structure AttributeCursor where
  elementName : String
  attributeName : String
  isCdata : Bool
  isId : Bool
  deriving Inhabited

/-- What the document type declaration says. -/
structure Dtd where
  standalone : Bool
  external : Bool
  declaring : Bool
  attributes : Array AttributeDecl
  cursor : AttributeCursor
  deriving Inhabited

namespace Dtd

def empty (standalone : Bool) : Dtd := ⟨standalone, false, true, #[], default⟩

def checked (d : Dtd) : Bool :=
  !d.external || d.standalone

def declsFor (d : Dtd) (name : String) : List AttributeDecl :=
  d.attributes.toList.filter (·.elementName == name)

/-- Take in the declaration under the cursor, with its default if any. An attribute with a
default, or of type ID, that is already declared for the element keeps its first declaration. -/
def define (d : Dtd) (isId : Bool) (value : Option String) : Dtd :=
  let c := d.cursor
  let known := d.attributes.any fun a => a.elementName == c.elementName && a.attributeName == c.attributeName
  if (value.isSome || isId) && known then d
  else { d with attributes := d.attributes.push ⟨c.elementName, c.attributeName, c.isCdata, value⟩ }

end Dtd

namespace Source

def cdataSection (s : Source) (fuel i : Nat) (stack : List Frame) :
    Except ReadError (List Frame × Nat) :=
  match fuel with
  | 0 => s.fail .unclosedCdata i
  | fuel + 1 =>
    match s.cdataToken i with
    | .token (.text t) next => s.cdataSection fuel next (addData t stack)
    | .token .close next => .ok (stack, next)
    | .invalid p => s.fail .invalidToken p
    | .cutChar => s.fail .partialChar i
    | _ => s.fail .unclosedCdata i

/-- Read element content from `i`, with the open elements `stack`, innermost first, and the
bindings `scope`. Returns the root element and the position after it. -/
def content (s : Source) (dtd : Dtd) (fuel i : Nat) (stack : List Frame) (scope : Scope) :
    Except ReadError (Element × Nat) :=
  match fuel with
  | 0 => s.fail .noElement i
  | fuel + 1 =>
    let closed := fun (e : Element) (rest : List Frame) (next : Nat) (sc : Scope) =>
      match rest with
      | [] => Except.ok (e, next)
      | parent :: more => s.content dtd fuel next (parent.addChild e :: more) sc
    match s.contentToken i with
    | .finished => s.fail .noElement i
    | .token m next =>
      match m with
      | .data t => s.content dtd fuel next (addData t stack) scope
      | .reference (.char (some c)) => s.content dtd fuel next (addData (String.singleton c) stack) scope
      | .reference (.char none) => s.fail .badCharRef i
      | .reference (.entity name) =>
        match predefinedEntity name with
        | some c => s.content dtd fuel next (addData (String.singleton c) stack) scope
        | none =>
          if dtd.checked then s.fail .undefinedEntity i
          else s.fail (.unresolvedEntity ("&" ++ name ++ ";")) i
      | .startTag name atts empty =>
        match s.openTag ⟨dtd.checked, i⟩ (dtd.declsFor name) scope name atts with
        | .error (f, p) => s.fail f p
        | .ok (tag, attributes, inner) =>
          let frame : Frame := ⟨name, tag, attributes, none, #[], scope⟩
          if empty then closed frame.close stack next scope
          else s.content dtd fuel next (frame :: stack) inner
      | .endTag name =>
        match stack with
        | top :: rest =>
          if name != top.rawName then s.fail .mismatchedTag (i + 2)
          else closed top.close rest next top.outer
        | [] => s.fail .mismatchedTag (i + 2)
      | .cdataOpen =>
        match s.cdataSection (s.size + 1) next stack with
        | .ok (stack', after) => s.content dtd fuel after stack' scope
        | .error e => .error e
      | .comment => s.content dtd fuel next stack scope
      | .instruction .plain => s.content dtd fuel next stack scope
      | .instruction .declaration => s.fail .misplacedDeclaration i
      | .trailingReturn => s.fail .noElement i
      | .trailingBracket => s.fail .noElement s.size
    | other => s.failToken i other

/-- Read what follows the root element from `i`: white space, comments and processing
instructions up to the end. -/
def epilog (s : Source) (fuel i : Nat) : Except ReadError Unit :=
  match fuel with
  | 0 => .ok ()
  | fuel + 1 =>
    match s.prologToken i with
    | .finished => .ok ()
    | .token .space next => s.epilog fuel next
    | .token .comment next => s.epilog fuel next
    | .token (.instruction .plain) next => s.epilog fuel next
    | .token _ _ => s.fail .junkAfterDocument i
    | other => s.failToken i other

end Source

/-- Where reading stands before the root element. -/
inductive Stage where
  | opening
  | afterDoctype
  | doctypeName
  | doctypeAfterName
  | doctypePublic
  | doctypeSystem
  | doctypeAfterId
  | doctypeAfterSubset
  | subset
  | entityStart
  | paramEntityName
  | entityAfterName (param : Bool)
  | entityPublic (param : Bool)
  | entitySystem (param : Bool)
  | entityAfterSystem (param : Bool)
  | entityNotation
  | declEnd
  | attlistElement
  | attlistAttribute
  | attlistType
  | attlistEnumValue
  | attlistEnumNext
  | attlistNotationOpen
  | attlistNotationValue
  | attlistNotationNext
  | attlistDefault
  | attlistFixed
  | elementName
  | elementContent
  | elementGroupStart
  | elementMixed
  | elementMixedName
  | elementMixedNext
  | elementGroup (connectors : List (Option Char))
  | elementGroupNext (connectors : List (Option Char))
  | notationName
  | notationId
  | notationPublic
  | notationSystem
  | notationAfterPublic
  deriving DecidableEq, Inhabited

/-- What a token before the root element does besides moving to the next stage. -/
inductive Step where
  | none
  | rootStart
  | entityName (name : String) (param : Bool)
  | entityValue
  | entityPublicId
  | entitySystemId
  | entityDone
  | doctypePublicId
  | doctypeSystemId
  | paramRef
  | attlistElement (name : String)
  | attributeName (name : String)
  | attributeType (isCdata isId : Bool)
  | attributeImplied
  | attributeDefault
  | notationPublicId
  deriving Inhabited

def attributeTypeStep : String → Option Step
  | "CDATA" => some (.attributeType true false)
  | "ID" => some (.attributeType false true)
  | "IDREF" | "IDREFS" | "ENTITY" | "ENTITIES" | "NMTOKEN" | "NMTOKENS" =>
    some (.attributeType false false)
  | _ => none

def connect (connector : Char) : List (Option Char) → Option (Stage × Step)
  | c :: rest =>
    if c.isSome && c != some connector then none
    else some (.elementGroup (some connector :: rest), .none)
  | [] => none

def Stage.next (stage : Stage) (t : PrologToken) : Option (Stage × Step) :=
  match stage, t with
  | .opening, .space | .opening, .comment | .opening, .instruction .plain => some (.opening, .none)
  | .opening, .declOpen "DOCTYPE" => some (.doctypeName, .none)
  | .opening, .instanceStart | .afterDoctype, .instanceStart => some (.opening, .rootStart)
  | .afterDoctype, .space | .afterDoctype, .comment | .afterDoctype, .instruction .plain =>
    some (.afterDoctype, .none)
  | .doctypeName, .space => some (.doctypeName, .none)
  | .doctypeName, .name _ | .doctypeName, .prefixedName _ => some (.doctypeAfterName, .none)
  | .doctypeAfterName, .space => some (.doctypeAfterName, .none)
  | .doctypeAfterName, .openBracket => some (.subset, .none)
  | .doctypeAfterName, .declClose => some (.afterDoctype, .none)
  | .doctypeAfterName, .name "SYSTEM" => some (.doctypeSystem, .none)
  | .doctypeAfterName, .name "PUBLIC" => some (.doctypePublic, .none)
  | .doctypePublic, .space => some (.doctypePublic, .none)
  | .doctypePublic, .literal => some (.doctypeSystem, .doctypePublicId)
  | .doctypeSystem, .space => some (.doctypeSystem, .none)
  | .doctypeSystem, .literal => some (.doctypeAfterId, .doctypeSystemId)
  | .doctypeAfterId, .space => some (.doctypeAfterId, .none)
  | .doctypeAfterId, .openBracket => some (.subset, .none)
  | .doctypeAfterId, .declClose => some (.afterDoctype, .none)
  | .doctypeAfterSubset, .space => some (.doctypeAfterSubset, .none)
  | .doctypeAfterSubset, .declClose => some (.afterDoctype, .none)
  | .subset, .space | .subset, .comment | .subset, .instruction .plain => some (.subset, .none)
  | .subset, .declOpen "ENTITY" => some (.entityStart, .none)
  | .subset, .declOpen "ATTLIST" => some (.attlistElement, .none)
  | .subset, .declOpen "ELEMENT" => some (.elementName, .none)
  | .subset, .declOpen "NOTATION" => some (.notationName, .none)
  | .subset, .paramRef => some (.subset, .paramRef)
  | .subset, .closeBracket => some (.doctypeAfterSubset, .none)
  | .entityStart, .space => some (.entityStart, .none)
  | .entityStart, .percent => some (.paramEntityName, .none)
  | .entityStart, .name n => some (.entityAfterName false, .entityName n false)
  | .paramEntityName, .space => some (.paramEntityName, .none)
  | .paramEntityName, .name n => some (.entityAfterName true, .entityName n true)
  | .entityAfterName p, .space => some (.entityAfterName p, .none)
  | .entityAfterName p, .name "SYSTEM" => some (.entitySystem p, .none)
  | .entityAfterName p, .name "PUBLIC" => some (.entityPublic p, .none)
  | .entityAfterName _, .literal => some (.declEnd, .entityValue)
  | .entityPublic p, .space => some (.entityPublic p, .none)
  | .entityPublic p, .literal => some (.entitySystem p, .entityPublicId)
  | .entitySystem p, .space => some (.entitySystem p, .none)
  | .entitySystem p, .literal => some (.entityAfterSystem p, .entitySystemId)
  | .entityAfterSystem p, .space => some (.entityAfterSystem p, .none)
  | .entityAfterSystem _, .declClose => some (.subset, .entityDone)
  | .entityAfterSystem false, .name "NDATA" => some (.entityNotation, .none)
  | .entityNotation, .space => some (.entityNotation, .none)
  | .entityNotation, .name _ => some (.declEnd, .entityDone)
  | .declEnd, .space => some (.declEnd, .none)
  | .declEnd, .declClose => some (.subset, .none)
  | .attlistElement, .space => some (.attlistElement, .none)
  | .attlistElement, .name n | .attlistElement, .prefixedName n =>
    some (.attlistAttribute, .attlistElement n)
  | .attlistAttribute, .space => some (.attlistAttribute, .none)
  | .attlistAttribute, .declClose => some (.subset, .none)
  | .attlistAttribute, .name n | .attlistAttribute, .prefixedName n =>
    some (.attlistType, .attributeName n)
  | .attlistType, .space => some (.attlistType, .none)
  | .attlistType, .name "NOTATION" => some (.attlistNotationOpen, .none)
  | .attlistType, .name n => (attributeTypeStep n).map fun st => (.attlistDefault, st)
  | .attlistType, .openParen => some (.attlistEnumValue, .none)
  | .attlistEnumValue, .space => some (.attlistEnumValue, .none)
  | .attlistEnumValue, .nmtoken | .attlistEnumValue, .name _
  | .attlistEnumValue, .prefixedName _ => some (.attlistEnumNext, .none)
  | .attlistEnumNext, .space => some (.attlistEnumNext, .none)
  | .attlistEnumNext, .closeParen none => some (.attlistDefault, .none)
  | .attlistEnumNext, .bar => some (.attlistEnumValue, .none)
  | .attlistNotationOpen, .space => some (.attlistNotationOpen, .none)
  | .attlistNotationOpen, .openParen => some (.attlistNotationValue, .none)
  | .attlistNotationValue, .space => some (.attlistNotationValue, .none)
  | .attlistNotationValue, .name _ => some (.attlistNotationNext, .none)
  | .attlistNotationNext, .space => some (.attlistNotationNext, .none)
  | .attlistNotationNext, .closeParen none => some (.attlistDefault, .none)
  | .attlistNotationNext, .bar => some (.attlistNotationValue, .none)
  | .attlistDefault, .space => some (.attlistDefault, .none)
  | .attlistDefault, .poundName "IMPLIED" | .attlistDefault, .poundName "REQUIRED" =>
    some (.attlistAttribute, .attributeImplied)
  | .attlistDefault, .poundName "FIXED" => some (.attlistFixed, .none)
  | .attlistDefault, .literal => some (.attlistAttribute, .attributeDefault)
  | .attlistFixed, .space => some (.attlistFixed, .none)
  | .attlistFixed, .literal => some (.attlistAttribute, .attributeDefault)
  | .elementName, .space => some (.elementName, .none)
  | .elementName, .name _ | .elementName, .prefixedName _ => some (.elementContent, .none)
  | .elementContent, .space => some (.elementContent, .none)
  | .elementContent, .name "EMPTY" | .elementContent, .name "ANY" => some (.declEnd, .none)
  | .elementContent, .openParen => some (.elementGroupStart, .none)
  | .elementGroupStart, .space => some (.elementGroupStart, .none)
  | .elementGroupStart, .poundName "PCDATA" => some (.elementMixed, .none)
  | .elementGroupStart, .openParen => some (.elementGroup [none, none], .none)
  | .elementGroupStart, .name _ | .elementGroupStart, .prefixedName _
  | .elementGroupStart, .suffixedName _ => some (.elementGroupNext [none], .none)
  | .elementMixed, .space => some (.elementMixed, .none)
  | .elementMixed, .closeParen none | .elementMixed, .closeParen (some '*') =>
    some (.declEnd, .none)
  | .elementMixed, .bar => some (.elementMixedName, .none)
  | .elementMixedName, .space => some (.elementMixedName, .none)
  | .elementMixedName, .name _ | .elementMixedName, .prefixedName _ =>
    some (.elementMixedNext, .none)
  | .elementMixedNext, .space => some (.elementMixedNext, .none)
  | .elementMixedNext, .closeParen (some '*') => some (.declEnd, .none)
  | .elementMixedNext, .bar => some (.elementMixedName, .none)
  | .elementGroup cs, .space => some (.elementGroup cs, .none)
  | .elementGroup cs, .openParen => some (.elementGroup (none :: cs), .none)
  | .elementGroup cs, .name _ | .elementGroup cs, .prefixedName _
  | .elementGroup cs, .suffixedName _ => some (.elementGroupNext cs, .none)
  | .elementGroupNext cs, .space => some (.elementGroupNext cs, .none)
  | .elementGroupNext [_], .closeParen _ => some (.declEnd, .none)
  | .elementGroupNext (_ :: rest), .closeParen _ => some (.elementGroupNext rest, .none)
  | .elementGroupNext cs, .comma => connect ',' cs
  | .elementGroupNext cs, .bar => connect '|' cs
  | .notationName, .space => some (.notationName, .none)
  | .notationName, .name _ => some (.notationId, .none)
  | .notationId, .space => some (.notationId, .none)
  | .notationId, .name "SYSTEM" => some (.notationSystem, .none)
  | .notationId, .name "PUBLIC" => some (.notationPublic, .none)
  | .notationPublic, .space => some (.notationPublic, .none)
  | .notationPublic, .literal => some (.notationAfterPublic, .notationPublicId)
  | .notationSystem, .space => some (.notationSystem, .none)
  | .notationSystem, .literal => some (.declEnd, .none)
  | .notationAfterPublic, .space => some (.notationAfterPublic, .none)
  | .notationAfterPublic, .literal => some (.declEnd, .none)
  | .notationAfterPublic, .declClose => some (.subset, .none)
  | _, _ => none

def PrologToken.fault : PrologToken → Fault
  | .paramRef => .parameterEntityRef
  | .instruction .declaration => .misplacedDeclaration
  | _ => .outOfPlace

def isPublicIdChar (c : Char) : Bool :=
  isAsciiLetter c || c.isDigit || c == ' ' || c == '\r' || c == '\n' ||
    c == '\'' || "-()+,./:=?;!*#@$_%".toList.contains c

def normalizePublicId (id : String) : String :=
  let step := fun (acc : List Char) (c : Char) =>
    if c == ' ' || c == '\r' || c == '\n' then
      match acc with
      | [] => []
      | ' ' :: _ => acc
      | _ => ' ' :: acc
    else c :: acc
  let cs := id.toList.foldl step []
  String.ofList (match cs with
    | ' ' :: rest => rest.reverse
    | _ => cs.reverse)

/-- An entity whose declaration is being read. -/
structure Declared where
  name : String
  systemId : Option String
  publicId : Option String
  deriving Inhabited

namespace Source

def badPublicIdAt (s : Source) (i stop : Nat) : Option Nat :=
  if _h : i < stop then
    match s.chars[i]? with
    | some c => if isPublicIdChar c then s.badPublicIdAt (i + 1) stop else some i
    | none => none
  else none
termination_by stop - i

def publicId (s : Source) (a b : Nat) : Except ReadError String :=
  match s.badPublicIdAt a b with
  | some p => s.fail .badPublicId p
  | none => .ok (normalizePublicId (s.slice a b))

/-- What `step` does to the declarations read so far and to the entity whose declaration is
being read; `[a, b)` is the text of the token's literal, for the steps that take one in. The
document is refused when an entity declaration is taken in, or when a public identifier or an
attribute's default cannot be read. -/
def declare (s : Source) (dtd : Dtd) (pending : Option Declared) (a b : Nat) :
    Step → Except ReadError (Dtd × Option Declared)
  | .none | .rootStart => .ok (dtd, pending)
  | .entityName name param =>
    let predefined := !param && (predefinedEntity name).isSome
    .ok (dtd, if dtd.declaring && !predefined then some ⟨name, none, none⟩ else none)
  | .entityValue =>
    match pending with
    | some d => if dtd.declaring then .error (.entityDeclared d.name none none) else .ok (dtd, pending)
    | none => .ok (dtd, pending)
  | .entityPublicId => do
    let id ← s.publicId a b
    return (dtd, pending.map fun d => { d with publicId := some id })
  | .entitySystemId => .ok (dtd, pending.map fun d => { d with systemId := some (s.slice a b) })
  | .entityDone =>
    match pending with
    | some d =>
      if dtd.declaring then .error (.entityDeclared d.name d.systemId d.publicId)
      else .ok (dtd, pending)
    | none => .ok (dtd, pending)
  | .doctypePublicId => do
    let _ ← s.publicId a b
    return ({ dtd with external := true }, pending)
  | .doctypeSystemId => .ok ({ dtd with external := true }, pending)
  | .paramRef => .ok ({ dtd with external := true, declaring := dtd.standalone }, pending)
  | .attlistElement name => .ok ({ dtd with cursor := ⟨name, "", false, false⟩ }, pending)
  | .attributeName name =>
    .ok ({ dtd with cursor := { dtd.cursor with attributeName := name, isCdata := false, isId := false } },
      pending)
  | .attributeType isCdata isId =>
    .ok ({ dtd with cursor := { dtd.cursor with isCdata := isCdata, isId := isId } }, pending)
  | .attributeImplied => .ok (if dtd.declaring then dtd.define dtd.cursor.isId none else dtd, pending)
  | .attributeDefault =>
    if dtd.declaring then
      match s.valueBetween ⟨dtd.checked, a - 1⟩ dtd.cursor.isCdata a b with
      | .ok v => .ok (dtd.define false (some v), pending)
      | .error (f, p) => s.fail f p
    else .ok (dtd, pending)
  | .notationPublicId => do
    let _ ← s.publicId a b
    return (dtd, pending)

/-- Read from `i` before the root element, at `stage`, with `pending` the entity whose
declaration is being read. -/
def prolog (s : Source) (dtd : Dtd) (pending : Option Declared) (stage : Stage) (fuel i : Nat) :
    Except ReadError Element :=
  match fuel with
  | 0 => s.fail .noElement i
  | fuel + 1 =>
    match s.prologToken i with
    | .finished => s.fail .noElement i
    | .token t next =>
      match stage.next t with
      | none => s.fail t.fault i
      | some (_, .rootStart) =>
        match s.content dtd (s.size + 1) i [] Scope.initial with
        | .ok (root, after) =>
          match s.epilog (s.size + 1) after with
          | .ok () => .ok root
          | .error e => .error e
        | .error e => .error e
      | some (stage', step) =>
        -- a literal's text lies between its quotes
        match s.declare dtd pending (i + 1) (next - 1) step with
        | .ok (dtd', pending') => s.prolog dtd' pending' stage' fuel next
        | .error e => .error e
    | other => s.failToken i other

end Source

/-- A document as it arrives: text, or bytes in an encoding of their own. -/
inductive Document where
  | text (t : String)
  | bytes (b : ByteArray)

namespace Document

def raw : Document → ByteArray
  | .text t => t.toUTF8
  | .bytes b => b

def followsDeclaration : Document → Bool
  | .text _ => false
  | .bytes _ => true

/-- Whether the bytes are too few to tell their encoding: one byte that could start a byte-order
mark, a zero or a `<`, or the first two bytes of the UTF-8 byte-order mark. -/
def undecided (bytes : ByteArray) : Bool :=
  match bytes.toList with
  | [b] => b == 0xFE || b == 0xFF || b == 0xEF || b == 0 || b == 0x3C
  | [0xEF, 0xBB] => true
  | _ => false

def read (doc : Document) : Except ReadError Element := do
  let bytes := doc.raw
  if undecided bytes then
    throw (.malformed ⟨.unclosedToken, ⟨1, 0⟩⟩)
  let enc := Encoding.detect bytes
  let src := enc.decodeFrom bytes 0 #[]
  let start := if src.chars[0]? == some '\uFEFF' then 1 else 0
  let fuel := src.size + 2
  let declared : Option Nat :=
    if src.peek start == .char '<' && src.peek (start + 1) == .char '?' then
      match src.instruction (start + 2) with
      | .token .declaration next => some next
      | _ => none
    else none
  match declared with
  | none => src.prolog (Dtd.empty false) none .opening fuel start
  | some next =>
    let decl ← match src.xmlDeclaration start next with
      | .ok d => pure d
      | .error p => src.fail .malformedDeclaration p
    let (src, next) ← match decl.encoding with
      | some (name, at_) =>
        if !doc.followsDeclaration then pure (src, next)
        else
          match enc.declared name with
          | .keep => pure (src, next)
          | .switch e =>
            -- from here on the input is read, and positions are counted, one byte at a time
            let bom := if start == 1 then (if enc == .utf8 then 3 else 2) else 0
            let offset := bom + (next - start) * enc.unitSize
            let counted := (bytes.extract 0 offset).toList.map (fun b => Char.ofNat b.toNat)
            pure (e.decodeFrom bytes offset counted.toArray, offset)
          | .incorrect => src.fail .incorrectEncoding at_
          | .unusable => src.fail .unknownEncoding at_
          | .failed e => throw (.codec e)
      | none => pure (src, next)
    src.prolog (Dtd.empty decl.standalone) none .opening (src.size + 2) next

end Document

end UpnpBinding.Xml
