import UpnpBinding.Text.Printable
import UpnpBinding.Codec.Page
/-!
Why a document could not be read. A document that is not well formed is refused with one fault
and the line and column where reading stopped. A document that declares an entity is refused
whatever else it holds. A declared encoding whose codec gives no code page ends reading at the
declaration.
-/
namespace UpnpBinding.Xml

/-- The faults that make a document not well formed. -/
inductive Fault where
  | outOfPlace
  | noElement
  | invalidToken
  | unclosedToken
  | partialChar
  | mismatchedTag
  | duplicateAttribute
  | junkAfterDocument
  | parameterEntityRef
  | undefinedEntity
  | badCharRef
  | misplacedDeclaration
  | incorrectEncoding
  | unknownEncoding
  | unclosedCdata
  | unboundPrefix
  | undeclaringPrefix
  | malformedDeclaration
  | badPublicId
  | reservedPrefixXml
  | reservedPrefixXmlns
  | reservedNamespace
  | unresolvedEntity (reference : String)
  deriving DecidableEq, Inhabited

def Fault.text : Fault → String
  | .outOfPlace => "syntax error"
  | .noElement => "no element found"
  | .invalidToken => "not well-formed (invalid token)"
  | .unclosedToken => "unclosed token"
  | .partialChar => "partial character"
  | .mismatchedTag => "mismatched tag"
  | .duplicateAttribute => "duplicate attribute"
  | .junkAfterDocument => "junk after document element"
  | .parameterEntityRef => "illegal parameter entity reference"
  | .undefinedEntity => "undefined entity"
  | .badCharRef => "reference to invalid character number"
  | .misplacedDeclaration => "XML or text declaration not at start of entity"
  | .incorrectEncoding => "encoding specified in XML declaration is incorrect"
  | .unknownEncoding => "unknown encoding"
  | .unclosedCdata => "unclosed CDATA section"
  | .unboundPrefix => "unbound prefix"
  | .undeclaringPrefix => "must not undeclare prefix"
  | .malformedDeclaration => "XML declaration not well-formed"
  | .badPublicId => "illegal character(s) in public id"
  | .reservedPrefixXml =>
    "reserved prefix (xml) must not be undeclared or bound to another namespace name"
  | .reservedPrefixXmlns => "reserved prefix (xmlns) must not be declared or undeclared"
  | .reservedNamespace => "prefix must not be bound to one of the reserved namespace names"
  | .unresolvedEntity reference => "undefined entity " ++ reference

/-- A place in a document: lines count from one, columns from zero, both in characters. -/
structure Position where
  line : Nat
  column : Nat
  deriving DecidableEq, Inhabited

/-- A fault and the place where reading stopped. -/
structure Malformed where
  fault : Fault
  position : Position
  deriving DecidableEq, Inhabited

def Malformed.message (e : Malformed) : String :=
  e.fault.text ++ ": line " ++ toString e.position.line ++ ", column " ++
    toString e.position.column

/-- Why a document was refused. -/
inductive ReadError where
  | malformed (e : Malformed)
  | entityDeclared (name : String) (systemId publicId : Option String)
  | codec (e : Codec.CodecError)
  deriving DecidableEq, Inhabited

def optionalLiteral : Option String → String
  | some s => Text.literal s
  | none => "None"

def ReadError.message : ReadError → String
  | .malformed e => e.message
  | .entityDeclared name systemId publicId =>
    "EntitiesForbidden(name='" ++ name ++ "', system_id=" ++ optionalLiteral systemId ++
      ", public_id=" ++ optionalLiteral publicId ++ ")"
  | .codec e => e.message

end UpnpBinding.Xml
