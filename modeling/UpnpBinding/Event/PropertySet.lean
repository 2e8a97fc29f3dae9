import UpnpBinding.Soap.Envelope
/-!
Property sets: the bodies of event notifications. The root element is a `propertyset`; each of
its `property` children carries state variables as child elements, the variable's name as the
local name and its new value as the text (empty when there is none). Other children of the root
are passed over. A received body is stripped of spaces, tabs, line ends and NUL at its end only.
-/
namespace UpnpBinding

abbrev Property := List (String × String)

/-- Why a notification cannot be read. -/
inductive EventError where
  | unreadable (e : Xml.ReadError)
  | invalidRoot (tag : String)
  | invalidValue (name value : String)
  deriving Inhabited

def EventError.message : EventError → String
  | .unreadable e =>
    match e with
    | .malformed _ => "Invalid XML in notification: " ++ e.message
    | .entityDeclared .. => "Forbidden XML in notification: " ++ e.message
    | _ => e.message
  | .invalidRoot tag => "Invalid document root: " ++ tag
  | .invalidValue name value => "Invalid value for " ++ name ++ ": '" ++ value ++ "'"

namespace PropertySet

def putVariable (acc : Property) (name value : String) : Property :=
  if acc.any (·.1 == name) then acc.map (fun e => if e.1 == name then (name, value) else e)
  else acc ++ [(name, value)]

def property (e : Xml.Element) : Property :=
  e.children.foldl (fun acc c => putVariable acc c.tag.localName (c.text.getD "")) []

def read (message : Xml.Document) : Except EventError (List Property) :=
  let text := Text.dropRightWhile Soap.isMessagePadding message.lenientText
  match (Xml.Document.text text).read with
  | .error e => .error (.unreadable e)
  | .ok root =>
    if root.tag.localName != "propertyset" then .error (.invalidRoot root.tag.text)
    else .ok ((root.childrenNamed "property").map property)

end PropertySet

end UpnpBinding
