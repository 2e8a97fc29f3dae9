import UpnpBinding.Text.Identifier
import UpnpBinding.Value
import UpnpBinding.Text.Normalization
/-!
Record types: the request and response types of actions, each a type name with named fields and
defaults for some of them. A record type is made only from usable names, those that are
identifiers and not reserved words of the generated code's language: the type name and every
field name are usable, and no field name starts with an underscore or stands twice. Names are
checked in that order, the type name first, and the first name that fails is reported.

A record's constructor takes the record itself and then one parameter for each field, named by
the field's name in compatibility normal form. Keyword values are matched against those
parameter names, so a field whose name changes under normalization takes no keyword value of its
own name; and two fields whose names normalize alike, or one that normalizes to the name of the
record parameter, leave the constructor with a repeated parameter, which cannot be made.
-/
namespace UpnpBinding.Name

def reservedWords : List String :=
  ["False", "None", "True", "and", "as", "assert", "async", "await", "break", "class",
    "continue", "def", "del", "elif", "else", "except", "finally", "for", "from", "global",
    "if", "import", "in", "is", "lambda", "nonlocal", "not", "or", "pass", "raise", "return",
    "try", "while", "with", "yield"]

def isReserved (s : String) : Bool := reservedWords.contains s

end UpnpBinding.Name

namespace UpnpBinding

/-- Why a record type cannot be made. -/
inductive RecordError where
  | notIdentifier (name : String)
  | reservedWord (name : String)
  | underscore (name : String)
  | duplicate (name : String)
  | duplicateParameter (name : String)
  deriving DecidableEq, Inhabited

def RecordError.message : RecordError → String
  | .notIdentifier n => "Type names and field names must be valid identifiers: " ++ Text.literal n
  | .reservedWord n => "Type names and field names cannot be a keyword: " ++ Text.literal n
  | .underscore n => "Field names cannot start with an underscore: " ++ Text.literal n
  | .duplicate n => "Encountered duplicate field name: " ++ Text.literal n
  | .duplicateParameter n => "duplicate argument '" ++ n ++ "' in function definition (<string>, line 1)"

/-- A record type: its name, its field names in order, and the defaults of its last fields. -/
structure RecordType where
  name : String
  fields : List String
  defaults : List (String × Value)
  deriving Inhabited

namespace RecordType

def nameFault (n : String) : Option RecordError :=
  if !Text.isIdentifier n then some (.notIdentifier n)
  else if Name.isReserved n then some (.reservedWord n)
  else none

def fieldFault (seen : List String) : List String → Option RecordError
  | [] => none
  | f :: rest =>
    if f.startsWith "_" then some (.underscore f)
    else if seen.contains f then some (.duplicate f)
    else fieldFault (f :: seen) rest

def recordParameter : String := "_cls"

/-- The first parameter name among `names` that one of the `seen` names, or one before it,
already has. -/
def repeatedName (seen : List String) : List String → Option String
  | [] => none
  | n :: rest => if seen.contains n then some n else repeatedName (n :: seen) rest

/-- The names of the constructor's field parameters: the field names in compatibility normal
form. -/
def parameters (r : RecordType) : List String := r.fields.map Text.Normalization.nfkc

def make (name : String) (fields : List String) (defaults : List Value) :
    Except RecordError RecordType :=
  match (name :: fields).findSome? nameFault with
  | some e => .error e
  | none =>
    match fieldFault [] fields with
    | some e => .error e
    | none =>
      match repeatedName [] (recordParameter :: fields.map Text.Normalization.nfkc) with
      | some n => .error (.duplicateParameter n)
      | none => .ok ⟨name, fields, fields.drop (fields.length - defaults.length) |>.zip defaults⟩

end RecordType

end UpnpBinding
