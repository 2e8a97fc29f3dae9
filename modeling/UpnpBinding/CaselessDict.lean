import UpnpBinding.Value
import UpnpBinding.Text.Lower
/-!
Dictionaries whose keys are looked up regardless of case. The entries keep the keys as they were
given, in insertion order; beside them, each lowered key points to the key that stands for it.
Setting a key that differs from the one standing for its lowered form only in case replaces that
entry, so the last spelling is kept. Two dictionaries, or a dictionary and plain entries, are
equal when their entries under lowered keys are.

Lowering is full Unicode lowering, so keys that differ in a character that lowers to several
(`İ`) or not at all (`ß`) are different keys.
-/
namespace UpnpBinding

/-- Entries under text keys, in insertion order: a key seen before keeps its place and takes the
new value. -/
def putEntry (entries : List (String × Value)) (k : String) (v : Value) : List (String × Value) :=
  if entries.any (·.1 == k) then entries.map (fun e => if e.1 == k then (k, v) else e)
  else entries ++ [(k, v)]

def eraseEntry (entries : List (String × Value)) (k : String) : List (String × Value) :=
  entries.filter (·.1 != k)

def putSpelling (sp : List (String × String)) (low k : String) : List (String × String) :=
  if sp.any (·.1 == low) then sp.map (fun p => if p.1 == low then (low, k) else p)
  else sp ++ [(low, k)]

/-- A dictionary with case-insensitive keys. -/
structure CaselessDict where
  entries : List (String × Value)
  spellings : List (String × String)
  deriving Inhabited

namespace CaselessDict

/-- The dictionary of the given entries, taken first as a plain dictionary takes them (a key
given again keeps its place and takes the new value); of the keys kept that are alike but for
case, the last stands for them. -/
def ofList (entries : List (String × Value)) : CaselessDict :=
  let merged := entries.foldl (fun acc e => putEntry acc e.1 e.2) []
  ⟨merged, merged.foldl (fun acc e => putSpelling acc (Text.lower e.1) e.1) []⟩

def spelling? (d : CaselessDict) (k : String) : Option String :=
  (d.spellings.find? (·.1 == Text.lower k)).map Prod.snd

def get (d : CaselessDict) (k : String) : Except String Value :=
  match d.spelling? k with
  | some s =>
    match Value.lookupIn d.entries s with
    | some v => .ok v
    | none => .error s
  | none => .error (Text.lower k)

def contains (d : CaselessDict) (k : String) : Bool :=
  match d.get k with
  | .ok _ => true
  | .error _ => false

def set (d : CaselessDict) (k : String) (v : Value) : CaselessDict :=
  let low := Text.lower k
  let entries := match d.spelling? k with
    | some s => if s != k then eraseEntry d.entries s else d.entries
    | none => d.entries
  ⟨putEntry entries k v, putSpelling d.spellings low k⟩

def erase (d : CaselessDict) (k : String) : Except String CaselessDict :=
  let low := Text.lower k
  match d.spelling? k with
  | some s => .ok ⟨eraseEntry d.entries s, d.spellings.filter (·.1 != low)⟩
  | none => .error low

def keys (d : CaselessDict) : List String := d.entries.map (·.1)

def size (d : CaselessDict) : Nat := d.entries.length

def lowered (entries : List (String × Value)) : List (String × Value) :=
  entries.foldl (fun acc e => putEntry acc (Text.lower e.1) e.2) []

def lowerEntries (d : CaselessDict) : List (String × Value) := lowered d.entries

def equalsEntries (d : CaselessDict) (other : List (String × Value)) : Bool :=
  (Value.dict d.lowerEntries).equal (.dict (lowered other))

def equals (d e : CaselessDict) : Bool :=
  (Value.dict d.lowerEntries).equal (.dict e.lowerEntries)

def literal (d : CaselessDict) : String := (Value.dict d.entries).literal

end CaselessDict

end UpnpBinding
