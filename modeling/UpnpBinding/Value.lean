import UpnpBinding.Number.Shortest
import UpnpBinding.Text.Printable
import UpnpBinding.Text.Basic
import UpnpBinding.Url
/-!
Values that callers hand to actions and get back from them: nothing, truth values, integers of
any size, doubles, texts, URLs, byte strings, lists and dictionaries with text keys. A value is
written back as a literal (`None`, `True`, `'text'`, `[1, 2]`, `{'k': 1}`); a text value shown
on its own is the text itself.

Equality of values is as callers see it. Numbers compare by their exact value across truth
values, integers and doubles (`True` equals `1` and `1.0`; a double that is not a number equals
nothing); texts, byte strings and URLs compare part by part; lists item by item; dictionaries
by their keys and the values under them, whatever their order. Values of different kinds are
unequal.
-/
namespace UpnpBinding

/-- A value handed to or returned by an action. -/
inductive Value where
  | none
  | bool (b : Bool)
  | int (n : Int)
  | double (x : Double)
  | text (s : String)
  | url (u : Url)
  | bytes (bs : List UInt8)
  | list (items : List Value)
  | dict (entries : List (String × Value))
deriving Inhabited

namespace Value

def urlLiteral (u : Url) : String :=
  "SplitResult(scheme=" ++ Text.literal u.scheme ++ ", netloc=" ++ Text.literal u.netloc ++
    ", path=" ++ Text.literal u.path ++ ", query=" ++ Text.literal u.query ++
    ", fragment=" ++ Text.literal u.fragment ++ ")"

mutual

def literal : Value → String
  | .none => "None"
  | .bool b => if b then "True" else "False"
  | .int n => intText n
  | .double x => x.text
  | .text s => Text.literal s
  | .url u => urlLiteral u
  | .bytes bs => Text.byteLiteral bs
  | .list items => "[" ++ literalItems items ++ "]"
  | .dict entries => "\x7b" ++ literalEntries entries ++ "\x7d"

def literalItems : List Value → String
  | [] => ""
  | [v] => literal v
  | v :: rest => literal v ++ ", " ++ literalItems rest

def literalEntries : List (String × Value) → String
  | [] => ""
  | [(k, v)] => Text.literal k ++ ": " ++ literal v
  | (k, v) :: rest => Text.literal k ++ ": " ++ literal v ++ ", " ++ literalEntries rest

end

def display : Value → String
  | .text s => s
  | v => v.literal

end Value

end UpnpBinding

namespace UpnpBinding

/-- The exact value of a number: not a number, an infinity, or `n * 2^e`. -/
inductive Magnitude where
  | nan
  | infinite (negative : Bool)
  | scaled (n : Int) (e : Int)
  deriving DecidableEq

namespace Magnitude

def scaledEq (a : Int) (e : Int) (b : Int) (f : Int) : Bool :=
  if e ≤ f then a == b * Int.pow 2 (f - e).toNat else a * Int.pow 2 (e - f).toNat == b

def eq : Magnitude → Magnitude → Bool
  | .scaled a e, .scaled b f => scaledEq a e b f
  | .infinite s, .infinite t => s == t
  | _, _ => false

end Magnitude

namespace Value

def magnitude? : Value → Option Magnitude
  | .bool b => some (.scaled (if b then 1 else 0) 0)
  | .int n => some (.scaled n 0)
  | .double x =>
    some (match x.kind with
      | .nan => .nan
      | .infinite neg => .infinite neg
      | .finite neg m e => .scaled (if neg then -(m : Int) else m) e)
  | _ => Option.none

def lookupIn (d : List (String × Value)) (k : String) : Option Value :=
  (d.find? (·.1 == k)).map Prod.snd

mutual

def equal : Value → Value → Bool
  | .none, .none => true
  | .text a, .text b => a == b
  | .bytes a, .bytes b => a == b
  | .url a, .url b =>
    a.scheme == b.scheme && a.netloc == b.netloc && a.path == b.path && a.query == b.query &&
      a.fragment == b.fragment
  | .list a, .list b => equalItems a b
  | .dict a, .dict b => a.length == b.length && containsEntries b a
  | a, b =>
    match a.magnitude?, b.magnitude? with
    | some x, some y => x.eq y
    | _, _ => false

def equalItems : List Value → List Value → Bool
  | [], [] => true
  | a :: as, b :: bs => equal a b && equalItems as bs
  | _, _ => false

def containsEntries (d : List (String × Value)) : List (String × Value) → Bool
  | [] => true
  | (k, v) :: rest =>
    (match lookupIn d k with
      | some w => equal v w
      | Option.none => false) && containsEntries d rest

end

def truthy : Value → Bool
  | .none => false
  | .bool b => b
  | .int n => n != 0
  | .double x =>
    match x.kind with
    | .finite _ m _ => m != 0
    | _ => true
  | .text s => !s.isEmpty
  | .url _ => true
  | .bytes bs => !bs.isEmpty
  | .list items => !items.isEmpty
  | .dict entries => !entries.isEmpty

def typeName : Value → String
  | .none => "NoneType"
  | .bool _ => "bool"
  | .int _ => "int"
  | .double _ => "float"
  | .text _ => "str"
  | .url _ => "SplitResult"
  | .bytes _ => "bytes"
  | .list _ => "list"
  | .dict _ => "dict"

end Value

end UpnpBinding
