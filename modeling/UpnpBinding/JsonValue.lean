import UpnpBinding.Number.Shortest
import UpnpBinding.Text.Printable
/-!
JSON documents as the program prints them. Objects keep their keys in the order given. Strings
are written in ASCII: the quote and the backslash are escaped, the usual control characters get
their letter escapes, and every other character outside printable ASCII is a `\u` escape of four
lower-case hexadecimal digits, characters above the first plane as a surrogate pair. Doubles are
written in their shortest form, with `Infinity` and `NaN` for the values without digits.

A document is written on one line with `, ` and `: ` between items, or, given an indent, with
each item on a line of its own, indented by its depth; an empty array or object stays `[]` or
the empty pair of braces either way.
-/
namespace UpnpBinding

/-- A JSON document. -/
inductive JsonValue where
  | null
  | bool (b : Bool)
  | int (n : Int)
  | double (x : Double)
  | str (s : String)
  | arr (items : List JsonValue)
  | obj (entries : List (String × JsonValue))
  deriving Inhabited

namespace JsonValue

def unitEscape (u : Nat) : List Char := ['\\', 'u'] ++ Text.hexDigits 4 u

def escapeChar (c : Char) : List Char :=
  let n := c.toNat
  if c == '"' then ['\\', '"']
  else if c == '\\' then ['\\', '\\']
  else if c == '\n' then ['\\', 'n']
  else if c == '\r' then ['\\', 'r']
  else if c == '\t' then ['\\', 't']
  else if n == 8 then ['\\', 'b']
  else if n == 12 then ['\\', 'f']
  else if 0x20 ≤ n && n < 0x7F then [c]
  else if n < 0x10000 then unitEscape n
  else
    let v := n - 0x10000
    unitEscape (0xD800 + v / 0x400) ++ unitEscape (0xDC00 + v % 0x400)

def quote (s : String) : String :=
  String.ofList ('"' :: s.toList.flatMap escapeChar ++ ['"'])

/-- The layout of a document: one line, or an indent per level of depth. -/
structure Layout where
  indent : Option Nat

def Layout.between (l : Layout) (depth : Nat) : String :=
  match l.indent with
  | none => ", "
  | some k => ",\n" ++ String.ofList (List.replicate (k * depth) ' ')

def Layout.opening (l : Layout) (depth : Nat) : String :=
  match l.indent with
  | none => ""
  | some k => "\n" ++ String.ofList (List.replicate (k * depth) ' ')

mutual

def render (l : Layout) (depth : Nat) : JsonValue → String
  | .null => "null"
  | .bool b => if b then "true" else "false"
  | .int n => intText n
  | .double x => DoubleFormat.json.render x
  | .str s => quote s
  | .arr [] => "[]"
  | .arr items => "[" ++ l.opening (depth + 1) ++ renderItems l (depth + 1) items ++
      l.opening depth ++ "]"
  | .obj [] => "\x7b\x7d"
  | .obj entries => "\x7b" ++ l.opening (depth + 1) ++ renderEntries l (depth + 1) entries ++
      l.opening depth ++ "\x7d"

def renderItems (l : Layout) (depth : Nat) : List JsonValue → String
  | [] => ""
  | [v] => render l depth v
  | v :: rest => render l depth v ++ l.between depth ++ renderItems l depth rest

def renderEntries (l : Layout) (depth : Nat) : List (String × JsonValue) → String
  | [] => ""
  | [(k, v)] => quote k ++ ": " ++ render l depth v
  | (k, v) :: rest => quote k ++ ": " ++ render l depth v ++ l.between depth ++
      renderEntries l depth rest

end

def dump (v : JsonValue) (indent : Option Nat) : String :=
  render ⟨indent⟩ 0 v

def ofOption : Option String → JsonValue
  | some s => .str s
  | none => .null

end JsonValue

end UpnpBinding
