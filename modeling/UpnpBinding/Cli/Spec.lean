/-!
Command-line parsers as data. A parser has a program name, an optional description, options
and positional arguments. An option has one or more names starting with `-` and either shows
the help, sets a flag, or takes one value, a text or an integer. A positional argument takes
one word, one or more words, or names a command: it then takes every word that follows, the
first being one of the command names.

What parsing gives is a namespace: a value under each destination, in the order they were set.
-/
namespace UpnpBinding.Cli

/-- A value that parsing leaves under a destination. -/
inductive ArgValue where
  | none
  | flag (b : Bool)
  | int (n : Int)
  | text (s : String)
  | texts (items : List String)
  deriving Inhabited, DecidableEq

/-- What an option does. -/
inductive OptionAction where
  | help
  | flag
  | value (metavar : String) (integer : Bool) (default : ArgValue)
  deriving Inhabited

/-- An option. -/
structure OptionSpec where
  names : List String
  dest : String
  action : OptionAction
  help : String
  deriving Inhabited

/-- How many words a positional argument takes. -/
inductive Arity where
  | one
  | oneOrMore
  | command (choices : List (String × String))
  deriving Inhabited

/-- A positional argument. `group` is the title of its own help section, if it has one. -/
structure PositionalSpec where
  name : String
  arity : Arity
  help : Option String
  group : Option String
  deriving Inhabited

/-- A parser. -/
structure ParserSpec where
  prog : String
  description : Option String
  options : List OptionSpec
  positionals : List PositionalSpec
  deriving Inhabited

abbrev Namespace := List (String × ArgValue)

namespace Namespace

def put (ns : Namespace) (dest : String) (v : ArgValue) : Namespace :=
  if ns.any (·.1 == dest) then ns.map (fun e => if e.1 == dest then (dest, v) else e)
  else ns ++ [(dest, v)]

def get (ns : Namespace) (dest : String) : ArgValue :=
  ((ns.find? (·.1 == dest)).map Prod.snd).getD .none

def text? (ns : Namespace) (dest : String) : Option String :=
  match ns.get dest with
  | .text s => some s
  | _ => Option.none

def texts (ns : Namespace) (dest : String) : List String :=
  match ns.get dest with
  | .texts items => items
  | _ => []

def flag (ns : Namespace) (dest : String) : Bool :=
  match ns.get dest with
  | .flag b => b
  | _ => false

end Namespace

def OptionSpec.takesNoValue (o : OptionSpec) : Bool :=
  match o.action with
  | .value .. => false
  | _ => true

def OptionSpec.displayName (o : OptionSpec) : String := "/".intercalate o.names

def PositionalSpec.metavar (p : PositionalSpec) : String :=
  match p.arity with
  | .command choices => "\x7b" ++ ",".intercalate (choices.map Prod.fst) ++ "\x7d"
  | _ => p.name

def ParserSpec.optionNamed? (p : ParserSpec) (name : String) : Option OptionSpec :=
  p.options.find? (·.names.contains name)

def ParserSpec.optionNames (p : ParserSpec) : List (String × OptionSpec) :=
  p.options.flatMap fun o => o.names.map fun n => (n, o)

def ParserSpec.defaults (p : ParserSpec) : Namespace :=
  p.options.foldl (fun ns o =>
    match o.action with
    | .help => ns
    | .flag => ns.put o.dest (.flag false)
    | .value _ _ d => ns.put o.dest d) []

end UpnpBinding.Cli
