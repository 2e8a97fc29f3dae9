import UpnpBinding.Cli.Spec
import UpnpBinding.Cli.Wrap
/-!
The usage line and the help of a parser, laid out for a width of 78 columns.

The usage is `usage: `, the program name, a part for each option (its first name and metavar
in brackets) and then for each positional argument. When that is too long it is wrapped: after
a short program name, the options and then the positional arguments fill lines indented past
the program name; after a long one, each of the two goes on lines of its own.

The help is the usage, the description, and sections: the positional arguments, the options,
and each group. An entry's help starts in the column two past its longest invocation, but at
most in column 24; an invocation that does not fit before that column has its help start on
the next line. A command's names are entries of their own, indented two further.
-/
namespace UpnpBinding.Cli

def layoutWidth : Nat := 78

def maxHelpColumn : Nat := 24

def usagePrefix : String := "usage: "

def OptionSpec.usagePart (o : OptionSpec) : String :=
  let name := o.names.headD ""
  match o.action with
  | .value metavar .. => "[" ++ name ++ " " ++ metavar ++ "]"
  | _ => "[" ++ name ++ "]"

def PositionalSpec.usagePart (p : PositionalSpec) : String :=
  match p.arity with
  | .one => p.metavar
  | .oneOrMore => p.metavar ++ " [" ++ p.metavar ++ " ...]"
  | .command _ => p.metavar ++ " ..."

def OptionSpec.invocation (o : OptionSpec) : String :=
  match o.action with
  | .value metavar .. => ", ".intercalate (o.names.map (· ++ " " ++ metavar))
  | _ => ", ".intercalate o.names

/-- Usage parts filled into lines no wider than the layout, each line after the first to be
indented by `indent` columns; the first line has `firstUsed` columns taken before it. -/
def partLines (parts : List String) (indent firstUsed : Nat) : List String :=
  let step := fun (acc : List String × List String × Nat) (part : String) =>
    let (lines, line, used) := acc
    if used + 1 + part.length > layoutWidth && !line.isEmpty then
      (lines ++ [" ".intercalate line], [part], indent - 1 + part.length + 1)
    else (lines, line ++ [part], used + part.length + 1)
  let (lines, line, _) := parts.foldl step ([], [], firstUsed - 1)
  if line.isEmpty then lines else lines ++ [" ".intercalate line]

def spaces (n : Nat) : String := String.ofList (List.replicate n ' ')

def continuedLines (parts : List String) (indent : Nat) : List String :=
  match partLines parts indent usagePrefix.length with
  | [] => []
  | first :: rest => first :: rest.map (spaces indent ++ ·)

def indentedLines (parts : List String) (indent : Nat) : List String :=
  (partLines parts indent indent).map (spaces indent ++ ·)

def ParserSpec.usageBody (p : ParserSpec) : String :=
  let optParts := p.options.map OptionSpec.usagePart
  let posParts := p.positionals.map PositionalSpec.usagePart
  let whole := " ".intercalate (p.prog :: optParts ++ posParts)
  if usagePrefix.length + whole.length ≤ layoutWidth then whole
  else if 4 * (usagePrefix.length + p.prog.length) ≤ 3 * layoutWidth then
    let indent := usagePrefix.length + p.prog.length + 1
    let lines :=
      if !optParts.isEmpty then
        continuedLines (p.prog :: optParts) indent ++ indentedLines posParts indent
      else if !posParts.isEmpty then continuedLines (p.prog :: posParts) indent
      else [p.prog]
    "\n".intercalate lines
  else
    let indent := usagePrefix.length
    let lines := indentedLines (optParts ++ posParts) indent
    let lines :=
      if lines.length > 1 then indentedLines optParts indent ++ indentedLines posParts indent
      else lines
    "\n".intercalate (p.prog :: lines)

def ParserSpec.usage (p : ParserSpec) : String := usagePrefix ++ p.usageBody ++ "\n"

/-- An entry of the help: its indent, invocation and help text. -/
structure HelpEntry where
  indent : Nat
  invocation : String
  help : Option String

def PositionalSpec.entries (p : PositionalSpec) : List HelpEntry :=
  match p.arity with
  | .command choices =>
    ⟨2, p.metavar, p.help⟩ :: choices.map fun (n, h) => ⟨4, n, some h⟩
  | _ => [⟨2, p.metavar, p.help⟩]

def ParserSpec.sections (p : ParserSpec) : List (String × List HelpEntry) :=
  let plain := p.positionals.filter (·.group.isNone)
  let groups := p.positionals.filterMap fun q => q.group.map fun g => (g, q.entries)
  let all := ("positional arguments", plain.flatMap PositionalSpec.entries) ::
    ("options", p.options.map fun o => ⟨2, o.invocation, some o.help⟩) :: groups
  all.filter (!·.2.isEmpty)

def HelpEntry.lines (e : HelpEntry) (column : Nat) : List String :=

  let width := column - e.indent - 2
  let head := spaces e.indent ++ e.invocation
  match e.help with
  | none => [head]
  | some h =>
    let helpLines := wrap (max (layoutWidth - column) 11) h
    if e.invocation.length ≤ width then
      match helpLines with
      | [] => [head ++ spaces (width - e.invocation.length) ++ "  "]
      | first :: rest =>
        (head ++ spaces (width - e.invocation.length) ++ "  " ++ first) :: rest.map (spaces column ++ ·)
    else head :: helpLines.map (spaces column ++ ·)

def ParserSpec.helpText (p : ParserSpec) : String :=
  let sections := p.sections
  let longest := (sections.flatMap fun s => s.2.map fun e => e.indent + e.invocation.length).foldl max 0
  let column := min (longest + 2) maxHelpColumn
  let description := match p.description with
    | some d => ["\n".intercalate (wrap layoutWidth d)]
    | none => []
  let blocks := (usagePrefix ++ p.usageBody) :: description ++
    sections.map fun (title, entries) =>
      "\n".intercalate ((title ++ ":") :: entries.flatMap (·.lines column))
  "\n\n".intercalate blocks ++ "\n"

end UpnpBinding.Cli
