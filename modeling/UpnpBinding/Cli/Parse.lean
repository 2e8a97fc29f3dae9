import UpnpBinding.Cli.Help
import UpnpBinding.Text.Printable
import UpnpBinding.Text.Basic
import UpnpBinding.Number.Reading
/-!
Reading command-line words with a parser.

Each word is first classified. After `--` every word is positional. A word not starting with
`-`, `-` alone, a word that looks like a negative number and a word with a space in it are
positional; other words starting with `-` are options: an option's full name, a full name
with `=value`, an unambiguous prefix of a long name (perhaps with `=value`), or a short name
with its value or further short flags attached. A prefix of several names is an error. A word
naming no option is left over.

Then words are taken from left to right. A run of positional words goes to as many of the
waiting positional arguments as it can fill, each taking as many words as it can while leaving
enough for the ones after it; a command takes every word after it, options included, and they
are read by the command's own parser. An option word takes its value from the same word or the
next one. Words no argument takes are left over; a positional argument never filled is an
error. A value is read when it is taken, so the first bad word is the one reported.
-/
namespace UpnpBinding.Cli

/-- Why parsing stops before it is done. -/
inductive Stop where
  | help (text : String)
  | error (usage prog message : String)
  deriving Inhabited

def ParserSpec.fail (p : ParserSpec) (message : String) : Stop := .error p.usage p.prog message

def ParserSpec.optionFail (p : ParserSpec) (o : OptionSpec) (message : String) : Stop :=
  p.fail ("argument " ++ o.displayName ++ ": " ++ message)

/-- How a word was classified. -/
inductive Word where
  | positional
  | separator
  | option (o : Option OptionSpec) (name : String) (attached : Option String)
  deriving Inhabited

def Word.code : Word → Char
  | .positional => 'A'
  | .separator => '-'
  | .option .. => 'O'

/-- Whether a word looks like a negative number: `-` and digits, or `-`, perhaps digits, a
point and digits; a final line feed is allowed. -/
def looksNegative (s : String) : Bool :=
  let cs := s.toList
  let cs := if cs.getLast? == some '\n' then cs.dropLast else cs
  match cs with
  | '-' :: rest =>
    match Text.splitCharsFirst? '.' rest with
    | none => !rest.isEmpty && rest.all Text.isDecimalDigit
    | some (a, b) => a.all Text.isDecimalDigit && !b.isEmpty && b.all Text.isDecimalDigit
  | _ => false

/-- The options a word not naming one exactly may stand for: a long word for every long name
it is a prefix of (before an `=`), a short word for the short name it starts with (the rest
attached) and for every name it is a prefix of. -/
def ParserSpec.optionMatches (p : ParserSpec) (word : String) :
    List (OptionSpec × String × Option String) :=
  let cs := word.toList
  if cs[1]? == some '-' then
    let (pre, attached) := match Text.splitFirst? '=' word with
      | some (a, b) => (a, some b)
      | none => (word, none)
    p.optionNames.filterMap fun (n, o) =>
      if pre.isPrefixOf n then some (o, n, attached) else none
  else
    let short := String.ofList (cs.take 2)
    let rest := String.ofList (cs.drop 2)
    p.optionNames.filterMap fun (n, o) =>
      if n == short then some (o, n, some rest)
      else if word.isPrefixOf n then some (o, n, none)
      else none

def ParserSpec.hasNegativeOptions (p : ParserSpec) : Bool :=
  p.optionNames.any (looksNegative ·.1)

def ParserSpec.classifyWord (p : ParserSpec) (word : String) : Except Stop Word :=
  if word.isEmpty || word.front != '-' then .ok .positional
  else match p.optionNamed? word with
  | some o => .ok (.option (some o) word none)
  | none =>
    if word.length == 1 then .ok .positional
    else
      let withEquals := match Text.splitFirst? '=' word with
        | some (n, v) => (p.optionNamed? n).map fun o => Word.option (some o) n (some v)
        | none => none
      match withEquals with
      | some w => .ok w
      | none =>
        match p.optionMatches word with
        | [(o, n, v)] => .ok (.option (some o) n v)
        | [] =>
          if looksNegative word && !p.hasNegativeOptions then .ok .positional
          else if word.contains ' ' then .ok .positional
          else .ok (.option none word none)
        | ms => .error (p.fail ("ambiguous option: " ++ word ++ " could match " ++
            ", ".intercalate (ms.map fun m => m.2.1)))

def ParserSpec.classify (p : ParserSpec) : Bool → List String → Except Stop (List Word)
  | _, [] => .ok []
  | true, _ :: rest => (Word.positional :: ·) <$> p.classify true rest
  | false, w :: rest =>
    if w == "--" then (Word.separator :: ·) <$> p.classify true rest
    else do
      let c ← p.classifyWord w
      (c :: ·) <$> p.classify false rest

/-- The numbers of words a positional argument may take at the start of a pattern of word
classes, most first: separators, one positional word, and then separators (one word), any
positional words and separators (one or more), or everything (a command). -/
def matchLengths (a : Arity) (cs : List Char) : List Nat :=
  let lead := (cs.takeWhile (· == '-')).length
  match cs.drop lead with
  | 'A' :: rest =>
    let more := match a with
      | .one => (rest.takeWhile (· == '-')).length
      | .oneOrMore => (rest.takeWhile fun c => c == 'A' || c == '-').length
      | .command _ => rest.length
    (List.range (more + 1)).reverse.map (lead + 1 + ·)
  | _ => []

/-- The numbers of words each of the positional arguments takes when all of them are filled
from the start of a pattern, each taking as many as it can. -/
def matchAll : List Arity → List Char → Option (List Nat)
  | [], _ => some []
  | a :: as, cs => (matchLengths a cs).findSome? fun n => (matchAll as (cs.drop n)).map (n :: ·)

def matchPartial (as : List Arity) (cs : List Char) : List Nat :=
  ((List.range as.length).reverse.findSome? fun k => matchAll (as.take (k + 1)) cs).getD []

/-- Where parsing is. -/
structure Progress where
  values : Namespace
  pending : List PositionalSpec
  extras : List String
  unrecognized : List String

abbrev CommandReader := String → List String → Except Stop (Namespace × List String)

/-- Take the words of a positional argument. An argument of one word left with none, once a
`--` is dropped, takes the empty list. -/
def ParserSpec.takePositional (p : ParserSpec) (readCommand : CommandReader) (st : Progress)
    (a : PositionalSpec) (ws : List String) : Except Stop Progress :=
  match a.arity with
  | .one =>
    let v := match ws with
      | [w] => ArgValue.text w
      | _ => .texts ws
    .ok { st with values := st.values.put a.name v }
  | .oneOrMore => .ok { st with values := st.values.put a.name (.texts ws) }
  | .command choices =>
    let name := ws.headD ""
    if choices.any (·.1 == name) then do
      let (ns, left) ← readCommand name ws.tail
      let values := ns.foldl (fun acc (k, v) => acc.put k v) (st.values.put a.name (.text name))
      return { st with values := values, unrecognized := st.unrecognized ++ left }
    else
      .error (p.fail ("argument " ++ a.name ++ ": invalid choice: " ++ Text.literal name ++
        " (choose from " ++ ", ".intercalate (choices.map fun c => Text.literal c.1) ++ ")"))

/-- Fill waiting positional arguments from the words at `i` on: the progress and where the
words taken end. The first `--` among an argument's words is not one of its values; a command
keeps its words as they are, so a `--` before its name is taken for the name. -/
def ParserSpec.takePositionals (p : ParserSpec) (readCommand : CommandReader)
    (args : List String) (words : List Word) (st : Progress) (i : Nat) :
    Except Stop (Progress × Nat) := do
  let codes := words.map Word.code
  let counts := matchPartial (st.pending.map (·.arity)) (codes.drop i)
  let step := fun (acc : Progress × Nat) (entry : PositionalSpec × Nat) => do
    let (st, j) := acc
    let (a, n) := entry
    let ws := (args.drop j).take n
    let ws := match a.arity with
      | .command _ => ws
      | _ => ws.erase "--"
    let st ← p.takePositional readCommand st a ws
    return (st, j + n)
  let (st, j) ← (st.pending.zip counts).foldlM step (st, i)
  return ({ st with pending := st.pending.drop counts.length }, j)

def ParserSpec.takeOption (p : ParserSpec) (st : Progress) (o : OptionSpec) (v : Option String) :
    Except Stop Progress :=
  match o.action with
  | .help => .error (.help p.helpText)
  | .flag => .ok { st with values := st.values.put o.dest (.flag true) }
  | .value _ integer _ =>
    let s := v.getD ""
    if integer then
      match readInteger s with
      | .ok n => .ok { st with values := st.values.put o.dest (.int n) }
      | .error _ => .error (p.optionFail o ("invalid int value: " ++ Text.literal s))
    else .ok { st with values := st.values.put o.dest (.text s) }

/-- The options an option word stands for, with the values attached to them: those taken with
their values, and the last one still wanting its value from the next word if it takes one.
Short flags may be joined into one word; the whole word is read before any of its options acts,
and a letter that names no option ends it with an error about the option before it. -/
def ParserSpec.attachedOptions (p : ParserSpec) :
    (fuel : Nat) → OptionSpec → String → Option String →
    Except Stop (List (OptionSpec × Option String) × Option OptionSpec)
  | 0, _, _, _ => .ok ([], none)
  | fuel + 1, o, name, attached =>
    match attached with
    | none => .ok ([], some o)
    | some v =>
      if o.takesNoValue then
        if name.toList[1]? != some '-' && !v.isEmpty then
          let next := "-" ++ String.singleton v.front
          match p.optionNamed? next with
          | some o2 =>
            let rest := (v.drop 1).toString
            (fun (taken, last) => ((o, none) :: taken, last)) <$>
              p.attachedOptions fuel o2 next (if rest.isEmpty then none else some rest)
          | none => .error (p.optionFail o ("ignored explicit argument " ++ Text.literal v))
        else .error (p.optionFail o ("ignored explicit argument " ++ Text.literal v))
      else .ok ([(o, some v)], none)

/-- Take the option word at `i` and the value it takes from the next word: the progress and the
index after them. A word naming no option is left over. -/
def ParserSpec.takeOptionWord (p : ParserSpec) (args : List String) (words : List Word)
    (st : Progress) (i : Nat) : Except Stop (Progress × Nat) := do
  match words[i]? with
  | some (.option (some o) name attached) =>
    let (taken, last) ← p.attachedOptions (name.length + 1) o name attached
    let (taken, stop) ← match last with
      | none => pure (taken, i + 1)
      | some o' =>
        if o'.takesNoValue then pure (taken ++ [(o', none)], i + 1)
        else match words[i + 1]? with
          | some .positional => pure (taken ++ [(o', args[i + 1]?)], i + 2)
          | _ => throw (p.optionFail o' "expected one argument")
    let st ← taken.foldlM (fun st (o, v) => p.takeOption st o v) st
    return (st, stop)
  | _ => return ({ st with extras := st.extras ++ (args[i]?).toList }, i + 1)

def ParserSpec.takeWords (p : ParserSpec) (readCommand : CommandReader) (args : List String)
    (words : List Word) (optionAt : List Nat) : (fuel : Nat) → Progress → Nat →
    Except Stop (Progress × Nat)
  | 0, st, i => .ok (st, i)
  | fuel + 1, st, i =>
    match optionAt.find? (i ≤ ·) with
    | none => .ok (st, i)
    | some next => do
      let (st, j) ← if i != next then p.takePositionals readCommand args words st i else pure (st, i)
      if i != next && i < j then p.takeWords readCommand args words optionAt fuel st j
      else
        let (st, j) :=
          if optionAt.contains j then (st, j)
          else ({ st with extras := st.extras ++ (args.drop j).take (next - j) }, next)
        let (st, j) ← p.takeOptionWord args words st j
        p.takeWords readCommand args words optionAt fuel st j

/-- Read words with a parser; `readCommand` reads the words after a command name. The namespace
and the words left over, the parser's own before its command's. -/
def ParserSpec.parseKnown (p : ParserSpec) (readCommand : CommandReader) (args : List String) :
    Except Stop (Namespace × List String) := do
  let words ← p.classify false args
  let optionAt := (List.range words.length).filter fun k => (words[k]?.map Word.code) == some 'O'
  let st : Progress := ⟨p.defaults, p.positionals, [], []⟩
  let (st, i) ← p.takeWords readCommand args words optionAt (args.length + 1) st 0
  let (st, j) ← p.takePositionals readCommand args words st i
  let st := { st with extras := st.extras ++ args.drop j }
  if !st.pending.isEmpty then
    throw (p.fail ("the following arguments are required: " ++
      ", ".intercalate (st.pending.map (·.name))))
  return (st.values, st.extras ++ st.unrecognized)

/-- A program: its main parser and the parser of each command. -/
structure Program where
  main : ParserSpec
  commands : List (String × ParserSpec)

def Program.parse (prog : Program) (args : List String) : Except Stop Namespace := do
  let readCommand : CommandReader := fun name rest =>
    match prog.commands.find? (·.1 == name) with
    | some (_, q) => q.parseKnown (fun _ ws => .ok ([], ws)) rest
    | none => .ok ([], rest)
  let (ns, left) ← prog.main.parseKnown readCommand args
  if left.isEmpty then return ns
  else throw (prog.main.fail ("unrecognized arguments: " ++ " ".intercalate left))

end UpnpBinding.Cli
