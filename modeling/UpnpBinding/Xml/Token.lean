import UpnpBinding.Xml.Source
/-!
Tokens of a document. Markup is cut into tokens one at a time, each from a position of the
decoded characters; a token reports where the next one starts. A token that cannot be completed
reports why: a character that cannot stand where it stands (and where it stands), the end of the
input inside the token, or the end of the input inside a character.

Two sets of tokens are read. Inside the root element there is character data, tags, references,
comments, processing instructions and CDATA sections. Before and after it there is white space,
comments, processing instructions, and the pieces of a document type declaration.

With namespaces, a colon is not a name character: a tag or attribute name holds at most one,
followed by a name start.
-/
namespace UpnpBinding.Xml

/-- What stands at a position of the input. -/
inductive Peek where
  | char (c : Char)
  | bad
  | cut
  | done
  deriving DecidableEq, Inhabited

/-- How reading one token ended. -/
inductive Scanned (α : Type) where
  | token (kind : α) (next : Nat)
  | invalid (pos : Nat)
  | unclosed
  | cutChar
  | finished
  deriving Inhabited

def Scanned.map (f : α → β) : Scanned α → Scanned β
  | .token k next => .token (f k) next
  | .invalid pos => .invalid pos
  | .unclosed => .unclosed
  | .cutChar => .cutChar
  | .finished => .finished

def Scanned.withKind (k : β) : Scanned α → Scanned β :=
  Scanned.map (fun _ => k)

namespace Source

def peek (s : Source) (i : Nat) : Peek :=
  if h : i < s.chars.size then
    let c := s.chars[i]
    if isDocumentChar c then .char c else .bad
  else
    match s.ending with
    | .malformed => .bad
    | .truncated => .cut
    | _ => .done

def hasAt (s : Source) (i : Nat) : Bool :=
  i < s.chars.size || (i == s.chars.size && (s.ending == .malformed || s.ending == .truncated))

/-- The outcome at the end of the characters where a token would start: no input is left, or a
left-over byte is a token the input cuts short. -/
def atEnd (s : Source) : Scanned α :=
  if s.ending == .oddByte then .unclosed else .finished

/-- The outcome when a token needs something other than what stands at `i`: the end of the
input leaves the token unclosed; a cut character is reported as such where a name or data could
go on (`cutEndsChar`), and as an invalid token elsewhere. -/
def stop (s : Source) (i : Nat) (cutEndsChar : Bool) : Scanned α :=
  match s.peek i with
  | .done => .unclosed
  | .cut => if cutEndsChar then .cutChar else .invalid i
  | _ => .invalid i

def nameEnd (s : Source) (i : Nat) : Nat :=
  if h : i < s.chars.size then
    if isNameChar s.chars[i] then nameEnd s (i + 1) else i
  else i
termination_by s.chars.size - i

def rawNameEnd (s : Source) (i : Nat) : Nat :=
  if h : i < s.chars.size then
    let c := s.chars[i]
    if isNameChar c || c == ':' then rawNameEnd s (i + 1) else i
  else i
termination_by s.chars.size - i

def spaceEnd (s : Source) (i : Nat) : Nat :=
  if h : i < s.chars.size then
    if isMarkupSpace s.chars[i] then spaceEnd s (i + 1) else i
  else i
termination_by s.chars.size - i

/-- The end of a qualified name whose first character stands before `i`: name characters and at
most one colon, which a name start must follow. -/
def qnameEnd (s : Source) (i : Nat) (hadColon : Bool) : Except (Scanned α) Nat :=
  if h : i < s.chars.size then
    let c := s.chars[i]
    if isNameChar c then qnameEnd s (i + 1) hadColon
    else if c == ':' then
      if hadColon then .error (.invalid i)
      else
        match s.peek (i + 1) with
        | .char d => if isNameStart d then qnameEnd s (i + 2) true else .error (.invalid (i + 1))
        | _ => .error (s.stop (i + 1) true)
    else .ok i
  else .ok i
termination_by s.chars.size - i

def mismatchAt (s : Source) (i : Nat) : List Char → Option Nat
  | [] => none
  | c :: cs =>
    match s.peek i with
    | .char d => if d == c then s.mismatchAt (i + 1) cs else some i
    | _ => some i

end Source

/-- A reference: to an entity by name, or to a character by number. A character reference whose
number is no character a document may hold carries `none`. -/
inductive Reference where
  | entity (name : String)
  | char (c : Option Char)
  deriving DecidableEq, Inhabited

def digitValue (hex : Bool) (c : Char) : Option Nat :=
  if '0' ≤ c && c ≤ '9' then some (c.toNat - '0'.toNat)
  else if hex && 'a' ≤ c && c ≤ 'f' then some (c.toNat - 'a'.toNat + 10)
  else if hex && 'A' ≤ c && c ≤ 'F' then some (c.toNat - 'A'.toNat + 10)
  else none

/-- The character that a reference number names, when a document may hold it: no surrogate, no
control character other than tab, line feed and carriage return, neither U+FFFE nor U+FFFF, and
nothing from U+110000 up. -/
def referencedChar (n : Nat) : Option Char :=
  if 0xD800 ≤ n && n < 0xE000 then none
  else if n < 0x110000 && isDocumentChar (Char.ofNat n) then some (Char.ofNat n)
  else none

namespace Source

/-- The digits of a character reference from `i` up to its semicolon; `value` is the number so
far, `none` once it has passed the last code point. -/
def charRefDigits (s : Source) (i : Nat) (hex : Bool) (value : Option Nat) : Scanned Reference :=
  if h : i < s.chars.size then
    let c := s.chars[i]
    if c == ';' then .token (.char (value.bind referencedChar)) (i + 1)
    else
      match digitValue hex c with
      | some d =>
        let next := value.bind fun v =>
          let w := v * (if hex then 16 else 10) + d
          if w < 0x110000 then some w else none
        s.charRefDigits (i + 1) hex next
      | none => .invalid i
  else s.stop i false
termination_by s.chars.size - i

def reference (s : Source) (i : Nat) : Scanned Reference :=
  match s.peek i with
  | .char c =>
    if c == '#' then
      match s.peek (i + 1) with
      | .char 'x' =>
        match s.peek (i + 2) with
        | .char d =>
          match digitValue true d with
          | some v => s.charRefDigits (i + 3) true (some v)
          | none => .invalid (i + 2)
        | _ => s.stop (i + 2) false
      | .char d =>
        match digitValue false d with
        | some v => s.charRefDigits (i + 2) false (some v)
        | none => .invalid (i + 1)
      | _ => s.stop (i + 1) false
    else if isNameStart c then
      let j := s.nameEnd (i + 1)
      match s.peek j with
      | .char ';' => .token (.entity (s.slice i j)) (j + 1)
      | _ => s.stop j true
    else .invalid i
  | _ => s.stop i true

end Source

/-- An attribute as it stands in a start tag: its name, where the name starts, and where its
value starts and ends, quotes left out. -/
structure RawAttribute where
  name : String
  namePos : Nat
  valueStart : Nat
  valueEnd : Nat
  deriving DecidableEq, Inhabited

/-- The kind of a processing instruction: the XML declaration when its target is `xml`. -/
inductive Instruction where
  | plain
  | declaration
  deriving DecidableEq, Inhabited

/-- A token of element content. -/
inductive Markup where
  | startTag (name : String) (attributes : List RawAttribute) (empty : Bool)
  | endTag (name : String)
  | data (text : String)
  | reference (r : Reference)
  | cdataOpen
  | comment
  | instruction (kind : Instruction)
  | trailingReturn
  | trailingBracket
  deriving Inhabited

/-- A target of a processing instruction is refused when it spells `xml` with any upper-case
letter; spelled in lower case it is the XML declaration. -/
def targetKind (target : String) : Option Instruction :=
  if target == "xml" then some .declaration
  else if target.length == 3 && target.toLower == "xml" then none
  else some .plain

namespace Source

/-- An attribute value from `i` up to its closing quote `q`: no `<`, and every ampersand starts a
well-formed reference. Returns the position of the closing quote. -/
def attributeValueEnd (s : Source) (i : Nat) (q : Char) : Except (Scanned α) Nat :=
  if h : i < s.chars.size then
    let c := s.chars[i]
    if !isDocumentChar c then .error (.invalid i)
    else if c == q then .ok i
    else if c == '<' then .error (.invalid i)
    else if c == '&' then
      match s.reference (i + 1) with
      | .token _ _ => s.attributeValueEnd (i + 1) q
      | .invalid p => .error (.invalid p)
      | .cutChar => .error .cutChar
      | _ => .error .unclosed
    else s.attributeValueEnd (i + 1) q
  else .error (s.stop i true)
termination_by s.chars.size - i

/-- The position of the `=` after an attribute name that ends at `j`: right there, or after
white space. -/
def attributeEq (s : Source) (j : Nat) : Except (Scanned α) Nat :=
  match s.peek j with
  | .char '=' => .ok j
  | .char c =>
    if isMarkupSpace c then
      let k := s.spaceEnd (j + 1)
      match s.peek k with
      | .char '=' => .ok k
      | _ => .error (s.stop k false)
    else .error (.invalid j)
  | _ => .error (s.stop j true)

/-- One attribute whose name starts at `i`: the name, `=` between optional white space, and a
quoted value. Returns it and the position after its closing quote. -/
def attributeAt (s : Source) (i : Nat) : Except (Scanned α) (RawAttribute × Nat) := do
  let j ← s.qnameEnd (i + 1) false
  let eq ← s.attributeEq j
  let v := s.spaceEnd (eq + 1)
  match s.peek v with
  | .char q =>
    if q == '"' || q == '\'' then
      let e ← s.attributeValueEnd (v + 1) q
      pure (⟨s.slice i j, i, v + 1, e⟩, e + 1)
    else throw (.invalid v)
  | _ => throw (s.stop v false)

def emptyTagEnd (s : Source) (i : Nat) (name : String) (atts : List RawAttribute) :
    Scanned Markup :=
  match s.peek i with
  | .char '>' => .token (.startTag name atts true) (i + 1)
  | _ => s.stop i false

/-- The rest of a start tag from `i`, after white space: more white space, an attribute, or the
end of the tag. `acc` holds the attributes read so far, last first. -/
def tagRest (s : Source) (i : Nat) (name : String) (acc : List RawAttribute) : Scanned Markup :=
  if h : i < s.chars.size then
    let c := s.chars[i]
    if isMarkupSpace c then s.tagRest (i + 1) name acc
    else if c == '>' then .token (.startTag name acc.reverse false) (i + 1)
    else if c == '/' then s.emptyTagEnd (i + 1) name acc.reverse
    else if isNameStart c then
      match s.attributeAt i with
      | .error e => e
      | .ok (a, k) =>
        match s.peek k with
        | .char '>' => .token (.startTag name (a :: acc).reverse false) (k + 1)
        | .char '/' => s.emptyTagEnd (k + 1) name (a :: acc).reverse
        | .char d =>
          if isMarkupSpace d then
            if i < k then s.tagRest (k + 1) name (a :: acc) else .invalid k
          else .invalid k
        | _ => s.stop k false
    else .invalid i
  else s.stop i true
termination_by s.chars.size - i

def startTag (s : Source) (lt : Nat) : Scanned Markup :=
  match s.qnameEnd (lt + 2) false with
  | .error e => e
  | .ok j =>
    let name := s.slice (lt + 1) j
    match s.peek j with
    | .char '>' => .token (.startTag name [] false) (j + 1)
    | .char '/' => s.emptyTagEnd (j + 1) name []
    | .char c => if isMarkupSpace c then s.tagRest (j + 1) name [] else .invalid j
    | _ => s.stop j true

def endTag (s : Source) (i : Nat) : Scanned Markup :=
  match s.peek i with
  | .char c =>
    if isNameStart c then
      let j := s.rawNameEnd (i + 1)
      let name := s.slice i j
      match s.peek j with
      | .char '>' => .token (.endTag name) (j + 1)
      | .char d =>
        if isMarkupSpace d then
          let k := s.spaceEnd (j + 1)
          match s.peek k with
          | .char '>' => .token (.endTag name) (k + 1)
          | _ => s.stop k false
        else .invalid j
      | _ => s.stop j true
    else .invalid i
  | _ => s.stop i true

def commentEnd (s : Source) (i : Nat) : Scanned Unit :=
  if h : i < s.chars.size then
    let c := s.chars[i]
    if !isDocumentChar c then .invalid i
    else if c == '-' then
      match s.peek (i + 1) with
      | .char '-' =>
        match s.peek (i + 2) with
        | .char '>' => .token () (i + 3)
        | _ => s.stop (i + 2) false
      | .done => .unclosed
      | _ => s.commentEnd (i + 1)
    else s.commentEnd (i + 1)
  else s.stop i true
termination_by s.chars.size - i

def comment (s : Source) (i : Nat) : Scanned Unit :=
  match s.peek i with
  | .char '-' => s.commentEnd (i + 1)
  | .done => .unclosed
  | _ => .invalid i

def instructionEnd (s : Source) (i : Nat) : Scanned Unit :=
  if h : i < s.chars.size then
    let c := s.chars[i]
    if !isDocumentChar c then .invalid i
    else if c == '?' then
      match s.peek (i + 1) with
      | .char '>' => .token () (i + 2)
      | .done => .unclosed
      | _ => s.instructionEnd (i + 1)
    else s.instructionEnd (i + 1)
  else s.stop i true
termination_by s.chars.size - i

/-- A processing instruction after its `<?`, from `i`: a target name, then white space and any
text up to `?>`, or `?>` right away. -/
def instruction (s : Source) (i : Nat) : Scanned Instruction :=
  match s.peek i with
  | .char c =>
    if isNameStart c then
      let j := s.nameEnd (i + 1)
      match s.peek j with
      | .char d =>
        if isMarkupSpace d then
          match targetKind (s.slice i j) with
          | some k => (s.instructionEnd (j + 1)).withKind k
          | none => .invalid j
        else if d == '?' then
          match targetKind (s.slice i j) with
          | some k =>
            match s.peek (j + 1) with
            | .char '>' => .token k (j + 2)
            | _ => s.stop (j + 1) false
          | none => .invalid j
        else .invalid j
      | _ => s.stop j true
    else .invalid i
  | _ => s.stop i true

def cdataOpen (s : Source) (i : Nat) : Scanned Markup :=
  let available := s.chars.size - i + (if s.hasAt s.chars.size then 1 else 0)
  if available < 6 then .unclosed
  else
    match s.mismatchAt i "CDATA[".toList with
    | none => .token .cdataOpen (i + 6)
    | some p => .invalid p

def afterLt (s : Source) (lt : Nat) : Scanned Markup :=
  match s.peek (lt + 1) with
  | .char c =>
    if isNameStart c then s.startTag lt
    else if c == '!' then
      match s.peek (lt + 2) with
      | .char '-' => (s.comment (lt + 3)).withKind .comment
      | .char '[' => s.cdataOpen (lt + 3)
      | _ => s.stop (lt + 2) false
    else if c == '?' then
      (s.instruction (lt + 2)).map .instruction
    else if c == '/' then s.endTag (lt + 2)
    else .invalid (lt + 1)
  | _ => s.stop (lt + 1) true

/-- The end of character data from `i`: before markup, a reference, a line end, a character no
document may hold, or the end of the input. The sequence `]]>` may not stand in data: the `>` is
reported. -/
def dataEnd (s : Source) (i : Nat) : Except Nat Nat :=
  if h : i < s.chars.size then
    let c := s.chars[i]
    if !isDocumentChar c || c == '<' || c == '&' || c == '\r' || c == '\n' then .ok i
    else if c == ']' then
      if s.hasAt (i + 1) then
        if s.peek (i + 1) == .char ']' then
          if s.hasAt (i + 2) then
            if s.peek (i + 2) == .char '>' then .error (i + 2) else s.dataEnd (i + 1)
          else .ok i
        else s.dataEnd (i + 1)
      else .ok i
    else s.dataEnd (i + 1)
  else .ok i
termination_by s.chars.size - i

def dataFrom (s : Source) (start i : Nat) : Scanned Markup :=
  match s.dataEnd i with
  | .ok j => .token (.data (s.slice start j)) j
  | .error p => .invalid p

def contentToken (s : Source) (i : Nat) : Scanned Markup :=
  match s.peek i with
  | .done => s.atEnd
  | .bad => .invalid i
  | .cut => .cutChar
  | .char c =>
    if c == '<' then s.afterLt i
    else if c == '&' then
      (s.reference (i + 1)).map .reference
    else if c == '\r' then
      if !s.hasAt (i + 1) then .token .trailingReturn (i + 1)
      else if s.peek (i + 1) == .char '\n' then .token (.data "\n") (i + 2)
      else .token (.data "\n") (i + 1)
    else if c == '\n' then .token (.data "\n") (i + 1)
    else if c == ']' then
      if !s.hasAt (i + 1) then .token .trailingBracket (i + 1)
      else if s.peek (i + 1) != .char ']' then s.dataFrom i (i + 1)
      else if !s.hasAt (i + 2) then .token .trailingBracket (i + 2)
      else if s.peek (i + 2) == .char '>' then .invalid (i + 2)
      else s.dataFrom i (i + 1)
    else s.dataFrom i (i + 1)

end Source

/-- A piece of a CDATA section: text, with line ends as line feeds, or the closing `]]>`. -/
inductive CdataPiece where
  | text (t : String)
  | close
  deriving Inhabited

namespace Source

def cdataTextEnd (s : Source) (i : Nat) : Nat :=
  if h : i < s.chars.size then
    let c := s.chars[i]
    if !isDocumentChar c || c == '\r' || c == '\n' || c == ']' then i
    else s.cdataTextEnd (i + 1)
  else i
termination_by s.chars.size - i

def cdataToken (s : Source) (i : Nat) : Scanned CdataPiece :=
  let textFrom := fun (k : Nat) =>
    let j := s.cdataTextEnd k
    Scanned.token (CdataPiece.text (s.slice i j)) j
  match s.peek i with
  | .done => .finished
  | .bad => .invalid i
  | .cut => .cutChar
  | .char c =>
    if c == ']' then
      match s.peek (i + 1) with
      | .done => .unclosed
      | .char ']' =>
        match s.peek (i + 2) with
        | .done => .unclosed
        | .char '>' => .token .close (i + 3)
        | _ => textFrom (i + 1)
      | _ => textFrom (i + 1)
    else if c == '\r' then
      match s.peek (i + 1) with
      | .done => .unclosed
      | .char '\n' => .token (.text "\n") (i + 2)
      | _ => .token (.text "\n") (i + 1)
    else if c == '\n' then .token (.text "\n") (i + 1)
    else textFrom (i + 1)

end Source

/-- A token before or after the root element. -/
inductive PrologToken where
  | space
  | instruction (kind : Instruction)
  | comment
  | declOpen (keyword : String)
  | condSectOpen
  | instanceStart
  | literal
  | name (text : String)
  | prefixedName (text : String)
  | nmtoken
  | paramRef
  | percent
  | openBracket
  | closeBracket
  | declClose
  | openParen
  | closeParen (suffix : Option Char)
  | comma
  | bar
  | poundName (name : String)
  | suffixedName (suffix : Char)
  | condSectClose
  deriving Inhabited

/-- What a run of name characters turns out to be. -/
inductive NameKind where
  | name
  | prefixed
  | nmtoken
  deriving DecidableEq, Inhabited

namespace Source

def nameToken (s : Source) (start i : Nat) : NameKind → PrologToken
  | .name => .name (s.slice start i)
  | .prefixed => .prefixedName (s.slice start i)
  | .nmtoken => .nmtoken

def nameRun (s : Source) (start i : Nat) (kind : NameKind) : Scanned PrologToken :=
  if h : i < s.chars.size then
    let c := s.chars[i]
    if isNameChar c then s.nameRun start (i + 1) kind
    else if c == '>' || c == ')' || c == ',' || c == '|' || c == '[' || c == '%' ||
        isMarkupSpace c then
      .token (s.nameToken start i kind) i
    else if c == ':' then
      match kind with
      | .name =>
        match s.peek (i + 1) with
        | .char d =>
          if isNameChar d then s.nameRun start (i + 2) .prefixed
          else s.nameRun start (i + 1) .nmtoken
        | .done => .unclosed
        | .cut => .cutChar
        | .bad => .invalid (i + 1)
      | _ => s.nameRun start (i + 1) .nmtoken
    else if c == '+' || c == '*' || c == '?' then
      if kind == .nmtoken then .invalid i else .token (.suffixedName c) (i + 1)
    else .invalid i
  else
    match s.peek i with
    | .done => .token (s.nameToken start i kind) i
    | .cut => .cutChar
    | _ => .invalid i
termination_by s.chars.size - i

/-- A quoted literal scanned from `i` up to the quote `q`. After the closing quote only white
space, `>`, `%`, `[` or the end of the input may follow. -/
def literalEnd (s : Source) (i : Nat) (q : Char) : Scanned PrologToken :=
  if h : i < s.chars.size then
    let c := s.chars[i]
    if !isDocumentChar c then .invalid i
    else if c == q then
      match s.peek (i + 1) with
      | .done => .token .literal (i + 1)
      | .char d =>
        if isMarkupSpace d || d == '>' || d == '%' || d == '[' then
          .token .literal (i + 1)
        else .invalid (i + 1)
      | _ => .invalid (i + 1)
    else s.literalEnd (i + 1) q
  else s.stop i true
termination_by s.chars.size - i

/-- The keyword of a declaration, scanned on from `i`; it began at `start`. Letters and
underscores only, ended by white space or a `%` that a name follows. -/
def declKeyword (s : Source) (start i : Nat) : Scanned PrologToken :=
  if h : i < s.chars.size then
    let c := s.chars[i]
    if isAsciiLetter c || c == '_' then s.declKeyword start (i + 1)
    else if c == '%' then
      if s.hasAt (i + 1) then
        match s.peek (i + 1) with
        | .char d =>
          if isMarkupSpace d || d == '%' then .invalid i
          else .token (.declOpen (s.slice start i)) i
        | _ => .token (.declOpen (s.slice start i)) i
      else .unclosed
    else if isMarkupSpace c then .token (.declOpen (s.slice start i)) i
    else .invalid i
  else s.stop i false
termination_by s.chars.size - i

def declaration (s : Source) (i : Nat) : Scanned PrologToken :=
  match s.peek i with
  | .char '-' => (s.comment (i + 1)).withKind .comment
  | .char '[' => .token .condSectOpen (i + 1)
  | .char c => if isAsciiLetter c || c == '_' then s.declKeyword i (i + 1) else .invalid i
  | .done => .unclosed
  | _ => .invalid i

/-- What follows `%` in a declaration, from `i`: a parameter-entity reference, or the `%` alone
when white space or another `%` follows. -/
def percentToken (s : Source) (i : Nat) : Scanned PrologToken :=
  match s.peek i with
  | .char c =>
    if isNameStart c then
      let j := s.nameEnd (i + 1)
      match s.peek j with
      | .char ';' => .token .paramRef (j + 1)
      | _ => s.stop j true
    else if isMarkupSpace c || c == '%' then .token .percent i
    else .invalid i
  | _ => s.stop i true

def poundName (s : Source) (i : Nat) : Scanned PrologToken :=
  match s.peek i with
  | .char c =>
    if isNameStart c then
      let j := s.nameEnd (i + 1)
      match s.peek j with
      | .done => .token (.poundName (s.slice i j)) j
      | .char d =>
        if isMarkupSpace d || d == ')' || d == '>' || d == '%' || d == '|' then
          .token (.poundName (s.slice i j)) j
        else .invalid j
      | _ => s.stop j true
    else .invalid i
  | _ => s.stop i true

def prologToken (s : Source) (i : Nat) : Scanned PrologToken :=
  match s.peek i with
  | .done => s.atEnd
  | .bad => .invalid i
  | .cut => .cutChar
  | .char c =>
    if c == '"' || c == '\'' then s.literalEnd (i + 1) c
    else if c == '<' then
      match s.peek (i + 1) with
      | .char '!' => s.declaration (i + 2)
      | .char '?' =>
        (s.instruction (i + 2)).map .instruction
      | .char d =>
        if isNameStart d || d.toNat ≥ 0x80 then .token .instanceStart i else .invalid (i + 1)
      | .cut => .token .instanceStart i
      | .done => .unclosed
      | .bad =>
        -- a character above ASCII opens the root element whatever it is; the tag reports it
        match s.chars[i + 1]? with
        | some d => if d.toNat ≥ 0x80 then .token .instanceStart i else .invalid (i + 1)
        | none => .invalid (i + 1)
    else if isMarkupSpace c then .token .space (s.spaceEnd (i + 1))
    else if c == '%' then s.percentToken (i + 1)
    else if c == ',' then .token .comma (i + 1)
    else if c == '|' then .token .bar (i + 1)
    else if c == '(' then .token .openParen (i + 1)
    else if c == '[' then .token .openBracket (i + 1)
    else if c == ']' then
      if s.peek (i + 1) == .char ']' then
        if s.hasAt (i + 2) then
          if s.peek (i + 2) == .char '>' then .token .condSectClose (i + 3)
          else .token .closeBracket (i + 1)
        else .unclosed
      else .token .closeBracket (i + 1)
    else if c == ')' then
      match s.peek (i + 1) with
      | .done => .token (.closeParen none) (i + 1)
      | .char d =>
        if d == '*' || d == '?' || d == '+' then .token (.closeParen (some d)) (i + 2)
        else if isMarkupSpace d || d == '>' || d == ',' || d == '|' || d == ')' then
          .token (.closeParen none) (i + 1)
        else .invalid (i + 1)
      | _ => .invalid (i + 1)
    else if c == '>' then .token .declClose (i + 1)
    else if c == '#' then s.poundName (i + 1)
    else if isNameStart c then s.nameRun i (i + 1) .name
    else if isNameChar c || c == ':' then s.nameRun i (i + 1) .nmtoken
    else .invalid i

end Source

end UpnpBinding.Xml
