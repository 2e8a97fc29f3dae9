import UpnpBinding.Text.Basic
import UpnpBinding.Text.Printable
/-!
URLs as five parts: scheme, network location, path, query and fragment. Splitting drops leading
control characters and spaces and every tab, carriage return and line feed; a scheme is a run of
letters, digits, `+`, `-` and `.` that starts with a letter and ends at the first colon, and is
lowered; a network location follows `//` up to the first `/`, `?` or `#`. Joining a reference
to a base resolves its path against the base's, dropping `.` and `..` segments.
-/
namespace UpnpBinding

/-- A URL split into its five parts. -/
structure Url where
  scheme : String
  netloc : String
  path : String
  query : String
  fragment : String
deriving DecidableEq, Inhabited

/-- Why a text is not a URL. -/
inductive UrlError where
  | invalidIPv6
  | invalidIPvFuture
  | bracketedIPv4
  | notAnAddress (host : String)
  | netlocNormalization (netloc : String)
deriving DecidableEq

def UrlError.message : UrlError → String
  | .invalidIPv6 => "Invalid IPv6 URL"
  | .invalidIPvFuture => "IPvFuture address is invalid"
  | .bracketedIPv4 => "An IPv4 address cannot be in brackets"
  | .notAnAddress h => Text.literal h ++ " does not appear to be an IPv4 or IPv6 address"
  | .netlocNormalization n =>
    "netloc '" ++ n ++ "' contains invalid characters under NFKC normalization"

namespace Url

def netlocSchemes : List String :=
  ["", "ftp", "http", "gopher", "nntp", "telnet", "imap", "wais", "file", "mms", "https",
    "shttp", "snews", "prospero", "rtsp", "rtspu", "rsync", "svn", "svn+ssh", "sftp", "nfs",
    "git", "git+ssh", "ws", "wss"]

def relativeSchemes : List String :=
  ["", "ftp", "http", "gopher", "nntp", "imap", "wais", "file", "https", "shttp", "mms",
    "prospero", "rtsp", "rtspu", "sftp", "svn", "svn+ssh", "ws", "wss"]

def paramSchemes : List String :=
  ["", "ftp", "hdl", "prospero", "http", "imap", "https", "shttp", "rtsp", "rtspu", "sip",
    "sips", "mms", "sftp", "tel"]

def isSchemeChar (c : Char) : Bool :=
  (c.toNat < 0x80 && c.isAlphanum) || c == '+' || c == '-' || c == '.'

def delimiterLookalikes : List Nat :=
  [0x2047, 0x2048, 0x2049, 0x2100, 0x2101, 0x2105, 0x2106, 0x2A74, 0xFE13, 0xFE16, 0xFE55,
    0xFE56, 0xFE5F, 0xFE6B, 0xFF03, 0xFF0F, 0xFF1A, 0xFF1F, 0xFF20]

def isOctet (p : List Char) : Bool :=
  !p.isEmpty && p.all (fun c => c.toNat < 0x80 && c.isDigit) && p.length ≤ 3 &&
    (p == ['0'] || p.head? != some '0') &&
    p.foldl (fun acc d => 10 * acc + (d.toNat - 48)) 0 ≤ 255

def isIPv4 (cs : List Char) : Bool :=
  !cs.contains '/' && (let ps := Text.splitChars '.' cs; ps.length == 4 && ps.all isOctet)

def isHextet (p : List Char) : Bool :=
  !p.isEmpty && p.length ≤ 4 && p.all (fun c => c.toNat < 0x80 && c.isHexDigit)

/-- Whether the pieces between colons form an IPv6 address: eight hextets, or fewer with one
empty piece standing for a run of zeros (an empty first or last piece only beside it). -/
def hextetsOk (parts : List (List Char)) : Bool :=
  let n := parts.length
  if n < 3 || n > 9 then false
  else
    let inner := (parts.drop 1).take (n - 2)
    let empties := (List.range inner.length).filter (fun i => (inner.getD i []).isEmpty)
    match empties with
    | [] =>
      n == 8 && parts.all isHextet
    | [j] =>
      let skip := j + 1
      let hi0 := skip
      let lo0 := n - skip - 1
      let firstEmpty := (parts.headD []).isEmpty
      let lastEmpty := (parts.getLastD []).isEmpty
      let hi := if firstEmpty then hi0 - 1 else hi0
      let lo := if lastEmpty then lo0 - 1 else lo0
      (!firstEmpty || hi == 0) && (!lastEmpty || lo == 0) && hi + lo < 8 &&
        (parts.take hi).all isHextet && (parts.drop (n - lo)).all isHextet
    | _ => false

def isIPv6 (cs : List Char) : Bool :=
  if cs.contains '/' then false
  else
    let addrOk := fun (addr : List Char) =>
      let parts := Text.splitChars ':' addr
      if addr.isEmpty then false
      else match parts.getLast? with
        | some last =>
          if last.contains '.' then
            isIPv4 last && hextetsOk (parts.dropLast ++ [['0'], ['0']])
          else hextetsOk parts
        | none => false
    match Text.splitCharsFirst? '%' cs with
    | none => addrOk cs
    | some (addr, zone) => !zone.isEmpty && !zone.contains '%' && addrOk addr

def checkBracketedHost (host : List Char) : Except UrlError Unit :=
  match host with
  | 'v' :: rest =>
    let hex := rest.takeWhile (fun c => c.toNat < 0x80 && c.isHexDigit)
    match rest.drop hex.length with
    | '.' :: tail => if !hex.isEmpty && !tail.isEmpty then .ok () else .error .invalidIPvFuture
    | _ => .error .invalidIPvFuture
  | _ =>
    if isIPv4 host then .error .bracketedIPv4
    else if isIPv6 host then .ok ()
    else .error (.notAnAddress (String.ofList host))

def hostAndPort (netloc : List Char) : List Char :=
  (netloc.reverse.takeWhile (· != '@')).reverse

/-- Checks the host of a network location that holds both brackets. After the last `@`, a `[`
may only come first, and its `]` be followed by nothing or a port; the host, in brackets or up
to the port, must then pass `checkBracketedHost`. -/
def checkBracketedNetloc (netloc : List Char) : Except UrlError Unit :=
  let hostPort := hostAndPort netloc
  match Text.splitCharsFirst? '[' hostPort with
  | some (before, bracketed) =>
    if !before.isEmpty then .error .invalidIPv6
    else
      let (host, port) := (Text.splitCharsFirst? ']' bracketed).getD (bracketed, [])
      if !port.isEmpty && port.head? != some ':' then .error .invalidIPv6
      else checkBracketedHost host
  | none => checkBracketedHost (hostPort.takeWhile (· != ':'))

/-- Checks a network location: brackets come in pairs around a valid host, and no character
turns into a delimiter under compatibility normalisation. -/
def checkNetloc (netloc : List Char) : Except UrlError Unit := do
  let hasOpen := netloc.contains '['
  let hasClose := netloc.contains ']'
  if hasOpen != hasClose then throw .invalidIPv6
  if hasOpen then checkBracketedNetloc netloc
  if netloc.any (fun c => delimiterLookalikes.contains c.toNat) then
    throw (.netlocNormalization (String.ofList netloc))

def splitWith (defaultScheme : String) (s : String) : Except UrlError Url := do
  let cs := (s.toList.dropWhile (fun c => c.toNat ≤ 0x20)).filter
    (fun c => c != '\t' && c != '\r' && c != '\n')
  let (scheme, rest) :=
    match Text.splitCharsFirst? ':' cs with
    | some (pre@(c :: _), post) =>
      if c.toNat < 0x80 && c.isAlpha && pre.all isSchemeChar then
        (String.ofList (pre.map Char.toLower), post)
      else (defaultScheme, cs)
    | _ => (defaultScheme, cs)
  let (netloc, rest) :=
    match rest with
    | '/' :: '/' :: tail =>
      let loc := tail.takeWhile (fun c => c != '/' && c != '?' && c != '#')
      (some loc, tail.drop loc.length)
    | _ => (none, rest)
  if let some loc := netloc then checkNetloc loc
  let (rest, fragment) := (Text.splitCharsFirst? '#' rest).getD (rest, [])
  let (path, query) := (Text.splitCharsFirst? '?' rest).getD (rest, [])
  return ⟨scheme, String.ofList (netloc.getD []), String.ofList path, String.ofList query,
    String.ofList fragment⟩

def split (s : String) : Except UrlError Url := splitWith "" s

/-- Puts the parts back together. A network location, or a scheme that carries one when the
path does not already start with `//`, brings the `//` form; a path that starts with `//` and
has no network location is written as it is, so its first segment reads back as one. -/
def render (u : Url) : String :=
  let path :=
    if u.netloc != "" || (u.scheme != "" && netlocSchemes.contains u.scheme &&
        !u.path.startsWith "//") then
      "//" ++ u.netloc ++ (if u.path != "" && !u.path.startsWith "/" then "/" ++ u.path else u.path)
    else u.path
  let withScheme := if u.scheme != "" then u.scheme ++ ":" ++ path else path
  withScheme ++ (if u.query != "" then "?" ++ u.query else "") ++
    (if u.fragment != "" then "#" ++ u.fragment else "")

def splitParams (path : String) : String × String :=
  let cs := path.toList
  if cs.contains '/' then
    let lastSeg := (cs.reverse.takeWhile (· != '/')).reverse
    let before := cs.take (cs.length - lastSeg.length)
    match Text.splitCharsFirst? ';' lastSeg with
    | some (a, b) => (String.ofList (before ++ a), String.ofList b)
    | none => (path, "")
  else
    match Text.splitCharsFirst? ';' cs with
    | some (a, b) => (String.ofList a, String.ofList b)
    | none => (path, "")

def parseWith (defaultScheme : String) (s : String) : Except UrlError (Url × String) := do
  let u ← splitWith defaultScheme s
  if paramSchemes.contains u.scheme && u.path.toList.contains ';' then
    let (p, params) := splitParams u.path
    return ({ u with path := p }, params)
  else return (u, "")

def pathOf (s : String) : Except UrlError String := do
  let (u, _) ← parseWith "" s
  return u.path

def renderWithParams (u : Url) (params : String) : String :=
  render { u with path := if params != "" then u.path ++ ";" ++ params else u.path }

def resolveSegments (segs : List String) : List String :=
  let out := segs.foldl (fun acc seg =>
    if seg == ".." then acc.dropLast else if seg == "." then acc else acc ++ [seg]) []
  match segs.getLast? with
  | some "." | some ".." => out ++ [""]
  | _ => out

def join (base ref : String) : Except UrlError String := do
  if base == "" then return ref
  if ref == "" then return base
  let (b, bparams) ← parseWith "" base
  let (r, params) ← parseWith b.scheme ref
  if r.scheme != b.scheme || !relativeSchemes.contains r.scheme then return ref
  if netlocSchemes.contains r.scheme && r.netloc != "" then return renderWithParams r params
  let netloc := if netlocSchemes.contains r.scheme then b.netloc else r.netloc
  if r.path == "" && params == "" then
    let query := if r.query == "" then b.query else r.query
    return renderWithParams ⟨r.scheme, netloc, b.path, query, r.fragment⟩ bparams
  let baseParts := Text.splitAt '/' b.path
  let baseParts := if baseParts.getLastD "" != "" then baseParts.dropLast else baseParts
  let segments :=
    if r.path.startsWith "/" then Text.splitAt '/' r.path
    else
      let all := baseParts ++ Text.splitAt '/' r.path
      match all with
      | [] => []
      | first :: more =>
        if more.isEmpty then [first]
        else first :: (more.dropLast.filter (· != "")) ++ [more.getLastD ""]
  let resolved := Text.joinWith "/" (resolveSegments segments)
  return renderWithParams ⟨r.scheme, netloc, if resolved == "" then "/" else resolved, r.query,
    r.fragment⟩ params

end Url

end UpnpBinding
