import AgentWorkflow.Url.Host

/-!
# Addresses

An address names a scheme, then perhaps a host with a port, a path, a query and
a fragment. Reading one repairs what is repaired everywhere on the web: case,
slashes the wrong way round, characters that have to be encoded, and a port
that is the scheme's own.

**A path is a list of segments**, and the segments `.` and `..` are never among
them: they are followed while the path is read. So whatever an address was put
together from, its path says where it leads.

Nobody is assumed to log in through an address: a name and a password in front of the
host are dropped, and do not become an authorization.
-/

namespace AgentWorkflow

namespace Url

/-- Where an address leads on its host. -/
inductive Path where
  /-- Through these segments. -/
  | segments (names : List String)
  /-- The address has no host and no segments, only a text. -/
  | flat (text : String)
  deriving DecidableEq

end Url

/-- An address. -/
structure Url where
  /-- The scheme, in small letters. -/
  scheme : String
  /-- The host; a scheme that the web does not know may have an empty one. -/
  host : Option Url.Host
  /-- The port, if it is not the scheme's own. -/
  port : Option Nat
  /-- The path. -/
  path : Url.Path
  /-- What stands behind the question mark. -/
  query : Option String
  /-- What stands behind the number sign. -/
  fragment : Option String
  deriving DecidableEq

namespace Url

/-- The port of a scheme that needs a host. -/
def ownPort? (scheme : String) : Option Nat :=
  [("http", 80), ("https", 443), ("ws", 80), ("wss", 443), ("ftp", 21)].lookup scheme

/-! ## Characters -/

/-- Whether a character is printable ASCII, the space not included, and none of
the given ones. -/
def isPlain (others : String) (c : Char) : Bool :=
  0x21 ≤ c.toNat && c.toNat ≤ 0x7E && !others.toList.contains c

/-- What a segment may hold as itself. -/
def staysInPath : Char → Bool := isPlain "\x22#<>?`\x7b\x7d"

/-- What a query may hold as itself. -/
def staysInQuery (web : Bool) (c : Char) : Bool := isPlain "\x22#<>" c && !(web && c = '\'')

/-- What a fragment may hold as itself. -/
def staysInFragment : Char → Bool := isPlain "\x22<>`"

/-- What a path that is only a text may hold as itself. -/
def staysInText (c : Char) : Bool := 0x20 ≤ c.toNat && c.toNat ≤ 0x7E

/-! ## Reading -/

/-- Whether a segment leads nowhere. -/
def isHere (segment : List Char) : Bool :=
  [".", "%2e"].contains (String.ofList (segment.map Char.toLower))

/-- Whether a segment leads back. -/
def isBack (segment : List Char) : Bool :=
  ["..", ".%2e", "%2e.", "%2e%2e"].contains (String.ofList (segment.map Char.toLower))

/-- **Follows segments from where others lead.** A path that ends in a segment
which leads nowhere or back ends in an empty one. -/
def follow (names : List String) : List (List Char) → List String
  | [] => names
  | segment :: rest =>
    let atEnd := if rest.isEmpty then [""] else []
    if isBack segment then follow (names.dropLast ++ atEnd) rest
    else if isHere segment then follow (names ++ atEnd) rest
    else follow (names ++ [String.ofList (Percent.encode staysInPath segment)]) rest

/-- The segments of a path that is empty or begins with a slash. -/
def segments (web : Bool) (path : List Char) : List String :=
  let path := if web then path.map fun c => if c = '\\' then '/' else c else path
  follow [] ((path.drop 1).splitOn '/')

/-- What stands before the first of some characters, and that character with
what follows it. -/
def upTo (stop : Char → Bool) (s : List Char) : List Char × List Char :=
  (s.takeWhile fun c => !stop c, s.dropWhile fun c => !stop c)

/-- What stands before a mark, and what stands behind it if it is there. -/
def cut (mark : Char) (s : List Char) : List Char × Option (List Char) :=
  match upTo (· = mark) s with
  | (before, _ :: behind) => (before, some behind)
  | (before, []) => (before, none)

/-- The scheme that an address begins with, and what follows its colon. -/
def scheme? (s : List Char) : Option (String × List Char) :=
  match s.head?, upTo (· = ':') s with
  | some first, (name, _ :: rest) =>
    if first.isAlpha ∧ name.all (fun c => c.isAlphanum || c = '+' || c = '-' || c = '.') then
      some (String.ofList (name.map Char.toLower), rest)
    else none
  | _, _ => none

/-- A host and its port, as texts. What stands in front of an at sign says who
asks, and is dropped. -/
def splitPort (authority : List Char) : List Char × List Char :=
  let s := (authority.reverse.takeWhile (· ≠ '@')).reverse
  if s.head? = some '[' then
    let (inside, rest) := upTo (· = ']') s
    (inside ++ rest.take 1, rest.drop 1)
  else upTo (· = ':') s

/-- A port behind its colon; none if nothing is there or if it is the scheme's
own. -/
def port? (scheme : String) : List Char → Option (Option Nat)
  | [] | [':'] => some none
  | ':' :: ds =>
    (Text.readDigits? 10 ds).bind fun n =>
      if 65535 < n then none else some (if ownPort? scheme = some n then none else some n)
  | _ => none

/-- Reads a host for a scheme that the web does not know: nothing is made of
it. -/
def plainHost? (s : List Char) : Option Host :=
  match s with
  | '[' :: _ => Host.parse? s
  | _ =>
    if s.any fun c => c.toNat = 0 || " #/:<>?@[\\]^|".toList.contains c then none
    else some (.name (String.ofList (Percent.encode staysInText s)))

/-- The host, the port and the path of an address, from what stands between its
scheme and its query. -/
def place? (scheme : String) (s : List Char) : Option (Option Host × Option Nat × Path) :=
  if (ownPort? scheme).isSome then do
    let isSlash (c : Char) := c = '/' || c = '\\'
    let (authority, path) := upTo isSlash (s.dropWhile isSlash)
    let (host, port) := splitPort authority
    return (some (← Host.parse? host), ← port? scheme port, .segments (segments true path))
  else
    match s with
    | '/' :: '/' :: r => do
      let (authority, path) := upTo (· = '/') r
      let (host, port) := splitPort authority
      let names := if path.isEmpty then [] else segments false path
      return (some (← plainHost? host), ← port? scheme port, .segments names)
    | '/' :: _ => some (none, none, .segments (segments false s))
    | _ => some (none, none, .flat (String.ofList (Percent.encode staysInText s)))

/-- **Reads an address.** Blanks around it and breaks inside it do not matter. -/
def parse? (text : String) : Option Url := do
  let outside (c : Char) := decide (c.toNat ≤ 0x20)
  let s := ((text.toList.dropWhile outside).reverse.dropWhile outside).reverse
  let s := s.filter fun c => c ≠ '\t' && c ≠ '\n' && c ≠ '\r'
  let (scheme, rest) ← scheme? s
  let (rest, fragment) := cut '#' rest
  let (rest, query) := cut '?' rest
  let (host, port, path) ← place? scheme rest
  return {
    scheme, host, port, path
    query := query.map fun q =>
      String.ofList (Percent.encode (staysInQuery (ownPort? scheme).isSome) q)
    fragment := fragment.map fun f => String.ofList (Percent.encode staysInFragment f) }

/-! ## Using -/

/-- Whether the address leads to a host. -/
def hasHost (u : Url) : Bool :=
  match u.host with
  | none => false
  | some h => h ≠ .name ""

/-- The address with one more pair in its query. -/
def withPair (u : Url) (key value : String) : Url :=
  let pair := key ++ "=" ++ value
  { u with query := some (match u.query with
      | none => pair
      | some q => if q = "" then pair else q ++ "&" ++ pair) }

/-- The path in words. -/
def Path.text : Path → String
  | segments names => String.join (names.map ("/" ++ ·))
  | flat s => s

/-- What a server is asked for: the path and the query. -/
def target (u : Url) : String :=
  u.path.text ++ (u.query.map ("?" ++ ·)).getD ""

/-- **The address in words.** -/
def text (u : Url) : String :=
  u.scheme ++ ":" ++ (u.host.map fun h => "//" ++ h.text).getD ""
    ++ (u.port.map fun n => ":" ++ toString n).getD ""
    ++ u.target ++ (u.fragment.map ("#" ++ ·)).getD ""

end Url

end AgentWorkflow
