import Playbook.Json.Printer
import Playbook.Text.Blank

/-!
URLs of requests in their standard form: lower-case scheme and host, no default port, a path
without dot segments, and every character that a part may not hold written as the percent signs of
its bytes.
-/
namespace Playbook.Http

structure Url where
  scheme : String
  /-- what stands before the host, with its sign -/
  credentials : String
  host : String
  port : Option Nat
  path : List String
  query : Option String
  fragment : Option String
  deriving DecidableEq, Repr

namespace Url

def hexUpper (n : Nat) : Char := (Json.hexDigit n).toUpper

/-- The bytes of a character, each as a percent sign and two digits. -/
def percentEncoded (c : Char) : List Char :=
  (String.singleton c).toUTF8.toList.flatMap fun b =>
    ['%', hexUpper (b.toNat / 16), hexUpper (b.toNat % 16)]

/-- Control characters and characters beyond ASCII, and some signs, are encoded. -/
def encodeWith (signs : String) (s : List Char) : String :=
  String.ofList <| s.flatMap fun c =>
    if c.toNat ≤ 31 ∨ 126 < c.toNat ∨ signs.toList.contains c then percentEncoded c else [c]

def fragmentSigns : String := " \"<>`"
def querySigns : String := " \"#<>'"
def pathSigns : String := " \"#<>?`\x7b\x7d"
def credentialSigns : String := " \"#<>?`\x7b\x7d/:;=@[\\]^|"

def isSlash (c : Char) : Bool := c = '/' || c = '\\'

def defaultPort (scheme : String) : Option Nat :=
  if scheme = "http" then some 80 else if scheme = "https" then some 443 else none

/-- What stands before and after the first of some characters. -/
def splitAt (stop : Char → Bool) (cs : List Char) : List Char × Option (List Char) :=
  match cs.dropWhile fun c => !stop c with
  | [] => (cs, none)
  | _ :: rest => (cs.takeWhile fun c => !stop c, some rest)

def isSchemeChar (c : Char) : Bool := c.isAlphanum || c = '+' || c = '-' || c = '.'

/-- The scheme and what follows its colon. -/
def scheme? (cs : List Char) : Option (String × List Char) :=
  match splitAt (· = ':') cs with
  | (c :: name, some rest) =>
    if c.isAlpha && name.all isSchemeChar then
      some (Text.asciiLower (String.ofList (c :: name)), rest)
    else none
  | _ => none

/-- The characters that no host may hold. -/
def isForbiddenInHost (c : Char) : Bool :=
  c.toNat ≤ 32 || 127 ≤ c.toNat || "#%/:<>?@[\\]^|".toList.contains c

def host? (cs : List Char) : Option String :=
  if cs.isEmpty || cs.any isForbiddenInHost then none
  else some (Text.asciiLower (String.ofList cs))

/-- A port is empty or a number of at most 16 bits. -/
def port? (cs : List Char) : Option (Option Nat) :=
  if cs.isEmpty then some none
  else if cs.all Char.isDigit then
    match (String.ofList cs).toNat? with
    | some n => if n ≤ 65535 then some (some n) else none
    | none => none
  else none

def isSingleDot (s : String) : Bool := s = "." || Text.asciiLower s = "%2e"

def isDoubleDot (s : String) : Bool :=
  ["..", ".%2e", "%2e.", "%2e%2e"].contains (Text.asciiLower s)

/-- Resolves dot segments; the last segment leaves an empty one in its place. -/
def resolve : List String → List String → List String
  | done, [] => done.reverse
  | done, [s] =>
    if isDoubleDot s then (("" :: done.drop 1).reverse)
    else if isSingleDot s then (("" :: done).reverse)
    else ((s :: done).reverse)
  | done, s :: rest =>
    if isDoubleDot s then resolve (done.drop 1) rest
    else if isSingleDot s then resolve done rest
    else resolve (s :: done) rest

def segments (cs : List Char) : List (List Char) :=
  Text.splitOn '/' (cs.map fun c => if isSlash c then '/' else c)

/-- The credentials before the last at sign, and the rest. -/
def splitCredentials (cs : List Char) : List Char × List Char :=
  if cs.contains '@' then
    ((cs.reverse.dropWhile (· ≠ '@')).drop 1 |>.reverse,
      (cs.reverse.takeWhile (· ≠ '@')).reverse)
  else ([], cs)

def credentialText (cs : List Char) : String :=
  if cs.isEmpty then ""
  else
    let (user, password) := splitAt (· = ':') cs
    let password := match password with
      | some (c :: p) => ":" ++ encodeWith credentialSigns (c :: p)
      | _ => ""
    encodeWith credentialSigns user ++ password ++ "@"

def parse? (s : String) : Option Url := do
  let isEdge := fun c : Char => c.toNat ≤ 32
  let cs := ((s.toList.dropWhile isEdge).reverse.dropWhile isEdge).reverse
  let cs := cs.filter fun c => c ≠ '\t' && c ≠ '\n' && c ≠ '\r'
  let (scheme, rest) ← scheme? cs
  if (defaultPort scheme).isNone then failure
  let (rest, fragment) := splitAt (· = '#') rest
  let (rest, query) := splitAt (· = '?') rest
  let rest := rest.dropWhile isSlash
  let authority := rest.takeWhile fun c => !isSlash c
  let path := rest.drop authority.length
  let (credentials, hostPort) := splitCredentials authority
  let (host, port) := splitAt (· = ':') hostPort
  let host ← host? host
  let port ← port? (port.getD [])
  some {
    scheme, host
    credentials := credentialText credentials
    port := if port = defaultPort scheme then none else port
    path := resolve [] ((segments (path.drop 1)).map (encodeWith pathSigns))
    query := query.map (encodeWith querySigns)
    fragment := fragment.map (encodeWith fragmentSigns) }

def print (u : Url) : String :=
  u.scheme ++ "://" ++ u.credentials ++ u.host ++
    (match u.port with
    | some n => s!":{n}"
    | none => "") ++
    "/" ++ String.intercalate "/" u.path ++
    (match u.query with
    | some q => "?" ++ q
    | none => "") ++
    (match u.fragment with
    | some f => "#" ++ f
    | none => "")

end Url
end Playbook.Http
