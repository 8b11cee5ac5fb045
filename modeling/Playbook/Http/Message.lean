import Playbook.Activity
import Playbook.Json.Value

/-!
Requests and responses of HTTP, as far as calls of other systems need them: the characters that
methods, header names and header values may hold, and what a transport makes of a request.
-/
namespace Playbook.Http

open Json (Value)

/-- The characters of tokens: ASCII letters, digits and fifteen signs. -/
def isTokenChar (c : Char) : Bool :=
  c.isAlphanum || "!#$%&'*+-.^_`|~".toList.contains c

def isToken (s : String) : Bool := !s.isEmpty && s.toList.all isTokenChar

/-- Header names have a bound on their length. -/
def isHeaderName (s : String) : Bool := isToken s && decide (s.utf8ByteSize < 65536)

/-- Header values hold no control characters except tabs. -/
def isHeaderValue (s : String) : Bool :=
  s.toList.all fun c => c = '\t' || (32 ≤ c.toNat && c.toNat ≠ 127)

structure Request where
  method : String
  url : String
  /-- headers by their names in lower case -/
  headers : List (String × String)
  /-- a body that is sent as JSON -/
  body : Option Value

/-- A response, known by its head. The pieces of its body are yet to come, until the body ends or
cannot be read any further. -/
structure Response where
  status : Nat
  contentType : String
  body : Activity String (Except String Unit)

def Response.isSuccess (r : Response) : Bool := 200 ≤ r.status && r.status < 300

end Playbook.Http
