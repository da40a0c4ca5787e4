/-
Messages between the service and its callers.

A caller names what it asks for by a path, with a query behind it, or by a whole
address that begins with a scheme and a host.  The service looks at the path alone.

What a caller sends along are bytes, and they need not be a text.  The service reads at
most two mebibytes of them.
-/
import InvoiceApproval.Data.JsonWriter
import InvoiceApproval.Text.Utf8

namespace InvoiceApproval

/-- What is sent along with a message. -/
structure MessageBody where
  bytes : List UInt8
deriving DecidableEq, Repr

/-- A text is sent in UTF-8. -/
instance : Coe String MessageBody := ⟨fun s => ⟨Text.encode s⟩⟩

namespace MessageBody

/-- How many bytes the service reads at most. -/
def limit : Nat := 2097152

/-- Whether there are more bytes than the service reads. -/
def isOverlong (body : MessageBody) : Bool := limit < body.bytes.length

end MessageBody

/-- What a caller sends. -/
structure WebRequest where
  method : String
  /-- The path with whatever is asked behind it, or a whole address. -/
  target : String
  contentType : Option String
  body : MessageBody
deriving DecidableEq, Repr

/-- What the service sends back. -/
structure WebResponse where
  status : Nat
  contentType : Option String
  body : String
deriving DecidableEq, Repr

namespace WebRequest

/-- A character of a scheme. -/
def isSchemeChar (c : Char) : Bool :=
  c.isAlphanum || c == '+' || c == '-' || c == '.' || c == '~'

/-- What follows the host in a whole address, which begins with a scheme. -/
def behindHost? (target : List Char) : Option (List Char) :=
  match target.dropWhile isSchemeChar with
  | ':' :: '/' :: '/' :: rest => some (rest.dropWhile fun c => c != '/' && c != '?' && c != '#')
  | _ => none

/-- A path without the query and the fragment behind it. -/
def pathPart (cs : List Char) : List Char := cs.takeWhile fun c => c != '?' && c != '#'

/-- The path that a caller asks for.  An address that ends with its host means the root. -/
def path (r : WebRequest) : String :=
  match (behindHost? r.target.toList).map pathPart with
  | some [] => "/"
  | some path => String.ofList path
  | none => String.ofList (pathPart r.target.toList)

end WebRequest

namespace WebResponse

/-- A response that says nothing but its status. -/
def bare (status : Nat) : WebResponse := ⟨status, none, ""⟩

/-- A document in JSON. -/
def json (status : Nat) (d : Data) : WebResponse :=
  ⟨status, some "application/json", d.toJson⟩

/-- A page. -/
def page (status : Nat) (html : String) : WebResponse :=
  ⟨status, some "text/html; charset=utf-8", html⟩

/-- Plain text. -/
def plain (status : Nat) (text : String) : WebResponse :=
  ⟨status, some "text/plain; charset=utf-8", text⟩

/-- A response without its body, as it is sent to whoever asks for the head only. -/
def headOnly (r : WebResponse) : WebResponse := { r with body := "" }

end WebResponse

end InvoiceApproval
