import BenchQueue.Json.Printer
import BenchQueue.Notify.Error
/-!
# Notifications through a webhook

A message is posted to a web address as a JSON object with its text. Any status from 200 to 299
means that it was taken; another one is a refusal that keeps the body of the answer.
-/

namespace BenchQueue.Notify

/-- A request to a web server. -/
structure WebRequest where
  host : String
  target : String
  contentType : String
  body : String
  deriving DecidableEq, Repr

/-- What a web server answers. -/
structure WebResponse where
  status : Nat
  body : String
  deriving DecidableEq, Repr

/-- The type of the body of a message. -/
def messageType : String := "application/json"

/-- The body of a message. -/
def messageBody (text : String) : String :=
  (Json.obj [("text", .str text)]).render

/-- A hexadecimal digit in upper case. -/
def upperHexDigit (n : Nat) : Char :=
  (Nat.digitChar (n % 16)).toUpper

/-- A byte behind a percent sign. -/
def percentByte (b : UInt8) : List Char :=
  ['%', upperHexDigit (b.toNat / 16), upperHexDigit b.toNat]

/-- Whether a character of a path has to be written as percent signs and bytes. -/
def needsPercent (c : Char) : Bool :=
  c.toNat ≤ 0x20 || 0x7F ≤ c.toNat ||
    c == '"' || c == '<' || c == '>' || c == '`' || c == '\x7b' || c == '\x7d'

/-- A path or query with the characters that need it written as bytes. -/
def percentEncode (text : List Char) : String :=
  String.ofList <| text.flatMap fun c =>
    if needsPercent c then (String.singleton c).toUTF8.toList.flatMap percentByte else [c]

/-- The parts of a path, steps in place and back being resolved. -/
def resolveSteps (parts : List String) : List String :=
  match parts.reverse with
  | [] => []
  | last :: before =>
    let kept := before.reverse.foldl (fun kept part =>
      if part = ".." then kept.dropLast else if part = "." then kept else kept ++ [part]) []
    if last = ".." then kept.dropLast ++ [""]
    else if last = "." then kept ++ [""]
    else kept ++ [last]

/-- The part of an address behind its host as it is sent: the path, and the query behind a question
mark. What follows a number sign is left out. -/
def requestTarget (text : List Char) : String :=
  let text := text.takeWhile (· != '#')
  let path := text.takeWhile (· != '?')
  let query := text.drop path.length
  let parts := (String.ofList (path.map fun c => if c = '\\' then '/' else c)).splitOn "/"
  "/" ++ percentEncode ("/".intercalate (resolveSteps (parts.drop 1))).toList ++ percentEncode query

/-- The host and target of a web address; none if it is not one. -/
def parseAddress? (url : String) : Option (String × String) :=
  let text := url.toList.filter fun c => c != '\t' && c != '\n' && c != '\r'
  let scheme := text.takeWhile (· != ':')
  let rest := text.drop (scheme.length + 1)
  if (String.ofList scheme).toLower ∈ ["http", "https"] then
    let rest := rest.dropWhile fun c => c == '/' || c == '\\'
    let host := rest.takeWhile fun c => c != '/' && c != '\\' && c != '?' && c != '#'
    if host.isEmpty then none else some (String.ofList host, requestTarget (rest.drop host.length))
  else none

/-- The request that posts a message; none if the address is not one. -/
def webRequest? (url text : String) : Option WebRequest :=
  (parseAddress? url).map fun (host, target) =>
    { host, target, contentType := messageType, body := messageBody text }

/-- The line that starts a request. -/
def WebRequest.line (r : WebRequest) : String :=
  "POST " ++ r.target ++ " HTTP/1.1"

/-- What an answer means; none is a connection that was closed without one. -/
def verdict : Option WebResponse → Except Error Unit
  | none => .error (.http "error sending request")
  | some r =>
    if 200 ≤ r.status ∧ r.status < 300 then .ok () else .error (.rejected r.status r.body)

end BenchQueue.Notify
