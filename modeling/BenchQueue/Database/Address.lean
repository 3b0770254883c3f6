import BenchQueue.Database.Basic
import BenchQueue.Number.Reader
/-!
# Addresses of databases

An address names the directory of the socket of a database among its options. An address that is
not one, or that has an option with an unknown value, cannot be used at all.
-/

namespace BenchQueue.Database

/-- What an address says: its host and its options. -/
structure Address where
  host : String
  options : List (String × String)
  deriving DecidableEq, Repr

namespace Address

/-- Whether a text is the name of a scheme. -/
def isScheme (scheme : List Char) : Bool :=
  match scheme with
  | [] => false
  | c :: rest => c.isAlpha && rest.all fun c => c.isAlphanum || c == '+' || c == '-' || c == '.'

/-- The byte that two hexadecimal digits spell. -/
def percentByte? (h l : Char) : Option UInt8 := do
  let high ← Uuid.hexValue? h
  let low ← Uuid.hexValue? l
  pure (UInt8.ofNat (16 * high + low))

/-- The bytes of a character of an option; a plus sign stands for a blank. -/
def plainBytes (c : Char) : List UInt8 :=
  if c = '+' then [32] else (String.singleton c).toUTF8.toList

/-- The bytes of a text with its percent signs resolved. -/
def unescape : List Char → List UInt8
  | [] => []
  | [c] => plainBytes c
  | [c, d] => plainBytes c ++ plainBytes d
  | c :: h :: l :: rest =>
    match if c = '%' then percentByte? h l else none with
    | some byte => byte :: unescape rest
    | none => plainBytes c ++ unescape (h :: l :: rest)

/-- The text of an option. -/
def optionText (text : String) : String :=
  (String.fromUTF8? ⟨(unescape text.toList).toArray⟩).getD text

/-- The options behind a question mark. -/
def readOptions (query : String) : List (String × String) :=
  ((query.splitOn "&").filter (· ≠ "")).map fun part =>
    match part.splitOn "=" with
    | [] => ("", "")
    | name :: value => (optionText name, optionText ("=".intercalate value))

/-- Whether a text is a number of 16 bits. -/
def isPort (text : String) : Bool :=
  (parseWord? text).any (·.toNat < UInt16.size)

/-- The levels of protection of a connection. -/
def sslModes : List String := ["disable", "allow", "prefer", "require", "verify-ca", "verify-full"]

/-- Whether an option has a value that it may have. -/
def isUsable : String × String → Bool
  | ("sslmode", value) | ("ssl-mode", value) => sslModes.contains value.toLower
  | ("statement-cache-capacity", value) => (parseWord? value).isSome
  | ("port", value) => isPort value
  | _ => true

/-- The host behind the name of a user, and its port if it has one. -/
def splitAuthority (authority : String) : String × Option String :=
  let host := (authority.splitOn "@").getLast?.getD ""
  match host.splitOn ":" with
  | [host, port] => (host, some port)
  | _ => (host, none)

/-- Reads an address. -/
def parse? (text : String) : Option Address :=
  let chars := text.toList
  let scheme := chars.takeWhile (· != ':')
  if scheme.length = chars.length || !isScheme scheme then none
  else
    let rest := (String.ofList (chars.drop (scheme.length + 1))).takeWhile (· != '#')
    let parts := rest.toString.splitOn "?"
    let location := parts.head?.getD ""
    let options := readOptions ("?".intercalate (parts.drop 1))
    let behindSlashes := String.ofList (location.toList.dropWhile (· == '/'))
    let authority := (behindSlashes.splitOn "/").head?.getD ""
    let (host, port) := splitAuthority authority
    let isGood := port.all (fun p => p = "" || isPort p) && options.all isUsable
    if isGood then some ⟨host, options⟩ else none

/-- The directory of the socket that an address names; of several the last counts. -/
def socketDir? (a : Address) : Option String :=
  (a.options.reverse.find? (·.1 = "host")).map (·.2)

end Address

/-- The directory of the socket that is to be connected to. -/
def socketOf (url : String) : Except Failure String :=
  match Address.parse? url with
  | none => .error .configuration
  | some address =>
    match address.socketDir? with
    | some dir => .ok dir
    | none => .error .connection

end BenchQueue.Database
