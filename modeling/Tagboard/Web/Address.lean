import Tagboard.Web.Domain
import Tagboard.Web.NetworkAddress
import Tagboard.Web.Percent

/-!
# Addresses of web pages

Whether a text is an absolute address, and of which scheme. Only the scheme and the authority (the
part with the host and the port) can make an address invalid; path, query and fragment may hold
anything. Schemes of the web need a host, the scheme `file` may have one, and any other scheme takes
what is behind two slashes as an opaque host.
-/

namespace Tagboard

open Text

/-- Why a text is no address of a web page. -/
inductive AddressFault where
  | relative
  | emptyHost
  | domain
  | hostCharacter
  | port
  | dotted
  | grouped
  | unsupportedScheme (scheme : String)
deriving DecidableEq, Repr

/-- The description of a fault. -/
def AddressFault.message : AddressFault → String
  | relative => "relative URL without a base"
  | emptyHost => "empty host"
  | domain => "invalid international domain name"
  | hostCharacter => "invalid domain character"
  | port => "invalid port number"
  | dotted => "invalid IPv4 address"
  | grouped => "invalid IPv6 address"
  | unsupportedScheme scheme => "unsupported scheme " ++ scheme

namespace Address

/-- The kinds of scheme, which differ in how the authority is read. -/
inductive SchemeKind where
  | web
  | file
  | other
deriving DecidableEq, Repr

/-- The kind of a scheme. -/
def SchemeKind.ofScheme (scheme : List Char) : SchemeKind :=
  if ["http", "https", "ws", "wss", "ftp"].contains (String.ofList scheme) then .web
  else if scheme == "file".toList then .file
  else .other

/-- Drops control characters and spaces at both ends, and tabs and line ends everywhere. -/
def clean (s : List Char) : List Char :=
  let isEdge := fun (c : Char) => c.toNat ≤ 0x20
  ((s.dropWhile isEdge).reverse.dropWhile isEdge).reverse.filter fun c =>
    !(c == '\t' || c == '\n' || c == '\r')

/-- Whether a character may stand in a scheme behind its first letter. -/
def isSchemeChar (c : Char) : Bool := c.isAlphanum || ['+', '-', '.'].contains c

/-- The scheme in lower case and what follows its colon. -/
def scheme? (s : List Char) : Option (List Char × List Char) :=
  match cut? (· == ':') s with
  | some (scheme, rest) =>
      if scheme.head?.any Char.isAlpha && scheme.all isSchemeChar then
        some (scheme.map Char.toLower, rest)
      else none
  | none => none

/-- Whether a character ends the authority. -/
def endsAuthority (kind : SchemeKind) (c : Char) : Bool :=
  c == '/' || c == '?' || c == '#' || (c == '\\' && kind != .other)

/-- The characters of the authority. -/
def authority (kind : SchemeKind) (s : List Char) : List Char :=
  s.takeWhile fun c => !endsAuthority kind c

/-- The part of an authority before its last `@`, if there is one, and the part behind it. -/
def splitCredentials (s : List Char) : Option (List Char) × List Char :=
  let host := (s.reverse.takeWhile (· != '@')).reverse
  if host.length == s.length then (none, s) else (some (s.take (s.length - host.length - 1)), host)

/-- The host and what follows it; a colon inside brackets does not end the host. -/
def splitHost (inBrackets : Bool) : List Char → List Char × List Char
  | [] => ([], [])
  | c :: rest =>
      if c == ':' && !inBrackets then ([], c :: rest)
      else
        let (host, after) :=
          splitHost (if c == '[' then true else if c == ']' then false else inBrackets) rest
        (c :: host, after)

/-- Checks a host in brackets. -/
def checkBracketed (host : List Char) : Except AddressFault Unit :=
  if host.getLast? == some ']' && NetworkAddress.isGrouped (host.drop 1).dropLast then .ok ()
  else .error .grouped

/-- Checks the host of a page: a numeric address or a domain name. -/
def checkHost (host : List Char) : Except AddressFault Unit :=
  if host.head? == some '[' then checkBracketed host
  else
    match (Utf8.decode? (Percent.decode (Utf8.encode host))).bind fun name =>
        Domain.labels? name.toList with
    | none => .error .domain
    | some labels =>
        if labels == [[]] then .error .emptyHost
        else if NetworkAddress.endsInNumber labels && !NetworkAddress.isDotted labels then
          .error .dotted
        else .ok ()

/-- Whether a character may not stand in an opaque host. -/
def isForbiddenInHost (c : Char) : Bool :=
  ['\x00', '\t', '\n', '\r', ' ', '#', '/', ':', '<', '>', '?', '@', '[', '\\', ']', '^',
    '|'].contains c

/-- Checks the host of a scheme of its own. -/
def checkOpaqueHost (host : List Char) : Except AddressFault Unit :=
  if host.head? == some '[' then checkBracketed host
  else if host.any isForbiddenInHost then .error .hostCharacter
  else .ok ()

/-- Checks what follows the host: nothing, or a colon and a port of sixteen bits. -/
def checkPort : List Char → Except AddressFault Unit
  | [] => .ok ()
  | _ :: digits =>
      let digits := digits.takeWhile (· != '\\')
      if digits.all (fun c => '0' ≤ c && c ≤ '9') &&
          ((valueInBase? 10 digits).any (· < UInt16.size)) then .ok ()
      else .error .port

/-- Checks the authority of an address of the web. -/
def checkWeb (s : List Char) : Except AddressFault Unit := do
  let (_, hostAndPort) := splitCredentials (authority .web s)
  let (host, port) := splitHost false hostAndPort
  if host.isEmpty then throw .emptyHost
  checkHost host
  checkPort port

/-- Checks the authority of an address with a scheme of its own. -/
def checkOther (s : List Char) : Except AddressFault Unit := do
  let (credentials, hostAndPort) := splitCredentials (authority .other s)
  if credentials == some [] && hostAndPort.isEmpty && (s.drop 1).isEmpty.not then throw .emptyHost
  let (host, port) := splitHost false hostAndPort
  checkOpaqueHost host
  if host.isEmpty && !port.isEmpty then throw .emptyHost
  checkPort port
  if host.isEmpty && credentials.any fun text => !text.isEmpty && text != [':'] then
    throw .emptyHost

/-- Whether a text is a letter and a colon or bar, which names a drive and no host. -/
def isDrive : List Char → Bool
  | [letter, mark] => letter.isAlpha && (mark == ':' || mark == '|')
  | _ => false

/-- Checks the host of an address of a file. -/
def checkFile (s : List Char) : Except AddressFault Unit :=
  let host := authority .file s
  if host.isEmpty || isDrive host then .ok () else checkHost host

/-- Whether a character is a slash of either kind. -/
def isSlash (c : Char) : Bool := c == '/' || c == '\\'

/-- Checks what follows the colon of a scheme. -/
def checkAfterScheme (kind : SchemeKind) (s : List Char) : Except AddressFault Unit :=
  match kind with
  | .web => checkWeb (s.dropWhile isSlash)
  | .file => if (s.take 2).length == 2 && (s.take 2).all isSlash then checkFile (s.drop 2) else .ok ()
  | .other => if ['/', '/'].isPrefixOf s then checkOther (s.drop 2) else .ok ()

/-- The scheme of an address, in lower case. -/
def scheme (s : List Char) : Except AddressFault String := do
  match scheme? (clean s) with
  | none => throw .relative
  | some (scheme, rest) =>
      checkAfterScheme (.ofScheme scheme) rest
      return String.ofList scheme

/-- Checks that a text is the address of a web page. -/
def checkPage (s : List Char) : Except AddressFault Unit := do
  let scheme ← Address.scheme s
  if scheme == "http" || scheme == "https" then return ()
  else throw (.unsupportedScheme scheme)

end Address

end Tagboard
