import ServiceClient.Text.Case
import ServiceClient.Text.Hex
import ServiceClient.Text.Split

/-!
Locators of documents and endpoints, split into their parts. White space and control characters in
front are dropped, and so are tabs and line ends anywhere.
-/

namespace ServiceClient

/-- The parts of a locator. -/
structure Url where
  scheme : String
  authority : String
  path : String
  query : String
  deriving DecidableEq, Repr

namespace Url

/-- Whether a text is a number of an address with points: up to three digits, at most 255, without
leading zeros. -/
def isDottedPart (cs : List Char) : Bool :=
  !cs.isEmpty && cs.length ≤ 3 && cs.all Char.isDigit && (cs.length = 1 || cs.head? != some '0') &&
    cs.foldl (fun n d => n * 10 + (d.toNat - 48)) 0 ≤ 255

def isDottedAddress (cs : List Char) : Bool :=
  let parts := Text.splitOn '.' cs
  parts.length = 4 && parts.all isDottedPart

/-- A group of an address with colons: up to four hexadecimal digits. -/
def isHexGroup (cs : List Char) : Bool :=
  !cs.isEmpty && cs.length ≤ 4 && cs.all fun c => (Text.hexValue? c).isSome

/-- The groups of an address with colons; a trailing address with points counts as two groups. -/
def colonGroups (cs : List Char) : Option (List (List Char)) :=
  let parts := Text.splitOn ':' cs
  match parts.getLast? with
  | none => none
  | some last =>
    if last.contains '.' then
      if isDottedAddress last then some (parts.dropLast ++ [['0'], ['0']]) else none
    else some parts

/-- Whether a text is an address with colons, with at most one gap for groups of zeros. -/
def isColonAddress (cs : List Char) : Bool :=
  let (address, scope) := Text.cut '%' cs
  let scopeFits := match scope with
    | none => true
    | some s => !s.isEmpty && !s.contains '%'
  match colonGroups address with
  | none => false
  | some groups =>
    let inner := (groups.drop 1).dropLast
    let gaps := inner.countP List.isEmpty
    let filled := groups.filter (!·.isEmpty)
    let startFits := (groups.head?.map List.isEmpty).getD true → inner.head? = some []
    let endFits := (groups.getLast?.map List.isEmpty).getD true → inner.getLast? = some []
    scopeFits && 3 ≤ (Text.splitOn ':' address).length && filled.all isHexGroup && gaps ≤ 1 &&
      decide startFits && decide endFits &&
      (if gaps = 1 then filled.length ≤ 7 else groups.length = 8)

/-- Whether a text may stand in brackets: an address with colons, or one of a future version. -/
def isBracketedHost (cs : List Char) : Bool :=
  match cs with
  | 'v' :: rest =>
    let (version, address) := Text.cut '.' rest
    isVersion version && (address.map fun a => !a.isEmpty && !a.contains '\n').getD false
  | cs => isColonAddress cs
where
  isVersion (cs : List Char) : Bool := !cs.isEmpty && cs.all fun c => (Text.hexValue? c).isSome

/-- Characters that stand for a delimiter of a locator under compatibility mapping. -/
def delimiterLookalikes : List Nat := [
  0x2047, 0x2048, 0x2049, 0x2100, 0x2101, 0x2105, 0x2106, 0x2A74, 0xFE13, 0xFE16, 0xFE55, 0xFE56,
  0xFE5F, 0xFE6B, 0xFF03, 0xFF0F, 0xFF1A, 0xFF1F, 0xFF20]

/-- Whether an authority can be told apart from the rest. -/
def isAuthority (cs : List Char) : Bool :=
  (cs.contains '[' == cs.contains ']') &&
    (match (Text.cut '[' cs).2 with
      | some rest => isBracketedHost (Text.cut ']' rest).1
      | none => true) &&
    cs.all fun c => !delimiterLookalikes.contains c.toNat

def isSchemeChar (c : Char) : Bool := c.isAlphanum || c == '+' || c == '-' || c == '.'

/-- The scheme in lower case and what follows its colon. -/
def splitScheme (cs : List Char) : List Char × List Char :=
  match Text.cut ':' cs with
  | (scheme, some rest) =>
    if (scheme.head?.map Char.isAlpha).getD false && scheme.all isSchemeChar then
      (scheme.map Char.toLower, rest)
    else ([], cs)
  | _ => ([], cs)

/-- Splits a locator; none if its authority is malformed. -/
def split? (text : String) : Option Url :=
  let cs := (text.toList.dropWhile (·.toNat ≤ 0x20)).filter fun c =>
    c != '\t' && c != '\r' && c != '\n'
  let (scheme, rest) := splitScheme cs
  let (authority, rest) :=
    match Text.dropStart? ['/', '/'] rest with
    | some body =>
      let isEnd := fun c => c == '/' || c == '?' || c == '#'
      (body.takeWhile (!isEnd ·), body.dropWhile (!isEnd ·))
    | none => ([], rest)
  let (rest, _) := Text.cut '#' rest
  let (path, query) := Text.cut '?' rest
  if isAuthority authority then
    some {
      scheme := String.ofList scheme, authority := String.ofList authority
      path := String.ofList path, query := String.ofList (query.getD []) }
  else none

/-- The host and the port of an authority; a host in brackets is without them. -/
def hostAndPort (authority : List Char) : List Char × List Char :=
  let place := ((Text.splitOn '@' authority).getLast?).getD []
  match Text.cut '[' place with
  | (_, some inner) =>
    let (host, after) := Text.cut ']' inner
    (host, ((Text.cut ':' (after.getD [])).2).getD [])
  | (_, none) =>
    let (host, port) := Text.cut ':' place
    (host, port.getD [])

/-- A host in lower case but for its zone. -/
def lowerHost (host : List Char) : String :=
  let (name, zone) := Text.cut '%' host
  Text.lower (String.ofList name) ++
    match zone with
    | some z => "%" ++ String.ofList z
    | none => ""

/-- The port that a scheme has by default. -/
def defaultPort? : String → Option Nat
  | "http" => some 80
  | "https" => some 443
  | _ => none

/-- The number of a port; the outer option is none if the text is no port. -/
def port? (cs : List Char) : Option (Option Nat) :=
  if cs.isEmpty then some none
  else if cs.all Char.isDigit then
    let n := cs.foldl (fun n d => n * 10 + (d.toNat - 48)) 0
    if n ≤ 65535 then some (some n) else none
  else none

/-- The host as a request names it, with its port unless that is the default of the scheme; the
outer option is none if the port is malformed and the inner one if there is no host. -/
def signedHost (url : Url) : Option (Option String) := do
  let (host, port) := hostAndPort url.authority.toList
  let port ← port? port
  let name := lowerHost host
  let bracketed := host.contains ':' && host.head? != some 'v'
  let shown := if bracketed then "[" ++ name ++ "]" else name
  let ended := match port with
    | some n => if some n = defaultPort? url.scheme then shown else shown ++ ":" ++ toString n
    | none => shown
  return if host.isEmpty then none else some ended

end Url

end ServiceClient
