import Excerpt.Text.Ascii
import Excerpt.Url.Domain.Name
import Excerpt.Url.Percent

/-! Hosts of URLs: domain names, addresses, and names without meaning. -/
namespace Excerpt.Url

inductive ParseError where
  | relative
  | emptyHost
  | invalidDomainName
  | invalidPort
  | invalidIPv4
  | invalidIPv6
  | invalidHostCharacter
  deriving Repr, DecidableEq

def ParseError.message : ParseError → String
  | .relative => "relative URL without a base"
  | .emptyHost => "empty host"
  | .invalidDomainName => "invalid international domain name"
  | .invalidPort => "invalid port number"
  | .invalidIPv4 => "invalid IPv4 address"
  | .invalidIPv6 => "invalid IPv6 address"
  | .invalidHostCharacter => "invalid domain character"

namespace Host

/-- A part of an IPv4 address: decimal, octal after `0`, hexadecimal after `0x`. -/
def ipv4Part? : List Char → Option Nat
  | [] => none
  | '0' :: 'x' :: ds | '0' :: 'X' :: ds => Text.numeral? 16 ds
  | '0' :: d :: ds => Text.numeral? 8 (d :: ds)
  | ds => Text.numeral? 10 ds

/-- Whether the last part of a domain name is a number, which makes it an address. -/
def endsInNumber (domain : List Char) : Bool :=
  let parts := (domain.splitOn '.').reverse
  let last := match parts with
    | [] :: part :: _ => part
    | part :: _ => part
    | [] => []
  !last.isEmpty && (last.all Char.isDigit || (ipv4Part? last).isSome)

/-- The value of an address: all parts but the last are octets, the last holds what remains. -/
def ipv4Value? (parts : List Nat) : Option Nat :=
  match parts.reverse with
  | [] => none
  | last :: front =>
    if 3 < front.length || front.any (255 < ·) || Nat.pow 256 (4 - front.length) ≤ last then none
    else
      let weighted := front.reverse.zipIdx.map fun (octet, i) => octet * Nat.pow 256 (3 - i)
      some (weighted.foldl (· + ·) last)

def printIPv4 (value : Nat) : String :=
  ".".intercalate ([3, 2, 1, 0].map fun i => toString (value / Nat.pow 256 i % 256))

/-- Reads an IPv4 address, which may end in a dot. -/
def parseIPv4 (domain : List Char) : Except ParseError String :=
  let parts := domain.splitOn '.'
  let parts := if parts.getLast? = some [] then parts.dropLast else parts
  match (parts.mapM ipv4Part?).bind ipv4Value? with
  | some value => .ok (printIPv4 value)
  | none => .error .invalidIPv4

/-- A decimal octet without leading zeros. -/
def octet? (cs : List Char) : Option Nat :=
  match cs with
  | [] => none
  | '0' :: _ :: _ => none
  | cs => (Text.numeral? 10 cs).filter (· ≤ 255)

/-- A group of one to four hexadecimal digits. -/
def group? (cs : List Char) : Option Nat :=
  if cs.isEmpty || 4 < cs.length then none else Text.numeral? 16 cs

/-- The groups of one side of an IPv6 address; the last may be written as an IPv4 address where
`dotted` allows it. -/
def groups? (dotted : Bool) (cs : List Char) : Option (List Nat) :=
  let parts := cs.splitOn ':'
  match parts.getLast? with
  | none => none
  | some last =>
    if dotted && last.contains '.' then do
      let front ← parts.dropLast.mapM group?
      match ← (last.splitOn '.').mapM octet? with
      | [a, b, c, d] => some (front ++ [a * 256 + b, c * 256 + d])
      | _ => none
    else parts.mapM group?

def splitDoubleColon : List Char → Option (List Char × List Char)
  | [] => none
  | ':' :: ':' :: rest => some ([], rest)
  | c :: rest => (splitDoubleColon rest).map fun (before, after) => (c :: before, after)

/-- The eight groups of an IPv6 address. A double colon stands for one or more groups of zero. -/
def ipv6Groups? (cs : List Char) : Option (List Nat) := do
  let groups ← match splitDoubleColon cs with
    | none => groups? true cs
    | some (before, after) =>
      let front ← if before.isEmpty then some [] else groups? false before
      let back ← if after.isEmpty then some [] else groups? true after
      if 7 < front.length + back.length then none
      else some (front ++ List.replicate (8 - front.length - back.length) 0 ++ back)
  if groups.length = 8 then some groups else none

def zeroRun (groups : List Nat) : Nat := (groups.takeWhile (· == 0)).length

/-- Where the first longest run of zeros starts, and its length. -/
def longestZeroRun (groups : List Nat) : Nat × Nat :=
  (List.range groups.length).foldl (fun best i =>
    let run := zeroRun (groups.drop i)
    if best.2 < run then (i, run) else best) (0, 0)

def printGroup (n : Nat) : String := String.ofList (Nat.toDigits 16 n)

/-- An IPv6 address, with the first longest run of at least two zeros as a double colon. -/
def printIPv6 (groups : List Nat) : String :=
  let (start, run) := longestZeroRun groups
  if run < 2 then ":".intercalate (groups.map printGroup)
  else
    ":".intercalate ((groups.take start).map printGroup) ++ "::" ++
      ":".intercalate ((groups.drop (start + run)).map printGroup)

def parseBracketed (cs : List Char) : Except ParseError String :=
  if cs.getLast? = some ']' then
    match ipv6Groups? cs.dropLast with
    | some groups => .ok ("[" ++ printIPv6 groups ++ "]")
    | none => .error .invalidIPv6
  else .error .invalidIPv6

def deniedInName : List Char :=
  ['\x00', '\t', '\n', '\r', ' ', '#', '/', ':', '<', '>', '?', '@', '[', '\\', ']', '^', '|']

/-- Reads a domain name or an address. Domain names are in lower case and in ASCII. -/
def parseDomain (cs : List Char) : Except ParseError String :=
  match cs with
  | '[' :: rest => parseBracketed rest
  | cs => do
    let some decoded := Text.ofUtf8? (decodeChars cs) | .error .invalidDomainName
    let some domain := Domain.toAscii? decoded.toList | .error .invalidDomainName
    if domain.isEmpty then .error .emptyHost
    else if endsInNumber domain then parseIPv4 domain
    else .ok (String.ofList domain)

/-- Reads a host without meaning, which keeps its case, or an IPv6 address. -/
def parseName (cs : List Char) : Except ParseError String :=
  match cs with
  | '[' :: rest => parseBracketed rest
  | cs =>
    if cs.any deniedInName.contains then .error .invalidHostCharacter
    else .ok (percentEncode .opaquePath (Text.utf8 (String.ofList cs)))

end Host

end Excerpt.Url
