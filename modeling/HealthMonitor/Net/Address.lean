import HealthMonitor.Text.Numeral
import HealthMonitor.Text.Split

/-!
# Network addresses

Literal addresses of both families, with or without a port: how they are read
and how they are shown.  A text is taken apart at its separators, so each rule
of the notation is a condition on the parts.
-/

namespace HealthMonitor.Net

/-- An address of four octets. -/
structure Ipv4 where
  octets : Vector UInt8 4
  deriving DecidableEq, Repr

namespace Ipv4

/-- An octet has at most three digits, and no zero before another digit. -/
def octet? (cs : List Char) : Option UInt8 := do
  let value ← Text.digits? cs
  if cs.length ≤ 3 ∧ value ≤ 255 ∧ (cs.length ≤ 1 ∨ cs.head? ≠ some '0') then
    return UInt8.ofNat value
  else none

def ofChars? (cs : List Char) : Option Ipv4 := do
  let octets ← (Text.splitAt '.' cs).mapM octet?
  if h : octets.length = 4 then return ⟨⟨octets.toArray, by simpa using h⟩⟩
  else none

def chars (address : Ipv4) : List Char :=
  Text.joined '.' (address.octets.toList.map fun octet => Nat.toDigits 10 octet.toNat)

end Ipv4

/-- An address of eight groups of 16 bits. -/
structure Ipv6 where
  groups : Vector UInt16 8
  deriving DecidableEq, Repr

namespace Ipv6

/-- A group has one to four digits in base sixteen. -/
def group? (cs : List Char) : Option UInt16 := do
  if cs.isEmpty ∨ 4 < cs.length then none
  let digits ← cs.mapM Text.hexDigit?
  return UInt16.ofNat (digits.foldl (fun value digit => 16 * value + digit) 0)

/-- An address of four octets as the two groups it fills. -/
def groupsOfIpv4 (address : Ipv4) : List UInt16 :=
  let pair := fun high low : UInt8 => UInt16.ofNat (256 * high.toNat + low.toNat)
  [pair address.octets[0] address.octets[1], pair address.octets[2] address.octets[3]]

/-- The groups of parts between colons.  The last part of an address may be
written as an address of four octets. -/
def groupsOfParts? (final : Bool) : List (List Char) → Option (List UInt16)
  | [] => some []
  | [part] =>
      match group? part with
      | some group => some [group]
      | none => if final then (Ipv4.ofChars? part).map groupsOfIpv4 else none
  | part :: rest => do
      let group ← group? part
      let groups ← groupsOfParts? final rest
      return group :: groups

def groupsOfChars? (final : Bool) (cs : List Char) : Option (List UInt16) :=
  if cs.isEmpty then some [] else groupsOfParts? final (Text.splitAt ':' cs)

/-- What stands before and after the first double colon, if there is one. -/
def splitAtGap? : List Char → Option (List Char × List Char)
  | ':' :: ':' :: rest => some ([], rest)
  | c :: rest => (splitAtGap? rest).map fun (before, after) => (c :: before, after)
  | [] => none

def ofGroups? (groups : List UInt16) : Option Ipv6 :=
  if h : groups.length = 8 then some ⟨⟨groups.toArray, by simpa using h⟩⟩ else none

/-- Eight groups, or fewer around a double colon that stands for the zeros
missing, of which there is at least one. -/
def ofChars? (cs : List Char) : Option Ipv6 :=
  match splitAtGap? cs with
  | none => (groupsOfChars? true cs).bind ofGroups?
  | some (before, after) => do
      let front ← groupsOfChars? false before
      let back ← groupsOfChars? true after
      let given := front.length + back.length
      if given ≤ 7 then ofGroups? (front ++ List.replicate (8 - given) 0 ++ back) else none

/-- How many zeros stand at the front. -/
def leadingZeros (groups : List UInt16) : Nat :=
  (groups.takeWhile (· == 0)).length

/-- The place and length of the longest run of zeros, the first of several. -/
def longestZeros (groups : List UInt16) : Nat × Nat :=
  (List.range groups.length).foldl
    (fun best place =>
      let length := leadingZeros (groups.drop place)
      if best.2 < length then (place, length) else best)
    (0, 0)

def groupChars (groups : List UInt16) : List Char :=
  Text.joined ':' (groups.map fun group => Text.hexDigits group.toNat)

/-- The address of four octets that an address stands for, if its first six
groups say that it does. -/
def mapped? (address : Ipv6) : Option Ipv4 :=
  match address.groups.toList with
  | [0, 0, 0, 0, 0, 0xFFFF, a, b] =>
      some ⟨#v[(a / 256).toUInt8, a.toUInt8, (b / 256).toUInt8, b.toUInt8]⟩
  | _ => none

/-- The groups with a double colon for the longest run of two zeros or more. -/
def chars (address : Ipv6) : List Char :=
  match address.mapped? with
  | some inner => "::ffff:".toList ++ inner.chars
  | none =>
      let groups := address.groups.toList
      let (place, length) := longestZeros groups
      if length ≤ 1 then groupChars groups
      else groupChars (groups.take place) ++ [':', ':'] ++ groupChars (groups.drop (place + length))

end Ipv6

inductive Address where
  | v4 (address : Ipv4)
  | v6 (address : Ipv6)
  deriving DecidableEq, Repr

def Address.ofText? (s : String) : Option Address :=
  match Ipv4.ofChars? s.toList with
  | some address => some (.v4 address)
  | none => (Ipv6.ofChars? s.toList).map .v6

/-- An address and a port on it. -/
structure Endpoint where
  address : Address
  port : Nat
  deriving DecidableEq, Repr

namespace Endpoint

def text (endpoint : Endpoint) : String :=
  let port := ":" ++ toString endpoint.port
  match endpoint.address with
  | .v4 address => String.ofList address.chars ++ port
  | .v6 address => "[" ++ String.ofList address.chars ++ "]" ++ port

/-- A literal address and a port of digits only; an address of eight groups
stands in brackets. -/
def ofText? (s : String) : Option Endpoint := do
  let (host, port) ← Text.splitAtLast? ':' s.toList
  let port ← (Text.digits? port).filter (· ≤ Text.maxWord16)
  match host with
  | '[' :: inner => do
      let (inner, after) ← Text.splitAtLast? ']' inner
      if after.isEmpty then return ⟨.v6 (← Ipv6.ofChars? inner), port⟩ else none
  | host => return ⟨.v4 (← Ipv4.ofChars? host), port⟩

end Endpoint

/-- Why a text names no endpoint. -/
inductive EndpointError where
  | malformed
  | port
  | unknownHost
  deriving DecidableEq, Repr

def EndpointError.text : EndpointError → String
  | malformed => "invalid socket address"
  | port => "invalid port value"
  | unknownHost => "failed to lookup address information: Name or service not known"

/-- The addresses that names stand for, as far as they are known. -/
abbrev Names := String → Option Address

/-- A host is a literal address, or else a known name; an empty one and one
with a NUL in it are neither. -/
def addressOf? (names : Names) (host : String) : Option Address :=
  if host.isEmpty ∨ '\x00' ∈ host.toList then none
  else (Address.ofText? host).or (names host)

/-- The endpoint of a text `host:port`, where the host may be any name. -/
def endpointOf (names : Names) (s : String) : Except EndpointError Endpoint :=
  match Endpoint.ofText? s with
  | some endpoint => .ok endpoint
  | none =>
      match Text.splitAtLast? ':' s.toList with
      | none => .error .malformed
      | some (host, port) =>
          match Text.unsigned? Text.maxWord16 port with
          | none => .error .port
          | some port =>
              match addressOf? names (String.ofList host) with
              | some address => .ok ⟨address, port⟩
              | none => .error .unknownHost

end HealthMonitor.Net
