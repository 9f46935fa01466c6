import Wab.Query.Encoding

/-!
# Hosts of references

Which texts may stand as the host part of a reference: square brackets enclose an address of version
6 or later with nothing in front but a user and nothing behind but what a colon begins, and no
character may look like one of the delimiters of a reference.

* **`Uri.Error`**: why a text is no reference.
* **`Uri.isIPv4`**, **`Uri.isIPv6`**: the two forms of addresses.
* **`Uri.checkHost`**: the host part is in order.
-/

namespace Wab.Uri

/-- Why a text is no reference. -/
inductive Error where
  /-- The host part has a square bracket out of place. -/
  | misplacedBrackets
  /-- An address of a future version is malformed. -/
  | futureAddress
  /-- An address of version 4 stands in brackets. -/
  | bracketedIPv4
  /-- What stands in brackets is no address. -/
  | noAddress (host : Text)
  /-- The host part holds a character that stands for a delimiter in compatibility. -/
  | deceptiveHost (host : Text)
  deriving DecidableEq, Repr

/-- The error in words. -/
def Error.message : Error → String
  | misplacedBrackets => "Invalid IPv6 URL"
  | futureAddress => "IPvFuture address is invalid"
  | bracketedIPv4 => "An IPv4 address cannot be in brackets"
  | noAddress host => s!"{Text.quoted host} does not appear to be an IPv4 or IPv6 address"
  | deceptiveHost host =>
    s!"netloc '{Text.str host}' contains invalid characters under NFKC normalization"

/-- A decimal number up to 255 without leading zeros. -/
def isOctet (s : Text) : Bool :=
  !s.isEmpty && s.all CodePoint.isDigit && s.length ≤ 3
    && (s.length == 1 || s.head? != some (.scalar '0'))
    && s.foldl (fun n c => n * 10 + (c.toNat - '0'.toNat)) 0 ≤ 255

/-- An address of version 4: four octets. -/
def isIPv4 (s : Text) : Bool :=
  let octets := s.splitOn (.scalar '.')
  octets.length == 4 && octets.all isOctet

/-- One to four hexadecimal digits. -/
def isGroup (s : Text) : Bool := !s.isEmpty && s.length ≤ 4 && s.all Query.isHexDigit

/-- The groups between colons, none in an empty text. -/
def groups (s : Text) : List Text := if s.isEmpty then [] else s.splitOn (.scalar ':')

/-- The address with an address of version 4 at its end written as two groups. -/
def withoutIPv4? (s : Text) : Option Text :=
  let parts := s.splitOn (.scalar ':')
  let last := parts.getLast?.getD []
  if .scalar '.' ∈ last then
    let two : List Text := [['0'], ['0']]
    if isIPv4 last then some (List.intercalate [':'] (parts.dropLast ++ two)) else none
  else some s

/-- Eight groups, or up to seven with two colons in the place of the missing ones. -/
def isGroups (s : Text) : Bool :=
  match Text.cut? [':', ':'] s with
  | none => (groups s).length == 8 && (groups s).all isGroup
  | some (left, right) =>
    (groups left).length + (groups right).length ≤ 7 && (groups left).all isGroup
      && (groups right).all isGroup

/-- An address of version 6, after which a percent sign and a zone may stand. -/
def isIPv6 (s : Text) : Bool :=
  let (address, zoneOk) := match Text.cut? ['%'] s with
    | some (address, zone) => (address, !zone.isEmpty && !zone.contains '%')
    | none => (s, true)
  zoneOk && match withoutIPv4? address with
    | some address => isGroups address
    | none => false

/-- An address of a future version: its number in hexadecimal digits, a point, and anything. -/
def isFutureAddress (s : Text) : Bool :=
  match s with
  | 'v' :: rest =>
    match Text.cut? ['.'] rest with
    | some (version, address) =>
      !version.isEmpty && version.all Query.isHexDigit && !address.isEmpty && !address.contains '\n'
    | none => false
  | _ => false

/-- What stands in brackets is an address. -/
def checkBracketed (host : Text) : Except Error Unit :=
  if host.head? = some (.scalar 'v') then
    if isFutureAddress host then .ok () else .error .futureAddress
  else if isIPv4 host then .error .bracketedIPv4
  else if isIPv6 host then .ok ()
  else .error (.noAddress host)

/-- The host part behind the name of a user, which ends at the last at sign. -/
def afterUser (host : Text) : Text := (host.reverse.takeWhile (· ≠ .scalar '@')).reverse

/-- What stands in the brackets of a host part without user is an address, and next to them there is
nothing but what a colon begins. Without brackets, what stands in front of a colon must be an
address. -/
def checkAddress (host : Text) : Except Error Unit :=
  match Text.cut? ['['] host with
  | some (before, after) =>
    let (address, rest) := after.span (· ≠ .scalar ']')
    let behind := rest.drop 1
    if !before.isEmpty || (!behind.isEmpty && behind.head? ≠ some (.scalar ':')) then
      .error .misplacedBrackets
    else checkBracketed address
  | none => checkBracketed (host.takeWhile (· ≠ .scalar ':'))

/-- The brackets of a host part are in order. -/
def checkBrackets (host : Text) : Except Error Unit :=
  match host.contains '[', host.contains ']' with
  | true, true => checkAddress (afterUser host)
  | false, false => .ok ()
  | _, _ => .error .misplacedBrackets

/-- The characters whose compatibility decomposition holds one of the delimiters `/`, `?`, `#`, `@`
and `:`. -/
def deceptive : Text :=
  ['\u2047', '\u2048', '\u2049', '\u2100', '\u2101', '\u2105', '\u2106', '\u2a74', '\ufe13',
   '\ufe16', '\ufe55', '\ufe56', '\ufe5f', '\ufe6b', '\uff03', '\uff0f', '\uff1a', '\uff1f',
   '\uff20']

/-- No code point of the host part looks like a delimiter. -/
def checkPlain (host : Text) : Except Error Unit :=
  if host.any deceptive.contains then .error (.deceptiveHost host) else .ok ()

example : isIPv6 "::1.2.3.4%eth0" = true := by decide +kernel

example : (checkBrackets "u@[::1]:80").toOption = some () := by decide +kernel

example : (checkBrackets "[::1]x").toOption = none := by decide +kernel

example : isIPv6 "1::2::3" = false ∧ isIPv6 ":1:2:3:4:5:6:7:8" = false := by
  decide +kernel

end Wab.Uri
