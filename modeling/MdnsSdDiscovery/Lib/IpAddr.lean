import Mathlib.Data.List.Induction

/-!
# IP addresses

`IpAddr::from_str` of the standard library: four decimal octets without leading
zeros, or an IPv6 address of up to eight hexadecimal groups, of which one `::`
may replace a run of zero groups and an IPv4 address the last two.  Every
`read…` function returns what it read and the rest of the input.

Native calls give an address as a number in network order or as octets.
-/

namespace MdnsSdDiscovery

inductive IpAddr where
  | v4 (octets : Vector UInt8 4)
  | v6 (segments : Vector UInt16 8)
  deriving DecidableEq, Repr

namespace IpAddr

/-- `char::to_digit` -/
def toDigit (radix : Nat) (c : Char) : Option Nat :=
  let d :=
    if '0' ≤ c ∧ c ≤ '9' then some (c.toNat - '0'.toNat)
    else if 'a' ≤ c ∧ c ≤ 'f' then some (c.toNat - 'a'.toNat + 10)
    else if 'A' ≤ c ∧ c ≤ 'F' then some (c.toNat - 'A'.toNat + 10)
    else none
  d.filter (· < radix)

def readNumber (radix maxDigits limit : Nat) (allowZeroPrefix : Bool) (s : List Char) :
    Option (Nat × List Char) :=
  let ds := s.takeWhile fun c => (toDigit radix c).isSome
  let value := ds.foldl (fun n c => n * radix + (toDigit radix c).getD 0) 0
  if ds.length = 0 ∨ maxDigits < ds.length then none
  else if !allowZeroPrefix ∧ ds.head? = some '0' ∧ 1 < ds.length then none
  else if value < limit then some (value, s.drop ds.length)
  else none

/-- Every element but the first is read after the separator. -/
def readSeparator {α : Type} (sep : Char) (index : Nat)
    (inner : List Char → Option (α × List Char)) (s : List Char) : Option (α × List Char) :=
  if index = 0 then inner s
  else match s with
    | c :: s => if c = sep then inner s else none
    | [] => none

def readIpv4Addr (s : List Char) : Option (Vector UInt8 4 × List Char) := do
  let octet := readNumber 10 3 256 false
  let (a, s) ← readSeparator '.' 0 octet s
  let (b, s) ← readSeparator '.' 1 octet s
  let (c, s) ← readSeparator '.' 2 octet s
  let (d, s) ← readSeparator '.' 3 octet s
  return (#v[.ofNat a, .ofNat b, .ofNat c, .ofNat d], s)

/-- The two IPv6 groups of a trailing IPv4 address. -/
def ipv4Groups (octets : Vector UInt8 4) : List UInt16 :=
  [.ofNat (octets[0].toNat * 256 + octets[1].toNat),
    .ofNat (octets[2].toNat * 256 + octets[3].toNat)]

/-- Up to the given number of groups, the next of them with index `i`, whether
they end in an IPv4 address, and the rest of the input. -/
def readGroups : Nat → Nat → List Char → List UInt16 × Bool × List Char
  | 0, _, s => ([], false, s)
  | left + 1, i, s =>
    match if 0 < left then readSeparator ':' i readIpv4Addr s else none with
    | some (octets, s) => (ipv4Groups octets, true, s)
    | none =>
      match readSeparator ':' i (readNumber 16 4 65536 true) s with
      | some (g, s) =>
        let (gs, ipv4, s) := readGroups left (i + 1) s
        (UInt16.ofNat g :: gs, ipv4, s)
      | none => ([], false, s)

/-- The groups of an address: those before `::`, zeros, those behind it. -/
def segments (head tail : List UInt16) : Vector UInt16 8 :=
  Vector.ofFn fun i =>
    (head ++ List.replicate (8 - head.length - tail.length) 0 ++ tail).getD i.val 0

def readIpv6Addr (s : List Char) : Option (Vector UInt16 8 × List Char) :=
  match readGroups 8 0 s with
  | (head, ipv4, s) =>
    if head.length = 8 then some (segments head [], s)
    -- an IPv4 part is not allowed before `::`
    else if ipv4 then none
    else match s with
      | ':' :: ':' :: s =>
        let (tail, _, s) := readGroups (8 - (head.length + 1)) 0 s
        some (segments head tail, s)
      | _ => none

/-- `IpAddr::from_str`, without the error it returns. -/
def fromStr (s : String) : Option IpAddr :=
  match readIpv4Addr s.toList with
  | some (octets, rest) => if rest = [] then some (.v4 octets) else none
  | none =>
    match readIpv6Addr s.toList with
    | some (segments, rest) => if rest = [] then some (.v6 segments) else none
    | none => none

example : fromStr "192.168.1.10" = some (.v4 #v[192, 168, 1, 10]) := by decide

example : fromStr "fe80::1" = some (.v6 #v[0xfe80, 0, 0, 0, 0, 0, 0, 1]) := by decide

/-! ## Native addresses -/

/-- `u32::from_be` on a little-endian machine. -/
def fromBe (raw : UInt32) : UInt32 :=
  let mask : UInt32 := 0xFF00
  (raw <<< 24) ||| ((raw &&& mask) <<< 8) ||| ((raw >>> 8) &&& mask) ||| (raw >>> 24)

/-- `Ipv4Addr::from` a number. -/
def ipv4FromU32 (n : UInt32) : IpAddr :=
  .v4 #v[(n >>> 24).toUInt8, (n >>> 16).toUInt8, (n >>> 8).toUInt8, n.toUInt8]

/-- `Ipv6Addr::from` the octets. -/
def ipv6FromOctets (octets : Vector UInt8 16) : IpAddr :=
  .v6 (Vector.ofFn fun i => octets[2 * i.val].toUInt16 <<< 8 ||| octets[2 * i.val + 1].toUInt16)

example : ipv4FromU32 (fromBe 0x0A01A8C0) = .v4 #v[192, 168, 1, 10] := by decide

end IpAddr

end MdnsSdDiscovery
