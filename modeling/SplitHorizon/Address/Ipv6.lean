/-
IPv6 addresses and their text.

An address is eight groups of sixteen bits.  A text may leave out one run of
zero groups by two colons and may write the last two groups as a dotted IPv4
address.  The printer leaves out the first of the longest runs of two or more
zero groups and writes the addresses that stand for IPv4 ones in mixed form.
-/
import SplitHorizon.Address.Ipv4

namespace SplitHorizon

structure Ipv6 where
  groups : List UInt16
  length_eq : groups.length = 8
deriving DecidableEq, Repr

namespace Ipv6

/-- The address of eight groups, and of no other count. -/
def ofGroups? (groups : List UInt16) : Option Ipv6 :=
  if h : groups.length = 8 then some { groups := groups, length_eq := h } else none

/-- A group: one to four hexadecimal digits, zeros in front allowed. -/
def readGroup (cs : List Char) : Option (UInt16 × List Char) :=
  let (digits, rest) := Text.spanDigits 16 cs
  if digits = [] ∨ 4 < digits.length then none
  else some (UInt16.ofNat (Text.numeralValue 16 digits), rest)

/-- Steps over the colon that stands before every group but the first. -/
def skipColon (first : Bool) (cs : List Char) : Option (List Char) :=
  if first then some cs
  else match cs with
    | ':' :: rest => some rest
    | _ => none

def groupsOfIpv4 (ip : Ipv4) : List UInt16 :=
  [UInt16.ofNat (ip.b0.toNat * 256 + ip.b1.toNat),
   UInt16.ofNat (ip.b2.toNat * 256 + ip.b3.toNat)]

/-- Groups joined by colons, at most `room` of them.  A dotted address is tried
before each group while two groups are left, and ends the run; the flag says
whether it did. -/
def readGroups : (room : Nat) → (first : Bool) → List Char →
    List UInt16 × Bool × List Char
  | 0, _, cs => ([], false, cs)
  | room + 1, first, cs =>
    let dotted := if room = 0 then none else (skipColon first cs).bind Ipv4.read?
    match dotted with
    | some (ip, rest) => (groupsOfIpv4 ip, true, rest)
    | none =>
      match (skipColon first cs).bind readGroup with
      | none => ([], false, cs)
      | some (group, rest) =>
        let (groups, ended, rest) := readGroups room false rest
        (group :: groups, ended, rest)

/-- An address in front of a text, and what follows it.  Two colons stand for
at least one group of zeros, and a dotted address may not stand before them. -/
def read? (cs : List Char) : Option (Ipv6 × List Char) :=
  let (front, dotted, rest) := readGroups 8 true cs
  if h : front.length = 8 then some ({ groups := front, length_eq := h }, rest)
  else if dotted then none
  else match rest with
    | ':' :: ':' :: rest =>
      let (back, _, rest) := readGroups (7 - front.length) true rest
      let zeros := List.replicate (8 - front.length - back.length) 0
      (ofGroups? (front ++ zeros ++ back)).map (·, rest)
    | _ => none

/-- The two bytes of a group, the higher one first. -/
def bytesOfGroup (g : UInt16) : List UInt8 :=
  [(g >>> 8).toUInt8, g.toUInt8]

/-- The IPv4 address that an address of the form `::ffff:a.b.c.d` stands for. -/
def toIpv4? (ip : Ipv6) : Option Ipv4 :=
  if ip.groups.take 6 = [0, 0, 0, 0, 0, 0xFFFF] then
    Ipv4.ofBytes? ((ip.groups.drop 6).flatMap bytesOfGroup)
  else none

def zerosInFront : List UInt16 → Nat
  | [] => 0
  | g :: rest => if g = 0 then zerosInFront rest + 1 else 0

/-- Start and length of the longest run of zero groups, the first of several;
the number is the position of the list's head. -/
def longestZeros : Nat → List UInt16 → Nat × Nat
  | _, [] => (0, 0)
  | i, g :: rest =>
    let here := zerosInFront (g :: rest)
    let later := longestZeros (i + 1) rest
    if here = 0 ∨ here < later.2 then later else (i, here)

def joinGroups : List UInt16 → List Char
  | [] => []
  | [g] => Text.hexChars g.toNat
  | g :: rest => Text.hexChars g.toNat ++ ':' :: joinGroups rest

def chars (ip : Ipv6) : List Char :=
  match ip.toIpv4? with
  | some v4 => [':', ':', 'f', 'f', 'f', 'f', ':'] ++ v4.chars
  | none =>
    let (start, count) := longestZeros 0 ip.groups
    if 1 < count then
      joinGroups (ip.groups.take start) ++ ':' :: ':' :: joinGroups (ip.groups.drop (start + count))
    else joinGroups ip.groups

def text (ip : Ipv6) : String :=
  String.ofList ip.chars

end Ipv6
end SplitHorizon
