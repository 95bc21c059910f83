import PacketTunnel.Text.Numeral

/-!
# Internet addresses

IPv4 and IPv6 addresses with their text forms. An IPv4 address is four decimal octets without
leading zeros. An IPv6 address is eight groups of up to four hexadecimal digits; one run of zero
groups may be left out, and the last two groups may be written as an IPv4 address. In the printed
form the longest run of at least two zero groups is left out, the first of several equal ones, and
only IPv4-mapped addresses end in an IPv4 address.
-/

namespace PacketTunnel.Net

open Text

/-- Take one given character from the front of a text. -/
def expectChar? (c : Char) : List Char → Option (List Char)
  | d :: rest => if d = c then some rest else none
  | [] => none

/-- An IPv4 address. -/
structure Ipv4 where
  /-- The first octet. -/
  a : UInt8
  /-- The second octet. -/
  b : UInt8
  /-- The third octet. -/
  c : UInt8
  /-- The fourth octet. -/
  d : UInt8
  deriving DecidableEq, Repr

namespace Ipv4

/-- The four octets in order. -/
def octets (x : Ipv4) : List UInt8 := [x.a, x.b, x.c, x.d]

/-- The address of the first four octets of a list, missing ones as zero. -/
def ofOctets (l : List UInt8) : Ipv4 := ⟨l.getD 0 0, l.getD 1 0, l.getD 2 0, l.getD 3 0⟩

/-- Four octets give their address back. -/
@[simp] theorem ofOctets_octets (x : Ipv4) : ofOctets x.octets = x := rfl

/-- The printed form, as a list of characters. -/
def chars (x : Ipv4) : List Char :=
  Numeral.decimal x.a.toNat ++ '.' :: Numeral.decimal x.b.toNat
    ++ '.' :: Numeral.decimal x.c.toNat ++ '.' :: Numeral.decimal x.d.toNat

/-- What an octet must keep to. -/
def octetLimits : Numeral.Limits := ⟨10, some 3, false, 256⟩

/-- An octet at the front of a text. -/
def readOctet? (text : List Char) : Option (UInt8 × List Char) := do
  let (n, rest) ← Numeral.read? octetLimits text
  some (n.toUInt8, rest)

/-- An address at the front of a text. -/
def read? (text : List Char) : Option (Ipv4 × List Char) := do
  let (a, text) ← readOctet? text
  let (b, text) ← readOctet? (← expectChar? '.' text)
  let (c, text) ← readOctet? (← expectChar? '.' text)
  let (d, text) ← readOctet? (← expectChar? '.' text)
  some (⟨a, b, c, d⟩, text)

end Ipv4

/-- An IPv6 address. -/
structure Ipv6 where
  /-- The eight groups in order. -/
  groups : Vector UInt16 8
  deriving DecidableEq, Repr

namespace Ipv6

/-- The address of the first eight groups of a list, missing ones as zero. -/
def ofGroups (l : List UInt16) : Ipv6 := ⟨Vector.ofFn fun i => l.getD i.val 0⟩

/-- Two octets as one group, the first octet above the second. -/
def group (high low : UInt8) : UInt16 := (high.toNat * 256 + low.toNat).toUInt16

/-- The address of the first sixteen octets of a list, missing ones as zero. -/
def ofOctets (l : List UInt8) : Ipv6 :=
  ⟨Vector.ofFn fun i => group (l.getD (2 * i.val) 0) (l.getD (2 * i.val + 1) 0)⟩

/-- The sixteen octets in order. -/
def octets (x : Ipv6) : List UInt8 :=
  x.groups.toList.flatMap fun g => [(g.toNat / 256).toUInt8, g.toNat.toUInt8]

/-- The IPv4 address that an IPv4-mapped address stands for. -/
def mapped? (x : Ipv6) : Option Ipv4 :=
  match x.groups.toList with
  | [0, 0, 0, 0, 0, 0xffff, g, h] => some (Ipv4.ofOctets
      [(g.toNat / 256).toUInt8, g.toNat.toUInt8, (h.toNat / 256).toUInt8, h.toNat.toUInt8])
  | _ => none

/-- A run of zero groups. -/
structure Run where
  /-- The place of its first group. -/
  start : Nat
  /-- How many groups it has. -/
  length : Nat
  deriving DecidableEq, Repr

/-- The longest run of zero groups, the first of equal ones: `here` is the place of the next group,
`current` the run that ends before it and `best` the best run so far. -/
def longestRun (here : Nat) (current best : Run) : List UInt16 → Run
  | [] => best
  | g :: rest =>
    if g = 0 then
      let grown : Run :=
        if current.length = 0 then ⟨here, 1⟩ else ⟨current.start, current.length + 1⟩
      longestRun (here + 1) grown (if best.length < grown.length then grown else best) rest
    else longestRun (here + 1) ⟨0, 0⟩ best rest

/-- Groups in hexadecimal, joined by colons. -/
def joined : List UInt16 → List Char
  | [] => []
  | [g] => Numeral.hexadecimal g.toNat
  | g :: rest => Numeral.hexadecimal g.toNat ++ ':' :: joined rest

/-- The printed form, as a list of characters. -/
def chars (x : Ipv6) : List Char :=
  match x.mapped? with
  | some quad => ':' :: ':' :: 'f' :: 'f' :: 'f' :: 'f' :: ':' :: quad.chars
  | none =>
    let groups := x.groups.toList
    let run := longestRun 0 ⟨0, 0⟩ ⟨0, 0⟩ groups
    if run.length > 1 then
      joined (groups.take run.start) ++ ':' :: ':' :: joined (groups.drop (run.start + run.length))
    else joined groups

/-- What a group must keep to. -/
def groupLimits : Numeral.Limits := ⟨16, some 4, true, 65536⟩

/-- Step over the colon in front of every group but the first. -/
def readColon? (first : Bool) (text : List Char) : Option (List Char) :=
  if first then some text else expectChar? ':' text

/-- One group at the front of a text. -/
def readGroup? (first : Bool) (text : List Char) : Option (UInt16 × List Char) := do
  let (n, rest) ← Numeral.read? groupLimits (← readColon? first text)
  some (n.toUInt16, rest)

/-- Two groups at the front of a text that are written as an IPv4 address. -/
def readQuad? (first : Bool) (text : List Char) : Option (List UInt16 × List Char) := do
  let (x, rest) ← Ipv4.read? (← readColon? first text)
  some ([group x.a x.b, group x.c x.d], rest)

/-- The groups at the front of a text, at most `room` of them, whether the last two were written as
an IPv4 address, and the text behind them. -/
def readGroups : (room : Nat) → (first : Bool) → List Char → List UInt16 × Bool × List Char
  | 0, _, text => ([], false, text)
  | room + 1, first, text =>
    match (if 1 ≤ room then readQuad? first text else none) with
    | some (quad, rest) => (quad, true, rest)
    | none =>
      match readGroup? first text with
      | none => ([], false, text)
      | some (g, rest) =>
        let (groups, isQuad, rest) := readGroups room false rest
        (g :: groups, isQuad, rest)

/-- An address at the front of a text. -/
def read? (text : List Char) : Option (Ipv6 × List Char) :=
  let (head, isQuad, text) := readGroups 8 true text
  if head.length = 8 then some (ofGroups head, text)
  else if isQuad then none
  else do
    let text ← expectChar? ':' (← expectChar? ':' text)
    let (tail, _, text) := readGroups (7 - head.length) true text
    some (ofGroups (head ++ List.replicate (8 - head.length - tail.length) 0 ++ tail), text)

end Ipv6

/-- An internet address of either family. -/
inductive Address where
  /-- An IPv4 address. -/
  | v4 (address : Ipv4)
  /-- An IPv6 address. -/
  | v6 (address : Ipv6)
  deriving DecidableEq, Repr

namespace Address

/-- The printed form, as a list of characters. -/
def chars : Address → List Char
  | v4 x => x.chars
  | v6 x => x.chars

/-- The printed form. -/
def text (x : Address) : String := String.ofList x.chars

/-- An address at the front of a text. -/
def read? (text : List Char) : Option (Address × List Char) :=
  match Ipv4.read? text with
  | some (x, rest) => some (v4 x, rest)
  | none => (Ipv6.read? text).map fun (x, rest) => (v6 x, rest)

/-- The address that a whole text stands for. -/
def parse? (text : String) : Option Address :=
  match read? text.toList with
  | some (x, []) => some x
  | _ => none

/-- What is said of a text that is no address. -/
def syntaxMessage : String := "invalid IP address syntax"

end Address

end PacketTunnel.Net
