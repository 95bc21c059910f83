import PacketTunnel.Decimal.Shortest
import PacketTunnel.Json.Fault
import PacketTunnel.Text.Utf8

/-!
# Scanning JSON texts

A cursor is what is left of a text with the number of bytes in front of it. The scanners here go
over the tokens that have a length of their own: blanks, words, strings and numbers. A string is
read in one pass: bytes that are no character are noticed on the way and reported at the closing
quote, so that any other fault of the string comes first.
-/

namespace PacketTunnel.Json

open Text Decimal

/-- A place in a text. -/
structure Cursor where
  /-- The bytes not yet read. -/
  rest : List UInt8
  /-- How many bytes were read. -/
  offset : Nat
  deriving DecidableEq, Repr

namespace Cursor

/-- The beginning of a text. -/
def start (text : List UInt8) : Cursor := ⟨text, 0⟩

/-- Step over some bytes. -/
def skip (c : Cursor) (n : Nat) : Cursor := ⟨c.rest.drop n, c.offset + n⟩

/-- The place behind the next byte, or the end. -/
def peekPlace (c : Cursor) : Nat := if c.rest.isEmpty then c.offset else c.offset + 1

end Cursor

/-- Whether a byte separates tokens. -/
def isSpace (b : UInt8) : Bool := b = 0x20 || b = 0x0a || b = 0x09 || b = 0x0d

/-- Step over the blanks at the front. -/
def skipSpaces : List UInt8 → (offset : Nat) → Cursor
  | [], offset => ⟨[], offset⟩
  | b :: rest, offset => if isSpace b then skipSpaces rest (offset + 1) else ⟨b :: rest, offset⟩

/-- Whether a byte is a decimal digit. -/
def isDigit (b : UInt8) : Bool := 0x30 ≤ b && b ≤ 0x39

/-- The value of a hexadecimal digit. -/
def hexDigit? (b : UInt8) : Option Nat := Numeral.digit? 16 (Char.ofNat b.toNat)

/-- The rest of a word, letter by letter. -/
def scanWord (letters : List UInt8) (c : Cursor) : Except Fault Cursor :=
  match letters with
  | [] => .ok c
  | letter :: letters =>
    match c.rest with
    | [] => .error (.at_ .endInValue c.offset)
    | b :: _ =>
      if b = letter then scanWord letters (c.skip 1)
      else .error (.at_ .expectedWord (c.offset + 1))

/-- The number of four hexadecimal digits. -/
def scanHex (c : Cursor) : Except Fault (Nat × Cursor) :=
  match c.rest with
  | a :: b :: d :: e :: _ =>
    match hexDigit? a, hexDigit? b, hexDigit? d, hexDigit? e with
    | some a, some b, some d, some e => .ok (((a * 16 + b) * 16 + d) * 16 + e, c.skip 4)
    | _, _, _, _ => .error (.at_ .invalidEscape (c.offset + 4))
  | rest => .error (.at_ .endInString (c.offset + rest.length))

/-- One given byte inside a surrogate pair. -/
def scanPairByte (wanted : UInt8) (c : Cursor) : Except Fault Cursor :=
  match c.rest with
  | [] => .error (.at_ .endInString c.offset)
  | b :: _ =>
    if b = wanted then .ok (c.skip 1) else .error (.at_ .endOfHexEscape (c.offset + 1))

/-- The character of an escape by code, behind its `u`. -/
def scanCode (c : Cursor) : Except Fault (Char × Cursor) := do
  let (high, c) ← scanHex c
  if 0xdc00 ≤ high ∧ high ≤ 0xdfff then .error (.at_ .loneSurrogate c.offset)
  else if high < 0xd800 ∨ 0xdbff < high then .ok (Char.ofNat high, c)
  else do
    let c ← scanPairByte 0x5c c
    let c ← scanPairByte 0x75 c
    let (low, c) ← scanHex c
    if 0xdc00 ≤ low ∧ low ≤ 0xdfff then
      .ok (Char.ofNat ((high - 0xd800) * 1024 + (low - 0xdc00) + 0x10000), c)
    else .error (.at_ .loneSurrogate c.offset)

/-- The character of an escape of one letter. -/
def shortEscape? (b : UInt8) : Option Char :=
  if b = 0x22 then some '\x22'
  else if b = 0x5c then some '\\'
  else if b = 0x2f then some '/'
  else if b = 0x62 then some '\x08'
  else if b = 0x66 then some '\x0c'
  else if b = 0x6e then some '\n'
  else if b = 0x72 then some '\r'
  else if b = 0x74 then some '\t'
  else none

/-- The character of an escape, behind its backslash. -/
def scanEscape (c : Cursor) : Except Fault (Char × Cursor) :=
  match c.rest with
  | [] => .error (.at_ .endInString c.offset)
  | b :: _ =>
    match shortEscape? b with
    | some x => .ok (x, c.skip 1)
    | none =>
      if b = 0x75 then scanCode (c.skip 1) else .error (.at_ .invalidEscape (c.offset + 1))

/-- The rest of a string behind its opening quote: `read` holds the characters so far in reverse,
`size` counts the bytes of the contents so far, and `bad` those in front of the first byte that is
no character. The place of that byte is counted back from the closing quote, and an escape counts as
the bytes of its character. -/
def scanString (rest : List UInt8) (offset : Nat) (read : List Char) (size : Nat)
    (bad : Option Nat) : Except Fault (List Char × Cursor) :=
  match rest with
  | [] => .error (.at_ .endInString offset)
  | b :: tail =>
    if b = 0x22 then
      match bad with
      | some sound => .error (.at_ .invalidCodePoint (offset + 1 - (size - sound)))
      | none => .ok (read.reverse, ⟨tail, offset + 1⟩)
    else if b = 0x5c then
      match scanEscape ⟨tail, offset + 1⟩ with
      | .error f => .error f
      | .ok (x, c) =>
        scanString (tail.drop (c.offset - (offset + 1))) c.offset (x :: read) (size + x.utf8Size)
          bad
    else if b < 0x20 then .error (.at_ .controlCharacter (offset + 1))
    else match Utf8.front? (b :: tail) with
      | some x =>
        scanString ((b :: tail).drop x.utf8Size) (offset + x.utf8Size) (x :: read)
          (size + x.utf8Size) bad
      | none => scanString tail (offset + 1) read (size + 1) (some (bad.getD size))
termination_by rest.length
decreasing_by
  · simp only [List.length_drop, List.length_cons]
    omega
  · have := x.utf8Size_pos
    simp only [List.length_drop, List.length_cons]
    omega
  · simp only [List.length_cons]
    omega

/-- Step over an escape behind its backslash without asking which character it is. -/
def skipEscape (c : Cursor) : Except Fault Cursor :=
  match c.rest with
  | [] => .error (.at_ .endInString c.offset)
  | b :: _ =>
    if (shortEscape? b).isSome then .ok (c.skip 1)
    else if b = 0x75 then (scanHex (c.skip 1)).map (·.2)
    else .error (.at_ .invalidEscape (c.offset + 1))

/-- Step over the rest of a string without asking for its characters. -/
def skipString (rest : List UInt8) (offset : Nat) : Except Fault Cursor :=
  match rest with
  | [] => .error (.at_ .endInString offset)
  | b :: tail =>
    if b = 0x22 then .ok ⟨tail, offset + 1⟩
    else if b = 0x5c then
      match skipEscape ⟨tail, offset + 1⟩ with
      | .error f => .error f
      | .ok c => skipString (tail.drop (c.offset - (offset + 1))) c.offset
    else if b < 0x20 then .error (.at_ .controlCharacter offset)
    else skipString tail (offset + 1)
termination_by rest.length
decreasing_by
  · simp only [List.length_drop, List.length_cons]
    omega
  · simp only [List.length_cons]
    omega

/-- A number that was read. -/
inductive Number where
  /-- A whole number. -/
  | integer (value : Int)
  /-- A number in double precision, with its sign. -/
  | float (negative : Bool) (value : Double)
  deriving DecidableEq, Repr

/-- A number as a thing found. -/
def Number.found : Number → Shape.Found
  | integer value => .integer value
  | float negative value =>
    let digits := (Shortest.ofDouble .even value).compact
    .float (String.ofList (if negative then '-' :: digits else digits))

/-- Digits gathered into a significand of 64 bits: the significand, how many digits went into it,
and how many were left over once one did not fit. -/
def gather (significand taken : Nat) : List UInt8 → Nat × Nat × Nat
  | [] => (significand, taken, 0)
  | b :: rest =>
    let next := significand * 10 + (b.toNat - 48)
    if next < 1 <<< 64 then gather next (taken + 1) rest else (significand, taken, rest.length + 1)

/-- The number `f` divided by ten to the power `k`, in steps that double precision can take. -/
def scaleDown (f : Double) (k : Nat) : Double :=
  if f.isZero then f
  else if h : k ≤ 308 then (divPower f k).getD f
  else scaleDown ((divPower f 308).getD f) (k - 308)
termination_by k
where
  /-- One division by a power of ten, rounded. -/
  divPower (f : Double) (k : Nat) : Option Double := do
    let power ← Double.nearest? (Nat.pow 10 k) 1
    f.div? power

/-- A significand times a power of ten in double precision: both are rounded, then their product or
quotient is. -/
def floatOfParts? (significand : Nat) (exponent : Int) : Option Double :=
  match Double.nearest? significand 1 with
  | none => none
  | some f =>
    if exponent < 0 then some (scaleDown f exponent.natAbs)
    else if exponent ≤ 308 then do
      let power ← Double.nearest? (Nat.pow 10 exponent.toNat) 1
      f.mul? power
    else if f.isZero then some f
    else none

/-- A float of a significand and an exponent, or the fault of its size. -/
def finishFloat (negative : Bool) (significand : Nat) (exponent : Int) (c : Cursor) :
    Except Fault (Number × Cursor) :=
  match floatOfParts? significand exponent with
  | some f => .ok (.float negative f, c)
  | none => .error (.at_ .numberOutOfRange c.offset)

/-- The digits at the front of a text. -/
def digitsOf (c : Cursor) : List UInt8 := c.rest.takeWhile isDigit

/-- How many of an exponent's digits are read until it leaves 32 bits, if it does. -/
def exponentOverflow? (value read : Nat) : List UInt8 → Option Nat
  | [] => none
  | b :: rest =>
    let next := value * 10 + (b.toNat - 48)
    if next < 1 <<< 31 then exponentOverflow? next (read + 1) rest else some (read + 1)

/-- A number from its exponent on, at the `e`. -/
def scanExponent (negative : Bool) (significand : Nat) (scale : Int) (c : Cursor) :
    Except Fault (Number × Cursor) :=
  let c := c.skip 1
  let (below, c) := match c.rest with
    | b :: _ =>
      if b = 0x2b then (false, c.skip 1)
      else if b = 0x2d then (true, c.skip 1)
      else (false, c)
    | [] => (false, c)
  match c.rest with
  | [] => .error (.at_ .endInValue c.offset)
  | b :: _ =>
    if !isDigit b then .error (.at_ .invalidNumber (c.offset + 1))
    else
      let digits := digitsOf c
      let behind := c.skip digits.length
      match exponentOverflow? 0 0 digits with
      | some read =>
        if significand ≠ 0 ∧ !below then .error (.at_ .numberOutOfRange (c.offset + read))
        else .ok (.float negative .zero, behind)
      | none =>
        let exponent : Int := digits.foldl (fun n d => n * 10 + (d.toNat - 48)) 0
        finishFloat negative significand (if below then scale - exponent else scale + exponent)
          behind

/-- A number behind its digits, where an exponent may follow. -/
def scanAfterDigits (negative : Bool) (significand : Nat) (scale : Int) (c : Cursor) :
    Except Fault (Number × Cursor) :=
  match c.rest with
  | b :: _ =>
    if b = 0x65 ∨ b = 0x45 then scanExponent negative significand scale c
    else finishFloat negative significand scale c
  | [] => finishFloat negative significand scale c

/-- A number from its point on. -/
def scanFraction (negative : Bool) (significand : Nat) (scale : Int) (c : Cursor) :
    Except Fault (Number × Cursor) :=
  let c := c.skip 1
  let digits := digitsOf c
  if digits.isEmpty then
    .error (.at_ (if c.rest.isEmpty then .endInValue else .invalidNumber) c.peekPlace)
  else
    let (significand, taken, _) := gather significand 0 digits
    scanAfterDigits negative significand (scale - taken) (c.skip digits.length)

/-- A whole number, or a float if it does not fit. -/
def finishInteger (negative : Bool) (significand : Nat) (c : Cursor) : Number × Cursor :=
  if !negative then (.integer significand, c)
  else if significand = 0 ∨ 1 <<< 63 < significand then
    (.float true ((Double.nearest? significand 1).getD .zero), c)
  else (.integer (-(significand : Int)), c)

/-- A number behind its sign. -/
def scanNumber (negative : Bool) (c : Cursor) : Except Fault (Number × Cursor) :=
  match c.rest with
  | [] => .error (.at_ .endInValue c.offset)
  | first :: more =>
    if !isDigit first then .error (.at_ .invalidNumber (c.offset + 1))
    else if first = 0x30 ∧ more.head?.any isDigit then .error (.at_ .invalidNumber (c.offset + 2))
    else
      let digits := digitsOf c
      let behind := c.skip digits.length
      let (significand, _, left) := gather 0 0 digits
      match behind.rest with
      | b :: _ =>
        if b = 0x2e then scanFraction negative significand left behind
        else if left ≠ 0 ∨ b = 0x65 ∨ b = 0x45 then
          scanAfterDigits negative significand left behind
        else .ok (finishInteger negative significand behind)
      | [] =>
        if left ≠ 0 then finishFloat negative significand left behind
        else .ok (finishInteger negative significand behind)

/-- Step over an exponent that is not asked for, at the `e`. -/
def skipExponent (c : Cursor) : Except Fault Cursor :=
  let c := c.skip 1
  let c := match c.rest with
    | b :: _ => if b = 0x2b ∨ b = 0x2d then c.skip 1 else c
    | [] => c
  let digits := digitsOf c
  if digits.isEmpty then .error (.at_ .invalidNumber c.peekPlace) else .ok (c.skip digits.length)

/-- Step over the exponent of a number that is not asked for, if it has one. -/
def skipOptionalExponent (c : Cursor) : Except Fault Cursor :=
  match c.rest with
  | b :: _ => if b = 0x65 ∨ b = 0x45 then skipExponent c else .ok c
  | [] => .ok c

/-- Step over a number that is not asked for, behind its sign. -/
def skipNumber (c : Cursor) : Except Fault Cursor :=
  match c.rest with
  | [] => .error (.at_ .invalidNumber c.offset)
  | first :: more =>
    if !isDigit first then .error (.at_ .invalidNumber (c.offset + 1))
    else if first = 0x30 ∧ more.head?.any isDigit then .error (.at_ .invalidNumber (c.offset + 2))
    else
      let c := c.skip (digitsOf c).length
      match c.rest with
      | b :: _ =>
        if b = 0x2e then
          let c := c.skip 1
          let digits := digitsOf c
          if digits.isEmpty then .error (.at_ .invalidNumber c.peekPlace)
          else skipOptionalExponent (c.skip digits.length)
        else skipOptionalExponent c
      | [] => .ok c

end PacketTunnel.Json
