import PacketTunnel.Json.Scanner

/-!
# Reading values from JSON

A reader takes a value of some type off the front of a text. It fails with a fault and the cursor
where it stopped. A fault of the text has a place from the start. A mismatch of shape may arise
without one; it is placed where reading stands once the closest enclosing string, list or object has
been finished, and the closing bracket is looked for even if the contents had a fault.
-/

namespace PacketTunnel.Json

open Shape

/-- What a reader ends with. -/
inductive Reading (α : Type) where
  /-- A value, and where reading goes on. -/
  | value (a : α) (next : Cursor)
  /-- A fault, and where reading stopped. -/
  | fault (f : Fault) (stopped : Cursor)

/-- A reader of values. -/
def Reader (α : Type) : Type := Cursor → Reading α

namespace Reader

variable {α β : Type}

/-- Read nothing. -/
def pure (a : α) : Reader α := fun c => .value a c

/-- Read one value and then another that depends on it. -/
def bind (r : Reader α) (next : α → Reader β) : Reader β := fun c =>
  match r c with
  | .value a c => next a c
  | .fault f c => .fault f c

instance : Monad Reader where
  pure := pure
  bind := bind

/-- Fail with a fault. -/
def fail (f : Fault) : Reader α := fun c => .fault f c

/-- Fail because of what was read last. -/
def failHere (cause : Cause) : Reader α := fun c => .fault (.at_ cause c.offset) c

/-- Fail because of the next byte. -/
def failPeek (cause : Cause) : Reader α := fun c => .fault (.at_ cause c.peekPlace) c

/-- Fail because of the shape, without a place. -/
def failShape (m : Mismatch) : Reader α := fail ⟨.shape m, none⟩

/-- A result, or its mismatch without a place. -/
def ofShape : Except Mismatch α → Reader α
  | .ok a => pure a
  | .error m => failShape m

/-- Step over blanks and look at the next byte. -/
def peek : Reader (Option UInt8) := fun c =>
  let c := skipSpaces c.rest c.offset
  .value c.rest.head? c

/-- Step over one byte. -/
def advance : Reader Unit := fun c => .value () (c.skip 1)

/-- Run a scanner. -/
def scan (scanner : Cursor → Except Fault (α × Cursor)) : Reader α := fun c =>
  match scanner c with
  | .ok (a, c) => .value a c
  | .error f => .fault f c

/-- Run a scanner that yields nothing. -/
def step (scanner : Cursor → Except Fault Cursor) : Reader Unit :=
  scan fun c => (scanner c).map fun c => ((), c)

/-- Give a fault without a place the place where the reader stopped. -/
def place (r : Reader α) : Reader α := fun c =>
  match r c with
  | .value a c => .value a c
  | .fault f c => .fault (f.placed c.offset) c

/-- Read contents and their end. The end is looked for in any case; a fault of the contents is the
one reported, and a fault without a place is placed behind the end. -/
def enclosed (contents : Reader α) (finish : Reader Unit) : Reader α := fun c =>
  match contents c with
  | .value a c =>
    match finish c with
    | .value () c => .value a c
    | .fault f c => .fault (f.placed c.offset) c
  | .fault f c =>
    match finish c with
    | .value () c => .fault (f.placed c.offset) c
    | .fault _ c => .fault (f.placed c.offset) c

/-- The letters of `null` behind the first. -/
def nullLetters : List UInt8 := [0x75, 0x6c, 0x6c]

/-- The letters of `true` behind the first. -/
def trueLetters : List UInt8 := [0x72, 0x75, 0x65]

/-- The letters of `false` behind the first. -/
def falseLetters : List UInt8 := [0x61, 0x6c, 0x73, 0x65]

/-- The rest of a string behind its opening quote. -/
def stringTail : Reader String := scan fun c =>
  (scanString c.rest c.offset [] 0 none).map fun (chars, c) => (String.ofList chars, c)

/-- Read a value for its kind alone; lists and objects are not entered. -/
def found : Reader Found := do
  match ← peek with
  | none => failPeek .expectedValue
  | some b =>
    if b = 0x6e then do
      advance
      step (scanWord nullLetters)
      return .null
    else if b = 0x74 then do
      advance
      step (scanWord trueLetters)
      return .boolean true
    else if b = 0x66 then do
      advance
      step (scanWord falseLetters)
      return .boolean false
    else if b = 0x2d then do
      advance
      return (← scan (scanNumber true)).found
    else if isDigit b then return (← scan (scanNumber false)).found
    else if b = 0x22 then do
      advance
      return .string (← stringTail)
    else if b = 0x5b then return .sequence
    else if b = 0x7b then return .map
    else failPeek .expectedValue

/-- Fail because the next value has the wrong kind. -/
def failKind (expected : String) : Reader α := place do
  failShape (.invalidType (← found) expected)

/-- Step over the blanks to a value, and look at its first byte. -/
def peekValue : Reader UInt8 := do
  match ← peek with
  | none => failPeek .endInValue
  | some b => return b

/-- A string that stands for a value. A refusal is placed behind the string. -/
def string (expected : String) (convert : String → Except Mismatch α) : Reader α := do
  if (← peekValue) = 0x22 then place do
    advance
    match convert (← stringTail) with
    | .ok a => return a
    | .error m => failShape m
  else failKind expected

/-- A string that stands for a value. A refusal has no place of its own. -/
def stringThen (convert : String → Except Mismatch α) : Reader α := do
  match convert (← string "a string" .ok) with
  | .ok a => return a
  | .error m => failShape m

/-- The null value. -/
def unit : Reader Unit := do
  if (← peekValue) = 0x6e then do
    advance
    step (scanWord nullLetters)
  else failKind "unit"

/-- A value that may be null. -/
def optional (r : Reader α) : Reader (Option α) := do
  if (← peek) = some 0x6e then do
    advance
    step (scanWord nullLetters)
    return none
  else return some (← r)

/-- The colon behind a key. -/
def colon : Reader Unit := do
  match ← peek with
  | none => failPeek .endInObject
  | some b => if b = 0x3a then advance else failPeek .expectedColon

/-- Whether an object has another key. -/
def hasKey (first : Bool) : Reader Bool := do
  match ← peek with
  | none => failPeek .endInObject
  | some b =>
    if b = 0x7d then return false
    else if first then
      if b = 0x22 then return true else failPeek .keyNotString
    else if b = 0x2c then do
      advance
      match ← peek with
      | none => failPeek .endInValue
      | some b =>
        if b = 0x22 then return true
        else if b = 0x7d then failPeek .trailingComma
        else failPeek .keyNotString
    else failPeek .expectedObjectCommaOrEnd

/-- Whether a list has another element. -/
def hasElement (first : Bool) : Reader Bool := do
  match ← peek with
  | none => failPeek .endInList
  | some b =>
    if b = 0x5d then return false
    else if first then return true
    else if b = 0x2c then do
      advance
      match ← peek with
      | none => failPeek .endInValue
      | some b => if b = 0x5d then failPeek .trailingComma else return true
    else failPeek .expectedListCommaOrEnd

/-- The end of an object. -/
def objectEnd : Reader Unit := do
  match ← peek with
  | none => failPeek .endInObject
  | some b =>
    if b = 0x7d then advance
    else if b = 0x2c then failPeek .trailingComma
    else failPeek .trailingCharacters

/-- The end of a list. -/
def listEnd : Reader Unit := do
  match ← peek with
  | none => failPeek .endInList
  | some b =>
    if b = 0x5d then advance
    else if b = 0x2c then do
      advance
      if (← peek) = some 0x5d then failPeek .trailingComma else failPeek .trailingCharacters
    else failPeek .trailingCharacters

/-- Go over the members of an object, at most `fuel` of them. -/
def members (member : String → α → Reader α) : (fuel : Nat) → (first : Bool) → α → Reader α
  | 0, _, _ => failPeek .endInObject
  | fuel + 1, first, a => do
    if ← hasKey first then do
      advance
      let key ← stringTail
      members member fuel false (← member key a)
    else return a

/-- The contents of an object, member by member. Every member takes up a byte, so the bytes left
bound their number. -/
def object (member : String → α → Reader α) (empty : α) : Reader α := fun c =>
  members member (c.rest.length + 1) true empty c

/-- The value of a member that may be there once. -/
def once (seen : Option α) (name : String) (r : Reader α) : Reader (Option α) :=
  match seen with
  | some _ => failShape (.duplicateField name)
  | none => do
    colon
    return some (← r)

/-- The next element of a list, if there is one. -/
def element? (first : Bool) (r : Reader α) : Reader (Option α) := do
  if ← hasElement first then return some (← r) else return none

/-- A value with named parts, as an object or as a list of the parts in order. -/
def record (expected : String) (fromList fromObject : Reader α) : Reader α := do
  let b ← peekValue
  if b = 0x5b then enclosed (do advance; fromList) listEnd
  else if b = 0x7b then enclosed (do advance; fromObject) objectEnd
  else failKind expected

/-- A bracket that was opened while stepping over a value. -/
inductive Bracket where
  /-- A list. -/
  | list
  /-- An object. -/
  | object
  deriving DecidableEq, Repr

/-- Step over a value that is neither list nor object; an opening bracket is stepped over and
returned. -/
def skipScalar : Reader (Option Bracket) := do
  match ← peek with
  | none => failPeek .endInValue
  | some b =>
    if b = 0x6e then do
      advance
      step (scanWord nullLetters)
      return none
    else if b = 0x74 then do
      advance
      step (scanWord trueLetters)
      return none
    else if b = 0x66 then do
      advance
      step (scanWord falseLetters)
      return none
    else if b = 0x2d then do
      advance
      step skipNumber
      return none
    else if isDigit b then do
      step skipNumber
      return none
    else if b = 0x22 then do
      advance
      step fun c => skipString c.rest c.offset
      return none
    else if b = 0x5b then do
      advance
      return some .list
    else if b = 0x7b then do
      advance
      return some .object
    else failPeek .expectedValue

/-- Step over the key of a member that is not asked for. -/
def skipKey : Reader Unit := do
  match ← peek with
  | none => failPeek .endInObject
  | some b =>
    if b = 0x22 then do
      advance
      step fun c => skipString c.rest c.offset
      colon
    else failPeek .keyNotString

/-- Close brackets as long as they close, and step over the comma behind them. `open_` are the
brackets still open, the innermost first. A comma is allowed behind a value only. The result is the
brackets that stay open. -/
def closeBrackets : (open_ : List Bracket) → (behindValue : Bool) → Reader (List Bracket)
  | [], _ => return []
  | bracket :: outer, behindValue => do
    match ← peek with
    | none => failPeek (match bracket with
      | .list => .endInList
      | .object => .endInObject)
    | some b =>
      if b = 0x2c ∧ behindValue then do
        advance
        return bracket :: outer
      else if (b = 0x5d ∧ bracket = .list) ∨ (b = 0x7d ∧ bracket = .object) then do
        advance
        closeBrackets outer true
      else if behindValue then failPeek (match bracket with
        | .list => .expectedListCommaOrEnd
        | .object => .expectedObjectCommaOrEnd)
      else return bracket :: outer

/-- Step over the rest of a value inside open brackets, in at most `fuel` steps. -/
def skipInside : (fuel : Nat) → (open_ : List Bracket) → Reader Unit
  | 0, _ => failPeek .endInValue
  | fuel + 1, open_ => do
    let left ← match ← skipScalar with
      | none => closeBrackets open_ true
      | some bracket => closeBrackets (bracket :: open_) false
    match left with
    | [] => return ()
    | bracket :: _ => do
      if bracket = .object then skipKey
      skipInside fuel left

/-- Step over a value of any depth. Every step takes up a byte, so the bytes left bound them. -/
def skipValue : Reader Unit := fun c => skipInside (c.rest.length + 1) [] c

/-- The end of the whole text. -/
def textEnd : Reader Unit := do
  match ← peek with
  | none => return ()
  | some _ => failPeek .trailingCharacters

/-- Read a whole text. -/
def run (r : Reader α) (text : List UInt8) : Except Error α :=
  match (do let a ← r; textEnd; return a : Reader α) (.start text) with
  | .value a _ => .ok a
  | .fault f _ => .error (.ofFault text f)

end Reader

end PacketTunnel.Json
