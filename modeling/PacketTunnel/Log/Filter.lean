import PacketTunnel.Log.Pattern
import PacketTunnel.Text.Utf8

/-!
# Log filters

A log line has a level and comes from a target. A filter is a list of directives; the one with the
longest target that the line's target begins with says up to which level lines are let through. A
directive without a target holds for every line. A directive may ask for a field; lines here have
the field of their message and no other. A directive tied to a span, or to the value of a field,
lets nothing through on its own, for lines here lie in no span and their fields have no values.
-/

namespace PacketTunnel.Log

open Text

/-- How much a line matters, from most to least. -/
inductive Level where
  /-- Something failed. -/
  | error
  /-- Something is not as it should be. -/
  | warn
  /-- Something of interest happened. -/
  | info
  /-- Something happened that helps to find faults. -/
  | debug
  /-- Everything else. -/
  | trace
  deriving DecidableEq, Repr

namespace Level

/-- The rank of a level: the higher, the less a line matters. -/
def rank : Level → Nat
  | error => 1
  | warn => 2
  | info => 3
  | debug => 4
  | trace => 5

/-- The name of a level in a log. -/
def name : Level → String
  | error => "ERROR"
  | warn => "WARN"
  | info => "INFO"
  | debug => "DEBUG"
  | trace => "TRACE"

end Level

/-- A line of a log. -/
structure Line where
  /-- How much the line matters. -/
  level : Level
  /-- Where the line comes from. -/
  target : String
  /-- What the line says. -/
  message : String
  deriving DecidableEq, Repr

/-- The line without time and target. -/
def Line.text (l : Line) : String := s!"{l.level.name} {l.message}"

/-- The width that levels are aligned to. -/
def Level.width : Nat := 5

/-- The line behind the time at which it was logged. -/
def Line.stamped (l : Line) (time : String) : String :=
  let blanks := String.ofList (List.replicate (Level.width - l.level.name.length) ' ')
  s!"{time} {blanks}{l.text}"

/-- What a rule asks of a field. -/
structure FieldTest where
  /-- The name of the field. -/
  name : List Char
  /-- Whether the rule asks for a certain value. -/
  valued : Bool
  deriving DecidableEq, Repr

/-- One rule of a filter. -/
structure Directive where
  /-- What the target of a line must begin with, if the rule asks for anything. -/
  target : Option (List Char)
  /-- Whether the rule holds in a span only. -/
  inSpan : Bool
  /-- The field that the rule asks for. -/
  field : Option FieldTest
  /-- The rank up to which lines are let through. -/
  rank : Nat
  deriving DecidableEq, Repr

/-- A filter. -/
abbrev Filter := List Directive

namespace Filter

/-- The ASCII lower case of a character. -/
def lower (c : Char) : Char := if 'A' ≤ c ∧ c ≤ 'Z' then Char.ofNat (c.toNat + 32) else c

/-- What a rank in digits must keep to. -/
def rankLimits : Numeral.Limits := ⟨10, none, true, 6⟩

/-- The ranks by name. -/
def rankNames : List (List Char × Nat) := [
  ("off".toList, 0),
  ("error".toList, 1),
  ("warn".toList, 2),
  ("info".toList, 3),
  ("debug".toList, 4),
  ("trace".toList, 5)]

/-- The rank that a name in either case, or a digit, stands for. -/
def rankOf? (text : List Char) : Option Nat :=
  match rankNames.lookup (text.map lower) with
  | some rank => some rank
  | none =>
    match Numeral.read? rankLimits (if text.head? = some '+' then text.tail else text) with
    | some (rank, []) => some rank
    | _ => none

/-- The rank of everything. -/
def allRanks : Nat := 5

/-- The rank behind a target; nothing behind the equals sign means everything. -/
def rankAfter? (text : List Char) : Option Nat := if text = [] then some allRanks else rankOf? text

/-- Whether a character may begin a target. -/
def isTargetStart (c : Char) : Bool := c = '_' || c = ':' || c = '-' || isAlphanumeric c

/-- What a text asks of a field: to be there, or to have a value. -/
def fieldTest? (text : List Char) : Option FieldTest :=
  let name := text.takeWhile (· ≠ '=')
  match text.dropWhile (· ≠ '=') with
  | [] => if name = [] then none else some ⟨name, false⟩
  | _ :: value => if Pattern.isPattern (value.takeWhile (· ≠ '=')) then some ⟨name, true⟩ else none

/-- The characters of a part from a place on. -/
def from? (part : List Char) (place : Nat) : Option (List Char) :=
  (Utf8.splitAt? place part).map (·.2)

/-- The characters of a part between two places. -/
def between? (part : List Char) (first last : Nat) : Option (List Char) := do
  let (front, _) ← Utf8.splitAt? last part
  from? front first

/-- A directive of one word: a level for every line, or a target of which everything is let
through. -/
def wordDirective (part : List Char) : Directive :=
  match rankOf? part with
  | some rank => ⟨none, false, none, rank⟩
  | none => ⟨some part, false, none, allRanks⟩

/-- A directive with the rank behind the equals sign, if there is one: `rest` is the text at
`place`. -/
def ranked? (part : List Char) (d : Directive) (place : Nat) (rest : List Char) :
    Option Directive :=
  match rest with
  | [] => some d
  | '=' :: _ => do some { d with rank := ← rankAfter? (← from? part (place + 1)) }
  | _ => none

/-- A directive with a span or a field: `rest` is the text at `place`, behind the bracket. -/
def bracketed? (part : List Char) (target : Option (List Char)) (place : Nat) (rest : List Char) :
    Option Directive :=
  let span := rest.takeWhile fun c => c ≠ ']' && c ≠ '\x7b'
  let spanEnd := place + Utf8.size span
  match rest.drop span.length with
  | ']' :: rest => ranked? part ⟨target, true, none, allRanks⟩ (spanEnd + 1) rest
  | '\x7b' :: rest =>
    let field := rest.takeWhile (· ≠ '\x7d')
    let fieldEnd := spanEnd + 1 + Utf8.size field
    match rest.drop field.length with
    | '\x7d' :: ']' :: rest => do
      let field ← fieldTest? (← between? part (spanEnd + 1) fieldEnd)
      ranked? part ⟨target, !span.isEmpty, some field, allRanks⟩ (fieldEnd + 2) rest
    | _ => none
  | _ => none

/-- The directive of one part of a filter. Its pieces are found in the text without the blanks
around it, and cut at the same places, counted in bytes, out of the part with them. -/
def directive? (part : List Char) : Option Directive :=
  let text := trim part
  match text with
  | [] => none
  | '[' :: rest => bracketed? part none 1 rest
  | first :: _ =>
    let target := text.takeWhile fun c => c ≠ '=' && c ≠ '['
    let targetEnd := Utf8.size target
    if !isTargetStart first then none
    else match text.drop target.length with
      | [] => some (wordDirective part)
      | '[' :: rest => do bracketed? part (← between? part 0 targetEnd) (targetEnd + 1) rest
      | rest => do
        ranked? part ⟨← between? part 0 targetEnd, false, none, allRanks⟩ targetEnd rest

/-- The parts of a filter; empty ones do not count. -/
def parts (text : List Char) : List (List Char) := (text.splitOn ',').filter (!·.isEmpty)

/-- The filter that a text stands for; one without parts lets nothing through. -/
def parse? (text : String) : Option Filter := (parts text.toList).mapM directive?

/-- What is let through unless something else is asked for. -/
def default : Filter := [⟨none, false, none, 3⟩]

/-- The filter of an optional text: a text that is no filter counts as none. -/
def ofText (text : Option String) : Filter := (text.bind parse?).getD default

/-- The field that a line has. -/
def lineField : List Char := "message".toList

/-- Whether a directive can hold for a line as far as spans and fields go. -/
def reachesLines (d : Directive) : Bool :=
  !d.inSpan && d.field.all fun f => !f.valued && f.name = lineField

/-- How well a directive fits a target: the more, the longer what it asks for, and of equal ones the
more with a field. -/
def fit? (d : Directive) (target : List Char) : Option Nat :=
  let field := if d.field.isSome then 1 else 0
  if !reachesLines d then none
  else match d.target with
    | none => some field
    | some start =>
      if start.isPrefixOf target then some (2 * (start.length + 1) + field) else none

/-- The rank of the best fitting directive, the last of equal ones: `best` is the fit and the rank
so far. -/
def bestRank (target : List Char) (best : Nat × Nat) : Filter → Nat
  | [] => best.2
  | d :: rest =>
    match fit? d target with
    | none => bestRank target best rest
    | some fit => bestRank target (if best.1 ≤ fit then (fit, d.rank) else best) rest

/-- Whether a line is let through. -/
def admits (f : Filter) (l : Line) : Bool := l.level.rank ≤ bestRank l.target.toList (0, 0) f

end Filter

end PacketTunnel.Log
