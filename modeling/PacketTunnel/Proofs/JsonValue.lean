import PacketTunnel.Json.Variant
import PacketTunnel.Proofs.JsonString

/-!
# Values in JSON, read as they were written

A reader takes a value if it reads it off the front of a text, wherever the text stands, and stops
in front of a given rest. Readers that are run one after the other take what was written one behind
the other. From this the laws of strings, of members and of whole objects are put together.
-/

namespace PacketTunnel.Json.Reader

open Text Shape

variable {α β : Type}

/-- A reader takes a value off the front of a text and stops in front of the rest. -/
def Takes (r : Reader α) (text rest : List UInt8) (a : α) : Prop :=
  ∀ offset, ∃ place, r ⟨text, offset⟩ = .value a ⟨rest, place⟩

theorem takes_pure (a : α) (rest : List UInt8) : Takes (Pure.pure a) rest rest a :=
  fun offset => ⟨offset, rfl⟩

/-- The second of two readers goes on where the first one stopped. -/
theorem Takes.bind {r : Reader α} {next : α → Reader β} {text more rest : List UInt8} {a : α}
    {b : β} (hr : Takes r text more a) (hnext : Takes (next a) more rest b) :
    Takes (r >>= next) text rest b := by
  intro offset
  obtain ⟨place, hplace⟩ := hr offset
  obtain ⟨behind, hbehind⟩ := hnext place
  refine ⟨behind, ?_⟩
  change Reader.bind r next _ = _
  rw [Reader.bind, hplace]
  exact hbehind

theorem Takes.place {r : Reader α} {text rest : List UInt8} {a : α} (h : Takes r text rest a) :
    Takes r.place text rest a := by
  intro offset
  obtain ⟨place, hplace⟩ := h offset
  exact ⟨place, by rw [Reader.place, hplace]⟩

/-- Contents and their end are taken together. -/
theorem Takes.enclosed {contents : Reader α} {finish : Reader Unit} {text more rest : List UInt8}
    {a : α} (hc : Takes contents text more a) (hf : Takes finish more rest ()) :
    Takes (contents.enclosed finish) text rest a := by
  intro offset
  obtain ⟨place, hplace⟩ := hc offset
  obtain ⟨behind, hbehind⟩ := hf place
  refine ⟨behind, ?_⟩
  rw [Reader.enclosed, hplace]
  simp only
  rw [hbehind]

/-- A byte that is no blank is seen at once. -/
theorem takes_peek {b : UInt8} (hb : isSpace b = false) (rest : List UInt8) :
    Takes peek (b :: rest) (b :: rest) (some b) := by
  intro offset
  refine ⟨offset, ?_⟩
  simp only [peek, skipSpaces, hb, Bool.false_eq_true, ite_false, List.head?_cons]

theorem takes_peekValue {b : UInt8} (hb : isSpace b = false) (rest : List UInt8) :
    Takes peekValue (b :: rest) (b :: rest) b := by
  refine (takes_peek hb rest).bind ?_
  exact takes_pure b _

theorem takes_advance (b : UInt8) (rest : List UInt8) : Takes advance (b :: rest) rest () :=
  fun offset => ⟨offset + 1, rfl⟩

theorem takes_colon (rest : List UInt8) : Takes colon (0x3a :: rest) rest () := by
  refine (takes_peek rfl rest).bind ?_
  exact takes_advance 0x3a rest

theorem takes_objectEnd (rest : List UInt8) : Takes objectEnd (0x7d :: rest) rest () := by
  refine (takes_peek rfl rest).bind ?_
  exact takes_advance 0x7d rest

/-- The first key of an object is seen by its quote. -/
theorem takes_hasKey_first (rest : List UInt8) :
    Takes (hasKey true) (0x22 :: rest) (0x22 :: rest) true := by
  refine (takes_peek rfl rest).bind ?_
  exact takes_pure true _

/-- A later key of an object is behind a comma. -/
theorem takes_hasKey_later (rest : List UInt8) :
    Takes (hasKey false) (0x2c :: 0x22 :: rest) (0x22 :: rest) true := by
  refine (takes_peek rfl _).bind ?_
  refine (takes_advance 0x2c _).bind ?_
  refine (takes_peek rfl rest).bind ?_
  exact takes_pure true _

/-- In front of its closing brace an object has no other key. -/
theorem takes_hasKey_end (first : Bool) (rest : List UInt8) :
    Takes (hasKey first) (0x7d :: rest) (0x7d :: rest) false := by
  refine (takes_peek rfl rest).bind ?_
  exact takes_pure false _

/-- The bytes of a written string behind its opening quote. -/
def stringBytes (s : String) : List UInt8 :=
  Utf8.encode (s.toList.flatMap charChars) ++ [0x22]

theorem encode_stringChars (s : String) :
    Utf8.encode (stringChars s) = 0x22 :: stringBytes s := by
  rw [stringChars, List.cons_append, Utf8.encode_cons, Utf8.encode_append]
  rfl

theorem takes_stringTail (s : String) (rest : List UInt8) :
    Takes stringTail (stringBytes s ++ rest) rest s := by
  intro offset
  refine ⟨offset + (Utf8.encode (s.toList.flatMap charChars)).length + 1, ?_⟩
  rw [stringBytes, List.append_assoc, List.singleton_append, stringTail, scan, scanString_written]
  simp only [Except.map, List.reverse_nil, List.nil_append, String.ofList_toList]

/-- A written string is taken for the value it stands for. -/
theorem takes_string {convert : String → Except Mismatch α} {s : String} {a : α}
    (h : convert s = .ok a) (expected : String) (rest : List UInt8) :
    Takes (string expected convert) (Utf8.encode (stringChars s) ++ rest) rest a := by
  rw [encode_stringChars, List.cons_append]
  refine (takes_peekValue rfl _).bind (Takes.place ?_)
  refine (takes_advance 0x22 _).bind ?_
  refine (takes_stringTail s rest).bind ?_
  rw [h]
  exact takes_pure a rest

/-- Members that are read one after the other lead from one value to another. -/
inductive Fills (member : String → α → Reader α) : List (String × List Char) → α → α → Prop where
  /-- Without members nothing changes. -/
  | nil (a : α) : Fills member [] a a
  /-- A member is taken behind its key, from its colon on. -/
  | cons {key : String} {value : List Char} {fields : List (String × List Char)} {a b c : α}
      (head : ∀ rest, Takes (member key a) (0x3a :: (Utf8.encode value ++ rest)) rest b)
      (tail : Fills member fields b c) : Fills member ((key, value) :: fields) a c

/-- The bytes of a member, from its key's opening quote on. -/
def memberBytes (field : String × List Char) : List UInt8 :=
  Utf8.encode (stringChars field.1) ++ 0x3a :: Utf8.encode field.2

/-- The bytes of members behind the first: each has a comma in front. -/
def laterBytes (fields : List (String × List Char)) : List UInt8 :=
  fields.flatMap fun f => 0x2c :: memberBytes f

theorem laterBytes_cons (field : String × List Char) (fields : List (String × List Char)) :
    laterBytes (field :: fields) = 0x2c :: (memberBytes field ++ laterBytes fields) :=
  List.flatMap_cons

theorem encode_memberChars_cons (field : String × List Char)
    (fields : List (String × List Char)) :
    Utf8.encode (memberChars (field :: fields)) = memberBytes field ++ laterBytes fields := by
  induction fields generalizing field with
  | nil =>
    rw [memberChars, Utf8.encode_append, Utf8.encode_cons, laterBytes, List.flatMap_nil,
      List.append_nil]
    rfl
  | cons next fields ih =>
    rw [memberChars, Utf8.encode_append, Utf8.encode_append, Utf8.encode_cons, Utf8.encode_cons, ih,
      laterBytes_cons]
    · simp only [memberBytes, List.append_assoc]
      rfl
    · exact fun h => nomatch h

theorem memberBytes_append (key : String) (value : List Char) (more : List UInt8) :
    memberBytes (key, value) ++ more =
      0x22 :: (stringBytes key ++ 0x3a :: (Utf8.encode value ++ more)) := by
  rw [memberBytes, encode_stringChars, List.append_assoc]
  rfl

/-- The comma in front of a later member announces it. -/
theorem takes_laterKey (key : String) (value : List Char) (fields : List (String × List Char))
    (rest : List UInt8) :
    Takes (hasKey false) (laterBytes ((key, value) :: fields) ++ rest)
      (memberBytes (key, value) ++ (laterBytes fields ++ rest)) true := by
  rw [laterBytes_cons, List.cons_append, List.append_assoc, memberBytes_append]
  exact takes_hasKey_later _

/-- The first member announces itself. -/
theorem takes_firstKey (key : String) (value : List Char) (fields : List (String × List Char))
    (rest : List UInt8) :
    Takes (hasKey true) (Utf8.encode (memberChars ((key, value) :: fields)) ++ rest)
      (memberBytes (key, value) ++ (laterBytes fields ++ rest)) true := by
  rw [encode_memberChars_cons, List.append_assoc, memberBytes_append]
  exact takes_hasKey_first _

/-- A member is taken behind what announces its key, and reading goes on behind it. -/
theorem takes_member {member : String → α → Reader α} {first : Bool} {text more rest : List UInt8}
    {key : String} {value : List Char} {a b c : α} {fuel : Nat}
    (hkey : Takes (hasKey first) text (memberBytes (key, value) ++ more) true)
    (head : ∀ rest, Takes (member key a) (0x3a :: (Utf8.encode value ++ rest)) rest b)
    (tail : Takes (members member fuel false b) more rest c) :
    Takes (members member (fuel + 1) first a) text rest c := by
  rw [memberBytes_append] at hkey
  rw [members]
  refine hkey.bind ?_
  refine (takes_advance 0x22 _).bind ?_
  refine (takes_stringTail key _).bind ?_
  exact (head more).bind tail

/-- Later members are taken up to the closing brace. -/
theorem takes_members_later {member : String → α → Reader α} {fields : List (String × List Char)}
    {a b : α} (h : Fills member fields a b) {fuel : Nat} (hfuel : fields.length < fuel)
    (rest : List UInt8) :
    Takes (members member fuel false a) (laterBytes fields ++ 0x7d :: rest) (0x7d :: rest) b := by
  obtain ⟨fuel, rfl⟩ : ∃ n, fuel = n + 1 := ⟨fuel - 1, by omega⟩
  induction h generalizing fuel with
  | nil a =>
    refine (takes_hasKey_end false rest).bind ?_
    exact takes_pure a _
  | @cons key value fields a b c head tail ih =>
    rw [List.length_cons] at hfuel
    obtain ⟨fuel, rfl⟩ : ∃ n, fuel = n + 1 := ⟨fuel - 1, by omega⟩
    exact takes_member (takes_laterKey key value fields _) head (ih fuel (by omega))

theorem length_le_laterBytes (fields : List (String × List Char)) :
    fields.length ≤ (laterBytes fields).length := by
  induction fields with
  | nil => exact Nat.le_refl 0
  | cons f fields ih =>
    rw [laterBytes_cons, List.length_cons, List.length_cons, List.length_append]
    omega

/-- The members of an object are taken up to the closing brace. -/
theorem takes_object {member : String → α → Reader α} {fields : List (String × List Char)}
    {a b : α} (h : Fills member fields a b) (rest : List UInt8) :
    Takes (object member a) (Utf8.encode (memberChars fields) ++ 0x7d :: rest) (0x7d :: rest)
      b := by
  intro offset
  rw [object]
  cases h with
  | nil =>
    refine (Takes.bind (takes_hasKey_end true rest) ?_) offset
    exact takes_pure a _
  | @cons key value fields _ b _ head tail =>
    have hlater := length_le_laterBytes fields
    have hfuel : fields.length <
        (Utf8.encode (memberChars ((key, value) :: fields)) ++ 0x7d :: rest).length := by
      rw [encode_memberChars_cons]
      simp only [List.length_append, List.length_cons]
      omega
    exact takes_member (takes_firstKey key value fields _) head
      (takes_members_later tail hfuel rest) offset

/-- A written object is taken for what its members lead to. -/
theorem takes_record {expected : String} {fromList : Reader α} {member : String → β → Reader β}
    {finish : β → Reader α} {fields : List (String × List Char)} {a : α} {b c : β}
    (h : Fills member fields b c) (hfinish : ∀ rest, Takes (finish c) rest rest a)
    (rest : List UInt8) :
    Takes (record expected fromList (do finish (← object member b)))
      (Utf8.encode (objectChars fields) ++ rest) rest a := by
  have hbytes : Utf8.encode (objectChars fields) ++ rest =
      0x7b :: (Utf8.encode (memberChars fields) ++ 0x7d :: rest) := by
    rw [objectChars, List.cons_append, Utf8.encode_cons, Utf8.encode_append, List.append_assoc,
      List.append_assoc]
    rfl
  rw [hbytes]
  refine (takes_peekValue rfl _).bind ?_
  refine Takes.enclosed ?_ (takes_objectEnd rest)
  refine (takes_advance 0x7b _).bind ?_
  exact (takes_object h rest).bind (hfinish _)

/-- A text that a reader takes whole is read. -/
theorem run_of_takes {r : Reader α} {text : List UInt8} {a : α} (h : Takes r text [] a) :
    r.run text = .ok a := by
  have hend : Takes textEnd [] [] () := fun offset => ⟨offset, rfl⟩
  have hall : Takes (do let a ← r; textEnd; return a : Reader α) text [] a := by
    refine h.bind ?_
    refine hend.bind ?_
    exact takes_pure a []
  obtain ⟨place, hplace⟩ := hall 0
  rw [run, Cursor.start, hplace]

end PacketTunnel.Json.Reader
