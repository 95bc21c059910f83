import PacketTunnel.Proofs.JsonValue

/-!
# Values in JSON that are refused

A reader refuses a text if it stops with a mismatch of shape, wherever the text stands. A mismatch
inside a value goes through to the whole: through what is read behind it, through the end of an
object that is looked for in any case, and through the members in front of it. So a written variant
that is not among the known ones is refused by its name, alone or as the only key of an object.
-/

namespace PacketTunnel.Json

open Text Shape

namespace Reader

variable {α β : Type}

/-- A reader stops at a text with a mismatch. -/
def Refuses (r : Reader α) (text : List UInt8) (m : Mismatch) : Prop :=
  ∀ offset, ∃ place stopped, r ⟨text, offset⟩ = .fault ⟨.shape m, place⟩ stopped

theorem refuses_failShape (m : Mismatch) (text : List UInt8) :
    Refuses (failShape m : Reader α) text m :=
  fun offset => ⟨none, ⟨text, offset⟩, rfl⟩

/-- What would be read behind a refused value does not matter. -/
theorem Refuses.bind {r : Reader α} {text : List UInt8} {m : Mismatch} (h : Refuses r text m)
    (next : α → Reader β) : Refuses (r >>= next) text m := by
  intro offset
  obtain ⟨place, stopped, hfault⟩ := h offset
  refine ⟨place, stopped, ?_⟩
  change Reader.bind r next _ = _
  rw [Reader.bind, hfault]

/-- A value is refused behind one that is taken. -/
theorem Takes.refuses {r : Reader α} {next : α → Reader β} {text more : List UInt8} {a : α}
    {m : Mismatch} (hr : Takes r text more a) (hnext : Refuses (next a) more m) :
    Refuses (r >>= next) text m := by
  intro offset
  obtain ⟨place, hplace⟩ := hr offset
  obtain ⟨behind, stopped, hfault⟩ := hnext place
  refine ⟨behind, stopped, ?_⟩
  change Reader.bind r next _ = _
  rw [Reader.bind, hplace]
  exact hfault

/-- A place that is filled in leaves the mismatch as it is. -/
theorem Refuses.place {r : Reader α} {text : List UInt8} {m : Mismatch} (h : Refuses r text m) :
    Refuses r.place text m := by
  intro offset
  obtain ⟨place, stopped, hfault⟩ := h offset
  refine ⟨some (place.getD stopped.offset), stopped, ?_⟩
  rw [Reader.place, hfault]
  rfl

/-- Whether or not the end is found, the mismatch of the contents is the one reported. -/
theorem Refuses.enclosed {contents : Reader α} {text : List UInt8} {m : Mismatch}
    (h : Refuses contents text m) (finish : Reader Unit) :
    Refuses (contents.enclosed finish) text m := by
  intro offset
  obtain ⟨place, stopped, hfault⟩ := h offset
  rw [Reader.enclosed, hfault]
  simp only
  cases finish stopped with
  | value _ c => exact ⟨some (place.getD c.offset), c, rfl⟩
  | fault _ c => exact ⟨some (place.getD c.offset), c, rfl⟩

/-- A written string that stands for no value is refused. -/
theorem refuses_string {convert : String → Except Mismatch α} {s : String} {m : Mismatch}
    (h : convert s = .error m) (expected : String) (rest : List UInt8) :
    Refuses (string expected convert) (Utf8.encode (stringChars s) ++ rest) m := by
  rw [encode_stringChars, List.cons_append]
  refine (takes_peekValue rfl _).refuses (Refuses.place ?_)
  refine (takes_advance 0x22 _).refuses ?_
  refine (takes_stringTail s rest).refuses ?_
  rw [h]
  exact refuses_failShape m rest

/-- Members that are read one after the other up to one that is refused. -/
inductive Breaks (member : String → α → Reader α) :
    List (String × List Char) → α → Mismatch → Prop where
  /-- A member is refused behind its key, from its colon on. -/
  | here {key : String} {value : List Char} {fields : List (String × List Char)} {a : α}
      {m : Mismatch}
      (h : ∀ rest, Refuses (member key a) (0x3a :: (Utf8.encode value ++ rest)) m) :
    Breaks member ((key, value) :: fields) a m
  /-- A member is taken in front of the one that is refused. -/
  | later {key : String} {value : List Char} {fields : List (String × List Char)} {a b : α}
      {m : Mismatch}
      (head : ∀ rest, Takes (member key a) (0x3a :: (Utf8.encode value ++ rest)) rest b)
      (tail : Breaks member fields b m) : Breaks member ((key, value) :: fields) a m

/-- Behind what announces its key, a member is left to what reads members. -/
theorem refuses_member {member : String → α → Reader α} {first : Bool} {text more : List UInt8}
    {key : String} {value : List Char} {a : α} {fuel : Nat} {m : Mismatch}
    (hkey : Takes (hasKey first) text (memberBytes (key, value) ++ more) true)
    (h : Refuses (member key a >>= members member fuel false)
      (0x3a :: (Utf8.encode value ++ more)) m) :
    Refuses (members member (fuel + 1) first a) text m := by
  rw [memberBytes_append] at hkey
  rw [members]
  refine hkey.refuses ?_
  refine (takes_advance 0x22 _).refuses ?_
  exact (takes_stringTail key _).refuses h

/-- Later members are refused for one of them. -/
theorem refuses_members_later {member : String → α → Reader α} {fields : List (String × List Char)}
    {a : α} {m : Mismatch} (h : Breaks member fields a m) {fuel : Nat}
    (hfuel : fields.length ≤ fuel) (rest : List UInt8) :
    Refuses (members member fuel false a) (laterBytes fields ++ rest) m := by
  induction h generalizing fuel with
  | @here key value fields a m h =>
    rw [List.length_cons] at hfuel
    obtain ⟨fuel, rfl⟩ : ∃ n, fuel = n + 1 := ⟨fuel - 1, by omega⟩
    exact refuses_member (takes_laterKey key value fields rest) ((h _).bind _)
  | @later key value fields a b m head tail ih =>
    rw [List.length_cons] at hfuel
    obtain ⟨fuel, rfl⟩ : ∃ n, fuel = n + 1 := ⟨fuel - 1, by omega⟩
    exact refuses_member (takes_laterKey key value fields rest) ((head _).refuses (ih (by omega)))

/-- The members of an object are refused for one of them. -/
theorem refuses_object {member : String → α → Reader α} {fields : List (String × List Char)}
    {a : α} {m : Mismatch} (h : Breaks member fields a m) (rest : List UInt8) :
    Refuses (object member a) (Utf8.encode (memberChars fields) ++ rest) m := by
  intro offset
  rw [object]
  cases h with
  | @here key value fields _ _ h =>
    exact refuses_member (takes_firstKey key value fields rest) ((h _).bind _) offset
  | @later key value fields _ b _ head tail =>
    refine refuses_member (takes_firstKey key value fields rest)
      ((head _).refuses (refuses_members_later tail ?_ rest)) offset
    have hlater := length_le_laterBytes fields
    rw [encode_memberChars_cons]
    simp only [List.length_append]
    omega

/-- A written object is refused for one of its members. -/
theorem refuses_record {expected : String} {fromList : Reader α} {member : String → β → Reader β}
    {finish : β → Reader α} {fields : List (String × List Char)} {b : β} {m : Mismatch}
    (h : Breaks member fields b m) (rest : List UInt8) :
    Refuses (record expected fromList (do finish (← object member b)))
      (Utf8.encode (objectChars fields) ++ rest) m := by
  have hbytes : Utf8.encode (objectChars fields) ++ rest =
      0x7b :: (Utf8.encode (memberChars fields) ++ 0x7d :: rest) := by
    rw [objectChars, List.cons_append, Utf8.encode_cons, Utf8.encode_append, List.append_assoc,
      List.append_assoc]
    rfl
  rw [hbytes]
  refine (takes_peekValue rfl _).refuses (Refuses.enclosed ?_ _)
  refine (takes_advance 0x7b _).refuses ?_
  exact (refuses_object h _).bind _

/-- A whole text is refused for the mismatch that its reader stops with. -/
theorem run_of_refuses {r : Reader α} {text : List UInt8} {m : Mismatch}
    (h : Refuses r text m) : ∃ position, r.run text = .error ⟨.shape m, position⟩ := by
  have hall : Refuses (do let a ← r; textEnd; return a : Reader α) text m := h.bind _
  obtain ⟨place, stopped, hfault⟩ := hall 0
  refine ⟨place.map fun place => Position.after ⟨1, 0⟩ (text.take place), ?_⟩
  rw [run, Cursor.start, hfault]
  rfl

end Reader

namespace Variants

variable {α : Type}

theorem refuses_name {v : Variants α} {name : String} (h : name ∉ v.map (·.1))
    (rest : List UInt8) :
    Reader.Refuses v.name (Utf8.encode (stringChars name) ++ rest)
      (.unknownVariant name (v.map (·.1))) := by
  have hfind : v.find? (·.1 = name) = none := by
    rw [List.find?_eq_none]
    intro x hx
    rw [decide_eq_true_eq]
    rintro rfl
    exact h (List.mem_map_of_mem hx)
  apply Reader.refuses_string
  rw [hfind]

/-- A name that stands alone is refused if it is no alternative's. -/
theorem refuses_alone {v : Variants α} {name : String} (h : name ∉ v.map (·.1))
    (rest : List UInt8) :
    Reader.Refuses v.read (Utf8.encode (stringChars name) ++ rest)
      (.unknownVariant name (v.map (·.1))) := by
  have hname := refuses_name h rest
  rw [Reader.encode_stringChars, List.cons_append] at hname ⊢
  refine (Reader.takes_peekValue rfl _).refuses ?_
  exact hname.bind _

/-- So is a name with contents behind it, whatever they are. -/
theorem refuses_given {v : Variants α} {name : String} (h : name ∉ v.map (·.1))
    (value : List Char) (rest : List UInt8) :
    Reader.Refuses v.read (Utf8.encode (objectChars [(name, value)]) ++ rest)
      (.unknownVariant name (v.map (·.1))) := by
  have hbytes : Utf8.encode (objectChars [(name, value)]) ++ rest =
      0x7b :: (Utf8.encode (stringChars name) ++ 0x3a :: (Utf8.encode value ++ 0x7d :: rest)) := by
    rw [objectChars, memberChars, List.cons_append, Utf8.encode_cons, Utf8.encode_append,
      Utf8.encode_append, Utf8.encode_cons]
    simp only [List.append_assoc]
    rfl
  have hname := refuses_name h (0x3a :: (Utf8.encode value ++ 0x7d :: rest))
  have hkey := Reader.takes_hasKey_first
    (Reader.stringBytes name ++ 0x3a :: (Utf8.encode value ++ 0x7d :: rest))
  rw [hbytes]
  refine (Reader.takes_peekValue rfl _).refuses ?_
  refine (Reader.takes_advance 0x7b _).refuses ?_
  rw [Reader.encode_stringChars, List.cons_append] at hname ⊢
  refine hkey.refuses ?_
  exact hname.bind _

end Variants

end PacketTunnel.Json
