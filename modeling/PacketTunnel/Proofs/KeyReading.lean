import PacketTunnel.Proofs.Base64Form

/-!
# Which texts are keys

A text is a key just if, without the white space at its ends, it is the written form of 32 bytes.
If it is the written form of another number of bytes then that number is the reason why it is
refused, and if it is no written form at all then it is not base64. The same goes for private keys
and for public keys.
-/

namespace PacketTunnel

open Text

/-- A text and what is left of it without the white space at its ends. -/
structure Text.Trimmed (text core : List Char) : Prop where
  /-- Only white space is left out, -/
  split : ∃ front back, text = front ++ core ++ back ∧
    (∀ c ∈ front, isBlank c = true) ∧ ∀ c ∈ back, isBlank c = true
  /-- all that there is in front -/
  head : Stops isBlank core
  /-- and all that there is at the end. -/
  last : Stops isBlank core.reverse

theorem Text.stops_dropWhile (p : Char → Bool) (text : List Char) : Stops p (text.dropWhile p) := by
  induction text with
  | nil => exact stops_nil p
  | cons c text ih =>
    rcases hc : p c with _ | _
    · rw [List.dropWhile_cons, hc, if_neg Bool.false_ne_true]
      exact stops_cons hc text
    · rw [List.dropWhile_cons, hc, if_pos rfl]
      exact ih

/-- What a text begins with goes on with another character if the text does. -/
theorem Text.Stops.of_append {p : Char → Bool} {front rest : List Char}
    (h : Stops p (front ++ rest)) : Stops p front := by
  cases front with
  | nil => exact stops_nil p
  | cons c front => exact h

/-- The white space at the ends is what is trimmed off, -/
theorem Text.Trimmed.trim_eq {text core : List Char} (h : Trimmed text core) :
    trim text = core := by
  obtain ⟨⟨front, back, rfl, hfront, hback⟩, hhead, hlast⟩ := h
  have hend : ∀ c ∈ back.reverse, isBlank c = true := fun c hc =>
    hback c (List.mem_reverse.mp hc)
  rcases core with _ | ⟨c, core⟩
  · have hall : ∀ c ∈ front ++ back, isBlank c = true := fun c hc =>
      (List.mem_append.mp hc).elim (hfront c) (hback c)
    have hnothing := dropWhile_append_of_stops hall (stops_nil isBlank)
    rw [List.append_nil] at hnothing
    rw [trim, List.append_nil, hnothing]
    rfl
  · have hstops : Stops isBlank (c :: core ++ back) := hhead
    rw [trim, List.append_assoc, dropWhile_append_of_stops hfront hstops, List.reverse_append,
      dropWhile_append_of_stops hend hlast, List.reverse_reverse]

/-- and nothing else is. -/
theorem Text.trimmed_trim (text : List Char) : Trimmed text (trim text) := by
  have hblanks (l : List Char) : ∀ c ∈ l.takeWhile isBlank, isBlank c = true :=
    List.all_eq_true.mp List.all_takeWhile
  have hback : trim text ++ ((text.dropWhile isBlank).reverse.takeWhile isBlank).reverse =
      text.dropWhile isBlank := by
    rw [trim, ← List.reverse_append, List.takeWhile_append_dropWhile, List.reverse_reverse]
  have hsplit : text = text.takeWhile isBlank ++ trim text ++
      ((text.dropWhile isBlank).reverse.takeWhile isBlank).reverse := by
    rw [List.append_assoc, hback, List.takeWhile_append_dropWhile]
  have hstops := stops_dropWhile isBlank text
  rw [← hback] at hstops
  refine ⟨⟨_, _, hsplit, hblanks text, fun c hc => hblanks _ c (List.mem_reverse.mp hc)⟩,
    hstops.of_append, ?_⟩
  rw [trim, List.reverse_reverse]
  exact stops_dropWhile isBlank _

namespace KeyBytes

variable {text : String} {core : List Char}

open Base64

/-- Lists of 32 bytes are the bytes of a key, -/
theorem ofList_eq_ok {l : List UInt8} {k : KeyBytes} : ofList l = .ok k ↔ l = k.toList := by
  constructor
  · intro h
    rw [ofList] at h
    split at h
    · next hsize =>
      obtain rfl := Except.ok.inj h
      rfl
    · cases h
  · rintro rfl
    exact ofList_toList k

/-- and other lists are refused for their length. -/
theorem ofList_eq_error {l : List UInt8} {e : KeyError} :
    ofList l = .error e ↔ l.length ≠ 32 ∧ e = .invalidLength l.length := by
  rw [ofList]
  split
  · next hsize =>
    rw [List.size_toArray] at hsize
    exact ⟨fun h => (by cases h), fun h => absurd hsize h.1⟩
  · next hsize =>
    rw [List.size_toArray] at hsize
    exact ⟨fun h => ⟨hsize, (Except.error.inj h).symm⟩, fun h => congrArg Except.error h.2.symm⟩

/-- A text whose core is the form of some bytes is read as these, -/
theorem ofBase64_of_canonical (htrim : Trimmed text.toList core) {l : List UInt8}
    (h : Canonical core l) : ofBase64 text = ofList l := by
  rw [ofBase64, htrim.trim_eq, canonical_iff_decode?.mp h]

/-- and one whose core is the form of no bytes is not base64. -/
theorem ofBase64_of_forall_not (htrim : Trimmed text.toList core)
    (h : ∀ l, ¬Canonical core l) : ofBase64 text = .error .invalidBase64 := by
  rcases hdecode : decode? core with _ | l
  · rw [ofBase64, htrim.trim_eq, hdecode]
  · exact absurd (canonical_iff_decode?.mpr hdecode) (h l)

theorem ofBase64_eq_ok (htrim : Trimmed text.toList core) {k : KeyBytes} :
    ofBase64 text = .ok k ↔ Canonical core k.toList := by
  constructor
  · intro h
    by_cases hform : ∃ l, Canonical core l
    · obtain ⟨l, hl⟩ := hform
      rw [ofBase64_of_canonical htrim hl] at h
      exact ofList_eq_ok.mp h ▸ hl
    · rw [ofBase64_of_forall_not htrim (not_exists.mp hform)] at h
      cases h
  · intro h
    rw [ofBase64_of_canonical htrim h, ofList_toList]

theorem ofBase64_eq_invalidLength (htrim : Trimmed text.toList core) {n : Nat} :
    ofBase64 text = .error (.invalidLength n) ↔ n ≠ 32 ∧ ∃ l, l.length = n ∧ Canonical core l := by
  constructor
  · intro h
    by_cases hform : ∃ l, Canonical core l
    · obtain ⟨l, hl⟩ := hform
      rw [ofBase64_of_canonical htrim hl] at h
      obtain ⟨hlength, herror⟩ := ofList_eq_error.mp h
      obtain rfl := KeyError.invalidLength.inj herror
      exact ⟨hlength, l, rfl, hl⟩
    · rw [ofBase64_of_forall_not htrim (not_exists.mp hform)] at h
      cases h
  · rintro ⟨hlength, l, rfl, hl⟩
    rw [ofBase64_of_canonical htrim hl]
    exact ofList_eq_error.mpr ⟨hlength, rfl⟩

theorem ofBase64_eq_invalidBase64 (htrim : Trimmed text.toList core) :
    ofBase64 text = .error .invalidBase64 ↔ ∀ l, ¬Canonical core l := by
  constructor
  · intro h l hl
    rw [ofBase64_of_canonical htrim hl] at h
    cases (ofList_eq_error.mp h).2
  · exact ofBase64_of_forall_not htrim

end KeyBytes

/-- How texts are read as keys and keys are written as texts. -/
structure ReadsTexts {α : Type} (read : String → Except KeyError α) (written : α → String)
    (bytes : α → KeyBytes) : Prop where
  /-- There is one way to leave out the white space at the ends of a text. -/
  trimmed : ∀ text : String, ∃ core, Trimmed text.toList core ∧
    ∀ other, Trimmed text.toList other → other = core
  /-- A text is a key of certain bytes just if, without the white space at its ends, it is the
  written form of these bytes. -/
  accepted : ∀ text core, Trimmed text.toList core → ∀ k : KeyBytes,
    (∃ key, read text = .ok key ∧ bytes key = k) ↔ Base64.Canonical core k.toList
  /-- It is refused for its length just if it is the written form of another number of bytes, -/
  invalidLength : ∀ text core, Trimmed text.toList core → ∀ n,
    read text = .error (.invalidLength n) ↔ n ≠ 32 ∧ ∃ l, l.length = n ∧ Base64.Canonical core l
  /-- and it is not base64 just if it is the written form of no bytes at all. -/
  invalidBase64 : ∀ text core, Trimmed text.toList core →
    (read text = .error .invalidBase64 ↔ ∀ l, ¬Base64.Canonical core l)
  /-- A key that is written is read again, -/
  undone : ∀ key, read (written key) = .ok key
  /-- and a text that is read is written again, without the white space at its ends. -/
  rewritten : ∀ text core key, Trimmed text.toList core → read text = .ok key →
    (written key).toList = core
  /-- Texts of the same bytes differ at most in this white space. -/
  unique : ∀ text core other rest, Trimmed text.toList core → Trimmed other.toList rest →
    ∀ key twin, read text = .ok key → read other = .ok twin → bytes key = bytes twin → core = rest

/-- What is made of key bytes is read and written as they are, if it keeps them. -/
theorem readsTexts_map {α : Type} {make : KeyBytes → α} {bytes : α → KeyBytes}
    (hbytes : ∀ k, bytes (make k) = k) (hmake : ∀ key, make (bytes key) = key) :
    ReadsTexts (fun text => (KeyBytes.ofBase64 text).map make) (fun key => (bytes key).base64)
      bytes := by
  have hok {text : String} {key : α} :
      (KeyBytes.ofBase64 text).map make = .ok key ↔ KeyBytes.ofBase64 text = .ok (bytes key) := by
    rcases KeyBytes.ofBase64 text with e | k
    · exact ⟨fun h => (by cases h), fun h => (by cases h)⟩
    · constructor
      · intro h
        rw [← Except.ok.inj h, hbytes]
      · intro h
        rw [Except.ok.inj h]
        exact congrArg Except.ok (hmake key)
  have herror {text : String} {e : KeyError} :
      (KeyBytes.ofBase64 text).map make = .error e ↔ KeyBytes.ofBase64 text = .error e := by
    rcases KeyBytes.ofBase64 text with found | k
    · exact ⟨fun h => congrArg Except.error (Except.error.inj h),
        fun h => congrArg Except.error (Except.error.inj h)⟩
    · exact ⟨fun h => (by cases h), fun h => (by cases h)⟩
  have hform {text : String} {core : List Char} {key : α} (htrim : Trimmed text.toList core)
      (h : (KeyBytes.ofBase64 text).map make = .ok key) :
      core = Base64.encode (bytes key).toList :=
    Base64.canonical_iff.mp ((KeyBytes.ofBase64_eq_ok htrim).mp (hok.mp h))
  refine ⟨?_, ?_, ?_, ?_, ?_, ?_, ?_⟩
  · exact fun text => ⟨trim text.toList, trimmed_trim _, fun other h => h.trim_eq.symm⟩
  · intro text core htrim k
    rw [← KeyBytes.ofBase64_eq_ok htrim]
    constructor
    · rintro ⟨key, hread, rfl⟩
      exact hok.mp hread
    · intro hread
      refine ⟨make k, hok.mpr ?_, hbytes k⟩
      rw [hbytes, hread]
  · intro text core htrim n
    exact herror.trans (KeyBytes.ofBase64_eq_invalidLength htrim)
  · intro text core htrim
    exact herror.trans (KeyBytes.ofBase64_eq_invalidBase64 htrim)
  · exact fun key => hok.mpr (KeyBytes.ofBase64_base64 _)
  · intro text core key htrim hread
    rw [hform htrim hread, KeyBytes.base64, Base64.text, String.toList_ofList]
  · intro text core other rest htrim hother key twin hread htwin hsame
    rw [hform htrim hread, hform hother htwin, hsame]

/-- Private keys and public keys are read from texts and written as texts in the same way. -/
theorem keys_readTexts :
    ReadsTexts PrivateKey.ofBase64 PrivateKey.base64 PrivateKey.bytes ∧
      ReadsTexts PublicKey.ofBase64 PublicKey.base64 PublicKey.bytes :=
  ⟨readsTexts_map (fun _ => rfl) fun _ => rfl, readsTexts_map (fun _ => rfl) fun _ => rfl⟩

end PacketTunnel
