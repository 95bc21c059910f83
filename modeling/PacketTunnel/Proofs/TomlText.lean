import PacketTunnel.Toml.Quoted
import PacketTunnel.Toml.Style

/-!
# Texts in TOML, read as they were written

Between double quotes a character is escaped or stands for itself, and an escape is read as the
character that it was written for. Over several lines quotes may stand for themselves as well, no
more than two in a row, so three in a row close the text unless it ends in some of its own, which
are given back to it. Between single quotes everything stands for itself, and the style is chosen
only for texts in which nothing closes too early.
-/

namespace PacketTunnel.Toml

open Text Quoted

/-- What is written behind a backslash is read as a character. -/
structure Escapes (escape : List Char) (c : Char) : Prop where
  /-- The escape is read as the character, whatever follows. -/
  read : ∀ rest, escape? (escape ++ rest) = some (c, escape.length)
  /-- It is no escaped line end. -/
  opens : ∀ rest, escapedLineEnd? (escape ++ rest) = none
  /-- It has no carriage return. -/
  joined : '\r' ∉ escape

/-- An escape by a letter. -/
theorem escapes_letter {letter c : Char} (hread : ∀ rest, escape? (letter :: rest) = some (c, 1))
    (hblank : isBlank letter = false) (hline : letter ≠ '\n') (hreturn : letter ≠ '\r') :
    Escapes [letter] c where
  read := hread
  opens rest := by
    rw [escapedLineEnd?, List.cons_append, dropBlanks, List.dropWhile_cons, hblank,
      if_neg Bool.false_ne_true]
    split
    next h => exact absurd (List.cons.inj h).1 hline
    next => rfl
  joined h := hreturn (List.mem_singleton.mp h).symm

/-- Controls are ASCII characters. -/
theorem toNat_of_isControl {c : Char} (h : isControl c = true) : c.toNat < 128 := by
  simp only [isControl, Bool.or_eq_true, Bool.and_eq_true, decide_eq_true_eq] at h
  omega

/-- Everything but controls and line ends may stand in a comment. -/
theorem isCommentChar_of_not_isControl {c : Char} (h : ¬ isControl c = true) (hline : c ≠ '\n') :
    isCommentChar c = true := by
  simp only [isControl, Bool.or_eq_true, Bool.and_eq_true, decide_eq_true_eq] at h
  simp only [isCommentChar, Bool.or_eq_true, Bool.and_eq_true, decide_eq_true_eq]
  by_cases htab : c = '\t'
  · exact .inl htab
  · refine .inr ⟨?_, fun hdelete => h (.inr hdelete)⟩
    rw [← Nat.not_lt]
    exact fun hlow => h (.inl ⟨⟨hlow, htab⟩, hline⟩)

/-- The digits of a control's escape are four, and they are read as its number. -/
theorem codePoint?_controlDigits : ∀ n < 128,
    (Numeral.padded escapeWidth (Numeral.hexadecimal n |>.map Char.toUpper)).length = 4 ∧
    codePoint? (Numeral.padded escapeWidth (Numeral.hexadecimal n |>.map Char.toUpper)) =
      some (Char.ofNat n) ∧
    '\r' ∉ Numeral.padded escapeWidth (Numeral.hexadecimal n |>.map Char.toUpper) := by
  decide

/-- A control is escaped by its number. -/
theorem exists_controlEscape {c : Char} (h : c.toNat < 128) :
    ∃ escape, controlEscape c = '\\' :: escape ∧ Escapes escape c := by
  obtain ⟨hlength, hcode, hreturn⟩ := codePoint?_controlDigits c.toNat h
  rw [Char.ofNat_toNat] at hcode
  refine ⟨_, rfl, fun rest => ?_, fun rest => rfl, fun hmem => ?_⟩
  · generalize Numeral.padded escapeWidth (Numeral.hexadecimal c.toNat |>.map Char.toUpper) = digits
      at hlength hcode
    have hlong : ¬ (digits ++ rest).length < 4 := by
      rw [List.length_append, hlength]
      omega
    have htake : (digits ++ rest).take 4 = digits := hlength ▸ List.take_left
    rw [List.cons_append, escape?, if_neg hlong, htake, hcode, List.length_cons, hlength]
    rfl
  · rcases List.mem_cons.mp hmem with hu | hdigit
    · exact absurd hu (by decide)
    · exact hreturn hdigit

/-- How a character other than a double quote is written between double quotes: escaped, or as it
stands. -/
theorem basicChars_cases (tripled : Bool) {c : Char} (hquote : c ≠ '\x22') :
    (∃ escape, basicChars tripled c = '\\' :: escape ∧ Escapes escape c) ∨
    (basicChars tripled c = [c] ∧ c ≠ '\\' ∧ c ≠ '\r' ∧
      (c = '\n' ∧ tripled = true ∨ isBasicChar c = true)) := by
  have hletter {letter x : Char} (hx : c = x) (hchars : basicChars tripled x = ['\\', letter])
      (h : Escapes [letter] x) :
      ∃ escape, basicChars tripled c = '\\' :: escape ∧ Escapes escape c :=
    ⟨[letter], by rw [hx, hchars], hx ▸ h⟩
  by_cases hback : c = '\\'
  · exact .inl (hletter hback rfl (escapes_letter (fun _ => rfl) rfl (by decide) (by decide)))
  by_cases ht : c = '\t'
  · exact .inl (hletter ht rfl (escapes_letter (fun _ => rfl) rfl (by decide) (by decide)))
  by_cases hb : c = '\x08'
  · exact .inl (hletter hb rfl (escapes_letter (fun _ => rfl) rfl (by decide) (by decide)))
  by_cases hf : c = '\x0c'
  · exact .inl (hletter hf rfl (escapes_letter (fun _ => rfl) rfl (by decide) (by decide)))
  by_cases hr : c = '\r'
  · exact .inl (hletter hr rfl (escapes_letter (fun _ => rfl) rfl (by decide) (by decide)))
  by_cases hn : c = '\n'
  · cases tripled with
    | true => exact .inr ⟨by rw [hn]; rfl, hback, hr, .inl ⟨hn, rfl⟩⟩
    | false =>
      exact .inl (hletter hn rfl (escapes_letter (fun _ => rfl) rfl (by decide) (by decide)))
  have hchars : basicChars tripled c = if isControl c then controlEscape c else [c] := by
    rw [basicChars, if_neg hback, if_neg ht, if_neg hb, if_neg hf, if_neg hr, if_neg hn]
  rw [hchars]
  by_cases hcontrol : isControl c = true
  · rw [if_pos hcontrol]
    exact .inl (exists_controlEscape (toNat_of_isControl hcontrol))
  · have hplain := isCommentChar_of_not_isControl hcontrol hn
    have hbasic : isBasicChar c = true := by
      rw [isBasicChar, hplain, decide_eq_true hquote, decide_eq_true hback]
      rfl
    rw [if_neg hcontrol]
    exact .inr ⟨rfl, hback, hr, .inr hbasic⟩

section

variable {escape rest text after : List Char} {c : Char}

theorem basic?_escape (h : Escapes escape c) (hrest : basic? rest = some (text, after)) :
    basic? ('\\' :: (escape ++ rest)) = some (c :: text, after) := by
  have hback : ('\\' : Char) ≠ '\x22' := by decide
  rw [basic?, if_neg hback, if_pos rfl, h.read]
  simp only [Option.bind_eq_bind, Option.bind_some, List.drop_left, hrest]
  rfl

theorem basic?_plain (hquote : c ≠ '\x22') (hback : c ≠ '\\') (h : isBasicChar c = true)
    (hrest : basic? rest = some (text, after)) : basic? (c :: rest) = some (c :: text, after) := by
  rw [basic?, if_neg hquote, if_neg hback, if_pos h, hrest]
  rfl

theorem basicLines?_escape (h : Escapes escape c) (hrest : basicLines? rest = some (text, after)) :
    basicLines? ('\\' :: (escape ++ rest)) = some (c :: text, after) := by
  have hback : ('\\' : Char) ≠ '\x22' := by decide
  rw [basicLines?, if_neg hback, if_pos rfl, h.opens, h.read]
  simp only [Option.bind_eq_bind, Option.bind_some, List.drop_left, hrest]
  rfl

theorem basicLines?_plain (hquote : c ≠ '\x22') (hback : c ≠ '\\')
    (h : c = '\n' ∨ isBasicChar c = true) (hrest : basicLines? rest = some (text, after)) :
    basicLines? (c :: rest) = some (c :: text, after) := by
  rw [basicLines?, if_neg hquote, if_neg hback, if_pos h, hrest]
  rfl

/-- A quote that two others do not follow is one of the text. -/
theorem basicLines?_quote (h : rest.take 2 ≠ ['\x22', '\x22'])
    (hrest : basicLines? rest = some (text, after)) :
    basicLines? ('\x22' :: rest) = some ('\x22' :: text, after) := by
  rw [basicLines?, if_pos rfl, if_neg h, hrest]
  rfl

/-- Three quotes close the text. -/
theorem basicLines?_closing (rest : List Char) :
    basicLines? ('\x22' :: '\x22' :: '\x22' :: rest) = some (closing '\x22' rest) := by
  have htwo : ('\x22' :: '\x22' :: rest).take 2 = ['\x22', '\x22'] := rfl
  rw [basicLines?, if_pos rfl, if_pos htwo]
  rfl

theorem escapes_quote : Escapes ['\x22'] '\x22' :=
  escapes_letter (fun _ => rfl) rfl (by decide) (by decide)

end

/-- A text of one line between double quotes is read up to the closing one. -/
theorem basic?_basicBody (literal : Bool) (text after : List Char) :
    basic? (basicBody ⟨literal, false⟩ 0 text ++ '\x22' :: after) = some (text, after) := by
  have hnever : ¬ 0 < Style.quotesInRow ⟨literal, false⟩ := Nat.not_lt_zero 0
  induction text with
  | nil => rw [basicBody, List.nil_append, basic?, if_pos rfl]
  | cons c text ih =>
    rw [basicBody]
    by_cases hquote : c = '\x22'
    · rw [if_pos hquote, if_neg hnever, hquote]
      have hread := basic?_escape escapes_quote ih
      exact hread
    · rw [if_neg hquote, List.append_assoc]
      rcases basicChars_cases false hquote with ⟨escape, hchars, hescape⟩ |
        ⟨hchars, hback, -, hline | hplain⟩
      · rw [hchars, List.cons_append]
        exact basic?_escape hescape ih
      · exact absurd hline.2 Bool.false_ne_true
      · rw [hchars]
        exact basic?_plain hquote hback hplain ih

theorem head?_cons_ne {c d : Char} (h : c ≠ d) (rest : List Char) : (c :: rest).head? ≠ some d :=
  fun hhead => h (Option.some.inj hhead)

/-- No more quotes follow than may stand in a row: behind two of them there is none, and so there is
none where another character comes. -/
theorem head?_basicBody {s : Style} {behind : Nat} {c : Char} (text more : List Char)
    (h : c ≠ '\x22' ∨ s.quotesInRow ≤ behind) :
    (basicBody s behind (c :: text) ++ more).head? ≠ some '\x22' := by
  rw [basicBody]
  by_cases hquote : c = '\x22'
  · rw [if_pos hquote, if_neg (Nat.not_lt.mpr (h.resolve_left (not_not_intro hquote)))]
    exact head?_cons_ne (by decide) _
  · rw [if_neg hquote]
    rcases basicChars_cases s.tripled hquote with ⟨escape, hchars, -⟩ | ⟨hchars, -⟩
    · rw [hchars]
      exact head?_cons_ne (by decide) _
    · rw [hchars]
      exact head?_cons_ne hquote _

theorem head?_of_take {c : Char} {n : Nat} {text more : List Char}
    (h : text.take (n + 1) = c :: more) : text.head? = some c := by
  cases text with
  | nil => exact absurd h.symm (List.cons_ne_nil _ _)
  | cons d text => exact congrArg some (List.cons.inj h).1

theorem closing_quotes {quote : Char} {after : List Char} (h : after.head? ≠ some quote) :
    closing quote after = ([], after) ∧ closing quote (quote :: after) = ([quote], after) ∧
      closing quote (quote :: quote :: after) = ([quote, quote], after) := by
  cases after with
  | nil => simp [closing]
  | cons c after =>
    have hc : c ≠ quote := fun heq => h (congrArg some heq)
    refine ⟨?_, ?_, ?_⟩
    · simp [closing, hc]
    · simp [closing, hc]
    · simp [closing]

/-- A text of several lines between double quotes is read up to the closing ones. -/
theorem basicLines?_basicBody (literal : Bool) (text : List Char) {after : List Char}
    (hafter : after.head? ≠ some '\x22') (behind : Nat) :
    basicLines? (basicBody ⟨literal, true⟩ behind text ++ '\x22' :: '\x22' :: '\x22' :: after) =
      some (text, after) := by
  obtain ⟨hnone, hone, htwo⟩ := closing_quotes hafter
  induction text generalizing behind with
  | nil =>
    rw [basicBody, List.nil_append, basicLines?_closing, hnone]
  | cons c text ih =>
    by_cases hquote : c = '\x22'
    · rw [hquote, basicBody, if_pos rfl]
      split
      · -- The quote stands for itself, so those behind it may close the text.
        rw [List.cons_append]
        cases text with
        | nil => rw [basicBody, List.nil_append, basicLines?_closing, hone]
        | cons d text =>
          by_cases hd : d ≠ '\x22' ∨ Style.quotesInRow ⟨literal, true⟩ ≤ behind + 1
          · refine basicLines?_quote ?_ (ih (behind + 1))
            exact fun htwo => head?_basicBody text _ hd (head?_of_take htwo)
          · obtain ⟨hsame, hin⟩ := not_or.mp hd
            have hsame : d = '\x22' := Decidable.not_not.mp hsame
            have hnext : basicBody ⟨literal, true⟩ (behind + 1) (d :: text) =
                '\x22' :: basicBody ⟨literal, true⟩ (behind + 2) text := by
              rw [basicBody, if_pos hsame, if_pos (Nat.not_le.mp hin)]
            have ih := ih (behind + 1)
            rw [hsame] at ih hnext ⊢
            rw [hnext, List.cons_append] at ih ⊢
            cases text with
            | nil => rw [basicBody, List.nil_append, basicLines?_closing, htwo]
            | cons e text =>
              have hrow : Style.quotesInRow ⟨literal, true⟩ ≤ behind + 2 := Nat.le_add_left 2 behind
              refine basicLines?_quote ?_ ih
              exact fun htwo => head?_basicBody text _ (.inr hrow)
                (head?_of_take (List.cons.inj htwo).2)
      · have hread := basicLines?_escape escapes_quote (ih 0)
        exact hread
    · rw [basicBody, if_neg hquote, List.append_assoc]
      rcases basicChars_cases true hquote with ⟨escape, hchars, hescape⟩ |
        ⟨hchars, hback, -, hplain⟩
      · rw [hchars, List.cons_append]
        exact basicLines?_escape hescape (ih 0)
      · rw [hchars]
        exact basicLines?_plain hquote hback (hplain.imp_left And.left) (ih 0)

/-- A text of one line between single quotes is read up to the closing one. -/
theorem literal?_append {text : List Char} (h : ∀ c ∈ text, isLiteralChar c = true)
    (after : List Char) : literal? (text ++ '\'' :: after) = some (text, after) := by
  induction text with
  | nil => rw [List.nil_append, literal?, if_pos rfl]
  | cons c text ih =>
    have hliteral := h c (List.mem_cons_self ..)
    have hquote : c ≠ '\'' := by
      rintro rfl
      exact absurd hliteral (by decide)
    rw [List.cons_append, literal?, if_neg hquote, if_pos hliteral,
      ih fun d hd => h d (List.mem_cons_of_mem _ hd)]
    rfl

theorem le_longestRun (wanted : Char) (behind : Nat) (text : List Char) :
    behind ≤ longestRun wanted behind text := by
  induction text generalizing behind with
  | nil => exact Nat.le_refl behind
  | cons c text ih =>
    rw [longestRun]
    split
    · exact Nat.le_of_succ_le (ih (behind + 1))
    · exact Nat.le_max_left ..

theorem longestRun_mono (wanted : Char) {few many : Nat} (h : few ≤ many) (text : List Char) :
    longestRun wanted few text ≤ longestRun wanted many text := by
  induction text generalizing few many with
  | nil => exact h
  | cons c text ih =>
    rw [longestRun, longestRun]
    split
    · exact ih (Nat.succ_le_succ h)
    · omega

/-- The runs of what is left of a text are none but its own. -/
theorem longestRun_tail (wanted c : Char) (text : List Char) :
    longestRun wanted 0 text ≤ longestRun wanted 0 (c :: text) := by
  rw [longestRun]
  split
  · exact longestRun_mono wanted (Nat.zero_le 1) text
  · exact Nat.le_max_right ..

theorem not_mem_of_longestRun {wanted : Char} {text : List Char}
    (h : longestRun wanted 0 text = 0) : wanted ∉ text := by
  induction text with
  | nil => exact List.not_mem_nil
  | cons c text ih =>
    have htail := Nat.le_zero.mp (h ▸ longestRun_tail wanted c text)
    refine fun hmem => (List.mem_cons.mp hmem).elim (fun hc => ?_) (ih htail)
    rw [longestRun, if_pos hc.symm] at h
    exact absurd (h ▸ le_longestRun wanted 1 text) (by decide)

/-- Before three single quotes come in a row, a character is one of the text. -/
theorem literalLines?_plain {c : Char} {rest text after : List Char}
    (hopen : c = '\'' → rest.take 2 ≠ ['\'', '\'']) (hplain : c = '\n' ∨ isCommentChar c = true)
    (hrest : literalLines? rest = some (text, after)) :
    literalLines? (c :: rest) = some (c :: text, after) := by
  have hthree (more : List Char) : c = '\'' → rest = '\'' :: '\'' :: more → False := by
    rintro hc rfl
    exact hopen hc rfl
  rw [literalLines?, if_pos hplain, hrest]
  · rfl
  · exact hthree

/-- A text of several lines between single quotes is read up to the closing ones. -/
theorem literalLines?_append {text after : List Char}
    (h : ∀ c ∈ text, c = '\n' ∨ isCommentChar c = true) (hrun : longestRun '\'' 0 text ≤ 2)
    (hafter : after.head? ≠ some '\'') :
    literalLines? (text ++ '\'' :: '\'' :: '\'' :: after) = some (text, after) := by
  obtain ⟨hnone, hone, htwo⟩ := closing_quotes hafter
  induction text with
  | nil => rw [List.nil_append, literalLines?, hnone]
  | cons c text ih =>
    have hplain := h c (List.mem_cons_self ..)
    have ih := ih (fun d hd => h d (List.mem_cons_of_mem _ hd))
      (Nat.le_trans (longestRun_tail '\'' c text) hrun)
    rw [List.cons_append]
    by_cases hc : c = '\''
    · subst hc
      cases text with
      | nil => rw [List.nil_append, literalLines?, hone]
      | cons d text =>
        by_cases hd : d = '\''
        · subst hd
          cases text with
          | nil => rw [List.cons_append, List.nil_append, literalLines?, htwo]
          | cons e text =>
            refine literalLines?_plain (fun _ hquotes => ?_) hplain ih
            obtain rfl : e = '\'' := (List.cons.inj (List.cons.inj hquotes).2).1
            rw [longestRun, if_pos rfl, longestRun, if_pos rfl, longestRun, if_pos rfl] at hrun
            exact absurd (Nat.le_trans (le_longestRun '\'' _ text) hrun) (by decide)
        · exact literalLines?_plain (fun _ hquotes => hd (List.cons.inj hquotes).1) hplain ih
    · exact literalLines?_plain (fun heq => absurd heq hc) hplain ih

/-- Unless two others follow it, a quote opens a text of one line. -/
theorem read?_line {quote : Char} {rest : List Char} (h : rest.take 2 ≠ [quote, quote]) :
    Quoted.read? (quote :: rest) = line? (quote :: rest) := by
  rw [Quoted.read?]
  · rintro more hquotes
    obtain ⟨rfl, rfl⟩ := List.cons.inj hquotes
    exact h rfl
  · rintro more hquotes
    obtain ⟨rfl, rfl⟩ := List.cons.inj hquotes
    exact h rfl

theorem dropLineEnd_of_head? {text : List Char} (h : text.head? ≠ some '\n') :
    dropLineEnd text = text := by
  rw [dropLineEnd]
  rintro rest rfl
  exact h rfl

/-- A line end in front of the text is written behind the opening quotes where the text has lines,
so it is only that one that is left out. -/
theorem dropLineEnd_opening {text body : List Char}
    (h : '\n' ∉ text → body.head? ≠ some '\n') :
    dropLineEnd ((if text.contains '\n' then ['\n'] else []) ++ body) = body := by
  by_cases hline : '\n' ∈ text
  · rw [if_pos (List.contains_iff_mem.mpr hline)]
    rfl
  · rw [if_neg (mt List.contains_iff_mem.mp hline), List.nil_append,
      dropLineEnd_of_head? (h hline)]

namespace Style

variable {text after : List Char}

/-- What follows a written text is no quote. -/
def Parted (after : List Char) : Prop := after.head? ≠ some '\x22' ∧ after.head? ≠ some '\''

theorem read?_basic (h : Parted after) :
    Quoted.read? (write ⟨false, false⟩ text ++ after) = some (text, after) := by
  have hwrite : write ⟨false, false⟩ text ++ after =
      '\x22' :: (basicBody ⟨false, false⟩ 0 text ++ '\x22' :: after) := by
    simp [write, quotes]
  have hopen : (basicBody ⟨false, false⟩ 0 text ++ '\x22' :: after).take 2 ≠ ['\x22', '\x22'] := by
    intro htwo
    cases text with
    | nil => exact h.1 (head?_of_take (List.cons.inj htwo).2)
    | cons c text => exact head?_basicBody text _ (.inr (Nat.le_refl 0)) (head?_of_take htwo)
  rw [hwrite, read?_line hopen]
  exact basic?_basicBody false text after

theorem read?_literal (h : Parted after) (htext : ∀ c ∈ text, isLiteralChar c = true) :
    Quoted.read? (write ⟨true, false⟩ text ++ after) = some (text, after) := by
  have hwrite : write ⟨true, false⟩ text ++ after = '\'' :: (text ++ '\'' :: after) := by
    simp [write, quotes]
  have hopen : (text ++ '\'' :: after).take 2 ≠ ['\'', '\''] := by
    intro htwo
    cases text with
    | nil => exact h.2 (head?_of_take (List.cons.inj htwo).2)
    | cons c text =>
      obtain rfl := Option.some.inj (head?_of_take htwo)
      exact absurd (htext '\'' (List.mem_cons_self ..)) (by decide)
  rw [hwrite, read?_line hopen]
  exact literal?_append htext after

/-- Where a text does not begin with a line end, what is written does not. -/
theorem head?_basicBody_line (s : Style) (h : '\n' ∉ text) (more : List Char) :
    (basicBody s 0 text ++ '\x22' :: more).head? ≠ some '\n' := by
  cases text with
  | nil => exact head?_cons_ne (by decide) _
  | cons c text =>
    rw [basicBody]
    split
    · split
      · exact head?_cons_ne (by decide) _
      · exact head?_cons_ne (by decide) _
    next hquote =>
      rcases basicChars_cases s.tripled hquote with ⟨escape, hchars, -⟩ | ⟨hchars, -⟩
      · rw [hchars]
        exact head?_cons_ne (by decide) _
      · rw [hchars]
        exact fun hhead => h (Option.some.inj hhead ▸ List.mem_cons_self ..)

theorem read?_basicLines (h : Parted after) :
    Quoted.read? (write ⟨false, true⟩ text ++ after) = some (text, after) := by
  have hwrite : write ⟨false, true⟩ text ++ after = '\x22' :: '\x22' :: '\x22' ::
      ((if text.contains '\n' then ['\n'] else []) ++
        (basicBody ⟨false, true⟩ 0 text ++ '\x22' :: '\x22' :: '\x22' :: after)) := by
    simp [write, quotes]
  rw [hwrite, Quoted.read?, dropLineEnd_opening fun hline => head?_basicBody_line _ hline _]
  exact basicLines?_basicBody false text h.1 0

theorem read?_literalLines (h : Parted after)
    (htext : ∀ c ∈ text, c = '\n' ∨ isCommentChar c = true)
    (hrun : longestRun '\'' 0 text ≤ 2) :
    Quoted.read? (write ⟨true, true⟩ text ++ after) = some (text, after) := by
  have hwrite : write ⟨true, true⟩ text ++ after = '\'' :: '\'' :: '\'' ::
      ((if text.contains '\n' then ['\n'] else []) ++
        (text ++ '\'' :: '\'' :: '\'' :: after)) := by
    simp [write, quotes]
  have hbody (hline : '\n' ∉ text) :
      (text ++ '\'' :: '\'' :: '\'' :: after).head? ≠ some '\n' := by
    cases text with
    | nil => exact head?_cons_ne (by decide) _
    | cons c text => exact fun hhead => hline (Option.some.inj hhead ▸ List.mem_cons_self ..)
  rw [hwrite, Quoted.read?, dropLineEnd_opening hbody]
  exact literalLines?_append htext hrun h.2

/-- A style suits a text. -/
structure Suits (s : Style) (text : List Char) : Prop where
  /-- Where every character stands for itself, it is no control. -/
  plain : s.literal = true → ∀ c ∈ text, c = '\n' ∨ isCommentChar c = true
  /-- Single quotes do not close the text too early. -/
  quotes : s.literal = true → longestRun '\'' 0 text ≤ if s.tripled then 2 else 0
  /-- A text of one line has no line end that stands for itself. -/
  line : s.literal = true → s.tripled = false → '\n' ∉ text

/-- The style that is chosen suits the text. -/
theorem suits_ofText (text : List Char) : (ofText text).Suits text := by
  have hbasic (tripled : Bool) : Suits ⟨false, tripled⟩ text :=
    ⟨fun h => absurd h Bool.false_ne_true, fun h => absurd h Bool.false_ne_true,
      fun h => absurd h Bool.false_ne_true⟩
  have hplain (h : (!text.any isControl) = true) (c : Char) (hc : c ∈ text) :
      c = '\n' ∨ isCommentChar c = true := by
    by_cases hline : c = '\n'
    · exact .inl hline
    · refine .inr (isCommentChar_of_not_isControl (fun hcontrol => ?_) hline)
      rw [List.any_eq_true.mpr ⟨c, hc, hcontrol⟩] at h
      exact absurd h (by decide)
  unfold ofText
  simp only
  split
  · exact hbasic false
  · split
    next h =>
      refine ⟨fun _ => hplain h.1, fun _ => Nat.le_of_eq h.2.1, fun _ _ hline => ?_⟩
      rw [List.contains_iff_mem.mpr hline] at h
      exact absurd h.2.2 (by decide)
    next =>
      split
      · exact hbasic true
      · split
        next h => exact ⟨fun _ => hplain h.1, fun _ => h.2, fun _ h => absurd h.symm (by decide)⟩
        next => exact hbasic _

end Style

/-- A written text is read as itself, in whatever style it is written. -/
theorem read?_stringChars (text : String) {after : List Char} (h : Style.Parted after) :
    Quoted.read? (stringChars text ++ after) = some (text.toList, after) := by
  have hsuits := Style.suits_ofText text.toList
  rw [stringChars]
  generalize Style.ofText text.toList = s at hsuits ⊢
  obtain ⟨literal, tripled⟩ := s
  cases literal with
  | false =>
    cases tripled with
    | false => exact Style.read?_basic h
    | true => exact Style.read?_basicLines h
  | true =>
    cases tripled with
    | true => exact Style.read?_literalLines h (hsuits.plain rfl) (hsuits.quotes rfl)
    | false =>
      have hquote := not_mem_of_longestRun (Nat.le_zero.mp (hsuits.quotes rfl))
      refine Style.read?_literal h fun c hc => ?_
      have hplain := (hsuits.plain rfl c hc).resolve_left
        fun hline => hsuits.line rfl rfl (hline ▸ hc)
      rw [isLiteralChar, hplain, Bool.true_and, decide_eq_true_eq]
      exact fun heq => hquote (heq ▸ hc)

/-- Between double quotes no carriage return stands for itself. -/
theorem return_not_mem_basicBody (s : Style) (behind : Nat) (text : List Char) :
    '\r' ∉ basicBody s behind text := by
  induction text generalizing behind with
  | nil => exact List.not_mem_nil
  | cons c text ih =>
    rw [basicBody]
    split
    · split
      · exact List.not_mem_cons_of_ne_of_not_mem (by decide) (ih _)
      · exact List.not_mem_cons_of_ne_of_not_mem (by decide)
          (List.not_mem_cons_of_ne_of_not_mem (by decide) (ih 0))
    next hquote =>
      refine fun hmem => (List.mem_append.mp hmem).elim (fun hchar => ?_) (ih 0)
      rcases basicChars_cases s.tripled hquote with ⟨escape, hchars, hescape⟩ |
        ⟨hchars, -, hreturn, -⟩
      · rw [hchars] at hchar
        exact List.not_mem_cons_of_ne_of_not_mem (by decide) hescape.joined hchar
      · rw [hchars] at hchar
        exact hreturn (List.mem_singleton.mp hchar).symm

/-- A written text has no carriage return, so its line ends are its own. -/
theorem return_not_mem_stringChars (text : String) : '\r' ∉ stringChars text := by
  have hsuits := Style.suits_ofText text.toList
  rw [stringChars]
  generalize Style.ofText text.toList = s at hsuits ⊢
  have hquotes : '\r' ∉ s.quotes := by
    rw [Style.quotes]
    refine fun hmem => absurd (List.eq_of_mem_replicate hmem) ?_
    split
    · decide
    · decide
  have hopening : '\r' ∉ (if s.tripled ∧ text.toList.contains '\n' then ['\n'] else []) := by
    split
    · decide
    · exact List.not_mem_nil
  have hbody : '\r' ∉ (if s.literal then text.toList else basicBody s 0 text.toList) := by
    split
    next hliteral =>
      intro hmem
      rcases hsuits.plain hliteral '\r' hmem with hline | hplain
      · exact absurd hline (by decide)
      · exact absurd hplain (by decide)
    next => exact return_not_mem_basicBody s 0 text.toList
  rw [Style.write]
  simp only [List.mem_append, not_or]
  exact ⟨⟨⟨hquotes, hopening⟩, hbody⟩, hquotes⟩

end PacketTunnel.Toml
