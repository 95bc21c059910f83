import PacketTunnel.Proofs.NumeralText
import PacketTunnel.Proofs.TomlText
import PacketTunnel.Toml.Document

/-!
# TOML documents, read as they were written

A line that is written is an assignment of a text to a bare name, the header of a table with a bare
name, or empty. A bare name ends in front of the blank or the bracket behind it, and a text in front
of its line end, so a document that is written line by line is read as the row of its statements.
Assignments of different names gather in the table that is open, and a table is put in behind what
came before its header.
-/

namespace PacketTunnel.Toml

open Text

/-- A name that needs no quotes. -/
structure Bare (name : String) : Prop where
  /-- It has a character. -/
  some : name.toList ≠ []
  /-- Each of its characters may stand in a name without quotes. -/
  all : name.toList.all isBareChar = true

theorem Bare.plain {name : String} (h : Bare name) : ∀ c ∈ name.toList, isBareChar c = true :=
  List.all_eq_true.mp h.all

/-- A bare name begins with no character that is none of a bare name. -/
theorem Bare.exists_cons {name : String} (h : Bare name) : ∃ c rest, name.toList = c :: rest ∧
    ∀ d, isBareChar d = false → c ≠ d := by
  cases hname : name.toList with
  | nil => exact absurd hname h.some
  | cons c rest =>
    refine ⟨c, rest, rfl, ?_⟩
    rintro d hd rfl
    exact Bool.false_ne_true (hd.symm.trans (h.plain c (hname ▸ List.mem_cons_self ..)))

theorem bareName?_append {name : String} (h : Bare name) {after : List Char}
    (hafter : Stops isBareChar after) :
    bareName? (name.toList ++ after) = some (name.toList, after) := by
  have hempty : name.toList.isEmpty = false := List.isEmpty_eq_false_iff.mpr h.some
  rw [bareName?, takeWhile_append_of_stops h.plain hafter, dropWhile_append_of_stops h.plain hafter]
  simp only [hempty, Bool.false_eq_true, ite_false]

theorem line?_eq_none {c : Char} {rest : List Char} (hdouble : c ≠ '\x22') (hsingle : c ≠ '\'') :
    Quoted.line? (c :: rest) = none := by
  rw [Quoted.line?]
  · exact fun _ h => hdouble (List.cons.inj h).1
  · exact fun _ h => hsingle (List.cons.inj h).1

/-- A bare name is read off the front of a text. -/
theorem name?_append {name : String} (h : Bare name) {after : List Char}
    (hafter : Stops isBareChar after) : name? (name.toList ++ after) = some (name, after) := by
  have hbare := bareName?_append h hafter
  obtain ⟨c, rest, hname, hc⟩ := h.exists_cons
  have hquoted : Quoted.line? (name.toList ++ after) = none := by
    rw [hname]
    exact line?_eq_none (hc _ (by decide)) (hc _ (by decide))
  rw [name?, hquoted, hbare]
  simp only [Option.none_or, Option.map_some, String.ofList_toList]

theorem isBlank_eq_false {c : Char} (hspace : c ≠ ' ') (htab : c ≠ '\t') : isBlank c = false := by
  rw [isBlank, decide_eq_false hspace, decide_eq_false htab]
  rfl

theorem dropBlanks_append {name : String} (h : Bare name) (after : List Char) :
    dropBlanks (name.toList ++ after) = name.toList ++ after := by
  obtain ⟨c, rest, hname, hc⟩ := h.exists_cons
  have hblank : isBlank c = false := isBlank_eq_false (hc _ (by decide)) (hc _ (by decide))
  rw [hname, List.cons_append, dropBlanks, List.dropWhile_cons, hblank, if_neg Bool.false_ne_true]

/-- A bare name is a path of its own where no dot follows. -/
theorem path?_append {name : String} (h : Bare name) {after : List Char}
    (hafter : Stops isBareChar after) (hdot : (dropBlanks after).head? ≠ some '.') :
    path? (name.toList ++ after) = some (⟨[], name⟩, dropBlanks after) := by
  change names? (78 + 1) (name.toList ++ after) = _
  rw [names?, dropBlanks_append h, name?_append h hafter]
  simp only [Option.bind_eq_bind, Option.bind_some]
  split
  next rest hrest => exact absurd (congrArg List.head? hrest) hdot
  next => rfl

/-- A written text opens with a quote. -/
theorem exists_quote (text : String) : ∃ quote rest, stringChars text = quote :: rest ∧
    (quote = '\x22' ∨ quote = '\'') := by
  rw [stringChars]
  generalize Style.ofText text.toList = s
  obtain ⟨literal, tripled⟩ := s
  cases literal with
  | false => cases tripled with
    | false => exact ⟨_, _, rfl, .inl rfl⟩
    | true => exact ⟨_, _, rfl, .inl rfl⟩
  | true => cases tripled with
    | false => exact ⟨_, _, rfl, .inr rfl⟩
    | true => exact ⟨_, _, rfl, .inr rfl⟩

/-- A written text is a value. -/
theorem value?_stringChars (text : String) {after : List Char} (h : Style.Parted after) :
    value? nestingLimit (stringChars text ++ after) = some (.scalar (.string text), after) := by
  have hscalar : scalar? (stringChars text ++ after) = some (.string text, after) := by
    rw [scalar?, read?_stringChars text h]
    simp only [Option.map_some, Option.some_or, String.ofList_toList]
  obtain ⟨quote, rest, htext, rfl | rfl⟩ := exists_quote text
  · rw [htext] at hscalar ⊢
    change (scalar? ('\x22' :: rest ++ after)).map _ = _
    rw [hscalar]
    rfl
  · rw [htext] at hscalar ⊢
    change (scalar? ('\'' :: rest ++ after)).map _ = _
    rw [hscalar]
    rfl

/-- A line of a document. -/
inductive Line where
  /-- An assignment of a text to a name. -/
  | assignment (name text : String)
  /-- The header of a table. -/
  | header (name : String)
  /-- Nothing. -/
  | empty

namespace Line

/-- The line as it is written. -/
def chars : Line → List Char
  | assignment name text => assignmentChars name text
  | header name => headerChars name
  | empty => ['\n']

/-- The statement of the line, if it has one. -/
def statement? : Line → Option Statement
  | assignment name text => some (.assignment ⟨[], name⟩ (.scalar (.string text)))
  | header name => some (.table ⟨[], name⟩)
  | empty => none

/-- The names in the line need no quotes. -/
def IsBare : Line → Prop
  | assignment name _ => Bare name
  | header name => Bare name
  | empty => True

end Line

theorem read?_assignment {name : String} (h : Bare name) (text : String) (rest : List Char) :
    Statement.read? (assignmentChars name text ++ rest) =
      some (.assignment ⟨[], name⟩ (.scalar (.string text)), '\n' :: rest) := by
  have hchars : assignmentChars name text ++ rest =
      name.toList ++ ' ' :: '=' :: ' ' :: (stringChars text ++ '\n' :: rest) := by
    simp only [assignmentChars, List.append_assoc, List.cons_append, List.nil_append]
  obtain ⟨c, more, hname, hc⟩ := h.exists_cons
  have hpath : path? (name.toList ++ ' ' :: '=' :: ' ' :: (stringChars text ++ '\n' :: rest)) =
      some (⟨[], name⟩, '=' :: ' ' :: (stringChars text ++ '\n' :: rest)) :=
    path?_append h (stops_cons (by decide) _) (by simp [dropBlanks, isBlank])
  have hblanks : dropBlanks (' ' :: (stringChars text ++ '\n' :: rest)) =
      stringChars text ++ '\n' :: rest := by
    obtain ⟨quote, rest, htext, rfl | rfl⟩ := exists_quote text
    · rw [htext]
      rfl
    · rw [htext]
      rfl
  have hparted : Style.Parted ('\n' :: rest) := ⟨by simp, by simp⟩
  have hpair : pair? (value? nestingLimit) (assignmentChars name text ++ rest) =
      some ((⟨[], name⟩, .scalar (.string text)), '\n' :: rest) := by
    rw [hchars, pair?, hpath]
    simp only [Option.bind_eq_bind, Option.bind_some, hblanks, value?_stringChars text hparted]
    rfl
  rw [hchars, hname, List.cons_append] at hpair ⊢
  rw [Statement.read?, hpair]
  · rfl
  · exact fun _ heq => hc '[' (by decide) (List.cons.inj heq).1

theorem read?_header {name : String} (h : Bare name) (rest : List Char) :
    Statement.read? (headerChars name ++ rest) = some (.table ⟨[], name⟩, '\n' :: rest) := by
  have hchars : headerChars name ++ rest = '[' :: (name.toList ++ ']' :: '\n' :: rest) := by
    simp only [headerChars, List.append_assoc, List.cons_append, List.nil_append]
  obtain ⟨c, more, hname, hc⟩ := h.exists_cons
  have hpath : path? (name.toList ++ ']' :: '\n' :: rest) =
      some (⟨[], name⟩, ']' :: '\n' :: rest) :=
    path?_append h (stops_cons (by decide) _) (by simp [dropBlanks, isBlank])
  rw [hchars, Statement.read?]
  rw [hname, List.cons_append] at hpath ⊢
  rw [Statement.header?, hpath]
  · rfl
  · exact fun _ heq => hc '[' (by decide) (List.cons.inj heq).1

theorem readAll?_empty (fuel : Nat) (rest : List Char) :
    Statement.readAll? (fuel + 1) ('\n' :: rest) = Statement.readAll? fuel rest := rfl

/-- A statement is read, and then those in the lines behind it. -/
theorem readAll?_statement {c : Char} {text rest : List Char} {statement : Statement} {fuel : Nat}
    (hblank : isBlank c = false) (hline : c ≠ '\n') (hcomment : c ≠ '#')
    (hread : Statement.read? (c :: text) = some (statement, '\n' :: rest)) :
    Statement.readAll? (fuel + 1) (c :: text) =
      (Statement.readAll? fuel rest).map (statement :: ·) := by
  have hdrop : dropBlanks (c :: text) = c :: text := by
    rw [dropBlanks, List.dropWhile_cons, hblank, if_neg Bool.false_ne_true]
  have hend : lineEnd? ('\n' :: rest) = some rest := rfl
  rw [Statement.readAll?, hdrop]
  split
  next h => exact absurd h (List.cons_ne_nil _ _)
  next h => exact absurd (List.cons.inj h).1 hline
  next h => exact absurd (List.cons.inj h).1 hcomment
  next =>
    simp only [hread, hend, Option.bind_eq_bind, Option.bind_some]
    cases Statement.readAll? fuel rest with
    | none => rfl
    | some statements => rfl

/-- A line is read as its statement, if it has one. -/
theorem readAll?_line {line : Line} (h : line.IsBare) (fuel : Nat) (rest : List Char) :
    Statement.readAll? (fuel + 1) (line.chars ++ rest) =
      (Statement.readAll? fuel rest).map (line.statement?.toList ++ ·) := by
  cases line with
  | assignment name text =>
    obtain ⟨c, more, hname, hc⟩ := Bare.exists_cons h
    have hread := read?_assignment h text rest
    have hchars : assignmentChars name text ++ rest =
        c :: (more ++ [' ', '=', ' '] ++ stringChars text ++ ['\n'] ++ rest) := by
      rw [assignmentChars, hname]
      rfl
    rw [hchars] at hread
    rw [Line.chars, hchars]
    exact readAll?_statement (isBlank_eq_false (hc _ (by decide)) (hc _ (by decide)))
      (hc _ (by decide)) (hc _ (by decide)) hread
  | header name =>
    exact readAll?_statement rfl (by decide) (by decide) (read?_header h rest)
  | empty =>
    rw [Line.chars, List.cons_append, List.nil_append, readAll?_empty]
    exact Option.map_id'.symm

/-- Lines are read as the row of their statements. -/
theorem readAll?_lines {lines : List Line} (h : ∀ line ∈ lines, line.IsBare) {fuel : Nat}
    (hfuel : lines.length < fuel) :
    Statement.readAll? fuel (lines.flatMap Line.chars) =
      some (lines.filterMap Line.statement?) := by
  obtain ⟨fuel, rfl⟩ : ∃ n, fuel = n + 1 := ⟨fuel - 1, by omega⟩
  induction lines generalizing fuel with
  | nil => rfl
  | cons line lines ih =>
    rw [List.length_cons] at hfuel
    obtain ⟨fuel, rfl⟩ : ∃ n, fuel = n + 1 := ⟨fuel - 1, by omega⟩
    rw [List.flatMap_cons, readAll?_line (h line (List.mem_cons_self ..)),
      ih (fun l hl => h l (List.mem_cons_of_mem _ hl)) fuel (by omega), Option.map_some,
      List.filterMap_cons]
    cases line.statement? with
    | none => rfl
    | some statement => rfl

/-- Every line takes up a character. -/
theorem length_le_lines (lines : List Line) : lines.length ≤ (lines.flatMap Line.chars).length := by
  induction lines with
  | nil => exact Nat.le_refl 0
  | cons line lines ih =>
    have hpos : 0 < line.chars.length := by
      cases line with
      | assignment name text =>
        rw [Line.chars, assignmentChars, List.length_append]
        exact Nat.lt_add_left _ Nat.one_pos
      | header name => exact Nat.succ_pos _
      | empty => exact Nat.one_pos
    rw [List.length_cons, List.flatMap_cons, List.length_append]
    omega

/-- Without carriage returns no line end is changed. -/
theorem joinLineEnds_of_not_mem {text : List Char} (h : '\r' ∉ text) :
    joinLineEnds text = text := by
  induction text with
  | nil => rw [joinLineEnds]
  | cons c text ih =>
    have hc : c ≠ '\r' := fun heq => h (heq ▸ List.mem_cons_self ..)
    rw [joinLineEnds, ih fun hmem => h (List.mem_cons_of_mem _ hmem)]
    exact fun _ heq => absurd heq hc

theorem return_not_mem_line {line : Line} (h : line.IsBare) : '\r' ∉ line.chars := by
  have hname {name : String} (h : Bare name) : '\r' ∉ name.toList := fun hmem =>
    absurd (h.plain '\r' hmem) (by decide)
  cases line with
  | assignment name text =>
    have htext := return_not_mem_stringChars text
    simp only [Line.chars, assignmentChars, List.mem_append, not_or]
    exact ⟨⟨⟨hname h, by decide⟩, htext⟩, by decide⟩
  | header name =>
    simp only [Line.chars, headerChars, List.cons_append, List.mem_cons, List.mem_append, not_or]
    exact ⟨by decide, hname h, by decide⟩
  | empty => decide

/-- No line begins with the mark of byte order. -/
theorem dropOrderMark_lines {lines : List Line} (h : ∀ line ∈ lines, line.IsBare) :
    dropOrderMark (lines.flatMap Line.chars) = lines.flatMap Line.chars := by
  cases lines with
  | nil => rfl
  | cons line lines =>
    rw [List.flatMap_cons]
    cases line with
    | assignment name text =>
      obtain ⟨c, more, hname, hc⟩ := Bare.exists_cons (h _ (List.mem_cons_self ..))
      rw [Line.chars, assignmentChars, hname]
      simp only [List.cons_append]
      rw [dropOrderMark]
      exact fun _ heq => hc '\ufeff' (by decide) (List.cons.inj heq).1
    | header name => rfl
    | empty => rfl

/-- A document that is written line by line is read as the row of its statements. -/
theorem statements?_lines {lines : List Line} (h : ∀ line ∈ lines, line.IsBare) :
    statements? (lines.flatMap Line.chars) = some (lines.filterMap Line.statement?) := by
  have hreturn : '\r' ∉ lines.flatMap Line.chars := fun hmem => by
    obtain ⟨line, hline, hc⟩ := List.mem_flatMap.mp hmem
    exact return_not_mem_line (h line hline) hc
  rw [statements?, dropOrderMark_lines h, joinLineEnds_of_not_mem hreturn]
  exact readAll?_lines h (Nat.lt_succ_of_le (length_le_lines lines))

/-- A name is new among some entries. -/
theorem find?_eq_none {entries : Entries} {name : String} (h : name ∉ entries.map Prod.fst) :
    entries.find? name = none := by
  rw [Entries.find?, List.lookup_eq_none_iff]
  intro entry hentry
  rw [bne_iff_ne]
  exact fun heq => h (List.mem_map.mpr ⟨entry, hentry, heq.symm⟩)

/-- A new name is added to the open table. -/
theorem assign_leaf {entries : Entries} {name : String} (h : name ∉ entries.map Prod.fst)
    (value : Node) : entries.assign ⟨[], name⟩ value = some (entries ++ [(name, value)]) := by
  have hput : Entries.assign.put ⟨[], name⟩ value .headed entries =
      some ((), entries ++ [(name, value)]) := by
    rw [Entries.assign.put, find?_eq_none h]
    rfl
  rw [Entries.assign, Entries.descend, hput]
  rfl

/-- The assignment that gives an entry. -/
def assignmentOf (entry : String × Node) : Statement := .assignment ⟨[], entry.1⟩ entry.2

/-- Assignments of new names gather in the open table. -/
theorem run_assignments {entries : Entries} {d : Draft}
    (h : ((d.current ++ entries).map Prod.fst).Nodup) :
    (entries.map assignmentOf).foldlM Draft.run d =
      some { d with current := d.current ++ entries } := by
  induction entries generalizing d with
  | nil =>
    rw [List.append_nil]
    rfl
  | cons entry entries ih =>
    have hnew : entry.1 ∉ d.current.map Prod.fst := by
      rw [List.map_append, List.map_cons] at h
      exact fun hmem => (List.nodup_append.mp h).2.2 _ hmem _ (List.mem_cons_self ..) rfl
    have hrun : d.run (assignmentOf entry) =
        some { d with current := d.current ++ [entry] } := by
      rw [assignmentOf, Draft.run, assign_leaf hnew]
      rfl
    rw [List.append_cons] at h ⊢
    rw [List.map_cons, List.foldlM_cons, hrun]
    exact ih h

/-- A document of entries and one table behind them is put together from the assignments of the
entries, the header of the table and the assignments of its entries. -/
theorem ofStatements?_table {top inner : Entries} {name : String}
    (htop : (top.map Prod.fst).Nodup) (hname : name ∉ top.map Prod.fst)
    (hinner : (inner.map Prod.fst).Nodup) :
    ofStatements? (top.map assignmentOf ++ .table ⟨[], name⟩ :: inner.map assignmentOf) =
      some (top ++ [(name, .table .headed inner)]) := by
  have hopen : Draft.run ⟨[], none, top⟩ (.table ⟨[], name⟩) =
      some ⟨top, some (⟨[], name⟩, false), []⟩ := by
    rw [Draft.run, Draft.close]
    simp only [Option.bind_eq_bind, Option.bind_some, Entries.descend, Draft.takeTable,
      find?_eq_none hname]
    rfl
  have hclose : Draft.close ⟨top, some (⟨[], name⟩, false), inner⟩ =
      some (top ++ [(name, .table .headed inner)]) := by
    rw [Draft.close]
    simp only [Bool.false_eq_true, ite_false, Option.bind_eq_bind, Entries.descend, Draft.putTable,
      find?_eq_none hname, Option.bind_some]
    rfl
  have hfirst : (top.map assignmentOf).foldlM Draft.run {} = some ⟨[], none, top⟩ :=
    run_assignments htop
  have hsecond : (inner.map assignmentOf).foldlM Draft.run ⟨top, some (⟨[], name⟩, false), []⟩ =
      some ⟨top, some (⟨[], name⟩, false), inner⟩ := run_assignments hinner
  rw [ofStatements?, List.foldlM_append, hfirst]
  simp only [Option.bind_eq_bind, Option.bind_some, List.foldlM_cons, hopen, hsecond, hclose]

end PacketTunnel.Toml
