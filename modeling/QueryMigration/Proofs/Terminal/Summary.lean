import QueryMigration.Proofs.Terminal.Shown
import QueryMigration.Proofs.Text.Written

/-! The summary in its two looks: the same cells, but for the width of the last column. -/

namespace QueryMigration.Terminal

open Text

def trimmedLines (t : Text) : Text := mapLines (dropEndWhile (· == ' ')) t

theorem dropEndWhile_append_spaces (l : Text) (k : Nat) :
    dropEndWhile (· == ' ') (l ++ List.replicate k ' ') = dropEndWhile (· == ' ') l := by
  have hspaces : ∀ c ∈ List.replicate k ' ', (c == ' ') = true := by simp
  rw [dropEndWhile, dropEndWhile, List.reverse_append, List.reverse_replicate,
    List.dropWhile_append_of_pos hspaces]

theorem trimmedLines_line {l : Text} (hl : '\n' ∉ l) (k : Nat) (t : Text) :
    trimmedLines (l ++ List.replicate k ' ' ++ '\n' :: t) =
      dropEndWhile (· == ' ') l ++ '\n' :: trimmedLines t := by
  have hline : '\n' ∉ l ++ List.replicate k ' ' := by simp [hl]
  rw [trimmedLines, mapLines_append_lineFeed hline, dropEndWhile_append_spaces, trimmedLines]

theorem count_trimmedLines {c : Char} (hspace : c ≠ ' ') (hfeed : c ≠ '\n') (t : Text) :
    (trimmedLines t).count c = t.count c := by
  have htrim (l : Text) : (dropEndWhile (· == ' ') l).count c = l.count c := by
    have hcut : (l.reverse.takeWhile (· == ' ')).count c = 0 := by
      refine List.count_eq_zero.2 fun h => hspace ?_
      exact eq_of_beq (List.all_eq_true.1 List.all_takeWhile c h)
    have hsplit : l.reverse.takeWhile (· == ' ') ++ l.reverse.dropWhile (· == ' ') = l.reverse :=
      List.takeWhile_append_dropWhile
    rw [← l.count_reverse, ← hsplit, List.count_append, hcut, Nat.zero_add, dropEndWhile,
      List.count_reverse]
  rw [trimmedLines, mapLines, count_unlines hfeed, ← count_lines hfeed t, List.count_flatten,
    List.count_flatten, List.map_map]
  exact congrArg List.sum (List.map_congr_left fun l _ => htrim l)

structure SameCells (plain styled : Text × Text) : Prop where
  name_eq : styled.1 = plain.1
  name_unescaped : escapeChar ∉ plain.1
  name_line : '\n' ∉ plain.1
  count_shown : Shows styled.2 plain.2
  count_line : '\n' ∉ plain.2

section Cells

theorem shows_countCell (n : Int) : Shows (countCell false n) (countCell true n) := by
  have hdigits : Shows n.repr.toList n.repr.toList :=
    shows_self (notMem_repr (by decide) (by decide) n)
  have hgreen : IsCodes "32;1".toList := isCodes_of_all (by decide) rfl
  have hended : IsCodes "0;22".toList := isCodes_of_all (by decide) rfl
  have hgrey : IsCodes "90".toList := isCodes_of_all (by decide) rfl
  simp only [countCell, Bool.false_eq_true, if_false, if_true]
  split
  · have hcell := ((shows_sequence hgreen).append hdigits).append (shows_sequence hended)
    rwa [List.nil_append, List.append_nil] at hcell
  · exact hdigits.wrap hgrey

theorem shows_separator : Shows (separator false) (separator true) := by
  have htext : Shows " | ".toList " | ".toList := shows_self (by decide)
  have hgrey : IsCodes "90".toList := isCodes_of_all (by decide) rfl
  exact htext.emphasize hgrey

theorem sameCells_titles : SameCells titles titles where
  name_eq := rfl
  name_unescaped := by decide
  name_line := by decide
  count_shown := shows_self (by decide)
  count_line := by decide

theorem sameCells_rowLines {name : Text} (hname : escapeChar ∉ name) (n : Int) :
    List.Forall₂ SameCells (rowLines name (countCell true n)) (rowLines name (countCell false n)) := by
  have hlines : ∀ l ∈ lines name, escapeChar ∉ l ∧ '\n' ∉ l := fun l hl =>
    ⟨fun h => hname (mem_of_mem_lines hl h), lineFeed_notMem_of_mem_lines hl⟩
  unfold rowLines
  cases hsplit : lines name with
  | nil => exact .nil
  | cons l ls =>
    rw [hsplit, List.forall_mem_cons] at hlines
    refine .cons ⟨rfl, hlines.1.1, hlines.1.2, shows_countCell n, ?_⟩ ?_
    · exact notMem_repr (by decide) (by decide) n
    · rw [List.forall₂_map_left_iff, List.forall₂_map_right_iff, List.forall₂_same]
      intro m hm
      obtain ⟨hescape, hfeed⟩ := hlines.2 m hm
      exact ⟨rfl, hescape, hfeed, .nil, List.not_mem_nil⟩

def bodyLines (plain : Bool) (rows : List SummaryRow) : List (Text × Text) :=
  rows.flatMap fun r => rowLines r.pass.toList (countCell plain r.changed)

theorem sameCells_bodyLines {rows : List SummaryRow}
    (h : ∀ row ∈ rows, escapeChar ∉ row.pass.toList) :
    List.Forall₂ SameCells (bodyLines true rows) (bodyLines false rows) := by
  induction rows with
  | nil => exact .nil
  | cons row rows ih =>
    rw [List.forall_mem_cons] at h
    exact List.rel_append (sameCells_rowLines h.1 row.changed) (ih h.2)

end Cells

section Table

variable {ls ls' : List (Text × Text)}

theorem names_eq (h : List.Forall₂ SameCells ls ls') : ls'.map Prod.fst = ls.map Prod.fst := by
  induction h with
  | nil => rfl
  | cons hcells _ ih => rw [List.map_cons, List.map_cons, hcells.name_eq, ih]

theorem renderLines_cons (plain : Bool) (left right : Nat) (cells : Text × Text)
    (ls : List (Text × Text)) :
    renderLines plain left right (cells :: ls) = padCell left cells.1 ++ separator plain ++
      padCell right cells.2 ++ '\n' :: renderLines plain left right ls := by
  simp [renderLines]

theorem notMem_padCell {c : Char} (hspace : c ≠ ' ') {cell : Text} (h : c ∉ cell) (full : Nat) :
    c ∉ padCell full cell := by
  simp [padCell, padding, h, hspace]

theorem SameCells.exists_shown {plain styled : Text × Text} (h : SameCells plain styled)
    (left right right' : Nat) :
    ∃ line j k, '\n' ∉ line ∧
      padCell left plain.1 ++ separator true ++ padCell right plain.2 =
        line ++ List.replicate j ' ' ∧
      Shows (padCell left styled.1 ++ separator false ++ padCell right' styled.2)
        (line ++ List.replicate k ' ') := by
  refine ⟨padCell left plain.1 ++ separator true ++ plain.2, right - cellColumns plain.2,
    right' - cellColumns styled.2, ?_, by simp [padCell, padding], ?_⟩
  · have hname := notMem_padCell (c := '\n') (by decide) h.name_line left
    simp [hname, h.count_line, separator]
  · have hname : Shows (padCell left styled.1) (padCell left plain.1) := by
      rw [h.name_eq]
      exact shows_self (notMem_padCell (by decide) h.name_unescaped left)
    have hcount : Shows (padCell right' styled.2)
        (plain.2 ++ List.replicate (right' - cellColumns styled.2) ' ') :=
      h.count_shown.append (shows_self (by simp [padding, escapeChar]))
    rw [List.append_assoc _ plain.2]
    exact (hname.append shows_separator).append hcount

/-- The lines of a styled table show those of the plain one, up to the spaces at their ends. -/
theorem exists_shown_renderLines (h : List.Forall₂ SameCells ls ls') (left right right' : Nat) :
    ∃ shown, Shows (renderLines false left right' ls') shown ∧
      ∀ s t, trimmedLines s = trimmedLines t →
        trimmedLines (renderLines true left right ls ++ s) = trimmedLines (shown ++ t) := by
  induction h with
  | nil => exact ⟨[], .nil, fun s t hst => hst⟩
  | @cons plain styled ls ls' hcells _ ih =>
    obtain ⟨rest, hrest, htrim⟩ := ih
    obtain ⟨line, j, k, hline, hplain, hstyled⟩ := hcells.exists_shown left right right'
    refine ⟨line ++ List.replicate k ' ' ++ '\n' :: rest, ?_, fun s t hst => ?_⟩
    · rw [renderLines_cons]
      exact hstyled.append (.char (by decide) hrest)
    · rw [renderLines_cons, hplain, List.append_assoc, List.cons_append, trimmedLines_line hline,
        List.append_assoc _ _ t, List.cons_append, trimmedLines_line hline, htrim s t hst]

def tableSigns : Text := " |-\n".toList ++ titles.1 ++ titles.2

theorem notMem_renderLines {c : Char} (hsigns : c ∉ tableSigns)
    (hcells : ∀ cells ∈ ls, c ∉ cells.1 ∧ c ∉ cells.2) (left right : Nat) :
    c ∉ renderLines true left right ls := by
  have hfixed : c ≠ ' ' ∧ c ≠ '|' ∧ c ≠ '\n' := by
    refine ⟨?_, ?_, ?_⟩ <;> rintro rfl <;> exact hsigns (by decide)
  induction ls with
  | nil => simp [renderLines]
  | cons cells ls ih =>
    rw [List.forall_mem_cons] at hcells
    have hname := notMem_padCell hfixed.1 hcells.1.1 left
    have hcount := notMem_padCell hfixed.1 hcells.1.2 right
    rw [renderLines_cons]
    simp [hname, hcount, ih hcells.2, separator, hfixed]

theorem notMem_bodyLines {c : Char} (hsign : c ≠ '-') (hdigit : c.isDigit = false)
    {rows : List SummaryRow} (hnames : ∀ row ∈ rows, c ∉ row.pass.toList) :
    ∀ cells ∈ bodyLines true rows, c ∉ cells.1 ∧ c ∉ cells.2 := by
  intro cells hcells
  obtain ⟨row, hrow, hcells⟩ := List.mem_flatMap.1 hcells
  have hlines : ∀ l ∈ lines row.pass.toList, c ∉ l := fun l hl h =>
    hnames row hrow (mem_of_mem_lines hl h)
  unfold rowLines at hcells
  split at hcells
  · simp at hcells
  · rename_i l ls hsplit
    rw [hsplit, List.forall_mem_cons] at hlines
    cases List.mem_cons.1 hcells with
    | inl hfirst =>
      rw [hfirst]
      exact ⟨hlines.1, notMem_repr hsign hdigit row.changed⟩
    | inr hlater =>
      obtain ⟨m, hm, rfl⟩ := List.mem_map.1 hlater
      exact ⟨hlines.2 m hm, List.not_mem_nil⟩

end Table

theorem notMem_summary {c : Char} (hsigns : c ∉ tableSigns) (hdigit : c.isDigit = false)
    {rows : List SummaryRow} (hnames : ∀ row ∈ rows, c ∉ row.pass.toList) :
    c ∉ summary true rows := by
  have hsign : c ≠ '-' := by
    rintro rfl
    exact hsigns (by decide)
  have hheader : ∀ cells ∈ [titles], c ∉ cells.1 ∧ c ∉ cells.2 :=
    List.forall_mem_singleton.2
      ⟨fun h => hsigns (List.mem_append_left _ (List.mem_append_right _ h)),
        fun h => hsigns (List.mem_append_right _ h)⟩
  intro h
  rcases List.mem_append.1 h with h | h
  · rcases List.mem_append.1 h with h | h
    · exact notMem_renderLines hsigns hheader _ _ h
    · exact notMem_renderLines hsigns (notMem_bodyLines hsign hdigit hnames) _ _ h
  · rw [List.mem_singleton.1 h] at hsigns
    exact hsigns (by decide)

section Looks

def leftWidth (plain : Bool) (rows : List SummaryRow) : Nat :=
  columnWidth ((titles :: bodyLines plain rows).map Prod.fst)

def rightWidth (plain : Bool) (rows : List SummaryRow) : Nat :=
  columnWidth ((titles :: bodyLines plain rows).map Prod.snd)

variable {rows : List SummaryRow}

theorem leftWidth_eq (h : ∀ row ∈ rows, escapeChar ∉ row.pass.toList) :
    leftWidth false rows = leftWidth true rows := by
  rw [leftWidth, leftWidth, List.map_cons, List.map_cons, names_eq (sameCells_bodyLines h)]

/-- The styled table shows the plain one, up to the spaces at line ends. -/
theorem exists_shown_summary (h : ∀ row ∈ rows, escapeChar ∉ row.pass.toList) :
    ∃ shown, Shows (summary false rows) shown ∧
      trimmedLines (summary true rows) = trimmedLines shown := by
  obtain ⟨header, hheader, htop⟩ := exists_shown_renderLines (.cons sameCells_titles .nil)
    (leftWidth true rows) (rightWidth true rows) (rightWidth false rows)
  obtain ⟨rest, hrest, hbottom⟩ := exists_shown_renderLines (sameCells_bodyLines h)
    (leftWidth true rows) (rightWidth true rows) (rightWidth false rows)
  have hcyan : IsCodes "96".toList := isCodes_of_all (by decide) rfl
  have hfeed : Shows ['\n'] ['\n'] := shows_self (by decide)
  refine ⟨header ++ rest ++ ['\n'], ?_, ?_⟩
  · rw [← leftWidth_eq h] at hheader hrest
    exact ((hheader.emphasize hcyan).append hrest).append hfeed
  · have htrim := htop _ _ (hbottom ['\n'] ['\n'] rfl)
    rw [← List.append_assoc, ← List.append_assoc] at htrim
    exact htrim

theorem notMem_summary_styled {c : Char} (hsigns : c ∉ tableSigns) (hdigit : c.isDigit = false)
    (hsequence : ∀ codes, IsCodes codes → c ∉ sequence codes)
    (hnames : ∀ row ∈ rows, escapeChar ∉ row.pass.toList ∧ c ∉ row.pass.toList) :
    c ∉ summary false rows := by
  have hspace : c ≠ ' ' := by
    rintro rfl
    exact hsigns (by decide)
  have hfeed : c ≠ '\n' := by
    rintro rfl
    exact hsigns (by decide)
  obtain ⟨shown, hshown, htrim⟩ := exists_shown_summary fun row hrow => (hnames row hrow).1
  have hplain := notMem_summary hsigns hdigit fun row hrow => (hnames row hrow).2
  rw [← List.count_eq_zero, ← count_trimmedLines hspace hfeed, htrim,
    count_trimmedLines hspace hfeed, List.count_eq_zero] at hplain
  exact fun h => hplain (hshown.mem hsequence h)

/-- Styling changes nothing but the look of the summary. The plain summary has no escape character,
and it is what deleting the sequences leaves of the styled one, up to the spaces at line ends. -/
theorem summary_shown_alike (h : ∀ row ∈ rows, escapeChar ∉ row.pass.toList) :
    escapeChar ∉ summary true rows ∧
      trimmedLines (summary true rows) = trimmedLines (unstyled (summary false rows)) := by
  obtain ⟨shown, hshown, htrim⟩ := exists_shown_summary h
  rw [hshown.unstyled_eq]
  exact ⟨notMem_summary (by decide) (by decide) h, htrim⟩

def mixedRows : List SummaryRow := [⟨"日本", 12⟩, ⟨"await", -3⟩, ⟨"async", 0⟩]

/-- A count of two digits widens the styled table, and only there the two differ. -/
theorem summary_shown_alike_mixedRows :
    (∀ row ∈ mixedRows, escapeChar ∉ row.pass.toList) ∧
      summary true mixedRows ≠ unstyled (summary false mixedRows) ∧
      trimmedLines (summary true mixedRows) = trimmedLines (unstyled (summary false mixedRows)) := by
  have h : ∀ row ∈ mixedRows, escapeChar ∉ row.pass.toList := by decide +kernel
  exact ⟨h, by decide +kernel, (summary_shown_alike h).2⟩

end Looks

end QueryMigration.Terminal
