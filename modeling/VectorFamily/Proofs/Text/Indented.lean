import Mathlib.Data.List.DropRight
import VectorFamily.Proofs.Text.LineLocal

/-!
# Trimmed and indented texts

Trimming drops blanks at the ends and nothing else. Indenting works on the lines of a text, and the
rows of the result are these lines without their terminators.
-/

namespace VectorFamily.Text

variable {t u v : Text}

/-! ### Trimming -/

theorem not_mem_of_isAllBlank (ht : isAllBlank t = true) {c : Char}
    (hc : Unicode.isBlank c = false) : c ∉ t := by
  intro hmem
  rw [List.all_eq_true.1 ht c hmem] at hc
  cases hc

theorem trimEnd_eq_nil_iff : trimEnd t = [] ↔ isAllBlank t = true := by
  simp [trimEnd, isAllBlank]

theorem trimStart_eq_nil_iff : trimStart t = [] ↔ isAllBlank t = true := by
  simp [trimStart, isAllBlank]

theorem trimEnd_append (u v : Text) :
    trimEnd (u ++ v) = if isAllBlank v = true then trimEnd u else u ++ trimEnd v := by
  by_cases hv : isAllBlank v = true
  · have hnil : v.reverse.dropWhile Unicode.isBlank = [] := by
      simpa [trimEnd] using trimEnd_eq_nil_iff.2 hv
    simp [trimEnd, List.dropWhile_append, hv, hnil]
  · have hne : v.reverse.dropWhile Unicode.isBlank ≠ [] := by
      simpa [trimEnd] using fun he => hv (trimEnd_eq_nil_iff.1 he)
    simp [trimEnd, List.dropWhile_append, hv, hne]

theorem trim_append_blank (hv : isAllBlank v = true) : trim (u ++ v) = trim u := by
  have hstart : trimStart v = [] := trimStart_eq_nil_iff.2 hv
  unfold trim
  by_cases hu : trimStart u = []
  · rw [trimStart, List.dropWhile_append, ← trimStart, ← trimStart, hu, hstart]
    rfl
  · rw [trimStart, List.dropWhile_append, ← trimStart, if_neg (by simpa using hu), trimEnd_append,
      if_pos hv]

theorem exists_trimEnd_append (t : Text) : ∃ b, isAllBlank b = true ∧ t = trimEnd t ++ b := by
  refine ⟨t.rtakeWhile Unicode.isBlank, ?_, (List.rdropWhile_append_rtakeWhile ..).symm⟩
  exact List.all_eq_true.2 fun c hc => List.mem_rtakeWhile_imp hc

theorem exists_append_trimStart (t : Text) : ∃ a, isAllBlank a = true ∧ t = a ++ trimStart t :=
  ⟨t.takeWhile Unicode.isBlank, List.all_takeWhile, List.takeWhile_append_dropWhile.symm⟩

/-- A text is what is left when it is trimmed, between blanks. -/
theorem exists_blanks_of_trim (t : Text) :
    ∃ a b, isAllBlank a = true ∧ isAllBlank b = true ∧ t = a ++ trim t ++ b := by
  obtain ⟨a, ha, hstart⟩ := exists_append_trimStart t
  obtain ⟨b, hb, hend⟩ := exists_trimEnd_append (trimStart t)
  refine ⟨a, b, ha, hb, ?_⟩
  rw [List.append_assoc, trim, ← hend, ← hstart]

theorem isAllBlank_of_trim_ne_nil (ht : trim t ≠ []) : isAllBlank t = false := by
  refine Bool.eq_false_iff.2 fun hblank => ht ?_
  exact trim_append_blank (u := []) hblank

theorem trim_trimEnd (t : Text) : trim (trimEnd t) = trim t := by
  obtain ⟨b, hb, ht⟩ := exists_trimEnd_append t
  rw [ht, trim_append_blank hb, ← ht]

/-- Where blanks at the end are dropped, a first row without any stays. -/
theorem exists_rows_trimEnd_eq_cons (ht : '\n' ∉ t) (hend : trimEnd t = t) (u : Text) :
    ∃ later, rows (trimEnd (t ++ '\n' :: u)) = t :: later := by
  rw [trimEnd_append]
  by_cases hu : isAllBlank u = true
  · have hblank : isAllBlank ('\n' :: u) = true := by simpa [isAllBlank, Unicode.isBlank] using hu
    rw [if_pos hblank, hend, rows_of_not_mem ht]
    exact ⟨[], rfl⟩
  · have hblank : ¬ isAllBlank ('\n' :: u) = true := by
      simpa [isAllBlank, Unicode.isBlank] using hu
    have hcut : trimEnd ('\n' :: u) = '\n' :: trimEnd u := by
      have := trimEnd_append ['\n'] u
      rwa [if_neg hu] at this
    rw [if_neg hblank, hcut, rows_append_newline, rows_of_not_mem ht]
    exact ⟨_, rfl⟩

/-! ### Indenting -/

theorem lineContent_of_not_mem (ht : '\n' ∉ t) : lineContent t = t := by
  unfold lineContent
  split
  · next h => exact absurd (List.mem_reverse.1 (h ▸ List.mem_cons_self)) ht
  · next h => exact absurd (List.mem_reverse.1 (h ▸ List.mem_cons_self)) ht
  · rfl

theorem lineContent_append_newline (ht : '\r' ∉ t) : lineContent (t ++ ['\n']) = t := by
  have hreverse : (t ++ ['\n']).reverse = '\n' :: t.reverse := by simp
  unfold lineContent
  rw [hreverse]
  split
  · next r h =>
    have hr : t.reverse = '\r' :: r := (List.cons.inj h).2
    exact absurd (List.mem_reverse.1 (hr ▸ List.mem_cons_self)) ht
  · next r _ h => rw [← (List.cons.inj h).2, List.reverse_reverse]
  · next h => exact absurd rfl (h _)

/-- A line is what it holds and its terminator. -/
theorem exists_lineContent_append (l : Text) :
    ∃ e, isAllBlank e = true ∧ l = lineContent l ++ e := by
  have hl : l = l.reverse.reverse := (List.reverse_reverse l).symm
  unfold lineContent
  split
  · next r h => exact ⟨['\r', '\n'], by decide, by rw [hl, h]; simp⟩
  · next r _ h => exact ⟨['\n'], by decide, by rw [hl, h]; simp⟩
  · exact ⟨[], rfl, (List.append_nil l).symm⟩

theorem trim_lineContent (l : Text) : trim (lineContent l) = trim l := by
  obtain ⟨e, he, hl⟩ := exists_lineContent_append l
  conv_rhs => rw [hl]
  exact (trim_append_blank he).symm

theorem newline_not_mem_lineContent (ht : '\n' ∉ t) : '\n' ∉ lineContent (t ++ ['\n']) := by
  have hreverse : (t ++ ['\n']).reverse = '\n' :: t.reverse := by simp
  have ht : '\n' ∉ t.reverse := fun hn => ht (List.mem_reverse.1 hn)
  unfold lineContent
  rw [hreverse]
  split
  · next r h =>
    have hr : t.reverse = '\r' :: r := (List.cons.inj h).2
    exact fun hn => ht (hr ▸ List.mem_cons_of_mem _ (List.mem_reverse.1 hn))
  · next r _ h =>
    have hr : t.reverse = r := (List.cons.inj h).2
    exact fun hn => ht (hr ▸ List.mem_reverse.1 hn)
  · next h => exact absurd rfl (h _)

def indentedLine (l : Text) : Text :=
  if isAllBlank (lineContent l) then [] else '\t' :: lineContent l

theorem newline_not_mem_lineContent_of_mem {l : Text} (hl : l ∈ lines t) :
    '\n' ∉ lineContent l := by
  induction t using rows_induction generalizing l with
  | row t ht =>
    by_cases hne : t = []
    · simp [hne] at hl
    · rw [lines_of_not_mem hne ht] at hl
      obtain rfl := List.mem_singleton.1 hl
      rwa [lineContent_of_not_mem ht]
  | cut t u ht ih =>
    rw [lines_append_newline ht] at hl
    rcases List.mem_cons.1 hl with rfl | hl
    · exact newline_not_mem_lineContent ht
    · exact ih hl

theorem rows_indented (hne : t ≠ []) : rows (indented t) = (lines t).map indentedLine := by
  have hstays : ∀ x ∈ (lines t).map indentedLine, '\n' ∉ x := by
    intro x hx
    obtain ⟨l, hl, rfl⟩ := List.mem_map.1 hx
    unfold indentedLine
    split
    · simp
    · simp [newline_not_mem_lineContent_of_mem hl]
  have hlines : (lines t).map indentedLine ≠ [] := by
    intro he
    have := flatten_lines t
    rw [List.map_eq_nil_iff.1 he] at this
    exact hne this.symm
  exact List.splitOn_intercalate _ hstays hlines

/-- Without carriage returns the lines hold the rows, but for an empty last row. -/
theorem map_lineContent_lines (hne : t ≠ []) (hreturn : '\r' ∉ t) (hlast : t.getLast? ≠ some '\n') :
    (lines t).map lineContent = rows t := by
  induction t using rows_induction with
  | row t ht =>
    rw [lines_of_not_mem hne ht, rows_of_not_mem ht, List.map_singleton, lineContent_of_not_mem ht]
  | cut t u ht ih =>
    have hu : u ≠ [] := by
      rintro rfl
      simp at hlast
    have hrest : (t ++ '\n' :: u).getLast? = u.getLast? := by
      rw [List.getLast?_append_of_ne_nil _ (List.cons_ne_nil _ _), List.getLast?_cons_of_ne_nil hu]
    rw [hrest] at hlast
    simp only [List.mem_append, List.mem_cons, not_or] at hreturn
    rw [lines_append_newline ht, rows_append_newline, rows_of_not_mem ht, List.map_cons,
      lineContent_append_newline hreturn.1, ih hu hreturn.2.2 hlast, List.singleton_append]

/-- Without carriage returns a row with something in it is what a line holds. -/
theorem exists_line_of_mem_rows (hreturn : '\r' ∉ t) {row : Text} (hrow : row ∈ rows t)
    (hne : row ≠ []) : ∃ l ∈ lines t, lineContent l = row := by
  induction t using rows_induction with
  | row t ht =>
    rw [rows_of_not_mem ht] at hrow
    obtain rfl := List.mem_singleton.1 hrow
    exact ⟨row, by simp [lines_of_not_mem hne ht], lineContent_of_not_mem ht⟩
  | cut t u ht ih =>
    simp only [List.mem_append, List.mem_cons, not_or] at hreturn
    rw [rows_append_newline, rows_of_not_mem ht] at hrow
    rw [lines_append_newline ht]
    rcases List.mem_append.1 hrow with hrow | hrow
    · obtain rfl := List.mem_singleton.1 hrow
      exact ⟨_, List.mem_cons_self, lineContent_append_newline hreturn.1⟩
    · obtain ⟨l, hl, hcontent⟩ := ih hreturn.2.2 hrow
      exact ⟨l, List.mem_cons_of_mem _ hl, hcontent⟩

def indentedRow (row : Text) : Text := if isAllBlank row then [] else '\t' :: row

/-- A text that ends with no blank is indented row by row. -/
theorem rows_indented_trimEnd (hne : trimEnd t ≠ []) (hreturn : '\r' ∉ t) :
    rows (indented (trimEnd t)) = (rows (trimEnd t)).map indentedRow := by
  have hlast : (trimEnd t).getLast? ≠ some '\n' := by
    have hblank := List.rdropWhile_last_not Unicode.isBlank t hne
    intro hnewline
    rw [List.getLast?_eq_some_getLast hne, Option.some.injEq] at hnewline
    have hlast : (t.rdropWhile Unicode.isBlank).getLast hne = '\n' := hnewline
    rw [hlast] at hblank
    exact hblank (by decide)
  have hreturn' : '\r' ∉ trimEnd t := by
    obtain ⟨b, -, hb⟩ := exists_trimEnd_append t
    exact fun h => hreturn (hb ▸ List.mem_append_left b h)
  rw [rows_indented hne, ← map_lineContent_lines hne hreturn' hlast, List.map_map]
  rfl

/-- The first line of a text, indented; blanks behind it may be gone with what followed. -/
theorem exists_mem_rows_indented (ht : '\n' ∉ t) (hne : trim t ≠ []) (u : Text) :
    ∃ x, '\t' :: x ∈ rows (indented (trimEnd (t ++ '\n' :: u))) ∧ trim x = trim t ∧
      (x = lineContent (t ++ ['\n']) ∨ x = trimEnd (lineContent (t ++ ['\n']))) := by
  have hcontent := newline_not_mem_lineContent ht
  have htrim : trim (lineContent (t ++ ['\n'])) = trim t := by
    rw [trim_lineContent, trim_append_blank (by decide)]
  obtain ⟨e, he, hline⟩ := exists_lineContent_append (t ++ ['\n'])
  generalize hl : lineContent (t ++ ['\n']) = x at hcontent hline htrim
  have hcut : t ++ '\n' :: u = (t ++ ['\n']) ++ u := by simp
  rw [hcut, trimEnd_append]
  by_cases hu : isAllBlank u = true
  · -- the line is the whole text
    obtain ⟨b, hb, hend⟩ := exists_trimEnd_append x
    have htrim' : trim (trimEnd x) = trim t := by rw [trim_trimEnd, htrim]
    have hblank : isAllBlank (trimEnd x) = false := isAllBlank_of_trim_ne_nil (htrim' ▸ hne)
    have hne' : trimEnd x ≠ [] := fun he => by simp [he, isAllBlank] at hblank
    have hstays : '\n' ∉ trimEnd x := fun hn => hcontent (hend ▸ List.mem_append_left b hn)
    refine ⟨trimEnd x, ?_, htrim', .inr rfl⟩
    rw [if_pos hu, hline, trimEnd_append, if_pos he, rows_indented hne',
      lines_of_not_mem hne' hstays]
    simp [indentedLine, lineContent_of_not_mem hstays, hblank]
  · have hblank : isAllBlank x = false := isAllBlank_of_trim_ne_nil (htrim ▸ hne)
    refine ⟨x, ?_, htrim, .inl rfl⟩
    rw [if_neg hu, rows_indented (by simp), List.append_assoc, List.singleton_append,
      lines_append_newline ht]
    simp [indentedLine, hl, hblank]

end VectorFamily.Text
