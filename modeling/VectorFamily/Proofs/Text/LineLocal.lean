import VectorFamily.Text.Lines

/-!
# Texts line by line

`rows` cuts a text at its line feeds. A function is `LineLocal` if it treats each row by itself: a
line feed cuts the text and the result at the same place, and the function makes no line feed of its
own. What it makes of a text is then what it makes of the rows (`LineLocal.rows_apply`).
-/

namespace VectorFamily.Text

/-- The rows of a text; one more than it has line feeds. -/
def rows (t : Text) : List Text := t.splitOn '\n'

theorem rows_append_newline (t u : Text) : rows (t ++ '\n' :: u) = rows t ++ rows u :=
  List.splitOn_append_cons_self t u

theorem rows_of_not_mem {t : Text} (ht : '\n' ∉ t) : rows t = [t] :=
  List.splitOn_eq_singleton ht

theorem rows_ne_nil (t : Text) : rows t ≠ [] :=
  List.splitOn_ne_nil _ _

/-- A text is a row, or a row and a text behind a line feed. -/
theorem rows_induction {P : Text → Prop} (row : ∀ t, '\n' ∉ t → P t)
    (cut : ∀ t u, '\n' ∉ t → P u → P (t ++ '\n' :: u)) (t : Text) : P t := by
  have bounded : ∀ n (t : Text), t.length ≤ n → P t := by
    intro n
    induction n with
    | zero =>
      intro t ht
      obtain rfl : t = [] := List.length_eq_zero_iff.1 (by omega)
      exact row [] (by simp)
    | succ n ih =>
      intro t ht
      by_cases hn : '\n' ∈ t
      · obtain ⟨u, v, rfl, hu⟩ := List.eq_append_cons_of_mem hn
        refine cut u v hu (ih v ?_)
        simp only [List.length_append, List.length_cons] at ht
        omega
      · exact row t hn
  exact bounded t.length t (Nat.le_refl _)

/-- The first row is the whole text, or ends at the first line feed. -/
theorem exists_of_rows_eq_cons {t row : Text} {later : List Text} (h : rows t = row :: later) :
    (t = row ∧ later = []) ∨ ∃ u, t = row ++ '\n' :: u ∧ rows u = later := by
  induction t using rows_induction with
  | row t ht =>
    rw [rows_of_not_mem ht, List.cons.injEq] at h
    exact .inl ⟨h.1, h.2.symm⟩
  | cut t u ht ih =>
    rw [rows_append_newline, rows_of_not_mem ht, List.singleton_append, List.cons.injEq] at h
    exact .inr ⟨u, by rw [h.1], h.2⟩

theorem newline_not_mem_of_mem_rows {t row : Text} (h : row ∈ rows t) : '\n' ∉ row := by
  induction t using rows_induction with
  | row t ht =>
    rw [rows_of_not_mem ht] at h
    exact List.mem_singleton.1 h ▸ ht
  | cut t u ht ih =>
    rw [rows_append_newline, rows_of_not_mem ht] at h
    rcases List.mem_append.1 h with h | h
    · exact List.mem_singleton.1 h ▸ ht
    · exact ih h

theorem infix_of_mem_rows {t row : Text} (h : row ∈ rows t) : row <:+: t := by
  induction t using rows_induction with
  | row t ht =>
    rw [rows_of_not_mem ht] at h
    exact List.mem_singleton.1 h ▸ List.infix_rfl
  | cut t u ht ih =>
    rw [rows_append_newline, rows_of_not_mem ht] at h
    rcases List.mem_append.1 h with h | h
    · exact List.mem_singleton.1 h ▸ (List.prefix_append t _).isInfix
    · exact (ih h).trans ⟨t ++ ['\n'], [], by simp⟩

/-- A piece without line feed stands in a row, and starts or ends the row if it starts or ends the
text. -/
theorem exists_row_around {m : Text} (hm : '\n' ∉ m) (x y : Text) : ∃ pre post,
    pre ++ m ++ post ∈ rows (x ++ m ++ y) ∧ (x = [] → pre = []) ∧ (y = [] → post = []) := by
  induction x using rows_induction with
  | row x hx =>
    by_cases hy : '\n' ∈ y
    · obtain ⟨post, later, rfl, hpost⟩ := List.eq_append_cons_of_mem hy
      refine ⟨x, post, ?_, id, by simp⟩
      rw [← List.append_assoc, rows_append_newline, rows_of_not_mem (by simp [hx, hm, hpost])]
      exact List.mem_append_left _ (List.mem_singleton_self _)
    · refine ⟨x, y, ?_, id, id⟩
      rw [rows_of_not_mem (by simp [hx, hm, hy])]
      exact List.mem_singleton_self _
  | cut t x ht ih =>
    obtain ⟨pre, post, hmem, -, hpost⟩ := ih
    refine ⟨pre, post, ?_, by simp, hpost⟩
    rw [List.append_assoc, List.append_assoc, List.cons_append, rows_append_newline,
      ← List.append_assoc]
    exact List.mem_append_right _ hmem

/-- What is made of a row stands in what is made of the text, if a line feed cuts both. -/
theorem rows_subset_of_cut {f : Text → Text} (cut : ∀ t u, f (t ++ '\n' :: u) = f t ++ '\n' :: f u)
    {t row : Text} (hrow : row ∈ rows t) : rows (f row) ⊆ rows (f t) := by
  induction t using rows_induction with
  | row t ht =>
    rw [rows_of_not_mem ht] at hrow
    rw [List.mem_singleton.1 hrow]
    exact List.Subset.refl _
  | cut t u ht ih =>
    rw [rows_append_newline, rows_of_not_mem ht] at hrow
    rw [cut, rows_append_newline]
    rcases List.mem_append.1 hrow with hrow | hrow
    · rw [List.mem_singleton.1 hrow]
      exact List.subset_append_left _ _
    · exact fun x hx => List.mem_append_right _ (ih hrow hx)

theorem lines_of_not_mem {t : Text} (hne : t ≠ []) (ht : '\n' ∉ t) : lines t = [t] := by
  induction t with
  | nil => exact absurd rfl hne
  | cons c t ih =>
    have hc : c ≠ '\n' := fun he => ht (he ▸ List.mem_cons_self)
    cases t with
    | nil => rfl
    | cons d t =>
      rw [lines_cons, ih (by simp) fun hn => ht (List.mem_cons_of_mem _ hn), consLine, if_neg hc]

theorem lines_append_newline {t : Text} (ht : '\n' ∉ t) (u : Text) :
    lines (t ++ '\n' :: u) = (t ++ ['\n']) :: lines u := by
  induction t with
  | nil =>
    rw [List.nil_append, lines_cons]
    cases lines u <;> rfl
  | cons c t ih =>
    have hc : c ≠ '\n' := fun he => ht (he ▸ List.mem_cons_self)
    rw [List.cons_append, lines_cons, ih fun hn => ht (List.mem_cons_of_mem _ hn), consLine,
      if_neg hc]
    rfl

theorem length_rows_append {t u : Text} (hu : '\n' ∉ u) :
    (rows (t ++ u)).length = (rows t).length := by
  induction t using rows_induction with
  | row t ht => rw [rows_of_not_mem ht, rows_of_not_mem (by simp [ht, hu])]; rfl
  | cut t v ht ih =>
    rw [List.append_assoc, List.cons_append, rows_append_newline, rows_append_newline,
      List.length_append, List.length_append, ih]

def trimRows (rs : List Text) : List Text :=
  if rs.getLast? = some [] then rs.dropLast else rs

theorem getLast?_rows_eq_nil_iff {t : Text} :
    (rows t).getLast? = some [] ↔ t.getLast?.all (· == '\n') = true := by
  induction t using rows_induction with
  | row t ht =>
    rw [rows_of_not_mem ht]
    cases hl : t.getLast? with
    | none => simp [List.getLast?_eq_none_iff.1 hl]
    | some c =>
      have hne : c ≠ '\n' := fun he => ht (he ▸ List.mem_of_getLast? hl)
      have ht0 : t ≠ [] := by
        rintro rfl
        simp at hl
      simp [hne, ht0]
  | cut t u ht ih =>
    have hlast : (rows t ++ rows u).getLast? = (rows u).getLast? := by
      rw [List.getLast?_append, List.getLast?_eq_some_getLast (rows_ne_nil u), Option.some_or]
    rw [rows_append_newline, hlast, ih]
    cases u with
    | nil => simp
    | cons c u => simp [List.getLast?_append, List.getLast?_cons]

theorem mem_trimRows {rs : List Text} {row : Text} (hrow : row ∈ rs) (hne : row ≠ []) :
    row ∈ trimRows rs := by
  unfold trimRows
  split
  · next hlast =>
    obtain ⟨init, rfl⟩ := List.getLast?_eq_some_iff.1 hlast
    simpa [hne] using hrow
  · exact hrow

/-- The function treats each row of a text by itself, and leaves empty rows empty. -/
structure LineLocal (f : Text → Text) : Prop where
  cut : ∀ t u, f (t ++ '\n' :: u) = f t ++ '\n' :: f u
  stays : ∀ t, '\n' ∉ t → '\n' ∉ f t
  empty : f [] = []

namespace LineLocal

variable {f g : Text → Text}

theorem id : LineLocal fun t => t := ⟨fun _ _ => rfl, fun _ h => h, rfl⟩

theorem comp (hg : LineLocal g) (hf : LineLocal f) : LineLocal fun t => g (f t) := by
  constructor
  · intro t u
    rw [hf.cut, hg.cut]
  · intro t ht
    exact hg.stays _ (hf.stays t ht)
  · rw [hf.empty, hg.empty]

theorem foldl {α : Type _} {step : Text → α → Text} {l : List α}
    (h : ∀ a ∈ l, LineLocal fun t => step t a) : LineLocal fun t => l.foldl step t := by
  induction l with
  | nil => exact id
  | cons a l ih =>
    have htail : ∀ b ∈ l, LineLocal fun t => step t b := fun b hb => h b (List.mem_cons_of_mem _ hb)
    exact (ih htail).comp (h a List.mem_cons_self)

theorem rows_apply (hf : LineLocal f) (t : Text) : rows (f t) = (rows t).map f := by
  induction t using rows_induction with
  | row t ht => rw [rows_of_not_mem ht, rows_of_not_mem (hf.stays t ht), List.map_singleton]
  | cut t u ht ih =>
    rw [hf.cut, rows_append_newline, rows_append_newline, ih, List.map_append, rows_of_not_mem ht,
      rows_of_not_mem (hf.stays t ht), List.map_singleton]

end LineLocal

end VectorFamily.Text
