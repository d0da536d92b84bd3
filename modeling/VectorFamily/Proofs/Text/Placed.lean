import VectorFamily.Proofs.Text.LineLocal

/-!
# Lines in their places

The offsets of the lines of a text ascend, since no line is empty. So a text can be cut in front of
any line: what stands between two offsets and what stands between the second and a third make up
what stands between the first and the third.
-/

namespace VectorFamily.Text

theorem byteSize_pos {t : Text} (ht : t ≠ []) : 0 < byteSize t := by
  obtain ⟨c, t, rfl⟩ := List.exists_cons_of_ne_nil ht
  have := Char.utf8Size_pos c
  rw [byteSize_cons]
  omega

theorem ne_nil_of_mem_lines {t l : Text} (hl : l ∈ lines t) : l ≠ [] := by
  induction t generalizing l with
  | nil => simp at hl
  | cons c t ih =>
    rw [lines_cons] at hl
    cases hls : lines t with
    | nil =>
      rw [hls] at hl
      obtain rfl := List.mem_singleton.1 hl
      simp
    | cons l' ls =>
      rw [hls] at hl ih
      by_cases hc : c = '\n'
      · rw [consLine, if_pos hc] at hl
        rcases List.mem_cons.1 hl with rfl | hl
        · simp
        · exact ih hl
      · rw [consLine, if_neg hc] at hl
        rcases List.mem_cons.1 hl with rfl | hl
        · simp
        · exact ih (List.mem_cons_of_mem _ hl)

theorem map_text_placeLines (start : Nat) (ls : List Text) :
    (placeLines start ls).map (·.text) = ls := by
  induction ls generalizing start with
  | nil => rfl
  | cons l ls ih => rw [placeLines, List.map_cons, ih]

theorem flatMap_text_placeLines (start : Nat) (ls : List Text) :
    (placeLines start ls).flatMap (·.text) = ls.flatten := by
  rw [List.flatMap_def, map_text_placeLines]

theorem text_mem_lines {t : Text} {l : Line} (hl : l ∈ placedLines t) : l.text ∈ lines t := by
  rw [← map_text_placeLines 0 (lines t)]
  exact List.mem_map_of_mem hl

theorem mem_of_mem_lines {t l : Text} (hl : l ∈ lines t) {c : Char} (hc : c ∈ l) : c ∈ t := by
  rw [← flatten_lines t]
  exact List.mem_flatten.2 ⟨l, hl, hc⟩

theorem mem_of_mem_between {t : Text} {start stop : Nat} {c : Char}
    (hc : c ∈ between (placedLines t) start stop) : c ∈ t := by
  obtain ⟨l, hl, hc⟩ := List.mem_flatMap.1 hc
  exact mem_of_mem_lines (text_mem_lines (List.mem_filter.1 hl).1) hc

theorem exists_placed_of_mem_lines {t l : Text} (hl : l ∈ lines t) :
    ∃ placed ∈ placedLines t, placed.text = l := by
  rw [← map_text_placeLines 0 (lines t)] at hl
  exact List.mem_map.1 hl

section
variable {start : Nat} {ls : List Text}

theorem le_offset_of_mem_placeLines {l : Line} (hl : l ∈ placeLines start ls) :
    start ≤ l.offset := by
  induction ls generalizing start with
  | nil => simp [placeLines] at hl
  | cons t ls ih =>
    rcases List.mem_cons.1 hl with rfl | hl
    · exact Nat.le_refl _
    · exact Nat.le_trans (Nat.le_add_right _ _) (ih hl)

theorem offset_lt_of_mem_placeLines (hls : ∀ t ∈ ls, t ≠ []) {l : Line}
    (hl : l ∈ placeLines start ls) : l.offset < start + byteSize ls.flatten := by
  induction ls generalizing start with
  | nil => simp [placeLines] at hl
  | cons t ls ih =>
    have ht := byteSize_pos (hls t List.mem_cons_self)
    rw [List.flatten_cons, byteSize_append]
    rcases List.mem_cons.1 hl with rfl | hl
    · show start < _
      omega
    · have := ih (fun t ht => hls t (List.mem_cons_of_mem _ ht)) hl
      omega

theorem pairwise_placeLines (hls : ∀ t ∈ ls, t ≠ []) :
    (placeLines start ls).Pairwise (·.offset < ·.offset) := by
  induction ls generalizing start with
  | nil => exact .nil
  | cons t ls ih =>
    have ht := byteSize_pos (hls t List.mem_cons_self)
    refine .cons (fun l hl => ?_) (ih fun t ht => hls t (List.mem_cons_of_mem _ ht))
    have := le_offset_of_mem_placeLines hl
    show start < l.offset
    omega

end

theorem pairwise_placedLines (t : Text) : (placedLines t).Pairwise (·.offset < ·.offset) :=
  pairwise_placeLines fun _ hl => ne_nil_of_mem_lines hl

theorem offset_lt_byteSize {t : Text} {l : Line} (hl : l ∈ placedLines t) :
    l.offset < byteSize t := by
  have := offset_lt_of_mem_placeLines (fun _ hl => ne_nil_of_mem_lines hl) hl
  rwa [flatten_lines, Nat.zero_add] at this

/-- A line with another one behind it ends with its line feed. -/
theorem exists_eq_append_newline {t : Text} {l l' : Line} (hl : l ∈ placedLines t)
    (hl' : l' ∈ placedLines t) (hlt : l.offset < l'.offset) :
    ∃ u, '\n' ∉ u ∧ l.text = u ++ ['\n'] := by
  unfold placedLines at hl hl'
  generalize 0 = start at hl hl'
  induction t using rows_induction generalizing start with
  | row t ht =>
    by_cases hne : t = []
    · simp [hne, placeLines] at hl
    · rw [lines_of_not_mem hne ht] at hl hl'
      obtain rfl := List.mem_singleton.1 hl
      obtain rfl := List.mem_singleton.1 hl'
      exact absurd hlt (Nat.lt_irrefl _)
  | cut t u ht ih =>
    rw [lines_append_newline ht] at hl hl'
    rcases List.mem_cons.1 hl with rfl | hl
    · exact ⟨t, ht, rfl⟩
    · have hle := le_offset_of_mem_placeLines hl
      rcases List.mem_cons.1 hl' with rfl | hl'
      · have hlt : l.offset < start := hlt
        omega
      · exact ih _ hl hl'

/-! ### Cutting between lines -/

theorem between_concat (ls ls' : List Line) (lo hi : Nat) :
    between (ls ++ ls') lo hi = between ls lo hi ++ between ls' lo hi := by
  simp [between]

theorem between_eq_nil {ls : List Line} {lo hi : Nat}
    (h : ∀ l ∈ ls, l.offset < lo ∨ hi ≤ l.offset) : between ls lo hi = [] := by
  unfold between
  rw [List.filter_eq_nil_iff.2, List.flatMap_nil]
  intro l hl
  have := h l hl
  simp only [Bool.and_eq_true, decide_eq_true_eq]
  omega

/-- From one line up to a later one stand the first of them and the lines between the two. -/
theorem between_offsets {ls pre inner post : List Line} {first last : Line}
    (hls : ls.Pairwise (·.offset < ·.offset))
    (hsplit : ls = pre ++ first :: (inner ++ last :: post)) :
    between ls first.offset last.offset = (first :: inner).flatMap (·.text) := by
  rw [hsplit] at hls
  obtain ⟨-, hbehind, hpre⟩ := List.pairwise_append.1 hls
  obtain ⟨hfirst, hinner⟩ := List.pairwise_cons.1 hbehind
  obtain ⟨-, hpost, hinner⟩ := List.pairwise_append.1 hinner
  obtain ⟨hpost, -⟩ := List.pairwise_cons.1 hpost
  have hfront : between pre first.offset last.offset = [] :=
    between_eq_nil fun l hl => .inl (hpre l hl first List.mem_cons_self)
  have hback : between (last :: post) first.offset last.offset = [] :=
    between_eq_nil (List.forall_mem_cons.2
      ⟨.inr (Nat.le_refl _), fun l hl => .inr (Nat.le_of_lt (hpost l hl))⟩)
  have hall : between (first :: inner) first.offset last.offset =
      (first :: inner).flatMap (·.text) := by
    rw [between, List.filter_eq_self.2]
    refine List.forall_mem_cons.2 ⟨?_, fun l hl => ?_⟩
    · simpa using hfirst last (by simp)
    · have hlo := hfirst l (List.mem_append_left _ hl)
      have hhi := hinner l hl last List.mem_cons_self
      simp [Nat.le_of_lt hlo, hhi]
  rw [hsplit, ← List.cons_append, between_concat, between_concat, hfront, hall, hback,
    List.append_nil, List.nil_append]

/-- What stands from a line on starts with the line. -/
theorem exists_between_eq_append {ls : List Line} (hls : ls.Pairwise (·.offset < ·.offset))
    {l : Line} (hl : l ∈ ls) {hi : Nat} (hlt : l.offset < hi) :
    ∃ later, between ls l.offset hi = l.text ++ later := by
  obtain ⟨pre, post, rfl⟩ := List.append_of_mem hl
  have hfront : between pre l.offset hi = [] := between_eq_nil fun l' hl' =>
    .inl ((List.pairwise_append.1 hls).2.2 l' hl' l List.mem_cons_self)
  refine ⟨between post l.offset hi, ?_⟩
  rw [between_concat, hfront, List.nil_append]
  simp [between, hlt]

theorem between_append {ls : List Line} (hls : ls.Pairwise (·.offset < ·.offset))
    {lo mid hi : Nat} (h₁ : lo ≤ mid) (h₂ : mid ≤ hi) :
    between ls lo mid ++ between ls mid hi = between ls lo hi := by
  induction ls with
  | nil => rfl
  | cons l ls ih =>
    obtain ⟨hl, hls⟩ := List.pairwise_cons.1 hls
    have ih := ih hls
    by_cases hmid : l.offset < mid
    · have hnot : ¬ mid ≤ l.offset := by omega
      have hhi : l.offset < hi := by omega
      by_cases hlo : lo ≤ l.offset <;>
        simp_all [between]
    · -- nothing behind the line is in front of `mid` either
      have hempty : between (l :: ls) lo mid = [] := between_eq_nil <| List.forall_mem_cons.2
        ⟨.inr (Nat.le_of_not_lt hmid), fun l' hl' => .inr (by have := hl l' hl'; omega)⟩
      have hsame : between (l :: ls) mid hi = between (l :: ls) lo hi := by
        unfold between
        congr 1
        refine List.filter_congr fun l' hl' => ?_
        have hle : l.offset ≤ l'.offset := by
          rcases List.mem_cons.1 hl' with rfl | hl'
          · exact Nat.le_refl _
          · exact Nat.le_of_lt (hl l' hl')
        have h₃ : mid ≤ l'.offset := by omega
        have h₄ : lo ≤ l'.offset := by omega
        simp [h₃, h₄]
      rw [hempty, hsame, List.nil_append]

theorem between_self (ls : List Line) (n : Nat) : between ls n n = [] :=
  between_eq_nil fun l _ => Nat.lt_or_ge l.offset n

theorem between_zero_byteSize (t : Text) : between (placedLines t) 0 (byteSize t) = t := by
  have hall : (placedLines t).filter (fun l => 0 ≤ l.offset && l.offset < byteSize t) =
      placedLines t := by
    refine List.filter_eq_self.2 fun l hl => ?_
    simpa using offset_lt_byteSize hl
  unfold between
  rw [hall, placedLines, flatMap_text_placeLines, flatten_lines]

theorem byteSize_between_placeLines {start : Nat} {ls : List Text} (hls : ∀ t ∈ ls, t ≠ [])
    {l : Line} (hl : l ∈ placeLines start ls) :
    start + byteSize (between (placeLines start ls) start l.offset) = l.offset := by
  induction ls generalizing start with
  | nil => simp [placeLines] at hl
  | cons t ls ih =>
    rcases List.mem_cons.1 hl with rfl | hl
    · show start + byteSize (between (placeLines start (t :: ls)) start start) = start
      rw [between_self]
      rfl
    · have ht := byteSize_pos (hls t List.mem_cons_self)
      have hle := le_offset_of_mem_placeLines hl
      have hsplit : between (placeLines start (t :: ls)) start l.offset =
          t ++ between (placeLines (start + byteSize t) ls) (start + byteSize t) l.offset := by
        have hhead : start < l.offset := by omega
        have htail : (placeLines (start + byteSize t) ls).filter
              (fun l' => start ≤ l'.offset && l'.offset < l.offset) =
            (placeLines (start + byteSize t) ls).filter
              (fun l' => start + byteSize t ≤ l'.offset && l'.offset < l.offset) := by
          refine List.filter_congr fun l' hl' => ?_
          have h₁ := le_offset_of_mem_placeLines hl'
          have h₂ : start ≤ l'.offset := by omega
          simp [h₁, h₂]
        simp [between, placeLines, hhead, htail]
      have := ih (fun t ht => hls t (List.mem_cons_of_mem _ ht)) hl
      rw [hsplit, byteSize_append]
      omega

/-- In front of a line stand as many bytes as its offset says. -/
theorem byteSize_between_zero {t : Text} {l : Line} (hl : l ∈ placedLines t) :
    byteSize (between (placedLines t) 0 l.offset) = l.offset := by
  have := byteSize_between_placeLines (fun _ hl => ne_nil_of_mem_lines hl) hl
  rwa [Nat.zero_add] at this

end VectorFamily.Text
