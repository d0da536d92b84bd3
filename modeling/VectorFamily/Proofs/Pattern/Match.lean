import VectorFamily.Pattern.Token

/-!
# Matches, part by part

What a match of a pattern is, read off its first part: a boundary asks for a change between word
characters and others, a choice takes the first option that stands at the position, a whole token is
its literal.
-/

namespace VectorFamily

open Piece (isWordAt)

/-- The text stands between `pre` and `post` with a word boundary at each end. -/
def WholeWords (pre m post : Text) : Prop :=
  isWordAt pre.getLast? ≠ isWordAt m.head? ∧ isWordAt m.getLast? ≠ isWordAt post.head?

/-! ### The first of several texts -/

/-- The first text of a list that others start with is the one that stands there, if none before it
does. -/
theorem find?_isPrefixOf {xs : List Text} {x t : Text} (hx : x ∈ xs)
    (h : xs.Pairwise fun y z => ¬ y <+: z ++ t) : xs.find? (·.isPrefixOf (x ++ t)) = some x := by
  induction xs with
  | nil => cases hx
  | cons y ys ih =>
    obtain ⟨hy, hys⟩ := List.pairwise_cons.1 h
    rcases List.mem_cons.1 hx with rfl | hx
    · exact List.find?_cons_of_pos (by simp)
    · rw [List.find?_cons_of_neg (by simpa using hy x hx), ih hx hys]

/-- No text of the list starts with another one. -/
def PrefixFree (xs : List Text) : Prop := xs.Pairwise fun x y => ¬ x <+: y ∧ ¬ y <+: x

instance (xs : List Text) : Decidable (PrefixFree xs) :=
  inferInstanceAs (Decidable (xs.Pairwise _))

theorem PrefixFree.find?_isPrefixOf {xs : List Text} (h : PrefixFree xs) {x : Text} (hx : x ∈ xs)
    (t : Text) : xs.find? (·.isPrefixOf (x ++ t)) = some x := by
  refine VectorFamily.find?_isPrefixOf hx (h.imp fun {y z} hyz hpre => ?_)
  exact (List.prefix_or_prefix_of_prefix hpre (List.prefix_append z t)).elim hyz.1 hyz.2

namespace Pattern

variable {ps : Pattern} {before : Option Char} {rest : Text} {h : Hit}

@[simp] theorem match?_nil : match? [] before rest = some ⟨[], []⟩ := rfl

theorem match?_boundary_cons :
    match? (.boundary :: ps) before rest =
      if isWordAt before ≠ isWordAt rest.head? then match? ps before rest else none := by
  by_cases hb : isWordAt before = isWordAt rest.head?
  · simp [match?, Part.boundary, Piece.take?, hb]
  · simp only [match?, Part.boundary, Piece.take?, bne_iff_ne, ne_eq, hb, not_false_eq_true,
      ↓reduceIte, Option.bind_some, List.getLast?_nil, Option.none_or, List.length_nil,
      List.drop_zero]
    cases match? ps before rest <;> simp [Hit.after]

theorem match?_boundary_cons_eq_some :
    match? (.boundary :: ps) before rest = some h ↔
      isWordAt before ≠ isWordAt rest.head? ∧ match? ps before rest = some h := by
  rw [match?_boundary_cons]
  split <;> simp_all

theorem match?_lineStart_cons_eq_some :
    match? (.lineStart :: ps) before rest = some h ↔
      before.all (· == '\n') = true ∧ match? ps before rest = some h := by
  by_cases hb : before.all (· == '\n') = true
  · simp only [match?, Part.lineStart, Piece.take?, hb, ↓reduceIte, Option.bind_some,
      List.getLast?_nil, Option.none_or, List.length_nil, List.drop_zero, true_and]
    cases match? ps before rest <;> simp [Hit.after]
  · simp [match?, Part.lineStart, Piece.take?, hb]

theorem match?_lineEnd : match? [.lineEnd] before rest =
    if rest.head?.all (· == '\n') then some ⟨[], []⟩ else none := by
  by_cases hr : rest.head?.all (· == '\n') = true
  · simp [match?, Part.lineEnd, Piece.take?, hr, Hit.after]
  · simp [match?, Part.lineEnd, Piece.take?, hr]

/-- A run without a least length takes what there is of its class. -/
theorem match?_run_cons {cls : CharClass} : match? (.run cls 0 :: ps) before rest =
    (match? ps ((rest.takeWhile cls.has).getLast?.or before) (rest.dropWhile cls.has)).map
      (Hit.after (.run cls 0) (rest.takeWhile cls.has)) := by
  have hdrop : (rest.takeWhile cls.has ++ rest.dropWhile cls.has).drop
      (rest.takeWhile cls.has).length = rest.dropWhile cls.has := List.drop_left
  rw [List.takeWhile_append_dropWhile] at hdrop
  simp [match?, Part.run, Piece.take?, hdrop]

theorem match?_oneOf_cons {options : List Text} {name : Option String} {t : Text}
    (ht : options.find? (·.isPrefixOf (t ++ rest)) = some t) :
    match? (⟨.oneOf options, name⟩ :: ps) before (t ++ rest) =
      (match? ps (t.getLast?.or before) rest).map (Hit.after ⟨.oneOf options, name⟩ t) := by
  simp [match?, Piece.take?, ht]

theorem match?_oneOf_cons_eq_some {options : List Text} {name : Option String} :
    match? (⟨.oneOf options, name⟩ :: ps) before rest = some h ↔
      ∃ t later h', options.find? (·.isPrefixOf rest) = some t ∧ rest = t ++ later ∧
        match? ps (t.getLast?.or before) later = some h' ∧
        h = Hit.after ⟨.oneOf options, name⟩ t h' := by
  constructor
  · intro hm
    simp only [match?, Piece.take?, Option.bind_eq_some_iff, Option.map_eq_some_iff] at hm
    obtain ⟨t, ht, h', hm', rfl⟩ := hm
    obtain ⟨later, rfl⟩ : t <+: rest := by simpa using List.find?_some ht
    rw [List.drop_left] at hm'
    exact ⟨t, later, h', ht, rfl, hm', rfl⟩
  · rintro ⟨t, later, h', ht, rfl, hm', rfl⟩
    rw [match?_oneOf_cons ht, hm']
    rfl

theorem match?_text_cons (t rest : Text) :
    match? (.text t :: ps) before (t ++ rest) =
      (match? ps (t.getLast?.or before) rest).map (Hit.after (.text t) t) :=
  match?_oneOf_cons (by simp)

theorem match?_text_cons_eq_some {t : Text} :
    match? (.text t :: ps) before rest = some h ↔
      ∃ later h', rest = t ++ later ∧ match? ps (t.getLast?.or before) later = some h' ∧
        h = Hit.after (.text t) t h' := by
  rw [Part.text, match?_oneOf_cons_eq_some]
  constructor
  · rintro ⟨t', later, h', ht, rfl, hm', rfl⟩
    obtain rfl : t' = t := by simpa using List.mem_of_find?_eq_some ht
    exact ⟨later, h', rfl, hm', rfl⟩
  · rintro ⟨later, h', rfl, hm', rfl⟩
    exact ⟨t, later, h', by simp, rfl, hm', rfl⟩

theorem match?_optional (c : Char) (before : Option Char) (t : Text) :
    match? [.optional [c]] before t = some ⟨if t.head? = some c then [c] else [], []⟩ := by
  cases t with
  | nil => simp [match?, Part.optional, Piece.take?, Hit.after]
  | cons d t =>
    by_cases hd : d = c
    · subst hd
      simp [match?, Part.optional, Piece.take?, Hit.after]
    · have hd' : ¬ c = d := fun h => hd h.symm
      simp [match?, Part.optional, Piece.take?, Hit.after, hd, hd']

/-! ### Tokens -/

theorem match?_of_match?_edge_append {c : Option Char}
    (hm : match? (edge c ++ ps) before rest = some h) : match? ps before rest = some h := by
  unfold edge at hm
  split at hm
  · exact (match?_boundary_cons_eq_some.1 hm).2
  · exact hm

theorem eq_of_match?_token {literal : Text} (hm : match? (token literal) before rest = some h) :
    h = ⟨literal, []⟩ := by
  rw [token, List.append_assoc] at hm
  obtain ⟨later, h', rfl, hedge, rfl⟩ :=
    match?_text_cons_eq_some.1 (match?_of_match?_edge_append hm)
  rw [← List.append_nil (edge literal.getLast?)] at hedge
  obtain rfl : ⟨[], []⟩ = h' := Option.some.inj (match?_of_match?_edge_append hedge)
  simp [Hit.after, Part.text]

end Pattern

end VectorFamily
