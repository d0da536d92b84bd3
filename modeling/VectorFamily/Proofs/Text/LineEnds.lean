import VectorFamily.Text.Lines

/-!
# Line ends

Each line feed of a text may have a carriage return in front. Normalization takes just these
returns out: it is the inverse of every way to put them in (`normalizeNewlines_eq_iff`). A return
that stands in front of no line feed stays (`count_normalizeNewlines`), so the line end of the
second of two returns in a row is one again afterwards.
-/

namespace VectorFamily.Text

variable {t u : Text}

/-- The second text is the first with a carriage return put in front of some of its line feeds. -/
inductive Respelled : Text → Text → Prop
  | nil : Respelled [] []
  /-- The character stands in both, a line feed without a return among them. -/
  | same (c : Char) {t u : Text} : Respelled t u → Respelled (c :: t) (c :: u)
  /-- The line feed gets a return. -/
  | put {t u : Text} : Respelled t u → Respelled ('\n' :: t) ('\r' :: '\n' :: u)

theorem Respelled.refl (t : Text) : Respelled t t := by
  induction t with
  | nil => exact .nil
  | cons c t ih => exact .same c ih

theorem normalizeNewlines_of_respelled (h : Respelled t u) (ht : '\r' ∉ t) :
    normalizeNewlines u = t := by
  induction h with
  | nil => rfl
  | same c _ ih =>
    obtain ⟨hc, ht⟩ := not_or.1 fun h => ht (List.mem_cons.2 h)
    rw [normalizeNewlines_cons, if_neg fun h => hc h.1.symm, ih ht]
  | put _ ih =>
    have ht := fun h => ht (List.mem_cons_of_mem _ h)
    rw [normalizeNewlines_cons, if_pos ⟨rfl, rfl⟩, normalizeNewlines_cons,
      if_neg fun h => absurd h.1 (by decide), ih ht]

/-- Whatever the text is, normalization only takes returns in front of line feeds. -/
theorem respelled_normalizeNewlines (u : Text) : Respelled (normalizeNewlines u) u := by
  induction u with
  | nil => exact .nil
  | cons c u ih =>
    rw [normalizeNewlines_cons]
    split
    · next hc =>
      obtain ⟨rfl, hhead⟩ := hc
      cases u with
      | nil => cases hhead
      | cons d u =>
        obtain rfl := Option.some.inj hhead
        -- the line feed stays, so what is normalized begins with it as well
        rw [normalizeNewlines_cons, if_neg fun h => absurd h.1 (by decide)] at ih ⊢
        cases ih with
        | same _ ih => exact .put ih
    · exact .same c ih

theorem normalizeNewlines_eq_iff (ht : '\r' ∉ t) : normalizeNewlines u = t ↔ Respelled t u :=
  ⟨fun h => h ▸ respelled_normalizeNewlines u, fun h => normalizeNewlines_of_respelled h ht⟩

theorem normalizeNewlines_of_not_mem (ht : '\r' ∉ t) : normalizeNewlines t = t :=
  normalizeNewlines_of_respelled (.refl t) ht

/-- Normalization takes out nothing but carriage returns. -/
theorem filter_normalizeNewlines {P : Char → Bool} (hP : P '\r' = false) (t : Text) :
    (normalizeNewlines t).filter P = t.filter P := by
  induction t with
  | nil => rfl
  | cons c t ih =>
    rw [normalizeNewlines_cons]
    split
    · next hc => rw [hc.1, List.filter_cons_of_neg (by simp [hP]), ih]
    · rw [List.filter_cons, List.filter_cons, ih]

/-! ### Returns without a line feed -/

/-- The number of carriage returns that stand in front of no line feed. -/
def strayReturns : Text → Nat
  | [] => 0
  | c :: t => (if c = '\r' ∧ t.head? ≠ some '\n' then 1 else 0) + strayReturns t

theorem count_normalizeNewlines (t : Text) :
    (normalizeNewlines t).count '\r' = strayReturns t := by
  induction t with
  | nil => rfl
  | cons c t ih =>
    rw [normalizeNewlines_cons, strayReturns]
    by_cases hc : c = '\r'
    · by_cases hhead : t.head? = some '\n'
      · simp [hc, hhead, ih]
      · simp [hc, hhead, ih, Nat.add_comm]
    · simp [hc, ih]

theorem strayReturns_eq_zero_iff : strayReturns t = 0 ↔
    ∀ pre post, t = pre ++ '\r' :: post → post.head? = some '\n' := by
  induction t with
  | nil => simp [strayReturns]
  | cons c t ih =>
    rw [strayReturns, Nat.add_eq_zero_iff, ih]
    constructor
    · rintro ⟨hc, hrest⟩ pre post he
      cases pre with
      | nil =>
        obtain ⟨rfl, rfl⟩ := List.cons.inj he
        simpa using hc
      | cons d pre => exact hrest pre post (List.cons.inj he).2
    · intro h
      refine ⟨if_neg fun hc => hc.2 (h [] t (by rw [hc.1]; rfl)), fun pre post he => ?_⟩
      exact h (c :: pre) post (by rw [he]; rfl)

end VectorFamily.Text
