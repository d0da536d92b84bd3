import VectorFamily.Pattern.Token
import VectorFamily.Rule.Basic

/-!
# Scans of solid patterns

A pattern is `Solid` if it never matches the empty text. A scan of a solid pattern is a walk: it has
read a part of the text, and either the pattern does not match at the position and one character is
passed over, or it matches and the match is passed over as a whole. `segments_induction` and
`replaceAll_induction` prove a property of a scan from its two steps; what has been read is at hand
in both, since whether the pattern matches depends on the character before the position.
-/

namespace VectorFamily

/-- What a segment becomes when matches are replaced. -/
def Segment.replaced (render : Hit → Text) : Segment → Text
  | plain c => [c]
  | hit h => render h

def Segment.isHit : Segment → Bool
  | plain _ => false
  | hit _ => true

namespace Pattern

def Solid (p : Pattern) : Prop := ∀ before rest h, p.match? before rest = some h → h.text ≠ []

theorem solid_append_of_right {p q : Pattern} (hq : q.Solid) : (p ++ q).Solid := by
  induction p with
  | nil => exact hq
  | cons a p ih =>
    intro before rest h hm
    simp only [List.cons_append, match?, Option.bind_eq_some_iff, Option.map_eq_some_iff] at hm
    obtain ⟨taken, -, h', hm', rfl⟩ := hm
    simp [Hit.after, ih _ _ _ hm']

theorem solid_cons {a : Part} {p : Pattern} (hp : Solid p) : Solid (a :: p) :=
  solid_append_of_right (p := [a]) hp

theorem solid_choice_cons {options : List Text} (ho : [] ∉ options) (p : Pattern) :
    Solid (.choice options :: p) := by
  intro before rest h hm
  simp only [match?, Part.choice, Piece.take?, Option.bind_eq_some_iff,
    Option.map_eq_some_iff] at hm
  obtain ⟨taken, ht, h', -, rfl⟩ := hm
  have hmem : taken ∈ options := List.mem_of_find?_eq_some ht
  have hne : taken ≠ [] := fun he => ho (he ▸ hmem)
  simp [Hit.after, hne]

theorem solid_text_cons {t : Text} (ht : t ≠ []) (p : Pattern) : Solid (.text t :: p) :=
  solid_choice_cons (by simpa using ht.symm) p

theorem solid_token {literal : Text} (hl : literal ≠ []) : (token literal).Solid := by
  rw [token, List.append_assoc]
  exact solid_append_of_right (solid_text_cons hl _)

section
variable {p : Pattern} {before : Option Char}

theorem match?_nil_of_solid (hp : p.Solid) : p.match? before [] = none := by
  cases hm : p.match? before [] with
  | none => rfl
  | some h => exact absurd (List.prefix_nil.1 (prefix_of_match? hm)) (hp _ _ _ hm)

theorem segmentsFrom_inside (u rest : Text) :
    segmentsFrom p before (.inside u.length) (u ++ rest) =
      segmentsFrom p (u.getLast?.or before) (.inside 0) rest := by
  induction u generalizing before with
  | nil => simp
  | cons c u ih =>
    rw [List.length_cons, List.cons_append, segmentsFrom, ih]
    cases u <;> simp [List.getLast?_cons]

theorem segmentsFrom_inside_zero (hp : p.Solid) (rest : Text) :
    segmentsFrom p before (.inside 0) rest = segmentsFrom p before .apart rest := by
  cases rest with
  | nil => simp [segmentsFrom, match?_nil_of_solid hp]
  | cons c rest =>
    cases hm : p.match? before (c :: rest) with
    | none => simp [segmentsFrom, hm]
    | some h =>
      obtain ⟨d, u, hu⟩ := List.exists_cons_of_ne_nil (hp _ _ _ hm)
      simp [segmentsFrom, hm, hu]

theorem segmentsFrom_nil (hp : p.Solid) : segmentsFrom p before .apart [] = [] := by
  simp [segmentsFrom, match?_nil_of_solid hp]

theorem segmentsFrom_skip {c : Char} {rest : Text} (hm : p.match? before (c :: rest) = none) :
    segmentsFrom p before .apart (c :: rest) =
      .plain c :: segmentsFrom p (some c) .apart rest := by
  simp [segmentsFrom, hm]

theorem segmentsFrom_take (hp : p.Solid) {h : Hit} {rest : Text}
    (hm : p.match? before (h.text ++ rest) = some h) :
    segmentsFrom p before .apart (h.text ++ rest) =
      .hit h :: segmentsFrom p (h.text.getLast?.or before) .apart rest := by
  obtain ⟨d, u, hu⟩ := List.exists_cons_of_ne_nil (hp _ _ _ hm)
  rw [hu, List.cons_append] at hm ⊢
  have hlast : (d :: u).getLast?.or before = u.getLast?.or (some d) := by
    cases u <;> simp [List.getLast?_cons]
  rw [hlast, ← segmentsFrom_inside_zero hp rest, ← segmentsFrom_inside u rest]
  simp [segmentsFrom, hm, hu]

end

/-- The two steps of a scan, as an induction over what it has read and met so far. -/
theorem segments_induction {p : Pattern} (hp : p.Solid)
    {motive : Text → List Segment → Text → Prop}
    (skip : ∀ read met c rest, motive read met (c :: rest) →
      p.match? read.getLast? (c :: rest) = none → motive (read ++ [c]) (met ++ [.plain c]) rest)
    (take : ∀ read met h rest, motive read met (h.text ++ rest) →
      p.match? read.getLast? (h.text ++ rest) = some h →
      motive (read ++ h.text) (met ++ [.hit h]) rest)
    {t : Text} (start : motive [] [] t) : motive t (p.segments t) [] := by
  have walk : ∀ n, ∀ read met rest, rest.length ≤ n → motive read met rest →
      motive (read ++ rest) (met ++ segmentsFrom p read.getLast? .apart rest) [] := by
    intro n
    induction n with
    | zero =>
      intro read met rest hn hm
      obtain rfl : rest = [] := List.length_eq_zero_iff.1 (by omega)
      simpa [segmentsFrom_nil hp] using hm
    | succ n ih =>
      intro read met rest hn hm
      cases rest with
      | nil => simpa [segmentsFrom_nil hp] using hm
      | cons c rest =>
        cases hmatch : p.match? read.getLast? (c :: rest) with
        | none =>
          have h := ih _ _ _ (by simpa using hn) (skip _ _ _ _ hm hmatch)
          rw [segmentsFrom_skip hmatch]
          simpa using h
        | some h =>
          obtain ⟨later, hlater⟩ := prefix_of_match? hmatch
          have hne := hp _ _ _ hmatch
          rw [← hlater] at hm hmatch hn ⊢
          have hlen : later.length ≤ n := by
            have := List.length_pos_iff.2 hne
            simp only [List.length_append] at hn
            omega
          have hres := ih _ _ _ hlen (take _ _ _ _ hm hmatch)
          rw [segmentsFrom_take hp hmatch]
          simpa [List.getLast?_append] using hres
  simpa [segments] using walk t.length [] [] t (Nat.le_refl _) start

/-! ### Replacing -/

theorem foldl_replaced (render : Hit → Text) (segs : List Segment) (acc : Text) (n : Nat) :
    segs.foldl (Segment.elim (fun s c => (c :: s.1, s.2))
        (fun s h => ((render h).reverse ++ s.1, s.2 + 1))) (acc, n) =
      ((segs.flatMap (Segment.replaced render)).reverse ++ acc,
        n + segs.countP Segment.isHit) := by
  induction segs generalizing acc n with
  | nil => simp
  | cons s segs ih =>
    cases s with
    | plain c => simp [Segment.elim, Segment.replaced, Segment.isHit, ih]
    | hit h =>
      simp only [List.foldl_cons, Segment.elim, ih, List.countP_cons, Segment.isHit]
      simp [Segment.replaced, Nat.add_left_comm, Nat.add_comm]

theorem replaceAll_fst (p : Pattern) (render : Hit → Text) (t : Text) :
    (p.replaceAll render t).1 = (p.segments t).flatMap (Segment.replaced render) := by
  simp [replaceAll, fold_eq_foldl, foldl_replaced]

/-- The two steps of replacing: what has been read has become what has been written, and the rest is
still as it was. -/
theorem replaceAll_induction {p : Pattern} (hp : p.Solid) {render : Hit → Text}
    {motive : Text → Text → Text → Prop}
    (skip : ∀ read written c rest, motive read written (c :: rest) →
      p.match? read.getLast? (c :: rest) = none → motive (read ++ [c]) (written ++ [c]) rest)
    (take : ∀ read written h rest, motive read written (h.text ++ rest) →
      p.match? read.getLast? (h.text ++ rest) = some h →
      motive (read ++ h.text) (written ++ render h) rest)
    {t : Text} (start : motive [] [] t) : motive t (p.replaceAll render t).1 [] := by
  rw [replaceAll_fst]
  refine segments_induction hp
    (motive := fun read met rest => motive read (met.flatMap (Segment.replaced render)) rest)
    ?_ ?_ start
  · intro read met c rest hm hmatch
    simpa [Segment.replaced] using skip _ _ _ _ hm hmatch
  · intro read met h rest hm hmatch
    simpa [Segment.replaced] using take _ _ _ _ hm hmatch

/-- A property of a text that is kept when one match is replaced is kept when all are. -/
theorem replaceAll_invariant {p : Pattern} (hp : p.Solid) {render : Hit → Text} {P : Text → Prop}
    (step : ∀ before written h rest, p.match? before (h.text ++ rest) = some h →
      P (written ++ h.text ++ rest) → P (written ++ render h ++ rest))
    {t : Text} (ht : P t) : P (p.replaceAll render t).1 := by
  have walk : P ((p.replaceAll render t).1 ++ []) := by
    refine replaceAll_induction hp (motive := fun _ written rest => P (written ++ rest)) ?_ ?_ ht
    · intro read written c rest hm _
      simpa using hm
    · intro read written h rest hm hmatch
      exact step _ _ _ _ hmatch (by simpa using hm)
  simpa using walk

end Pattern

end VectorFamily
