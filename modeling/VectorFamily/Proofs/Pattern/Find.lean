import VectorFamily.Proofs.Pattern.Lines
import VectorFamily.Proofs.Pattern.Segments
import VectorFamily.Proofs.Pattern.Token

/-!
# Where a pattern is found

A pattern is not found in a text just if it matches at no position of it. A pattern that stays in a
line is found in a text just if it is found in a row of it. Where it is not found nothing is
replaced; a token that is found at one place is replaced there and nowhere else.
-/

namespace VectorFamily

/-- All that the piece chooses from holds the character. -/
def Piece.Needs (c : Char) : Piece → Prop
  | oneOf options => ∀ o ∈ options, c ∈ o
  | _ => False

instance (c : Char) : DecidablePred (Piece.Needs c)
  | .oneOf options => inferInstanceAs (Decidable (∀ o ∈ options, c ∈ o))
  | .boundary | .lineStart | .lineEnd | .run _ _ => .isFalse id

namespace Pattern

open Text (rows rows_append_newline rows_of_not_mem rows_induction)

variable {p : Pattern} {t : Text}

theorem findFrom_eq_none_iff {before : Option Char} {passed : Text} :
    findFrom p before passed t = none ↔
      ∀ u v, t = u ++ v → p.match? (u.getLast?.or before) v = none := by
  induction t generalizing before passed with
  | nil =>
    rw [findFrom, Option.map_eq_none_iff]
    constructor
    · intro h u v huv
      obtain ⟨rfl, rfl⟩ := List.append_eq_nil_iff.1 huv.symm
      exact h
    · exact fun h => h [] [] rfl
  | cons c t ih =>
    have hlast : ∀ u : Text, (c :: u).getLast?.or before = u.getLast?.or (some c) := by
      intro u
      cases u <;> simp [List.getLast?_cons]
    rw [findFrom]
    constructor
    · intro h u v huv
      split at h
      · cases h
      next hm =>
        cases u with
        | nil =>
          obtain rfl : c :: t = v := huv
          exact hm
        | cons d u =>
          obtain ⟨rfl, rfl⟩ := List.cons.inj huv
          rw [hlast]
          exact ih.1 h u v rfl
    · intro h
      have hm : p.match? before (c :: t) = none := h [] (c :: t) rfl
      rw [hm]
      refine ih.2 fun u v huv => ?_
      rw [← hlast]
      exact h (c :: u) v (by rw [huv]; rfl)

theorem find?_eq_none_iff :
    p.find? t = none ↔ ∀ u v, t = u ++ v → p.match? u.getLast? v = none := by
  simp only [find?, findFrom_eq_none_iff, Option.or_none]

theorem find?_eq_none_of_forall (h : ∀ u v h, t = u ++ v → p.match? u.getLast? v ≠ some h) :
    p.find? t = none :=
  find?_eq_none_iff.2 fun u v huv => Option.eq_none_iff_forall_ne_some.2 fun hit => h u v hit huv

theorem find?_ne_none {u v : Text} {h : Hit} (hm : p.match? u.getLast? v = some h) :
    p.find? (u ++ v) ≠ none := by
  intro hnone
  rw [find?_eq_none_iff.1 hnone u v rfl] at hm
  cases hm

/-- A pattern is not found in a text that lacks a character of every match. -/
theorem find?_eq_none_of_not_mem {c : Char}
    (hp : ∀ before rest h, p.match? before rest = some h → c ∈ h.text) (hc : c ∉ t) :
    p.find? t = none := by
  refine find?_eq_none_of_forall fun u v h huv hm => ?_
  have hv : c ∈ v := (prefix_of_match? hm).mem (hp _ _ _ hm)
  exact hc (huv ▸ List.mem_append_right u hv)

/-- Some part of the pattern takes the character, whatever it matches. -/
def Needs (c : Char) (p : Pattern) : Prop := ∃ part ∈ p, part.piece.Needs c

instance (c : Char) : DecidablePred (Needs c) := fun p =>
  inferInstanceAs (Decidable (∃ part ∈ p, part.piece.Needs c))

theorem Needs.mem {c : Char} (hp : p.Needs c) {before : Option Char} {rest : Text} {h : Hit}
    (hm : p.match? before rest = some h) : c ∈ h.text := by
  induction p generalizing before rest h with
  | nil => simp [Needs] at hp
  | cons part p ih =>
    simp only [match?, Option.bind_eq_some_iff, Option.map_eq_some_iff] at hm
    obtain ⟨taken, htake, h', hm', rfl⟩ := hm
    obtain ⟨part', hpart, hneeds⟩ := hp
    rcases List.mem_cons.1 hpart with rfl | hpart
    · obtain ⟨piece, name⟩ := part'
      cases piece with
      | oneOf options =>
        exact List.mem_append_left _ (hneeds taken (List.mem_of_find?_eq_some htake))
      | boundary | lineStart | lineEnd | run => exact hneeds.elim
    · exact List.mem_append_right _ (ih ⟨part', hpart, hneeds⟩ hm')

theorem Needs.find?_eq_none {c : Char} (hp : p.Needs c) (hc : c ∉ t) : p.find? t = none :=
  find?_eq_none_of_not_mem (fun _ _ _ hm => hp.mem hm) hc

/-! ### Rows -/

theorem find?_append_newline_eq_none_iff (hp : p.StaysInLine) {u : Text} :
    p.find? (t ++ '\n' :: u) = none ↔ p.find? t = none ∧ p.find? u = none := by
  simp only [find?_eq_none_iff]
  -- a position is in front of the line feed or behind it
  constructor
  · refine fun h => ⟨fun a b hab => ?_, fun a b hab => ?_⟩
    · rw [← match?_append_newline hp _ b u]
      exact h a _ (by rw [hab, List.append_assoc])
    · have hbehind := h (t ++ '\n' :: a) b (by rw [hab]; simp)
      cases a with
      | nil => rwa [List.getLast?_concat, match?_newline] at hbehind
      | cons c a => simpa [List.getLast?_append, List.getLast?_cons] using hbehind
  · rintro ⟨ht, hu⟩ a b hab
    rcases List.append_eq_append_iff.1 hab with ⟨a', rfl, hb⟩ | ⟨b', rfl, rfl⟩
    · cases a' with
      | nil =>
        obtain rfl : '\n' :: u = b := hb
        have hend := ht t [] (List.append_nil t).symm
        rw [← match?_append_newline hp _ [] u] at hend
        simpa using hend
      | cons c a' =>
        obtain ⟨rfl, rfl⟩ := List.cons.inj hb
        cases a' with
        | nil => simpa [match?_newline] using hu [] b rfl
        | cons d a' => simpa [List.getLast?_append, List.getLast?_cons] using hu (d :: a') b rfl
    · rw [match?_append_newline hp]
      exact ht a b' rfl

/-- A pattern that stays in a line is looked for in each row by itself. -/
theorem find?_eq_none_iff_rows (hp : p.StaysInLine) :
    p.find? t = none ↔ ∀ x ∈ rows t, p.find? x = none := by
  induction t using rows_induction with
  | row t ht => simp [rows_of_not_mem ht]
  | cut t u ht ih =>
    rw [find?_append_newline_eq_none_iff hp, ih, rows_append_newline, rows_of_not_mem ht,
      List.singleton_append, List.forall_mem_cons]

/-! ### Replacing -/

theorem flatMap_replaced_map_plain (render : Hit → Text) (u : Text) :
    (u.map Segment.plain).flatMap (Segment.replaced render) = u := by
  simp [List.flatMap_map, Segment.replaced]

theorem replaceAll_of_find?_none (h : p.find? t = none) (render : Hit → Text) :
    (p.replaceAll render t).1 = t := by
  rw [replaceAll_fst, segments, segments_of_findFrom_none h, flatMap_replaced_map_plain]

theorem replaceAll_snd_eq_zero_iff (hp : p.Solid) {render : Hit → Text} :
    (p.replaceAll render t).2 = 0 ↔ p.find? t = none := by
  constructor
  · intro hzero
    refine find?_eq_none_of_forall fun u v h huv hm => ?_
    rw [huv] at hzero
    exact replaceAll_snd_ne_zero hp hm render hzero
  · intro h
    rw [replaceAll_snd, segments, segments_of_findFrom_none h, List.countP_map]
    exact List.countP_eq_zero.2 fun _ _ => Bool.false_ne_true

theorem find?_of_match? {h : Hit} (hm : p.match? none t = some h) :
    p.find? t = some ([], h, t.drop h.text.length) := by
  cases t with
  | nil => simp [find?, findFrom, hm]
  | cons c t => simp [find?, findFrom, hm]

theorem getLast?_cons_or (c : Char) (u : Text) (before : Option Char) :
    (c :: u).getLast?.or before = u.getLast?.or (some c) := by
  rw [List.getLast?_cons]
  cases u.getLast? <;> rfl

/-- A scan passes over the front of a text if the pattern matches nowhere there. -/
theorem segmentsFrom_append_of_match?_eq_none {u v : Text} {before : Option Char}
    (h : ∀ a b, u = a ++ b → b ≠ [] → p.match? (a.getLast?.or before) (b ++ v) = none) :
    segmentsFrom p before .apart (u ++ v) =
      u.map .plain ++ segmentsFrom p (u.getLast?.or before) .apart v := by
  induction u generalizing before with
  | nil => rfl
  | cons c u ih =>
    have hnone : p.match? before (c :: (u ++ v)) = none := h [] (c :: u) rfl (List.cons_ne_nil c u)
    rw [List.cons_append, segmentsFrom_skip hnone, ih, List.map_cons, List.cons_append,
      getLast?_cons_or]
    intro a b hu hb
    rw [← getLast?_cons_or c a before]
    exact h (c :: a) b (by rw [hu, List.cons_append]) hb

theorem segmentsFrom_token_append {literal u v : Text} {before : Option Char} (hne : literal ≠ [])
    (hu : ∀ c ∈ u, literal.head? ≠ some c) :
    segmentsFrom (token literal) before .apart (u ++ v) =
      u.map .plain ++ segmentsFrom (token literal) (u.getLast?.or before) .apart v := by
  refine segmentsFrom_append_of_match?_eq_none fun a b hab hb => ?_
  obtain ⟨c, b, rfl⟩ := List.exists_cons_of_ne_nil hb
  refine Option.eq_none_iff_forall_ne_some.2 fun h hm => ?_
  obtain ⟨post, hpost, -, -⟩ := match?_token_eq_some.1 hm
  obtain ⟨d, literal, rfl⟩ := List.exists_cons_of_ne_nil hne
  exact hu c (by simp [hab]) (congrArg some (List.cons.inj hpost).1.symm)

theorem replaceAll_token_once {literal u v : Text} (hne : literal ≠ [])
    (hu : ∀ c ∈ u, literal.head? ≠ some c) (hv : ∀ c ∈ v, literal.head? ≠ some c)
    (hw : WholeToken u.getLast? literal v.head?) (render : Hit → Text) :
    ((token literal).replaceAll render (u ++ literal ++ v)).1 =
      u ++ render ⟨literal, []⟩ ++ v := by
  have hsolid := solid_token hne
  have hmatch : (token literal).match? u.getLast? (literal ++ v) = some ⟨literal, []⟩ :=
    match?_token_eq_some.2 ⟨v, rfl, hw, rfl⟩
  have htake := segmentsFrom_take hsolid (h := ⟨literal, []⟩) hmatch
  simp only at htake
  have hrest : segmentsFrom (token literal) (literal.getLast?.or u.getLast?) .apart (v ++ []) =
      v.map .plain := by
    rw [segmentsFrom_token_append hne hv, segmentsFrom_nil hsolid, List.append_nil]
  rw [List.append_nil] at hrest
  rw [replaceAll_fst, segments, List.append_assoc, segmentsFrom_token_append hne hu,
    Option.or_none, htake, hrest, List.flatMap_append, flatMap_replaced_map_plain,
    List.flatMap_cons, flatMap_replaced_map_plain, List.append_assoc]
  rfl

/-! ### Patterns at the start of a line -/

section
variable (hstart : p.head? = some .lineStart) {row : Text} (hrow : '\n' ∉ row)
include hstart

theorem match?_eq_none_of_lineStart {a b : Text} (ha : a ≠ []) (hrow : '\n' ∉ a)
    (before : Option Char) : p.match? (a.getLast?.or before) b = none := by
  obtain ⟨ps, rfl⟩ := List.head?_eq_some_iff.1 hstart
  refine Option.eq_none_iff_forall_ne_some.2 fun h hm => ?_
  have hlast := (match?_lineStart_cons_eq_some.1 hm).1
  rw [List.getLast?_eq_some_getLast ha, Option.some_or] at hlast
  have hnewline : a.getLast ha = '\n' := by simpa using hlast
  exact hrow (hnewline ▸ List.getLast_mem ha)

include hrow

/-- In a row the only line starts at its start. -/
theorem find?_eq_none_iff_of_lineStart : p.find? row = none ↔ p.match? none row = none := by
  constructor
  · exact fun h => find?_eq_none_iff.1 h [] row rfl
  · intro h
    refine find?_eq_none_iff.2 fun a b hab => ?_
    by_cases ha : a = []
    · rw [ha, List.nil_append] at hab
      rw [ha, ← hab, List.getLast?_nil, h]
    · have ha' : '\n' ∉ a := fun hn => hrow (hab ▸ List.mem_append_left _ hn)
      rw [← Option.or_none (o := a.getLast?), match?_eq_none_of_lineStart hstart ha ha']

theorem replaceAll_of_lineStart (hp : p.Solid) (render : Hit → Text) :
    (p.replaceAll render row).1 = match p.match? none row with
      | some h => render h ++ row.drop h.text.length
      | none => row := by
  cases hm : p.match? none row with
  | none =>
    exact replaceAll_of_find?_none ((find?_eq_none_iff_of_lineStart hstart hrow).2 hm) render
  | some h =>
    obtain ⟨post, rfl⟩ := prefix_of_match? hm
    have hskip : segmentsFrom p (h.text.getLast?.or none) .apart (post ++ []) =
        post.map .plain := by
      rw [segmentsFrom_append_of_match?_eq_none, segmentsFrom_nil hp, List.append_nil]
      rintro a b rfl -
      have hpassed : '\n' ∉ h.text ++ a := fun hn => hrow (by
        rw [← List.append_assoc]
        exact List.mem_append_left b hn)
      have hnone := match?_eq_none_of_lineStart hstart (b := b ++ []) (by simp [hp _ _ _ hm])
        hpassed none
      rwa [List.getLast?_append, Option.or_assoc] at hnone
    rw [List.append_nil] at hskip
    rw [replaceAll_fst, segments, segmentsFrom_take hp hm, hskip, List.flatMap_cons,
      flatMap_replaced_map_plain]
    simp [Segment.replaced]

end

end Pattern

end VectorFamily
