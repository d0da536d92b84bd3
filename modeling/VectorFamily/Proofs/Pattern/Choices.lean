import Mathlib.Data.List.Basic
import Mathlib.Data.List.TakeWhile
import VectorFamily.Proofs.Pattern.Match

/-!
# Patterns without second choices

Where a part of a pattern could take more than one text, a search that goes back tries them all, in
the order in which it prefers them, until the rest of the pattern matches. `candidates` lists what
such a search finds. A pattern is `Decided` if the other choices fail wherever the preferred one
does; then `match?`, which never goes back, finds what the search finds first. All patterns that a
rule or a check of this library looks for are decided, whatever the strings in them.
-/

namespace VectorFamily

/-! ### All choices -/

namespace Piece

/-- What the piece may take from the front of `rest`, the text that it prefers first. -/
def choices (before : Option Char) (rest : Text) : Piece → List Text
  | oneOf options => options.filter (·.isPrefixOf rest)
  | run cls least =>
    let taken := rest.takeWhile cls.has
    (List.range (taken.length + 1 - least)).map fun back => taken.take (taken.length - back)
  | piece => (piece.take? before rest).toList

theorem head?_choices (before : Option Char) (rest : Text) (piece : Piece) :
    (piece.choices before rest).head? = piece.take? before rest := by
  cases piece with
  | boundary | lineStart | lineEnd => exact Option.head?_toList
  | oneOf options => exact List.head?_filter
  | run cls least =>
    by_cases hle : least ≤ (rest.takeWhile cls.has).length
    · have hpos : (rest.takeWhile cls.has).length + 1 - least =
          (rest.takeWhile cls.has).length - least + 1 := by omega
      simp [choices, take?, hle, hpos, List.range_succ_eq_map]
    · have hzero : (rest.takeWhile cls.has).length + 1 - least = 0 := by omega
      simp [choices, take?, hle, hzero]

end Piece

namespace Pattern

/-- All matches of the pattern at the front of `rest`, in the order in which a search that goes back
comes to them. -/
def candidates : Pattern → Option Char → Text → List Hit
  | [], _, _ => [⟨[], []⟩]
  | p :: ps, before, rest =>
    (p.piece.choices before rest).flatMap fun taken =>
      (candidates ps (taken.getLast?.or before) (rest.drop taken.length)).map (Hit.after p taken)

/-- Where the preferred choice of a part leads to no match, no other choice does. -/
def Decided : Pattern → Prop
  | [] => True
  | p :: ps => Decided ps ∧ ∀ before rest taken, p.piece.take? before rest = some taken →
    match? ps (taken.getLast?.or before) (rest.drop taken.length) = none →
      ∀ other ∈ p.piece.choices before rest,
        match? ps (other.getLast?.or before) (rest.drop other.length) = none

variable {p : Part} {ps : Pattern} {before : Option Char} {rest : Text}

/-- Going back finds nothing that a decided pattern has not found before. -/
theorem head?_candidates (h : Decided ps) (before : Option Char) (rest : Text) :
    (candidates ps before rest).head? = match? ps before rest := by
  induction ps generalizing before rest with
  | nil => rfl
  | cons p ps ih =>
    have htry : ∀ taken : Text, ((candidates ps (taken.getLast?.or before)
        (rest.drop taken.length)).map (Hit.after p taken)).head? =
          (match? ps (taken.getLast?.or before) (rest.drop taken.length)).map (Hit.after p taken) :=
      fun taken => by rw [List.head?_map, ih h.1]
    have hfirst := p.piece.head?_choices before rest
    rw [candidates, List.head?_flatMap, match?]
    simp only [htry]
    cases hchoices : p.piece.choices before rest with
    | nil =>
      rw [hchoices] at hfirst
      rw [← hfirst]
      rfl
    | cons taken others =>
      rw [hchoices, List.head?_cons] at hfirst
      rw [← hfirst, List.findSome?_cons, Option.bind_some]
      cases hm : match? ps (taken.getLast?.or before) (rest.drop taken.length) with
      | some found => rfl
      | none =>
        have hnone := h.2 before rest taken hfirst.symm hm
        rw [hchoices] at hnone
        refine List.findSome?_eq_none_iff.2 fun other hother => ?_
        rw [hnone other (List.mem_cons_of_mem _ hother), Option.map_none]

/-! ### Decided patterns -/

theorem decided_nil : Decided [] := trivial

/-- A part that never has a second choice. -/
theorem Decided.cons_of_only (h : Decided ps) (honly : ∀ before rest, ∀ other ∈
    p.piece.choices before rest, p.piece.take? before rest = some other) : Decided (p :: ps) := by
  refine ⟨h, fun before rest taken htaken hm other hother => ?_⟩
  obtain rfl := Option.some.inj (htaken.symm.trans (honly before rest other hother))
  exact hm

theorem Decided.boundary (h : Decided ps) : Decided (.boundary :: ps) :=
  h.cons_of_only fun _ _ _ => Option.mem_toList.1

theorem Decided.lineStart (h : Decided ps) : Decided (.lineStart :: ps) :=
  h.cons_of_only fun _ _ _ => Option.mem_toList.1

theorem Decided.lineEnd (h : Decided ps) : Decided (.lineEnd :: ps) :=
  h.cons_of_only fun _ _ _ => Option.mem_toList.1

/-- At the end of a pattern every choice is as good as another, so the preferred one stands. -/
theorem decided_singleton (p : Part) : Decided [p] :=
  ⟨decided_nil, fun _ _ _ _ hm => by cases hm⟩

/-- Of two options that stand at one position, the one that is taken is listed first. -/
theorem eq_or_rel_of_find? {α : Type _} {R : α → α → Prop} {q : α → Bool} {options : List α}
    {taken other : α} (hoptions : options.Pairwise R) (htaken : options.find? q = some taken)
    (hmem : other ∈ options) (hother : q other = true) : other = taken ∨ R taken other := by
  obtain ⟨-, front, back, rfl, hfront⟩ := List.find?_eq_some_iff_append.1 htaken
  obtain ⟨-, hback, -⟩ := List.pairwise_append.1 hoptions
  rcases List.mem_append.1 hmem with hmem | hmem
  · have hnot := hfront other hmem
    rw [hother] at hnot
    cases hnot
  · rcases List.mem_cons.1 hmem with rfl | hmem
    · exact .inl rfl
    · exact .inr ((List.pairwise_cons.1 hback).1 other hmem)

/-- Options of which none starts with another: at most one stands at a position. -/
theorem Decided.oneOf {options : List Text} {name : Option String} (h : Decided ps)
    (hapart : options.Pairwise fun a b => ¬ a <+: b ∧ ¬ b <+: a) :
    Decided (⟨.oneOf options, name⟩ :: ps) := by
  refine ⟨h, fun before rest taken htaken hm other hother => ?_⟩
  obtain ⟨hmem, hother⟩ := List.mem_filter.1 hother
  rcases eq_or_rel_of_find? hapart htaken hmem hother with rfl | ⟨hlong, hshort⟩
  · exact hm
  · have htaken : taken <+: rest := Piece.prefix_of_take? htaken
    have hother : other <+: rest := List.isPrefixOf_iff_prefix.1 hother
    rcases List.prefix_or_prefix_of_prefix htaken hother with hp | hp
    · exact absurd hp hlong
    · exact absurd hp hshort

theorem Decided.text (h : Decided ps) (t : Text) : Decided (.text t :: ps) :=
  h.oneOf (List.pairwise_singleton _ _)

theorem match?_text_cons_eq_none {c : Char} {t : Text} (hc : rest.head? ≠ some c) :
    match? (.text (c :: t) :: ps) before rest = none := by
  refine Option.eq_none_iff_forall_ne_some.2 fun h hm => hc ?_
  obtain ⟨later, -, rfl, -⟩ := match?_text_cons_eq_some.1 hm
  rfl

/-- An option may start with a later one, if what is left over is not what the pattern goes on
with. -/
theorem Decided.oneOf_text {options : List Text} {name : Option String} {c : Char} {t : Text}
    (h : Decided (.text (c :: t) :: ps)) (hleft : options.Pairwise fun a b =>
      ¬ a <+: b ∧ (b <+: a → (a.drop b.length).head? ≠ some c)) :
    Decided (⟨.oneOf options, name⟩ :: .text (c :: t) :: ps) := by
  refine ⟨h, fun before rest taken htaken hm other hother => ?_⟩
  obtain ⟨hmem, hother⟩ := List.mem_filter.1 hother
  rcases eq_or_rel_of_find? hleft htaken hmem hother with rfl | ⟨hlong, hshort⟩
  · exact hm
  · have htaken : taken <+: rest := Piece.prefix_of_take? htaken
    have hother : other <+: rest := List.isPrefixOf_iff_prefix.1 hother
    rcases List.prefix_or_prefix_of_prefix htaken hother with hp | hp
    · exact absurd hp hlong
    · obtain ⟨left, rfl⟩ := hp
      obtain ⟨later, rfl⟩ := htaken
      have hne : left ≠ [] := fun hnil => hlong (by simp [hnil])
      have hhead := hshort (List.prefix_append _ _)
      rw [List.drop_left] at hhead
      rw [List.append_assoc, List.drop_left]
      exact match?_text_cons_eq_none (by rwa [List.head?_append_of_ne_nil _ hne])

/-- A run that gives something back leaves a character of its class, so it gives nothing back in
front of a text that starts with another. -/
theorem Decided.run_text {cls : CharClass} {least : Nat} {name : Option String} {c : Char}
    {t : Text} (h : Decided (.text (c :: t) :: ps)) (hc : cls.has c = false) :
    Decided (⟨.run cls least, name⟩ :: .text (c :: t) :: ps) := by
  refine ⟨h, fun before rest taken htaken hm other hother => ?_⟩
  obtain ⟨back, -, rfl⟩ := List.mem_map.1 hother
  simp only [Piece.take?, Option.ite_none_right_eq_some, Option.some.injEq] at htaken
  rw [htaken.2]
  have hclass : ∀ d ∈ taken, cls.has d = true := fun d hd =>
    List.mem_takeWhile_imp (htaken.2 ▸ hd)
  obtain ⟨later, rfl⟩ : taken <+: rest := htaken.2 ▸ List.takeWhile_prefix _
  by_cases hall : taken.length ≤ taken.length - back
  · rwa [List.take_of_length_le hall]
  · refine match?_text_cons_eq_none fun hhead => ?_
    have hshort : taken.length - back < taken.length := Nat.lt_of_not_le hall
    rw [List.length_take_of_le hshort.le, List.drop_append_of_le_length hshort.le,
      List.head?_append_of_ne_nil _ (by simpa using hshort), List.head?_drop] at hhead
    have hhas := hclass c (List.mem_of_getElem? hhead)
    rw [hc] at hhas
    cases hhas

theorem Decided.edge_append (h : Decided ps) (c : Option Char) : Decided (edge c ++ ps) := by
  unfold edge
  split
  · exact h.boundary
  · exact h

theorem Decided.token_append (h : Decided ps) (literal : Text) :
    Decided (token literal ++ ps) := by
  rw [token, List.append_assoc, List.append_assoc]
  exact ((h.edge_append _).text _).edge_append _

theorem decided_token (literal : Text) : Decided (token literal) := by
  simpa using decided_nil.token_append literal

end Pattern

end VectorFamily
