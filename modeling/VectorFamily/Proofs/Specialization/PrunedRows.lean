import VectorFamily.Proofs.Specialization.Leftovers
import VectorFamily.Proofs.Specialization.Pruning

/-!
# Rows without arithmetic of booleans

Pruning deletes text, and a deletion could bring together what a run must not leave. In the canonical
implementation it does not: a row is bare, so that no token can come of its characters, or it is
sealed against the beginnings of all that is pruned, and then nothing is deleted from it.
-/

namespace VectorFamily

open Piece (isWordAt)

namespace Specialization

/-! ### What pruning looks for -/

/-- How the expressions of the field `f` start that are deleted, character by character. -/
def prunedStarts (f : Char) : List Text :=
  [['+', '+', f, ';'], ['-', '-', f, ';'], [f, ' ', '/', ' ']] ++
    ['+', '-', '*', '/'].flatMap fun op =>
      [[f, ' ', op, '=', ' ', 'r', 'i', 'g', 'h', 't', '.', f, ';'],
        [f, ' ', op, '=', ' ', 'n', 'u', 'm', 'b', 'e', 'r', ';']]

/-- How all that is deleted starts. -/
def prunedWords : List Text := fieldAlphabet.flatMap prunedStarts

section
variable {f : Char}
open Pattern

/-- An end that is no edge asks for nothing. -/
theorem wholeToken_concat {before after : Option Char} {w : Text} {c : Char}
    (hc : isEdge c = false) (hfront : (w ++ [c]).head?.any isEdge = true →
      isWordAt before ≠ isWordAt (w ++ [c]).head?) : WholeToken before (w ++ [c]) after := by
  refine ⟨hfront, fun he => ?_⟩
  rw [List.getLast?_concat, Option.any_some, hc] at he
  cases he

theorem startsWith_stepStatement : (stepStatement f).StartsWith (prunedStarts f) := by
  intro before rest h hm
  obtain ⟨op, _, _, hop, rfl, hm, -⟩ := match?_oneOf_cons_eq_some.1 hm
  obtain ⟨post, _, rfl, -, -⟩ := match?_text_cons_eq_some.1 hm
  have hop := List.mem_of_find?_eq_some hop
  simp only [stepOperators, List.mem_cons, List.not_mem_nil, or_false] at hop
  rcases hop with rfl | rfl
  · exact ⟨['+', '+', f] ++ [';'], by simp [prunedStarts], post, rfl,
      wholeToken_concat (by decide) fun he => absurd he (show ¬ isEdge '+' = true by decide)⟩
  · exact ⟨['-', '-', f] ++ [';'], by simp [prunedStarts], post, rfl,
      wholeToken_concat (by decide) fun he => absurd he (show ¬ isEdge '-' = true by decide)⟩

theorem startsWith_division : (division f).StartsWith (prunedStarts f) := by
  intro before rest h hm
  rw [division_eq] at hm
  obtain ⟨hb, hm⟩ := match?_boundary_cons_eq_some.1 hm
  obtain ⟨post, _, rfl, -, -⟩ := match?_text_cons_eq_some.1 hm
  exact ⟨[f, ' ', '/'] ++ [' '], by simp [prunedStarts], post, rfl,
    wholeToken_concat (by decide) fun _ => hb⟩

theorem startsWith_compoundStatement : (compoundStatement f).StartsWith (prunedStarts f) := by
  intro before rest h hm
  rw [compoundStatement_eq] at hm
  obtain ⟨hb, hm⟩ := match?_boundary_cons_eq_some.1 hm
  obtain ⟨_, _, rfl, hm, -⟩ := match?_text_cons_eq_some.1 hm
  obtain ⟨op, _, _, hop, rfl, hm, -⟩ := match?_oneOf_cons_eq_some.1 hm
  obtain ⟨_, _, rfl, hm, -⟩ := match?_text_cons_eq_some.1 hm
  obtain ⟨x, _, _, hx, rfl, hm, -⟩ := match?_oneOf_cons_eq_some.1 hm
  obtain ⟨post, _, rfl, -, -⟩ := match?_text_cons_eq_some.1 hm
  have hmem : ([f, ' '] ++ (op ++ ([' '] ++ x))) ++ [';'] ∈ prunedStarts f := by
    have hop := List.mem_of_find?_eq_some hop
    have hx := List.mem_of_find?_eq_some hx
    simp only [compoundOperators, changers, List.mem_cons, List.not_mem_nil, or_false] at hop hx
    obtain ⟨c, hc, rfl⟩ : ∃ c ∈ ['+', '-', '*', '/'], op = [c, '='] := by
      rcases hop with rfl | rfl | rfl | rfl
      exacts [⟨'+', by decide, rfl⟩, ⟨'-', by decide, rfl⟩, ⟨'*', by decide, rfl⟩,
        ⟨'/', by decide, rfl⟩]
    refine List.mem_append_right _ (List.mem_flatMap.2 ⟨c, hc, ?_⟩)
    rcases hx with rfl | rfl
    · exact List.mem_cons_self
    · exact List.mem_cons_of_mem _ List.mem_cons_self
  exact ⟨_, hmem, post, by simp, wholeToken_concat (by decide) fun _ => hb⟩

theorem startsWith_of_mem_prunedPatterns {q : Pattern} (hq : q ∈ prunedPatterns) :
    ∃ f ∈ fieldAlphabet, q.StartsWith (prunedStarts f) := by
  simp only [prunedPatterns, perField, List.mem_append, List.mem_map] at hq
  rcases hq with (⟨f, hf, rfl⟩ | ⟨f, hf, rfl⟩) | ⟨f, hf, rfl⟩
  · exact ⟨f, hf, startsWith_stepStatement⟩
  · exact ⟨f, hf, startsWith_division⟩
  · exact ⟨f, hf, startsWith_compoundStatement⟩

end

/-! ### What pruning leaves -/

theorem apply_of_mem_booleanRules {r : Rule} (hr : r ∈ booleanRules) :
    ∃ ps ⊆ prunedPatterns, ∀ t, r.apply t = Edit.substituteAll .delete ps t := by
  simp only [booleanRules, List.mem_cons, List.not_mem_nil, or_false] at hr
  rcases hr with rfl | rfl | rfl
  · exact ⟨perField stepStatement, by simp [prunedPatterns], fun _ => rfl⟩
  · exact ⟨perField division, by simp [prunedPatterns], fun _ => rfl⟩
  · exact ⟨perField compoundStatement, by simp [prunedPatterns], fun _ => rfl⟩

section
variable {rules : List Rule} (hrules : rules ⊆ booleanRules) {t : Text}
include hrules

/-- Nothing is deleted from a text that holds no start of what is pruned. -/
theorem rewrite_booleanRules_of_tokenFree (ht : ∀ l ∈ prunedWords, TokenFree l t) :
    Rule.rewrite rules t = t := by
  have hnone : ∀ q ∈ prunedPatterns, q.find? t = none := by
    intro q hq
    obtain ⟨f, hf, hstarts⟩ := startsWith_of_mem_prunedPatterns hq
    exact hstarts.find?_eq_none fun l hl => ht l (List.mem_flatMap.2 ⟨f, hf, hl⟩)
  refine Rule.rewrite_induction (P := (· = t)) (fun r hr u hu => ?_) rfl
  obtain ⟨ps, hps, happly⟩ := apply_of_mem_booleanRules (hrules hr)
  rw [hu, happly]
  exact Edit.substituteAll_of_find?_eq_none fun q hq => hnone q (hps hq)

/-- Pruning takes characters out and brings none in. -/
theorem rewrite_booleanRules_sublist : (Rule.rewrite rules t).Sublist t := by
  refine Rule.rewrite_induction (P := (·.Sublist t)) (fun r hr u hu => ?_) (List.Sublist.refl t)
  obtain ⟨ps, -, happly⟩ := apply_of_mem_booleanRules (hrules hr)
  have hkept := (Pattern.keptLetters_sublist ps u.zipIdx).map (·.1)
  have hchars : chars u.zipIdx = u := List.zipIdx_map_fst ..
  rw [happly]
  rw [show (Pattern.keptLetters ps u.zipIdx).map (·.1) = _ from Pattern.chars_keptLetters ps _,
    show u.zipIdx.map (·.1) = u from hchars, hchars] at hkept
  exact hkept.trans hu

end

/-! ### Rows of the implementation -/

/-- A row of the canonical implementation: bare, or sealed against all that is deleted. -/
def Prunable (t : Text) : Prop :=
  bare Slot.words t = true ∨ sealedFrom (Slot.words ++ prunedWords) false (cells t) = true ∧
    ∀ s, .slot s ∈ cells t → standsIn .implementation s = true

theorem Prunable.rowOf {t : Text} (ht : Prunable t) : RowOf .implementation t := by
  rcases ht with hbare | ⟨hs, hslots⟩
  · have hcells := cells_of_bare (fun e he => Slot.mark_mem_words he) hbare
    refine ⟨hcells ▸ sealedFrom_of_bare false hbare, fun s hs => ?_⟩
    simp [hcells] at hs
  · exact ⟨sealedFrom_mono (List.subset_append_left _ _) hs, hslots⟩

section
variable {p : Profile} {keep : Bool} (hp : Suited p) {t : Text}
include hp

theorem rewrite_of_bare (ht : bare Slot.words t = true) :
    Rule.rewrite (slotRules ⟨{}, p, keep⟩ .implementation) t = t := by
  have hcells := cells_of_bare (fun e he => Slot.mark_mem_words he) ht
  exact (Prunable.rowOf (.inl ht)).rewrite_of_no_slot hp fun s hs => by simp [hcells] at hs

/-- Names and labels hold no character but those of words and the dot. -/
theorem isAsciiWord_or_dot {e : Slot × Text} (he : e ∈ Slot.marks)
    (hname : (∃ n, e.1 = .className n) ∨ e.1 = .includeLabel) :
    ∀ c ∈ slotValue p e.1, Unicode.isAsciiWord c = true ∨ c = '.' := by
  obtain ⟨s, m⟩ := e
  intro c hc
  rcases hname with ⟨n, rfl⟩ | rfl
  · exact .inl (isAsciiWord_of_mem_taggedName (mem_arities_of_mem_marks he) hp.classTag c hc)
  · rw [slotValue, hp.includeLabel] at hc
    exact isAsciiWord_or_dot_includeLabelFor hp.fileTag c hc

theorem slotValue_unpruned {e : Slot × Text} (he : e ∈ Slot.marks) (hne : e.1 ≠ .closedLiteral) :
    ';' ∉ slotValue p e.1 ∧ ¬ " / ".toList <:+: slotValue p e.1 := by
  have hword (hname : (∃ n, e.1 = .className n) ∨ e.1 = .includeLabel) :
      ';' ∉ slotValue p e.1 ∧ ¬ " / ".toList <:+: slotValue p e.1 := by
    have hall := isAsciiWord_or_dot hp he hname
    exact ⟨fun h => absurd (hall _ h) (by decide),
      fun h => absurd (hall ' ' (h.subset (by decide))) (by decide)⟩
  obtain ⟨s, m⟩ := e
  cases s with
  | className n => exact hword (.inl ⟨n, rfl⟩)
  | includeLabel => exact hword (.inr rfl)
  | symbol => exact ⟨hp.symbol.statement, hp.symbol.quotient⟩
  | literal => exact ⟨hp.defaultLiteral.statement, hp.defaultLiteral.quotient⟩
  | closedLiteral => exact absurd rfl hne
  | byteSize => exact ⟨hp.byteSizeNote.statement, hp.byteSizeNote.quotient⟩
  | range => exact ⟨hp.rangeNote.statement, hp.rangeNote.quotient⟩

/-- No value holds the start of what is pruned. -/
theorem tokenFree_slotValue_of_mem_prunedWords {l : Text} (hl : l ∈ prunedWords) {e : Slot × Text}
    (he : e ∈ Slot.marks) (hne : e.1 ≠ .closedLiteral) : TokenFree l (slotValue p e.1) := by
  have hwords : ∀ l ∈ prunedWords, ';' ∈ l ∨ " / ".toList <:+: l := by decide +kernel
  obtain ⟨hstatement, hquotient⟩ := slotValue_unpruned hp he hne
  rcases hwords l hl with hsemi | hdivision
  · exact tokenFree_of_not_mem hsemi hstatement
  · exact tokenFree_of_absent fun hinfix => hquotient (hdivision.trans hinfix)

/-- Nothing is deleted from a sealed row. -/
theorem rewrite_booleanRules_of_sealed
    (hs : sealedFrom (Slot.words ++ prunedWords) false (cells t) = true)
    (hslots : ∀ s, .slot s ∈ cells t → standsIn .implementation s = true) {rules : List Rule}
    (hrules : rules ⊆ booleanRules) :
    Rule.rewrite rules (Rule.rewrite (slotRules ⟨{}, p, keep⟩ .implementation) t) =
      Rule.rewrite (slotRules ⟨{}, p, keep⟩ .implementation) t := by
  have hwords : ∀ l ∈ prunedWords, l ≠ [] ∧ l.head? ≠ some 'V' := by decide +kernel
  refine rewrite_booleanRules_of_tokenFree hrules fun w hw => ?_
  refine tokenFree_rewrite_of_sealed hp hwords hs hw fun s hslot => ?_
  have hmem := mem_marks_of_mem_cellsFrom hslot
  have hkind := hslots s hslot
  have hne : s ≠ .closedLiteral := by
    rintro rfl
    exact absurd hkind (by decide)
  rw [rewrite_slotRules_canonical hp hmem hne hkind]
  obtain ⟨e, he, rfl⟩ := List.mem_map.1 hmem
  exact tokenFree_slotValue_of_mem_prunedWords hp hw he hne

/-- Pruning leaves a filled row free of what must not be left. -/
theorem tokenFree_rewrite_booleanRules (ht : Prunable t) {rules : List Rule}
    (hrules : rules ⊆ booleanRules) {l : Text} (hl : Outdated p l) :
    TokenFree l
      (Rule.rewrite rules (Rule.rewrite (slotRules ⟨{}, p, keep⟩ .implementation) t)) := by
  have hfilled : TokenFree l (Rule.rewrite (slotRules ⟨{}, p, keep⟩ .implementation) t) :=
    tokenFree_rewrite_slotRules hp hl ht.rowOf
  rcases ht with hbare | ⟨hs, hslots⟩
  · rw [rewrite_of_bare hp hbare]
    have hword := Slot.mem_words_of_mem_tokens l hl.mem
    obtain ⟨c, l', rfl⟩ := List.exists_cons_of_ne_nil (Slot.ne_nil_of_mem_words hword)
    refine tokenFree_of_not_mem List.mem_cons_self fun hc => ?_
    exact head?_ne_of_bare hbare hword ((rewrite_booleanRules_sublist hrules).subset hc) rfl
  · rw [rewrite_booleanRules_of_sealed hp hs hslots hrules]
    exact hfilled

end

end Specialization

end VectorFamily
