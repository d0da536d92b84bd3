import VectorFamily.Proofs.Pattern.Deletion
import VectorFamily.Proofs.Specialization.CastsKept

/-!
# Arithmetic that booleans do not have

`prunedTexts f` lists the expressions of the field `f` that are deleted from implementations for
booleans. Each pattern that deletes them seeks its expressions wherever they stand uncut and never
cuts a word, so an expression that is left has been brought together by a deletion
(`not_infix_of_left`).
-/

namespace VectorFamily

open Piece (isWordAt)

namespace Specialization

/-! ### What is deleted -/

def stepTexts (f : Char) : List Text := stepOperators.map (· ++ [f, ';'])

def divisors (f : Char) : List Text := [number, fieldOfV f]

def divisionTexts (f : Char) : List Text := (divisors f).map ([f, ' ', '/', ' '] ++ ·)

def changers (f : Char) : List Text := [fieldOfRight f, number]

def compoundTexts (f : Char) : List Text :=
  compoundOperators.flatMap fun op =>
    (changers f).map fun x => [f, ' '] ++ (op ++ ' ' :: (x ++ [';']))

/-- The expressions of the field `f` that mean nothing for booleans. -/
def prunedTexts (f : Char) : List Text := stepTexts f ++ divisionTexts f ++ compoundTexts f

/-- Such an expression stands between `pre` and `post`, and no word goes on across its ends. -/
structure PrunedAt (f : Char) (pre m post : Text) : Prop where
  mem : m ∈ prunedTexts f
  uncut : Uncut pre.getLast? m post.head?

/-- The expression stands somewhere in the text. -/
def HoldsPruned (f : Char) (m t : Text) : Prop :=
  ∃ pre post, t = pre ++ m ++ post ∧ PrunedAt f pre m post

/-- The patterns of what is deleted, in the order in which they are tried. -/
def prunedPatterns : List Pattern :=
  perField stepStatement ++ perField division ++ perField compoundStatement

theorem rewrite_booleanRules (t : Text) :
    Rule.rewrite booleanRules t = (Edit.substituteAll .delete prunedPatterns t).1 := by
  rw [prunedPatterns, Edit.substituteAll_append_fst, Edit.substituteAll_append_fst]
  rfl

/-! ### The patterns seek what is to be deleted, and cut no word -/

section
variable {f : Char} {before : Option Char} {rest : Text} {found : Hit}
open Pattern

theorem isWordAt_getLast?_concat {c : Char} (hc : Unicode.isWord c = false) (t : Text) :
    isWordAt (t ++ [c]).getLast? = false := by
  rw [List.getLast?_concat]
  exact hc

theorem isWordAt_head?_stepOperators {op : Text} (hop : op ∈ stepOperators) (t : Text) :
    isWordAt (op ++ t).head? = false := by
  simp only [stepOperators, List.mem_cons, List.not_mem_nil, or_false] at hop
  rcases hop with rfl | rfl <;> rfl

theorem prefixFree_stepOperators : PrefixFree stepOperators := by decide

theorem prefixFree_compoundOperators : PrefixFree compoundOperators := by decide

theorem prefixFree_divisors (f : Char) : PrefixFree (divisors f) := by
  simp [PrefixFree, divisors, number, fieldOfV]

theorem prefixFree_changers (f : Char) : PrefixFree (changers f) := by
  simp [PrefixFree, changers, number, fieldOfRight]

theorem isWordAt_getLast?_divisors (hf : f ∈ fieldAlphabet) {x : Text} (hx : x ∈ divisors f)
    (c : Option Char) : isWordAt (x.getLast?.or c) = true := by
  simp only [divisors, List.mem_cons, List.not_mem_nil, or_false] at hx
  rcases hx with rfl | rfl
  · show isWordAt (some 'r') = true
    decide
  · exact isWord_field hf

theorem clean_stepStatement (f : Char) : (stepStatement f).Clean := by
  intro before found rest hm
  obtain ⟨op, _, _, hop, -, h₁, rfl⟩ := match?_oneOf_cons_eq_some.1 hm
  obtain ⟨_, _, -, h₂, rfl⟩ := match?_text_cons_eq_some.1 h₁
  obtain rfl := Option.some.inj h₂
  have hop := List.mem_of_find?_eq_some hop
  refine uncut_iff.2 ⟨.inr (isWordAt_head?_stepOperators hop _), .inl ?_⟩
  have := isWordAt_getLast?_concat (c := ';') (by decide) (op ++ [f])
  simpa [Hit.after, Part.text] using this

theorem seeks_stepStatement {m : Text} (hm : m ∈ stepTexts f) : (stepStatement f).Seeks m := by
  obtain ⟨op, hop, rfl⟩ := List.mem_map.1 hm
  intro before post _
  rw [List.append_assoc, stepStatement, Part.choice,
    match?_oneOf_cons (prefixFree_stepOperators.find?_isPrefixOf hop _), match?_text_cons]
  simp

theorem division_eq (f : Char) : division f =
    [.boundary, .text [f, ' ', '/', ' '], .choice (divisors f), .boundary, .optional [',']] :=
  rfl

theorem clean_division (hf : f ∈ fieldAlphabet) : (division f).Clean := by
  intro before found rest hm
  rw [division_eq] at hm
  obtain ⟨hb, h₁⟩ := match?_boundary_cons_eq_some.1 hm
  obtain ⟨r₁, _, hr₁, h₂, rfl⟩ := match?_text_cons_eq_some.1 h₁
  obtain ⟨x, r₂, _, hx, rfl, h₃, rfl⟩ := match?_oneOf_cons_eq_some.1 h₂
  obtain ⟨hb', h₄⟩ := match?_boundary_cons_eq_some.1 h₃
  rw [match?_optional] at h₄
  obtain rfl := Option.some.inj h₄
  have hfront : isWordAt before = false := by
    simpa [hr₁, isWordAt, isWord_field hf] using hb
  refine uncut_iff.2 ⟨.inl hfront, ?_⟩
  simp only [Hit.after, Part.text, List.append_assoc, List.append_cancel_left_eq] at hr₁ ⊢
  by_cases hcomma : r₂.head? = some ','
  · rw [if_pos hcomma, ← List.append_assoc]
    exact .inl (isWordAt_getLast?_concat (by decide) _)
  · rw [if_neg hcomma, List.nil_append] at hr₁
    rw [isWordAt_getLast?_divisors hf (List.mem_of_find?_eq_some hx)] at hb'
    exact .inr (by simpa [hr₁] using hb'.symm)

theorem seeks_division (hf : f ∈ fieldAlphabet) {m : Text} (hm : m ∈ divisionTexts f) :
    (division f).Seeks m := by
  obtain ⟨x, hx, rfl⟩ := List.mem_map.1 hm
  intro before post huncut
  obtain ⟨hfront, hback⟩ := uncut_iff.1 huncut
  have hfield : isWordAt (some f) = true := isWord_field hf
  have hlast (c : Option Char) : isWordAt (x.getLast?.or c) = true :=
    isWordAt_getLast?_divisors hf hx c
  have hbefore : isWordAt before = false := by simpa [hfield] using hfront
  have hpost : isWordAt post.head? = false := by
    rw [List.getLast?_append, hlast] at hback
    simpa using hback
  rw [List.append_assoc, division_eq, match?_boundary_cons, if_pos (by simp [hbefore, hfield]),
    match?_text_cons, Part.choice,
    match?_oneOf_cons ((prefixFree_divisors f).find?_isPrefixOf hx _), match?_boundary_cons,
    if_pos (by rw [hlast, hpost]; decide), match?_optional]
  simp

theorem compoundStatement_eq (f : Char) : compoundStatement f =
    [.boundary, .text [f, ' '], .choice compoundOperators, .text [' '], .choice (changers f),
      .text [';']] :=
  rfl

theorem clean_compoundStatement (hf : f ∈ fieldAlphabet) : (compoundStatement f).Clean := by
  intro before found rest hm
  rw [compoundStatement_eq] at hm
  obtain ⟨hb, h₁⟩ := match?_boundary_cons_eq_some.1 hm
  obtain ⟨r₁, _, hr₁, h₂, rfl⟩ := match?_text_cons_eq_some.1 h₁
  obtain ⟨op, _, _, -, -, h₃, rfl⟩ := match?_oneOf_cons_eq_some.1 h₂
  obtain ⟨_, _, -, h₄, rfl⟩ := match?_text_cons_eq_some.1 h₃
  obtain ⟨x, _, _, -, -, h₅, rfl⟩ := match?_oneOf_cons_eq_some.1 h₄
  obtain ⟨_, _, -, h₆, rfl⟩ := match?_text_cons_eq_some.1 h₅
  obtain rfl := Option.some.inj h₆
  have hfront : isWordAt before = false := by
    simpa [hr₁, isWordAt, isWord_field hf] using hb
  refine uncut_iff.2 ⟨.inl hfront, .inl ?_⟩
  have := isWordAt_getLast?_concat (c := ';') (by decide) ([f, ' '] ++ (op ++ ([' '] ++ x)))
  simpa [Hit.after, Part.text] using this

theorem mem_compoundTexts {m : Text} : m ∈ compoundTexts f ↔ ∃ op ∈ compoundOperators,
    ∃ x ∈ changers f, m = [f, ' '] ++ (op ++ ([' '] ++ (x ++ [';']))) := by
  simp only [compoundTexts, List.mem_flatMap, List.mem_map, List.singleton_append, eq_comm]

theorem seeks_compoundStatement (hf : f ∈ fieldAlphabet) {m : Text} (hm : m ∈ compoundTexts f) :
    (compoundStatement f).Seeks m := by
  obtain ⟨op, hop, x, hx, rfl⟩ := mem_compoundTexts.1 hm
  intro before post huncut
  have hfield : isWordAt (some f) = true := isWord_field hf
  have hbefore : isWordAt before = false := by simpa [hfield] using (uncut_iff.1 huncut).1
  simp only [List.append_assoc]
  rw [compoundStatement_eq, match?_boundary_cons, if_pos (by simp [hbefore, hfield]),
    match?_text_cons, Part.choice,
    match?_oneOf_cons (prefixFree_compoundOperators.find?_isPrefixOf hop _), match?_text_cons,
    Part.choice, match?_oneOf_cons ((prefixFree_changers f).find?_isPrefixOf hx _),
    match?_text_cons]
  simp

theorem solid_and_clean_of_mem {p : Pattern} (hp : p ∈ prunedPatterns) : p.Solid ∧ p.Clean := by
  simp only [prunedPatterns, perField, List.mem_append, List.mem_map] at hp
  rcases hp with (⟨f, hf, rfl⟩ | ⟨f, hf, rfl⟩) | ⟨f, hf, rfl⟩
  · exact ⟨solid_choice_cons (by decide) _, clean_stepStatement f⟩
  · exact ⟨solid_cons (solid_text_cons (by simp) _), clean_division hf⟩
  · exact ⟨solid_cons (solid_text_cons (by simp) _), clean_compoundStatement hf⟩

/-- Each expression that is to be deleted is sought by one of the patterns. -/
theorem exists_seeks (hf : f ∈ fieldAlphabet) {m : Text} (hm : m ∈ prunedTexts f) :
    ∃ p ∈ prunedPatterns, p.Seeks m := by
  simp only [prunedTexts, List.mem_append] at hm
  rcases hm with (hm | hm) | hm
  · exact ⟨_, List.mem_append_left _ (List.mem_append_left _ (List.mem_map_of_mem hf)),
      seeks_stepStatement hm⟩
  · exact ⟨_, List.mem_append_left _ (List.mem_append_right _ (List.mem_map_of_mem hf)),
      seeks_division hf hm⟩
  · exact ⟨_, List.mem_append_right _ (List.mem_map_of_mem hf), seeks_compoundStatement hf hm⟩

end

/-! ### What is left stood apart -/

theorem ne_nil_of_mem_prunedTexts {f : Char} {m : Text} (hm : m ∈ prunedTexts f) : m ≠ [] := by
  rintro rfl
  simp [prunedTexts, stepTexts, divisionTexts, mem_compoundTexts] at hm

/-- An expression that is still there when all of them have been deleted has been brought together
by that. -/
theorem not_infix_of_left {f : Char} (hf : f ∈ fieldAlphabet) {t : Text} {a m b : List Letter}
    (hleft : Pattern.keptLetters prunedPatterns t.zipIdx = a ++ m ++ b)
    (hm : PrunedAt f (chars a) (chars m) (chars b)) : ¬ m <:+: t.zipIdx := by
  intro hside
  have hnodup : t.zipIdx.Nodup := by
    refine List.Nodup.of_map (·.2) ?_
    rw [List.zipIdx_map_snd]
    exact List.nodup_range'
  have hne : m ≠ [] := by
    rintro rfl
    exact ne_nil_of_mem_prunedTexts hm.mem rfl
  obtain ⟨p, hp, hseeks⟩ := exists_seeks hf hm.mem
  exact Pattern.not_seeks_of_kept (fun p hp => solid_and_clean_of_mem hp) hnodup hne hside hleft
    hm.uncut p hp hseeks

end Specialization

end VectorFamily
