import VectorFamily.Proofs.Pattern.Match
import VectorFamily.Proofs.Pattern.Scan
import VectorFamily.Specialization

/-!
# Mixed expressions

`mixedTexts f` lists the expressions that join the field `f` to an operand by an operator, and
`MixedAt` says that one of them stands in a text as whole words. `match?_mixedExpression_eq_some`
ties them to the pattern that the casts are set by. The rest is about the characters of such a text:
it has no bracket, no comma and no line feed, it starts with a field and a space, and no other field
in it has a space behind it, so two of them that start at different places never share more than the
end of the first.
-/

namespace VectorFamily

open Piece (isWordAt)

namespace Specialization

def operands (f : Char) : List Text := [fieldOfV f, fieldOfRight f, number]

/-- The field `f`, an operator and an operand, with a space on either side of the operator. -/
def mixedTexts (f : Char) : List Text :=
  mixedOperators.flatMap fun op => (operands f).map fun x => f :: ' ' :: (op ++ ' ' :: x)

/-- A mixed expression of the field `f` stands between `pre` and `post` as whole words. -/
structure MixedAt (f : Char) (pre m post : Text) : Prop where
  mem : m ∈ mixedTexts f
  whole : WholeWords pre m post

/-! ### The characters of a mixed expression -/

/-- The characters that mixed expressions are written with. -/
def mixedChars : Text := fieldAlphabet ++ " +-*/=.vrightnumbe".toList

theorem isWord_field {f : Char} (hf : f ∈ fieldAlphabet) : Unicode.isWord f = true := by
  have all : fieldAlphabet.all Unicode.isWord = true := by decide
  exact List.all_eq_true.1 all f hf

section
variable {f : Char} {m : Text}

theorem mem_mixedTexts : m ∈ mixedTexts f ↔
    ∃ op ∈ mixedOperators, ∃ x ∈ operands f, m = f :: ' ' :: (op ++ ' ' :: x) := by
  simp only [mixedTexts, List.mem_flatMap, List.mem_map]
  constructor
  · rintro ⟨op, hop, x, hx, rfl⟩
    exact ⟨op, hop, x, hx, rfl⟩
  · rintro ⟨op, hop, x, hx, rfl⟩
    exact ⟨op, hop, x, hx, rfl⟩

theorem exists_cons_cons_of_mem_mixedTexts (hm : m ∈ mixedTexts f) : ∃ w, m = f :: ' ' :: w := by
  obtain ⟨op, -, x, -, rfl⟩ := mem_mixedTexts.1 hm
  exact ⟨_, rfl⟩

theorem mem_mixedChars (hf : f ∈ fieldAlphabet) (hm : m ∈ mixedTexts f) {c : Char} (hc : c ∈ m) :
    c ∈ mixedChars := by
  have all : (fieldAlphabet.all fun f => (mixedTexts f).all fun m =>
      m.all fun c => c ∈ mixedChars) = true := by decide +kernel
  simp only [List.all_eq_true, decide_eq_true_eq] at all
  exact all f hf m hm c hc

/-- A mixed expression ends with a field or with the last letter of `number`. -/
theorem getLast?_mixedTexts (hf : f ∈ fieldAlphabet) (hm : m ∈ mixedTexts f) :
    ∃ e ∈ 'r' :: fieldAlphabet, m.getLast? = some e := by
  have all : (fieldAlphabet.all fun f => (mixedTexts f).all fun m =>
      m.getLast?.any fun e => e ∈ 'r' :: fieldAlphabet) = true := by decide +kernel
  simp only [List.all_eq_true, Option.any_eq_true, decide_eq_true_eq] at all
  obtain ⟨e, hl, he⟩ := all f hf m hm
  exact ⟨e, he, hl⟩

theorem isWordAt_getLast?_mixedTexts (hf : f ∈ fieldAlphabet) (hm : m ∈ mixedTexts f) :
    isWordAt m.getLast? = true := by
  obtain ⟨e, he, hl⟩ := getLast?_mixedTexts hf hm
  rw [hl]
  rcases List.mem_cons.1 he with rfl | he
  · decide
  · exact isWord_field he

theorem mixedAt_iff (hf : f ∈ fieldAlphabet) {pre post : Text} : MixedAt f pre m post ↔
    m ∈ mixedTexts f ∧ isWordAt pre.getLast? = false ∧ isWordAt post.head? = false := by
  have ends : m ∈ mixedTexts f → isWordAt m.head? = true ∧ isWordAt m.getLast? = true := by
    intro hm
    refine ⟨?_, isWordAt_getLast?_mixedTexts hf hm⟩
    obtain ⟨w, rfl⟩ := exists_cons_cons_of_mem_mixedTexts hm
    exact isWord_field hf
  constructor
  · rintro ⟨hm, hpre, hpost⟩
    obtain ⟨hh, hl⟩ := ends hm
    rw [hh] at hpre
    rw [hl] at hpost
    exact ⟨hm, by simpa using hpre, by simpa using hpost.symm⟩
  · rintro ⟨hm, hpre, hpost⟩
    obtain ⟨hh, hl⟩ := ends hm
    exact ⟨hm, by simp [hpre, hh], by simp [hpost, hl]⟩

theorem find?_mixedOperators {op : Text} (hop : op ∈ mixedOperators) (z : Text) :
    mixedOperators.find? (·.isPrefixOf (op ++ ' ' :: z)) = some op :=
  -- an operator with `=` stands before the one that it starts with
  find?_isPrefixOf hop (by simp [mixedOperators, compoundOperators])

theorem prefixFree_operands (f : Char) : PrefixFree (operands f) := by
  simp [PrefixFree, operands, fieldOfV, fieldOfRight, number]

/-- What stands behind the field and the space decides the expression. -/
theorem eq_of_mixedTexts (hm : m ∈ mixedTexts f) {m' : Text} (hm' : m' ∈ mixedTexts f) {u v : Text}
    (he : m ++ u = m' ++ v) : m = m' := by
  obtain ⟨op, hop, x, hx, rfl⟩ := mem_mixedTexts.1 hm
  obtain ⟨op', hop', x', hx', rfl⟩ := mem_mixedTexts.1 hm'
  have he' : op ++ ' ' :: (x ++ u) = op' ++ ' ' :: (x' ++ v) := by simpa using he
  have hop := find?_mixedOperators hop (x ++ u)
  rw [he', find?_mixedOperators hop' (x' ++ v)] at hop
  obtain rfl := Option.some.inj hop
  have hxu : x ++ u = x' ++ v := by simpa using he'
  have hx := (prefixFree_operands f).find?_isPrefixOf hx u
  rw [hxu, (prefixFree_operands f).find?_isPrefixOf hx' v] at hx
  obtain rfl := Option.some.inj hx
  rfl

end

/-! ### The pattern -/

section
variable {f : Char}
open Pattern

theorem isWordAt_getLast?_operands (hf : f ∈ fieldAlphabet) {x : Text} (hx : x ∈ operands f) :
    isWordAt x.getLast? = true := by
  simp only [operands, List.mem_cons, List.not_mem_nil, or_false] at hx
  rcases hx with rfl | rfl | rfl
  · exact isWord_field hf
  · exact isWord_field hf
  · decide

theorem mixedExpression_eq (f : Char) : mixedExpression f =
    [.boundary, .text [f, ' '], .choice mixedOperators, .text [' '], .choice (operands f),
      .boundary] :=
  rfl

theorem solid_mixedExpression (f : Char) : (mixedExpression f).Solid :=
  Pattern.solid_cons (Pattern.solid_text_cons (by simp) _)

theorem match?_mixedExpression_eq_some (hf : f ∈ fieldAlphabet) {before : Option Char} {rest : Text}
    {h : Hit} : (mixedExpression f).match? before rest = some h ↔
      ∃ m ∈ mixedTexts f, ∃ post, rest = m ++ post ∧ isWordAt before = false ∧
        isWordAt post.head? = false ∧ h = ⟨m, []⟩ := by
  have hw : isWordAt (some f) = true := isWord_field hf
  have hlast : ∀ x ∈ operands f, ∀ b, isWordAt (x.getLast?.or b) = true := by
    intro x hx b
    have hxw := isWordAt_getLast?_operands hf hx
    cases hl : x.getLast? with
    | none => simp [hl, isWordAt] at hxw
    | some e => simpa [hl] using hxw
  rw [mixedExpression_eq, match?_boundary_cons_eq_some]
  constructor
  · rintro ⟨hb, h₁⟩
    obtain ⟨r₁, _, rfl, h₂, rfl⟩ := match?_text_cons_eq_some.1 h₁
    obtain ⟨op, r₂, _, hop, rfl, h₃, rfl⟩ := match?_oneOf_cons_eq_some.1 h₂
    obtain ⟨r₃, _, rfl, h₄, rfl⟩ := match?_text_cons_eq_some.1 h₃
    obtain ⟨x, post, _, hx, rfl, h₅, rfl⟩ := match?_oneOf_cons_eq_some.1 h₄
    obtain ⟨hp, h₆⟩ := match?_boundary_cons_eq_some.1 h₅
    have hx' : x ∈ operands f := List.mem_of_find?_eq_some hx
    obtain rfl := Option.some.inj h₆
    refine ⟨_, mem_mixedTexts.2 ⟨op, List.mem_of_find?_eq_some hop, x, hx', rfl⟩, post,
      ?_, ?_, ?_, ?_⟩
    · simp
    · simpa [hw] using hb
    · rw [hlast x hx'] at hp
      simpa using hp.symm
    · simp [Hit.after, Part.text]
  · rintro ⟨m, hm, post, rfl, hb, hp, rfl⟩
    obtain ⟨op, hop, x, hx, rfl⟩ := mem_mixedTexts.1 hm
    have h₁ : ∀ b, match? [.boundary] (x.getLast?.or b) post = some ⟨[], []⟩ := fun b =>
      match?_boundary_cons_eq_some.2 ⟨by simp [hlast x hx b, hp], rfl⟩
    have h₂ : ∀ b, match? [.choice (operands f), .boundary] b (x ++ post) = some ⟨x, []⟩ := by
      intro b
      rw [Part.choice, match?_oneOf_cons ((prefixFree_operands f).find?_isPrefixOf hx post), h₁]
      simp [Hit.after]
    have h₃ : ∀ b, match? [.text [' '], .choice (operands f), .boundary] b (' ' :: (x ++ post)) =
        some ⟨' ' :: x, []⟩ := by
      intro b
      show match? _ b ([' '] ++ (x ++ post)) = _
      rw [match?_text_cons, h₂]
      rfl
    have h₄ : ∀ b, match? [.choice mixedOperators, .text [' '], .choice (operands f), .boundary] b
        (op ++ ' ' :: (x ++ post)) = some ⟨op ++ ' ' :: x, []⟩ := by
      intro b
      rw [Part.choice, match?_oneOf_cons (find?_mixedOperators hop (x ++ post)), h₃]
      simp [Hit.after]
    refine ⟨by simp [hb, hw], ?_⟩
    have hrest : f :: ' ' :: (op ++ ' ' :: x) ++ post = [f, ' '] ++ (op ++ ' ' :: (x ++ post)) := by
      simp
    rw [hrest, match?_text_cons, h₄]
    rfl
end

end Specialization

end VectorFamily
