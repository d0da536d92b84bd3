import VectorFamily.Proofs.Pattern.Expansion
import VectorFamily.Proofs.Rule.Frame
import VectorFamily.Proofs.Specialization.Rules

/-!
# Characters that a specialization leaves alone

No rule holds a carriage return or a curly brace of its own, only one that comes from a string of
the conventions or of the profile. Where these strings hold none, an artifact has just those of its
source (`filter_run`).
-/

namespace VectorFamily

def Conventions.strings (c : Conventions) : List String := c.required.map (·.2)

def Profile.strings (p : Profile) : List String :=
  [p.symbol, p.classTag, p.fileTag, p.defaultLiteral, p.range, p.includeLabel]

/-- None of the strings holds any of the characters in question. -/
def StringsAvoid (P : Char → Bool) (ss : List String) : Prop := ∀ s ∈ ss, Text.Avoids P s.toList

/-- The characters that no rule of a specialization holds by itself. -/
def isForeign (c : Char) : Bool := ['\r', '\x7b', '\x7d'].contains c

/-- The characters in question are among those that no rule holds by itself. -/
structure Foreign (P : Char → Bool) : Prop where
  among : ∀ c, P c = true → isForeign c = true

namespace Foreign

variable {P : Char → Bool} (hP : Foreign P)
include hP

theorem avoids {t : Text} (ht : t.all (!isForeign ·) = true) : t.Avoids P := by
  intro c hc
  have hnot := List.all_eq_true.1 ht c hc
  exact Bool.eq_false_iff.2 fun h => by simp [hP.among c h] at hnot

/-- What can be seen from the texts that a pattern is made of. -/
theorem avoids_pattern {p : Pattern} (h : (p.all fun part => part.piece.isFixed &&
    part.piece.options.all (·.all (!isForeign ·))) = true) : p.Avoids P := by
  intro part hpart
  obtain ⟨hfixed, hoptions⟩ := Bool.and_eq_true_iff.1 (List.all_eq_true.1 h part hpart)
  exact Piece.avoids_of_isFixed hfixed fun t ht => hP.avoids (List.all_eq_true.1 hoptions t ht)

theorem avoids_toString (n : Nat) : Text.Avoids P (toString n).toList := by
  refine hP.avoids (List.all_eq_true.2 fun c hc => ?_)
  rw [Nat.toString_eq_repr, Nat.toList_repr] at hc
  have hdigit := Nat.isDigit_of_mem_toDigits (by decide) (by decide) hc
  have hne : c ≠ '\r' ∧ c ≠ '\x7b' ∧ c ≠ '\x7d' := by
    refine ⟨?_, ?_, ?_⟩ <;> rintro rfl <;> cases hdigit
  simp [isForeign, hne]

theorem avoids_byteSizeNote (n : Nat) : Text.Avoids P ("Bytes: " ++ toString n).toList := by
  rw [String.toList_append]
  exact Text.avoids_append.2 ⟨hP.avoids (by decide), hP.avoids_toString n⟩

theorem avoids_rangeNote {range : String} (h : Text.Avoids P range.toList) :
    Text.Avoids P ("Range: " ++ range).toList := by
  rw [String.toList_append]
  exact Text.avoids_append.2 ⟨hP.avoids (by decide), h⟩

end Foreign

/-- A protected text is read back as it is. -/
theorem Expansion.avoids_protect_append {P : Char → Bool} {t u : Text} (ht : t.Avoids P)
    (hu : (Action.expand u).Avoids P) : (Action.expand (protect t ++ u)).Avoids P := by
  intro c hc
  rw [parse_protect_append] at hc
  rcases List.mem_append.1 hc with hc | hc
  · obtain ⟨d, hd, he⟩ := List.mem_map.1 hc
    exact (TemplatePiece.literal.inj he) ▸ ht d hd
  · exact hu c hc

namespace Conventions

variable {P : Char → Bool} {c : Conventions}

theorem avoids_classNameTemplate (hc : StringsAvoid P c.strings) {suffix : Text}
    (hsuffix : (Action.expand suffix).Avoids P) :
    (Action.expand (c.classNameTemplate suffix)).Avoids P := by
  have harity : Expansion.parse ("$\x7barity\x7d".toList ++ suffix) =
      .group "arity".toList :: Expansion.parse suffix :=
    rfl
  rw [classNameTemplate, List.append_assoc]
  refine Expansion.avoids_protect_append (hc c.classPrefix (by simp [strings, required]))
    fun d hd => ?_
  rw [harity] at hd
  rcases List.mem_cons.1 hd with hd | hd
  · cases hd
  · exact hsuffix d hd

variable (hP : Foreign P)
include hP

theorem avoids_includeLabelFor (hc : StringsAvoid P c.strings) {fileTag : String}
    (htag : Text.Avoids P fileTag.toList) : Text.Avoids P (c.includeLabelFor fileTag).toList := by
  simp only [includeLabelFor, stem, String.toList_append, Text.avoids_append]
  exact ⟨⟨⟨hc c.classPrefix (by simp [strings, required]), htag⟩, hP.avoids (by decide)⟩,
    hc c.interfaceExtension (by simp [strings, required])⟩

theorem avoids_classNamePattern (hc : StringsAvoid P c.strings) : c.classNamePattern.Avoids P := by
  intro part hpart
  simp only [classNamePattern, List.mem_cons, List.not_mem_nil, or_false] at hpart
  rcases hpart with rfl | rfl | rfl | rfl | rfl
  · trivial
  · exact Pattern.avoids_text (hc c.classPrefix (by simp [strings, required]))
  · intro digits hdigits
    obtain ⟨n, -, rfl⟩ := List.mem_map.1 hdigits
    exact hP.avoids_toString n
  · exact Pattern.avoids_text (hc c.classTag (by simp [strings, required]))
  · trivial

end Conventions

namespace Specialization

variable {P : Char → Bool}

theorem avoids_literal {placeholder value : String} (hp : Text.Avoids P placeholder.toList)
    (hv : Text.Avoids P value.toList) : (literal placeholder value).Avoids P := by
  refine ⟨fun q hq => ?_, hv⟩
  obtain rfl := List.mem_singleton.1 hq
  exact Pattern.avoids_token hp

section
variable (hP : Foreign P)
include hP

theorem avoids_fieldPatterns {f : Char} (hf : f ∈ fieldAlphabet) :
    (stepStatement f).Avoids P ∧ (division f).Avoids P ∧ (compoundStatement f).Avoids P ∧
      (mixedExpression f).Avoids P := by
  have hall : fieldAlphabet.all (fun f =>
      [stepStatement f, division f, compoundStatement f, mixedExpression f].all (·.all fun part =>
        part.piece.isFixed && part.piece.options.all (·.all (!isForeign ·)))) = true := by
    decide
  have hf := List.all_eq_true.1 hall f hf
  simp only [List.all_cons, List.all_nil, Bool.and_true, Bool.and_eq_true] at hf
  exact ⟨hP.avoids_pattern hf.1, hP.avoids_pattern hf.2.1, hP.avoids_pattern hf.2.2.1,
    hP.avoids_pattern hf.2.2.2⟩

theorem avoids_of_mem_booleanRules {r : Rule} (hr : r ∈ booleanRules) : r.edit.Avoids P := by
  simp only [booleanRules, List.mem_cons, List.not_mem_nil, or_false] at hr
  rcases hr with rfl | rfl | rfl
  all_goals
    refine ⟨fun q hq => ?_, trivial⟩
    obtain ⟨f, hf, rfl⟩ := List.mem_map.1 hq
    obtain ⟨hstep, hdivision, hcompound, -⟩ := avoids_fieldPatterns hP hf
    assumption

theorem avoids_of_mem_castRules {s : Specialization}
    (hsymbol : Text.Avoids P s.profile.symbol.toList) {r : Rule} (hr : r ∈ s.castRules) :
    r.edit.Avoids P := by
  rw [castRules_eq] at hr
  simp only [List.mem_cons, List.not_mem_nil, or_false] at hr
  rcases hr with rfl | rfl | rfl
  · refine ⟨fun q hq => ?_, hP.avoids (by decide), hP.avoids (by decide)⟩
    obtain ⟨f, hf, rfl⟩ := List.mem_map.1 hq
    exact (avoids_fieldPatterns hP hf).2.2.2
  · have hline : '\n' :: helperLine s.profile.symbol =
        "\n#define cast(x) static_cast<".toList ++ (s.profile.symbol.toList ++ ">(x)".toList) := by
      simp [helperLine, castHelper]
    show Text.Avoids P ('\n' :: helperLine s.profile.symbol)
    rw [hline]
    exact Text.avoids_append.2 ⟨hP.avoids (by decide),
      Text.avoids_append.2 ⟨hsymbol, hP.avoids (by decide)⟩⟩
  · exact hP.avoids (t := scopeLine) (by decide)

theorem avoids_of_mem_streamRules {r : Rule} (hr : r ∈ streamRules) : r.edit.Avoids P := by
  rw [streamRules_eq] at hr
  simp only [List.mem_cons, List.not_mem_nil, or_false] at hr
  rcases hr with rfl | rfl
  · have htemplate : Expansion.parse "<< (int)$field".toList =
        "<< (int)".toList.map .literal ++ [.group "field".toList] := by
      decide
    refine ⟨fun q hq => ?_, fun c hc => ?_⟩
    · obtain rfl := List.mem_singleton.1 hq
      exact hP.avoids_pattern (by decide)
    · rw [htemplate] at hc
      have hmem : c ∈ "<< (int)".toList := by simpa using hc
      exact hP.avoids (t := "<< (int)".toList) (by decide) c hmem
  · exact avoids_literal (hP.avoids (by decide)) (hP.avoids (by decide))

variable {s : Specialization} (hc : StringsAvoid P s.conventions.strings)
include hc

theorem avoids_of_mem_exportRules {r : Rule} (hr : r ∈ s.exportRules) : r.edit.Avoids P := by
  obtain rfl := List.mem_singleton.1 hr
  refine ⟨fun q hq => ?_, trivial⟩
  obtain rfl := List.mem_singleton.1 hq
  have htoken := hc s.conventions.exportToken (by simp [Conventions.strings, Conventions.required])
  exact Pattern.avoids_append.2 ⟨Pattern.avoids_token htoken, hP.avoids_pattern (by decide)⟩

variable (hp : StringsAvoid P s.profile.strings)
include hp

theorem avoids_of_mem_tokenRules {r : Rule} (hr : r ∈ s.tokenRules) : r.edit.Avoids P := by
  simp only [tokenRules, List.mem_cons, List.not_mem_nil, or_false] at hr
  rcases hr with rfl | rfl | rfl
  · exact avoids_literal (hc s.conventions.symbol (by simp [Conventions.strings, Conventions.required]))
      (hp s.profile.symbol (by simp [Profile.strings]))
  · refine ⟨fun q hq => ?_, Conventions.avoids_classNameTemplate hc ?_⟩
    · obtain rfl := List.mem_singleton.1 hq
      exact Conventions.avoids_classNamePattern hP hc
    · have htag := hp s.profile.classTag (by simp [Profile.strings])
      have hprotect := Expansion.avoids_protect_append (u := []) htag fun _ hc => nomatch hc
      rwa [List.append_nil] at hprotect
  · exact avoids_literal
      (hc s.conventions.defaultLiteral (by simp [Conventions.strings, Conventions.required]))
      (hp s.profile.defaultLiteral (by simp [Profile.strings]))

theorem avoids_of_mem_metadataRules {r : Rule} (hr : r ∈ s.metadataRules) : r.edit.Avoids P := by
  have hrange := hc s.conventions.range (by simp [Conventions.strings, Conventions.required])
  have htag := hc s.conventions.fileTag (by simp [Conventions.strings, Conventions.required])
  simp only [metadataRules, List.mem_cons, List.not_mem_nil, or_false] at hr
  rcases hr with rfl | rfl | rfl
  · exact avoids_literal (hP.avoids_byteSizeNote _) (hP.avoids_byteSizeNote _)
  · exact avoids_literal (hP.avoids_rangeNote hrange)
      (hP.avoids_rangeNote (hp s.profile.range (by simp [Profile.strings])))
  · exact avoids_literal (Conventions.avoids_includeLabelFor hP hc htag)
      (hp s.profile.includeLabel (by simp [Profile.strings]))

theorem avoids_of_mem_rules {r : Rule} (hr : r ∈ s.rules) : r.edit.Avoids P := by
  simp only [rules, List.mem_append] at hr
  rcases hr with ((((hr | hr) | hr) | hr) | hr) | hr
  · exact avoids_of_mem_tokenRules hP hc hp hr
  · exact avoids_of_mem_metadataRules hP hc hp hr
  · exact avoids_of_mem_booleanRules hP hr
  · exact avoids_of_mem_castRules hP (hp s.profile.symbol (by simp [Profile.strings])) hr
  · exact avoids_of_mem_streamRules hP hr
  · exact avoids_of_mem_exportRules hP hc hr

/-- An artifact has the foreign characters of its source, in their order, and no others. -/
theorem filter_run {kind : ArtifactKind} {source out : Text} (hrun : s.run kind source = .ok out) :
    out.filter P = source.filter P := by
  have hnewline : P '\n' = false := Bool.eq_false_iff.2 fun h => by
    cases hP.among _ h
  rw [← rewrite_of_run hrun]
  exact Rule.filter_rewrite hnewline
    (fun r hr => avoids_of_mem_rules hP hc hp (List.mem_filter.1 hr).1) source

end

end Specialization

end VectorFamily
