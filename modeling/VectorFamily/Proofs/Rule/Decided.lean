import VectorFamily.GenericHeader
import VectorFamily.Proofs.Pattern.Choices
import VectorFamily.Specialization

/-!
# The patterns of the rules are decided

Every pattern that a rule or a check of this library looks for is `Decided`, whatever the strings
of the conventions and of the profile are. So what `match?` finds without going back is what a
search through all choices finds first.
-/

namespace VectorFamily

open Pattern

/-- The patterns that the edit looks for. -/
def Edit.patterns : Edit → List Pattern
  | substitute patterns _ => patterns
  | insertAfterLine anchor _ => [anchor]
  | appendLine _ => []

/-- Class names of two arities do not start alike, as only one arity has two digits. -/
theorem Conventions.decided_classNamePattern (c : Conventions) : c.classNamePattern.Decided :=
  (Decided.oneOf (decided_nil.boundary.text _) (by decide)).text _ |>.boundary

namespace Specialization

/-! ### Patterns of the canonical implementation -/

theorem decided_stepStatement (f : Char) : (stepStatement f).Decided :=
  (decided_nil.text _).oneOf (by decide)

theorem decided_division (f : Char) : (division f).Decided := by
  have hoperands : [number, fieldOfV f].Pairwise fun a b => ¬ a <+: b ∧ ¬ b <+: a := by
    simp [number, fieldOfV]
  exact (((decided_singleton _).boundary.oneOf hoperands).text _).boundary

theorem decided_compoundStatement (f : Char) : (compoundStatement f).Decided := by
  have hoperands : [fieldOfRight f, number].Pairwise fun a b => ¬ a <+: b ∧ ¬ b <+: a := by
    simp [number, fieldOfRight]
  exact (((((decided_nil.text _).oneOf hoperands).text _).oneOf (by decide)).text _).boundary

/-- `+=` starts with `+`, but what is left over is no blank. -/
theorem decided_mixedExpression (f : Char) : (mixedExpression f).Decided := by
  have hoperands : [fieldOfV f, fieldOfRight f, number].Pairwise
      fun a b => ¬ a <+: b ∧ ¬ b <+: a := by
    simp [number, fieldOfV, fieldOfRight]
  have hoperand : Decided [.text [' '], .choice [fieldOfV f, fieldOfRight f, number], .boundary] :=
    (decided_nil.boundary.oneOf hoperands).text _
  exact ((hoperand.oneOf_text (by decide)).text _).boundary

theorem decided_includeDirective (label : String) : (includeDirective label).Decided :=
  ((decided_nil.text _).run_text (by decide)).text _

theorem decided_streamedField : streamedField.Decided :=
  (decided_nil.boundary.oneOf (by decide)).text _

theorem decided_exportPattern (c : Conventions) : (exportPattern c).Decided :=
  (decided_singleton _).token_append _

/-! ### Rules -/

theorem decided_of_mem_perField {pattern : Char → Pattern} (h : ∀ f, (pattern f).Decided)
    {p : Pattern} (hp : p ∈ perField pattern) : p.Decided := by
  obtain ⟨f, -, rfl⟩ := List.mem_map.1 hp
  exact h f

theorem decided_of_mem_literal {placeholder value : String} {p : Pattern}
    (hp : p ∈ (literal placeholder value).patterns) : p.Decided := by
  obtain rfl := List.mem_singleton.1 hp
  exact decided_token _

variable {s : Specialization} {r : Rule} {p : Pattern}

theorem decided_of_mem_rules (hr : r ∈ s.rules) (hp : p ∈ r.edit.patterns) : p.Decided := by
  simp only [rules, tokenRules, metadataRules, booleanRules, castRules, streamRules, exportRules,
    List.mem_append, List.mem_cons, List.not_mem_nil, or_false] at hr
  rcases hr with ((((hr | hr) | hr) | hr) | hr) | rfl
  · rcases hr with rfl | rfl | rfl
    · exact decided_of_mem_literal hp
    · obtain rfl := List.mem_singleton.1 hp
      exact s.conventions.decided_classNamePattern
    · exact decided_of_mem_literal hp
  · rcases hr with rfl | rfl | rfl <;> exact decided_of_mem_literal hp
  · rcases hr with rfl | rfl | rfl
    · exact decided_of_mem_perField decided_stepStatement hp
    · exact decided_of_mem_perField decided_division hp
    · exact decided_of_mem_perField decided_compoundStatement hp
  · rcases hr with rfl | rfl | rfl
    · exact decided_of_mem_perField decided_mixedExpression hp
    · obtain rfl := List.mem_singleton.1 hp
      exact decided_includeDirective _
    · cases hp
  · rcases hr with rfl | rfl
    · obtain rfl := List.mem_singleton.1 hp
      exact decided_streamedField
    · exact decided_of_mem_literal hp
  · obtain rfl := List.mem_singleton.1 hp
    exact decided_exportPattern _

theorem decided_of_mem_placeholders (hp : p ∈ s.placeholders) : p.Decided := by
  rcases List.mem_cons.1 hp with rfl | hp
  · exact s.conventions.decided_classNamePattern
  · obtain ⟨r, -, rfl⟩ := List.mem_map.1 hp
    exact decided_token _

/-- Whatever a specialization looks for, it finds the match that comes first among all. -/
theorem match?_eq_head?_candidates
    (hp : p ∈ s.rules.flatMap (·.edit.patterns) ++ s.placeholders) (before : Option Char)
    (rest : Text) : p.match? before rest = (p.candidates before rest).head? := by
  rcases List.mem_append.1 hp with hp | hp
  · obtain ⟨r, hr, hp⟩ := List.mem_flatMap.1 hp
    exact (head?_candidates (decided_of_mem_rules hr hp) before rest).symm
  · exact (head?_candidates (decided_of_mem_placeholders hp) before rest).symm

end Specialization

namespace GenericHeader

theorem decided_markerLine (generic : Text) : (markerLine generic).Decided :=
  ((decided_nil.lineEnd.text _).run_text (by decide)).lineStart

theorem decided_functionStart : functionStart.Decided :=
  ((decided_nil.boundary.text _).run_text (by decide)).lineStart

variable {c : Conventions} {r : Rule} {p : Pattern}

theorem decided_of_mem_symbolRule (hp : p ∈ (symbolRule c).edit.patterns) : p.Decided := by
  obtain rfl := List.mem_singleton.1 hp
  exact decided_token _

theorem decided_of_mem_fragmentRules {arity : Nat} {indent : Text}
    (hr : r ∈ fragmentRules c arity indent) (hp : p ∈ r.edit.patterns) : p.Decided := by
  simp only [fragmentRules, List.mem_cons, List.not_mem_nil, or_false] at hr
  rcases hr with rfl | rfl | rfl | rfl
  · obtain rfl := List.mem_singleton.1 hp
    exact (decided_nil.text _).token_append _
  · obtain rfl := List.mem_singleton.1 hp
    exact decided_token _
  · exact decided_of_mem_symbolRule hp
  · obtain rfl := List.mem_singleton.1 hp
    exact decided_markerLine _

theorem decided_of_mem_helperRules (hr : r ∈ helperRules c) (hp : p ∈ r.edit.patterns) :
    p.Decided := by
  simp only [helperRules, List.mem_cons, List.not_mem_nil, or_false] at hr
  rcases hr with rfl | rfl | rfl
  · obtain rfl := List.mem_singleton.1 hp
    exact decided_functionStart
  · obtain rfl := List.mem_singleton.1 hp
    exact c.decided_classNamePattern
  · exact decided_of_mem_symbolRule hp

theorem decided_of_mem_placeholders (hp : p ∈ placeholders c) : p.Decided := by
  simp only [placeholders, List.mem_cons, List.not_mem_nil, or_false] at hp
  rcases hp with rfl | rfl
  · exact c.decided_classNamePattern
  · exact decided_token _

/-- The same for what the generic header is made with. -/
theorem match?_eq_head?_candidates {arity : Nat} {indent : Text}
    (hp : p ∈ (fragmentRules c arity indent ++ helperRules c).flatMap (·.edit.patterns) ++
      placeholders c) (before : Option Char) (rest : Text) :
    p.match? before rest = (p.candidates before rest).head? := by
  rcases List.mem_append.1 hp with hp | hp
  · obtain ⟨r, hr, hp⟩ := List.mem_flatMap.1 hp
    rcases List.mem_append.1 hr with hr | hr
    · exact (head?_candidates (decided_of_mem_fragmentRules hr hp) before rest).symm
    · exact (head?_candidates (decided_of_mem_helperRules hr hp) before rest).symm
  · exact (head?_candidates (decided_of_mem_placeholders hp) before rest).symm

end GenericHeader

end VectorFamily
