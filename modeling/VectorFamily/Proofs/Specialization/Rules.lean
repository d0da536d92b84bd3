import VectorFamily.Proofs.Rule.Rewrite

/-!
# Which rules run

The rules fall into three parts: those before the casts, those of the casts, and those behind them.
The casts run as a whole, on implementations of the categories that need them, or not at all.
-/

namespace VectorFamily.Specialization

variable (s : Specialization) (kind : ArtifactKind)

def earlyRules : List Rule :=
  (s.tokenRules ++ s.metadataRules ++ booleanRules).filter (·.applies (s.context kind))

def lateRules : List Rule :=
  (streamRules ++ s.exportRules).filter (·.applies (s.context kind))

/-- The casts are set in the artifact. -/
def castsIn : Prop := kind = .implementation ∧ s.profile.category.needsNarrowingCast = true

theorem rulesFor_eq : s.rulesFor kind =
    s.earlyRules kind ++ s.castRules.filter (·.applies (s.context kind)) ++ s.lateRules kind := by
  simp [rulesFor, rules, earlyRules, lateRules]

variable {s kind}

theorem applies_of_mem_castRules {r : Rule} (hr : r ∈ s.castRules) :
    r.applies (s.context kind) = true ↔ s.castsIn kind := by
  have hgate : ∀ c : Category, (Category.all.filter (·.needsNarrowingCast)).contains c = true ↔
      c.needsNarrowingCast = true := by
    intro c
    cases c <;> decide
  have hr' : r.scope = .only .implementation ∧ r.gate = castGate := by
    simp only [castRules, List.mem_cons, List.not_mem_nil, or_false] at hr
    rcases hr with rfl | rfl | rfl <;> exact ⟨rfl, rfl⟩
  obtain ⟨hscope, hcast⟩ := hr'
  have hkind : (Scope.only .implementation).includes kind = true ↔ kind = .implementation := by
    cases kind <;> decide
  simp only [Rule.applies, hscope, hcast, castGate, context, Bool.and_eq_true, hgate, hkind,
    castsIn]

theorem rulesFor_of_castsIn (h : s.castsIn kind) :
    s.rulesFor kind = s.earlyRules kind ++ s.castRules ++ s.lateRules kind := by
  rw [rulesFor_eq, List.filter_eq_self.2 fun r hr => (applies_of_mem_castRules hr).2 h]

theorem rulesFor_of_not_castsIn (h : ¬ s.castsIn kind) :
    s.rulesFor kind = s.earlyRules kind ++ s.lateRules kind := by
  rw [rulesFor_eq, List.filter_eq_nil_iff.2 fun r hr ha => h ((applies_of_mem_castRules hr).1 ha),
    List.append_nil]

/-! ### The rules of the casts -/

/-- What stands before the argument of the macro that casts. -/
def castOpening : Text := castHelper.toList ++ ['(']

def castAction : Action := .wrap castOpening [')']

/-- The line that defines the macro. -/
def helperLine (symbol : String) : Text :=
  ("#define " ++ castHelper ++ "(x) static_cast<" ++ symbol ++ ">(x)").toList

/-- The line that takes the macro back. -/
def scopeLine : Text := ("#undef " ++ castHelper).toList

def wrapRule : Rule where
  name := "cast.wrap"
  stage := .narrowingCasts
  gate := castGate
  scope := .only .implementation
  expect := .matchIn (.only .implementation)
  edit := .substitute (perField mixedExpression) castAction

def helperRule (p : Profile) : Rule where
  name := "cast.helper"
  stage := .narrowingCasts
  gate := castGate
  scope := .only .implementation
  expect := .matchIn (.only .implementation)
  edit := .insertAfterLine (includeDirective p.includeLabel) ('\n' :: helperLine p.symbol)

def scopeRule : Rule where
  name := "cast.scope"
  stage := .narrowingCasts
  gate := castGate
  scope := .only .implementation
  edit := .appendLine scopeLine

section
variable (p : Profile) (t : Text)

theorem apply_wrapRule :
    wrapRule.apply t = Edit.substituteAll castAction (perField mixedExpression) t := by
  simp only [Rule.apply, wrapRule, Edit.apply]

theorem apply_helperRule : (helperRule p).apply t =
    Edit.insertLines (includeDirective p.includeLabel) ('\n' :: helperLine p.symbol) t := by
  simp only [Rule.apply, helperRule, Edit.apply]

theorem apply_scopeRule : (scopeRule.apply t).1 = Edit.addLine scopeLine t := by
  simp only [Rule.apply, scopeRule, Edit.apply]

end

theorem castRules_eq (s : Specialization) :
    s.castRules = [wrapRule, helperRule s.profile, scopeRule] := by
  have hlines :
      ("\n#define " ++ castHelper ++ "(x) static_cast<" ++ s.profile.symbol ++ ">(x)").toList =
        '\n' :: helperLine s.profile.symbol := by
    simp [helperLine]
  simp only [castRules, hlines]
  rfl

/-! ### The rules behind the casts -/

def printableRule : Rule where
  name := "stream.printable"
  stage := .streamOutput
  gate := printableGate
  expect := .matchIn (.only .interface)
  edit := .substitute [streamedField] (.expand "<< (int)$field".toList)

def wideRule : Rule where
  name := "stream.wide"
  stage := .streamOutput
  gate := .categories [.wideCharacter]
  expect := .matchIn (.only .interface)
  edit := literal "std::ostream&" "std::wostream&"

def exportRule (c : Conventions) : Rule where
  name := "export.strip"
  stage := .exportStripping
  gate := .exportDisabled
  edit := .substitute [exportPattern c] .delete

theorem streamRules_eq : streamRules = [printableRule, wideRule] := rfl

theorem exportRules_eq (s : Specialization) : s.exportRules = [exportRule s.conventions] := rfl

section
variable (t : Text)

theorem apply_printableRule : printableRule.apply t =
    streamedField.replaceAll (Action.expand "<< (int)$field".toList).render t := by
  rw [Rule.apply, printableRule, Edit.apply, Edit.substituteAll_singleton]

theorem apply_wideRule : wideRule.apply t =
    (Pattern.token "std::ostream&".toList).replaceAll
      (Action.replace "std::wostream&".toList).render t := by
  rw [Rule.apply, wideRule, literal, Edit.apply, Edit.substituteAll_singleton]

theorem apply_exportRule (c : Conventions) :
    (exportRule c).apply t = (exportPattern c).replaceAll Action.delete.render t := by
  rw [Rule.apply, exportRule, Edit.apply, Edit.substituteAll_singleton]

end

end VectorFamily.Specialization
