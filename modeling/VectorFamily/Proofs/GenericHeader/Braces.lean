import VectorFamily.Proofs.GenericHeader.Assembly
import VectorFamily.Proofs.GenericHeader.Constructor
import VectorFamily.Proofs.GenericHeader.Functions
import VectorFamily.Proofs.Text.Nesting

/-!
# The braces of the generic header

Rewriting a section or the stream operators touches no brace, and the default constructor brings a
pair of its own. So a header made of balanced parts nests as the name of its namespace does
(`nesting_of_render`), which the header opens once and closes once. The name is whatever stands
between the keyword and the brace that ends the line, and may hold braces itself: two namespaces
opened on one line are taken for one, which is then closed once (`not_balanced_of_nested`).
-/

namespace VectorFamily.GenericHeader

open Text (nesting nesting_append nesting_of_not_mem Balanced balanced_iff isAllBlank)

/-! ### Rewriting -/

section
variable {p : Pattern} {render : Hit → Text} {t : Text}

theorem nesting_replaceAll (hp : p.Solid)
    (h : ∀ before rest found, p.match? before rest = some found →
      nesting (render found) = nesting found.text) :
    nesting (p.replaceAll render t).1 = nesting t := by
  refine Pattern.replaceAll_invariant hp (P := fun u => nesting u = nesting t) ?_ rfl
  intro before written found rest hm hu
  rw [← hu]
  simp only [nesting_append, h _ _ _ hm]

theorem nesting_insertLines {anchor : Pattern} {text : Text} (htext : nesting text = {}) :
    nesting (Edit.insertLines anchor text t).1 = nesting t := by
  have hnewline : ∀ u : Text, nesting ('\n' :: u) = nesting u := fun u => Nesting.level_append _
  cases hfind : anchor.find? t with
  | none => rw [Edit.insertLines_of_find?_none hfind]
  | some found =>
    obtain ⟨before, h, after⟩ := found
    have ht := Pattern.append_of_find? hfind
    rcases Edit.insertLines_of_find? text hfind with ⟨-, he⟩ | ⟨lineRest, later, -, rfl, he⟩
    · rw [he, nesting_append, hnewline, htext, Nesting.append_level]
    · rw [he, ← ht]
      simp only [nesting_append, hnewline, htext, Nesting.level_append, Nesting.append_assoc]

end

theorem nesting_of_word {t : Text} (ht : ∀ c ∈ t, Unicode.isAsciiWord c = true) :
    nesting t = {} :=
  nesting_of_not_mem (fun h => absurd (ht _ h) (by decide)) fun h => absurd (ht _ h) (by decide)

theorem nesting_symbol : nesting ({} : Conventions).symbol.toList = {} := by decide

theorem nesting_replaceAll_symbol (t : Text) :
    nesting ((Pattern.token ({} : Conventions).symbol.toList).replaceAll
      (fun _ => ({} : Conventions).genericParameter.toList) t).1 = nesting t := by
  refine nesting_replaceAll (Pattern.solid_token (by decide)) fun _ _ found hm => ?_
  rw [Pattern.eq_of_match?_token hm, nesting_symbol]
  decide

section
variable {n : Nat} (hn : n ∈ arities)
include hn

theorem nesting_className : nesting (Conventions.className {} n).toList = {} :=
  nesting_of_word (isAsciiWord_of_mem_className hn)

theorem nesting_genericClassName : nesting (Conventions.genericClassName {} n).toList = {} :=
  nesting_of_word (isAsciiWord_of_mem_genericClassName hn)

theorem nesting_defaultConstructor {indent : Text} (hindent : nesting indent = {}) :
    nesting (defaultConstructor indent (Conventions.genericClassName {} n).toList) = {} := by
  have hinline : nesting "inline ".toList = {} := by decide
  have hbody : nesting "() noexcept \x7b\x7d".toList = {} := by decide
  simp only [defaultConstructor, nesting_append, hindent, nesting_genericClassName hn, hinline, hbody,
    Nesting.append_level]

theorem nesting_rewrite_section (indent t : Text) (hindent : nesting indent = {}) :
    nesting (Rule.rewrite (fragmentRules {} n indent) t) = nesting t := by
  have hrules : fragmentRules {} n indent =
      substitutionRules {} n ++ [constructorRule {} n indent] := rfl
  rw [hrules, Rule.rewrite_append, Rule.rewrite_cons, Rule.rewrite_nil, Rule.apply,
    constructorRule, Edit.apply, nesting_insertLines (nesting_defaultConstructor hn hindent),
    rewrite_substitutionRules, nesting_replaceAll_symbol, nesting_replaceAll, nesting_replaceAll]
  case h =>
    intro before rest found hm
    obtain ⟨post, h', -, -, hm', rfl⟩ := Pattern.match?_token_append_eq_some.1 hm
    obtain ⟨later, h'', -, hend, rfl⟩ := Pattern.match?_text_cons_eq_some.1 hm'
    obtain rfl := Option.some.inj hend
    have hcolons : nesting "::".toList = {} := by decide
    simp only [Hit.after, nesting_append, nesting_className hn, hcolons,
      Text.nesting_nil, Nesting.append_level]
  case h =>
    intro before rest found hm
    rw [Pattern.eq_of_match?_token hm, nesting_className hn, nesting_genericClassName hn]
  case hp => exact solid_qualifier
  case hp => exact Pattern.solid_token (className_ne_nil hn)

end

/-! ### Stream operators -/

theorem nesting_indentOf (t : Text) : nesting (indentOf t) = {} := by
  have hall : ∀ c ∈ indentOf t, CharClass.indent.has c = true := fun c hc =>
    List.all_eq_true.1 List.all_takeWhile c hc
  exact nesting_of_not_mem (fun h => absurd (hall _ h) (by decide))
    fun h => absurd (hall _ h) (by decide)

theorem nesting_rewrite_helpers (t : Text) :
    nesting (Rule.rewrite (helperRules {}) t) = nesting t := by
  rw [rewrite_helperRules, nesting_replaceAll_symbol, nesting_replaceAll, nesting_replaceAll]
  case h =>
    intro before rest found hm
    have htemplate : nesting "template<class T>\n".toList = {} := by decide
    have hinline : nesting "inline static".toList = {} := by decide
    obtain ⟨-, post, -, -, hfound⟩ := match?_functionStart_eq_some.1 hm
    rw [expand_templateStart hm, hfound]
    simp only [nesting_append, nesting_indentOf, htemplate, hinline, Nesting.append_level]
  case h =>
    intro before rest found hm
    have hfound := ((Conventions.recognizes_classNamePattern before rest found).1 hm).1
    have hargument : nesting "<T>".toList = {} := by decide
    obtain ⟨n, hn, htext, hexpand⟩ := expand_classArgument hfound
    rw [hexpand, htext, nesting_append, nesting_genericClassName hn, nesting_className hn, hargument]
    rfl
  case hp => exact solid_functionStart
  case hp => exact Conventions.recognizes_classNamePattern.solid (by decide)

/-! ### Headers -/

theorem nesting_declarationFront {n : Nat} (hn : n ∈ arities) :
    nesting (declarationFront {} n) = { unclosed := 1 } := by
  have hall : ∀ n ∈ arities, nesting (declarationFront {} n) = { unclosed := 1 } := by
    decide +kernel
  exact hall n hn

theorem nesting_classDeclaration {f : Fragment} (hn : f.arity ∈ arities)
    (hbody : nesting f.body = {}) : nesting (classDeclaration {} f) = {} := by
  rw [classDeclaration_eq, nesting_append, nesting_declarationFront hn, Text.nesting_cons,
    nesting_append, hbody]
  decide

section
variable {interface implementation : Text} {m : Master} {a : Artifact}
  (hm : Master.ofSources {} interface implementation = .ok m)
  (hsections : ∀ r ∈ m.layout.regions, Balanced (m.regionText r))
  (hhelpers : Balanced m.helpersText) (ha : render {} m = .ok a)
include hm hsections hhelpers ha

/-- Around balanced parts a header nests as the name of its namespace. -/
theorem nesting_of_render : nesting a.contents.toList = nesting m.layout.scope := by
  obtain ⟨fs, helpers, htext, hfs, hrewritten⟩ := exists_of_render ha
  have hdeclaration : ∀ f ∈ fs, nesting (classDeclaration {} f) = {} := by
    intro f hf
    obtain ⟨r, hr, harity, hbody⟩ := hfs f hf
    have hn := arity_mem hm hr
    have hindent : nesting (indentOf (sectionSource (m.regionText r))) = {} := nesting_indentOf _
    refine nesting_classDeclaration (harity ▸ hn) ?_
    rw [← Rule.rewrite_of_applyAll (rewrite_eq_ok_iff.1 hbody).1, sectionRules,
      nesting_rewrite_section hn _ _ hindent, sectionSource, Text.nesting_indented,
      Text.nesting_trimEnd, balanced_iff.1 (hsections r hr)]
  have hclasses : nesting (fs.map (classDeclaration {})).flatten = {} := by
    clear htext hfs
    induction fs with
    | nil => rfl
    | cons f fs ih =>
      obtain ⟨hf, hfs⟩ := List.forall_mem_cons.1 hdeclaration
      rw [List.map_cons, List.flatten_cons, nesting_append, hf, ih hfs, Nesting.level_append]
  have hoperators : nesting helpers = {} := by
    rw [← Rule.rewrite_of_applyAll (rewrite_eq_ok_iff.1 hrewritten).1, nesting_rewrite_helpers,
      Text.nesting_trimEnd, balanced_iff.1 hhelpers]
  have hpreamble : nesting preamble = {} := by decide
  rw [htext, assemble_eq]
  simp only [nesting_append, Text.nesting_cons, Text.nesting_nil, hpreamble, hoperators,
    Text.nesting_intercalate (rfl : nesting ['\n', '\n'] = {}), hclasses]
  simp [Text.brace, Nesting.append_def]

/-- Between balanced sections and stream operators, the header of an accepted pair is balanced just
if the name of its namespace is. -/
theorem balanced_iff_of_render : Balanced a.contents.toList ↔ Balanced m.layout.scope := by
  rw [balanced_iff, nesting_of_render hm hsections hhelpers ha, balanced_iff]

end

def BalancedParts (m : Master) : Prop :=
  (∀ r ∈ m.layout.regions, Balanced (m.regionText r)) ∧ Balanced m.helpersText

instance (m : Master) : Decidable (BalancedParts m) := inferInstanceAs (Decidable (_ ∧ _))

theorem balanced_iff_of_render_sparse : ∃ m a,
    Master.ofSources {} sparseInterface (sparseImplementation []) = .ok m ∧ BalancedParts m ∧
      render {} m = .ok a ∧ Balanced a.contents.toList := by
  have hparts : ((Master.ofSources {} sparseInterface (sparseImplementation [])).map fun m =>
      decide (BalancedParts m ∧ Balanced m.layout.scope)) = .ok true := by
    decide +kernel
  obtain ⟨m, a, hm, ha⟩ := exists_render_sparse
  rw [hm] at hparts
  obtain ⟨hparts, hscope⟩ := of_decide_eq_true (Except.ok.inj hparts)
  exact ⟨m, a, hm, hparts, ha, (balanced_iff_of_render hm hparts.1 hparts.2 ha).2 hscope⟩

/-- An implementation that opens two namespaces on one line. -/
def nestedImplementation : Text :=
  "namespace a \x7b namespace b \x7b\n".toList ++ arities.flatMap (sparseSection []) ++
    "// End\n\x7d \x7d\n".toList

/-- All parts of a pair may be balanced and its header not: what the pair opens on one line, the
header closes once. -/
theorem not_balanced_of_nested : ¬ ∀ interface implementation m a,
    Master.ofSources {} interface implementation = .ok m → Balanced m.implementation →
      (∀ r ∈ m.layout.regions, Balanced (m.regionText r)) → Balanced m.helpersText →
        render {} m = .ok a → Balanced a.contents.toList := by
  have hparts : ((Master.ofSources {} sparseInterface nestedImplementation).map fun m =>
      decide (Balanced m.implementation ∧ BalancedParts m ∧ ¬ Balanced m.layout.scope)) =
        .ok true := by
    decide +kernel
  have hrender : (Master.ofSources {} sparseInterface nestedImplementation >>=
      render {}).isOk = true := by
    decide +kernel
  obtain ⟨a, ha⟩ := exists_of_isOk hrender
  obtain ⟨m, hm, ha⟩ := bind_eq_ok.1 ha
  rw [hm] at hparts
  obtain ⟨himplementation, hparts, hscope⟩ := of_decide_eq_true (Except.ok.inj hparts)
  intro h
  have hheader := h _ _ m a hm himplementation hparts.1 hparts.2 ha
  rw [balanced_iff, nesting_of_render hm hparts.1 hparts.2 ha] at hheader
  exact hscope (balanced_iff.2 hheader)

end VectorFamily.GenericHeader
