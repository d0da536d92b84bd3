import VectorFamily.GenericHeader
import VectorFamily.Proofs.Rule.Rewrite

/-!
# The parts of the generic header

A header that is rendered is assembled from class templates and stream operators that have passed
their checks. `exists_of_render` takes it apart.
-/

namespace VectorFamily.GenericHeader

variable {c : Conventions} {m : Master}

theorem rewrite_eq_ok_iff {rules : List Rule} {t u : Text} : rewrite c rules t = .ok u ↔
    Rule.applyAll target .implementation rules t = .ok u ∧
      ∀ p ∈ placeholders c, p.find? u = none := by
  have hchecked : rewrite c rules t = Rule.applyAll target .implementation rules t >>= fun u =>
      checkPlaceholders target .implementation u (placeholders c) >>= fun _ => pure u :=
    rfl
  rw [hchecked, bind_eq_ok]
  simp only [check_bind_eq_ok, checkPlaceholders_eq_ok_iff, pure_eq_ok]
  exact ⟨fun ⟨_, happlied, hfree, he⟩ => he ▸ ⟨happlied, hfree⟩,
    fun ⟨happlied, hfree⟩ => ⟨u, happlied, hfree, rfl⟩⟩

/-- What the section with the given text is rewritten from. -/
def sectionSource (t : Text) : Text := t.trimEnd.indented

/-- The tabs and spaces at the front of a text. -/
def indentOf (t : Text) : Text := t.takeWhile CharClass.indent.has

def sectionRules (c : Conventions) (arity : Nat) (t : Text) : List Rule :=
  fragmentRules c arity (indentOf (sectionSource t))

theorem fragment_eq_ok_iff {r : Region} {f : Fragment} : fragment c m r = .ok f ↔
    rewrite c (sectionRules c r.arity (m.regionText r)) (sectionSource (m.regionText r)) =
      .ok f.body ∧ f.arity = r.arity ∧ f.source = (m.regionText r).trimEnd := by
  have hfragment : fragment c m r =
      rewrite c (sectionRules c r.arity (m.regionText r)) (sectionSource (m.regionText r)) >>=
        fun body => pure ⟨r.arity, (m.regionText r).trimEnd, body⟩ :=
    rfl
  rw [hfragment, bind_eq_ok]
  simp only [pure_eq_ok]
  constructor
  · rintro ⟨body, hbody, rfl⟩
    exact ⟨hbody, rfl, rfl⟩
  · rintro ⟨hbody, harity, hsource⟩
    exact ⟨f.body, hbody, by rw [← harity, ← hsource]⟩

/-- A class template up to its body, the last line feed apart. -/
def declarationFront (c : Conventions) (arity : Nat) : Text :=
  let parameter := c.genericParameter.toList
  "\ttemplate<class ".toList ++ parameter ++ ">\n\tclass ".toList ++
    (c.genericClassName arity).toList ++ "\n\t\x7b\n\tpublic:\n\t\t".toList ++ parameter ++
    [' '] ++ ", ".toList.intercalate ((fields arity).map ([·])) ++ ";\n\tpublic:".toList

theorem classDeclaration_eq (f : Fragment) : classDeclaration c f =
    declarationFront c f.arity ++ '\n' :: (f.body ++ '\n' :: "\t\x7d;".toList) := by
  unfold classDeclaration declarationFront
  simp only [String.reduceToList]
  simp only [List.append_assoc, List.cons_append, List.nil_append]

/-- What stands in front of the name of the namespace, a space apart. -/
def preamble : Text := "#pragma once\n#include <iostream>\n#include <cstdint>\n\nnamespace".toList

theorem assemble_eq (scope : Text) (fs : List Fragment) (helpers : Text) :
    assemble c scope fs helpers = preamble ++ ' ' :: (scope ++ ' ' :: (['\x7b'] ++ '\n' ::
      ([] ++ '\n' :: (['\n', '\n'].intercalate (fs.map (classDeclaration c)) ++ '\n' ::
        ([] ++ '\n' :: (helpers ++ '\n' :: ['\x7d', '\n'])))))) := by
  unfold assemble preamble
  simp only [String.reduceToList]
  simp only [List.append_assoc, List.cons_append, List.nil_append]

/-- A rendered header is assembled from sections and stream operators that have been rewritten. -/
theorem exists_of_render {a : Artifact} (h : render c m = .ok a) : ∃ fs helpers,
    a.contents.toList = assemble c m.layout.scope fs helpers ∧
    (∀ f ∈ fs, ∃ r ∈ m.layout.regions, f.arity = r.arity ∧
      rewrite c (sectionRules c r.arity (m.regionText r)) (sectionSource (m.regionText r)) =
        .ok f.body) ∧
    rewrite c (helperRules c) m.helpersText.trimEnd = .ok helpers := by
  obtain ⟨fs, hfs, h⟩ := bind_eq_ok.1 h
  obtain ⟨helpers, hhelpers, h⟩ := bind_eq_ok.1 h
  obtain rfl := pure_eq_ok.1 h
  refine ⟨fs, helpers, String.toList_ofList, fun f hf => ?_, hhelpers⟩
  obtain ⟨r, hr, hfragment⟩ := exists_mem_of_mapM_eq_ok hfs hf
  obtain ⟨hbody, harity, -⟩ := fragment_eq_ok_iff.1 hfragment
  exact ⟨r, hr, harity, hbody⟩

end VectorFamily.GenericHeader
