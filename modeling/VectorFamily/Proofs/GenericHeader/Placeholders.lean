import VectorFamily.Proofs.GenericHeader.Assembly
import VectorFamily.Proofs.GenericHeader.Constructor
import VectorFamily.Proofs.Pattern.Recognition

/-!
# Canonical names in the generic header

Sections and stream operators are looked through for canonical names one by one, and what is put
between them holds none. A line feed or a space separates any two of these parts, so no name can be
formed where they meet: the header holds a canonical name as a whole token just if the name of its
namespace does (`tokenFree_render_iff`).
-/

namespace VectorFamily

open VectorFamily.Specialization (TokenFree)

/-- The names that only the canonical pair may hold: its classes, and the element type. -/
def Conventions.canonicalNames (c : Conventions) : List String :=
  arities.map c.className ++ [c.symbol]

namespace GenericHeader

/-- The patterns that the generic header is checked with look for the canonical names. -/
theorem forall_placeholders_iff {t : Text} : (∀ p ∈ placeholders {}, p.find? t = none) ↔
    ∀ name ∈ Conventions.canonicalNames {}, TokenFree name.toList t := by
  have hclass := Conventions.recognizes_classNamePattern.find?_eq_none_iff (t := t)
  simp only [Conventions.classNameHits, List.forall_mem_map] at hclass
  simp only [placeholders, Conventions.canonicalNames, List.forall_mem_cons, List.forall_mem_append,
    List.forall_mem_map, hclass, Pattern.find?_token_eq_none_iff, List.not_mem_nil, false_imp_iff,
    implies_true, and_true]

section
variable {name : String} (hname : name ∈ Conventions.canonicalNames {}) {u v t : Text}
include hname

theorem name_ne_nil : name.toList ≠ [] := by
  have hall : ∀ name ∈ Conventions.canonicalNames {}, name.toList ≠ [] := by decide
  exact hall name hname

theorem separator_not_mem {e : Char} (he : e = ' ' ∨ e = '\n') : e ∉ name.toList := by
  have hall : ∀ name ∈ Conventions.canonicalNames {}, ' ' ∉ name.toList ∧ '\n' ∉ name.toList := by
    decide
  rcases he with rfl | rfl
  · exact (hall name hname).1
  · exact (hall name hname).2

theorem tokenFree_append_newline :
    TokenFree name.toList (u ++ '\n' :: v) ↔ TokenFree name.toList u ∧ TokenFree name.toList v :=
  tokenFree_append_cons (name_ne_nil hname) (separator_not_mem hname (.inr rfl))
    (isWord_of_isBlank rfl)

theorem tokenFree_append_space :
    TokenFree name.toList (u ++ ' ' :: v) ↔ TokenFree name.toList u ∧ TokenFree name.toList v :=
  tokenFree_append_cons (name_ne_nil hname) (separator_not_mem hname (.inl rfl))
    (isWord_of_isBlank rfl)

theorem tokenFree_intercalate {ts : List Text} (hts : ∀ t ∈ ts, TokenFree name.toList t) :
    TokenFree name.toList (['\n', '\n'].intercalate ts) := by
  induction ts with
  | nil => exact tokenFree_nil (name_ne_nil hname)
  | cons t ts ih =>
    obtain ⟨ht, hts⟩ := List.forall_mem_cons.1 hts
    cases ts with
    | nil => simpa using ht
    | cons u us =>
      have hcut : ['\n', '\n'].intercalate (t :: u :: us) =
          t ++ '\n' :: ([] ++ '\n' :: ['\n', '\n'].intercalate (u :: us)) := by
        simp [List.intercalate_cons_cons]
      rw [hcut, tokenFree_append_newline hname, tokenFree_append_newline hname]
      exact ⟨ht, tokenFree_nil (name_ne_nil hname), ih hts⟩

theorem tokenFree_glue : TokenFree name.toList preamble ∧
    ∀ t ∈ [['\x7b'], "\t\x7d;".toList, ['\x7d', '\n']], TokenFree name.toList t := by
  have hall : ∀ name ∈ Conventions.canonicalNames {}, ¬ name.toList <:+: preamble ∧
      ∀ t ∈ [['\x7b'], "\t\x7d;".toList, ['\x7d', '\n']], ¬ name.toList <:+: t := by
    decide +kernel
  exact ⟨tokenFree_of_absent (hall name hname).1,
    fun t ht => tokenFree_of_absent ((hall name hname).2 t ht)⟩

theorem tokenFree_classDeclaration {f : Fragment} (hn : f.arity ∈ arities)
    (hbody : TokenFree name.toList f.body) :
    TokenFree name.toList (classDeclaration {} f) := by
  have hfront : ∀ n ∈ arities, ∀ name ∈ Conventions.canonicalNames {},
      ¬ name.toList <:+: declarationFront {} n := by
    decide +kernel
  rw [classDeclaration_eq, tokenFree_append_newline hname, tokenFree_append_newline hname]
  exact ⟨tokenFree_of_absent (hfront f.arity hn name hname), hbody,
    (tokenFree_glue hname).2 _ (by simp)⟩

end

/-- The header of an accepted pair holds a canonical name as a whole token just if the name of its
namespace does. -/
theorem tokenFree_render_iff {interface implementation : Text} {m : Master} {a : Artifact}
    (hm : Master.ofSources {} interface implementation = .ok m) (ha : render {} m = .ok a) :
    ∀ name ∈ Conventions.canonicalNames {},
      TokenFree name.toList a.contents.toList ↔ TokenFree name.toList m.layout.scope := by
  intro name hname
  obtain ⟨fs, helpers, htext, hfs, hrewritten⟩ := exists_of_render ha
  have hclasses : ∀ t ∈ fs.map (classDeclaration {}), TokenFree name.toList t := by
    refine List.forall_mem_map.2 fun f hf => ?_
    obtain ⟨r, hr, harity, hbody⟩ := hfs f hf
    exact tokenFree_classDeclaration hname (harity ▸ arity_mem hm hr)
      (forall_placeholders_iff.1 (rewrite_eq_ok_iff.1 hbody).2 name hname)
  have hoperators : TokenFree name.toList helpers :=
    forall_placeholders_iff.1 (rewrite_eq_ok_iff.1 hrewritten).2 name hname
  obtain ⟨hpreamble, hglue⟩ := tokenFree_glue hname
  rw [htext, assemble_eq, tokenFree_append_space hname, tokenFree_append_space hname]
  simp only [tokenFree_append_newline hname, hpreamble, true_and]
  refine and_iff_left ⟨hglue _ (by simp), tokenFree_nil (name_ne_nil hname),
    tokenFree_intercalate hname hclasses, tokenFree_nil (name_ne_nil hname), hoperators,
    hglue _ (by simp)⟩

theorem tokenFree_render_iff_sparse : ∃ m a,
    Master.ofSources {} sparseInterface (sparseImplementation []) = .ok m ∧
      render {} m = .ok a ∧
      ∀ name ∈ Conventions.canonicalNames {}, TokenFree name.toList a.contents.toList := by
  have hscope : ((Master.ofSources {} sparseInterface (sparseImplementation [])).map fun m =>
      m.layout.scope) = .ok ['N'] := by
    decide +kernel
  obtain ⟨m, a, hm, ha⟩ := exists_render_sparse
  rw [hm] at hscope
  have hN : ∀ name ∈ Conventions.canonicalNames {}, ¬ name.toList <:+: ['N'] := by decide
  refine ⟨m, a, hm, ha, fun name hname => (tokenFree_render_iff hm ha name hname).2 ?_⟩
  have hscope : m.layout.scope = ['N'] := Except.ok.inj hscope
  rw [hscope]
  exact tokenFree_of_absent (hN name hname)

end GenericHeader

end VectorFamily
