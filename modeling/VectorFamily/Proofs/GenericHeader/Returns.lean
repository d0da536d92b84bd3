import VectorFamily.Proofs.GenericHeader.Assembly
import VectorFamily.Proofs.Specialization.Frame
import VectorFamily.Proofs.Template.Sections
import VectorFamily.Proofs.Text.Indented

/-!
# Carriage returns of the generic header

The header is put together from pieces of the canonical pair and from strings of the conventions. If
none of them holds a carriage return, the header holds none (`avoids_render`).
-/

namespace VectorFamily

/-! ### Pieces of a text -/

namespace Text

variable {P : Char → Bool} {t : Text}

theorem avoids_trimEnd (ht : t.Avoids P) : (trimEnd t).Avoids P := by
  obtain ⟨b, -, he⟩ := exists_trimEnd_append t
  rw [he] at ht
  exact (avoids_append.1 ht).1

theorem avoids_trim (ht : t.Avoids P) : (trim t).Avoids P := by
  obtain ⟨a, b, -, -, he⟩ := exists_blanks_of_trim t
  rw [he] at ht
  exact (avoids_append.1 (avoids_append.1 ht).1).2

theorem avoids_of_mem_lines (ht : t.Avoids P) {l : Text} (hl : l ∈ lines t) : l.Avoids P :=
  fun c hc => ht c (mem_of_mem_lines hl hc)

theorem avoids_of_mem_placedLines (ht : t.Avoids P) {l : Line} (hl : l ∈ placedLines t) :
    Text.Avoids P l.text :=
  avoids_of_mem_lines ht (text_mem_lines hl)

theorem avoids_between (ht : t.Avoids P) (start stop : Nat) :
    (between (placedLines t) start stop).Avoids P :=
  fun c hc => ht c (mem_of_mem_between hc)

theorem avoids_intercalate {sep : Text} (hsep : sep.Avoids P) {ts : List Text}
    (hts : ∀ t ∈ ts, Text.Avoids P t) : Text.Avoids P (sep.intercalate ts) := by
  induction ts with
  | nil => exact List.forall_mem_nil _
  | cons t ts ih =>
    obtain ⟨ht, hts⟩ := List.forall_mem_cons.1 hts
    cases ts with
    | nil => simpa using ht
    | cons u us =>
      rw [List.intercalate_cons_cons]
      exact avoids_append.2 ⟨avoids_append.2 ⟨ht, hsep⟩, ih hts⟩

theorem avoids_indented (hP : P '\n' = false ∧ P '\t' = false) (ht : t.Avoids P) :
    (indented t).Avoids P := by
  refine avoids_intercalate (List.forall_mem_singleton.2 hP.1) (List.forall_mem_map.2 fun l hl => ?_)
  have hl := avoids_of_mem_lines ht hl
  obtain ⟨e, -, he⟩ := exists_lineContent_append l
  rw [he] at hl
  dsimp only
  split
  · exact List.forall_mem_nil _
  · exact List.forall_mem_cons.2 ⟨hP.2, (avoids_append.1 hl).1⟩

end Text

/-! ### Parts of the pair -/

namespace Layout

variable {P : Char → Bool}

theorem avoids_of_openedScope? {line name : Text} (hline : line.Avoids P)
    (h : openedScope? line = some name) : name.Avoids P := by
  simp only [openedScope?, Text.dropSuffix?, Option.bind_eq_bind, Option.bind_eq_some_iff,
    Option.map_eq_some_iff] at h
  obtain ⟨rest, hrest, _, ⟨r, hr, rfl⟩, h⟩ := h
  have hrest := List.isPrefixOf?_eq_some_iff_append_eq.1 hrest
  have hr := List.isPrefixOf?_eq_some_iff_append_eq.1 hr
  have havoids : Text.Avoids P rest := by
    have htrim := Text.avoids_trim hline
    rw [← hrest] at htrim
    exact (Text.avoids_append.1 htrim).2
  have hname : Text.Avoids P r.reverse := by
    intro c hc
    refine havoids c (List.mem_reverse.1 ?_)
    rw [← hr]
    exact List.mem_append_right _ (List.mem_reverse.1 hc)
  split at h
  · cases h
  · obtain rfl := Option.some.inj h
    exact Text.avoids_trim hname

end Layout

theorem Master.avoids_scope {P : Char → Bool} {c : Conventions} {interface implementation : Text}
    {m : Master} (hm : ofSources c interface implementation = .ok m)
    (himplementation : m.implementation.Avoids P) : m.layout.scope.Avoids P := by
  have hscope := (ofSources_eq_ok_iff.1 hm).scope
  unfold Layout.locateScope at hscope
  split at hscope
  · next name hname =>
    rw [← Except.ok.inj hscope]
    obtain ⟨l, hl, hopened⟩ := List.exists_of_findSome?_eq_some hname
    exact Layout.avoids_of_openedScope?
      (Text.avoids_of_mem_placedLines himplementation ((List.takeWhile_sublist _).mem hl)) hopened
  · cases hscope

namespace GenericHeader

def isReturn (c : Char) : Bool := c == '\r'

theorem foreign_isReturn : Foreign isReturn := by
  refine ⟨fun c hc => ?_⟩
  obtain rfl := beq_iff_eq.1 hc
  rfl

section
variable {c : Conventions} (hc : StringsAvoid isReturn c.strings)
include hc

theorem avoids_symbolRule : (symbolRule c).edit.Avoids isReturn :=
  Specialization.avoids_literal (hc c.symbol (by simp [Conventions.strings, Conventions.required]))
    (hc c.genericParameter (by simp [Conventions.strings, Conventions.required]))

theorem avoids_genericClassName (n : Nat) :
    Text.Avoids isReturn (c.genericClassName n).toList := by
  rw [Conventions.genericClassName, String.toList_append]
  exact Text.avoids_append.2
    ⟨hc c.classPrefix (by simp [Conventions.strings, Conventions.required]),
      foreign_isReturn.avoids_toString n⟩

theorem avoids_className (n : Nat) : Text.Avoids isReturn (c.className n).toList := by
  rw [Conventions.className, String.toList_append]
  exact Text.avoids_append.2 ⟨avoids_genericClassName hc n,
    hc c.classTag (by simp [Conventions.strings, Conventions.required])⟩

theorem avoids_of_mem_fragmentRules {arity : Nat} {indent : Text} (hindent : indent.Avoids isReturn)
    {r : Rule} (hr : r ∈ fragmentRules c arity indent) : r.edit.Avoids isReturn := by
  have hname := avoids_className hc arity
  have hgeneric := avoids_genericClassName hc arity
  simp only [fragmentRules, List.mem_cons, List.not_mem_nil, or_false] at hr
  rcases hr with rfl | rfl | rfl | rfl
  · refine ⟨List.forall_mem_singleton.2 ?_, trivial⟩
    exact Pattern.avoids_append.2
      ⟨Pattern.avoids_token hname, foreign_isReturn.avoids_pattern (by decide)⟩
  · exact ⟨List.forall_mem_singleton.2 (Pattern.avoids_token hname), hgeneric⟩
  · exact avoids_symbolRule hc
  · exact Text.avoids_append.2 ⟨Text.avoids_append.2 ⟨Text.avoids_append.2
      ⟨hindent, foreign_isReturn.avoids (by decide)⟩, hgeneric⟩, Text.avoids_of_all (by decide)⟩

/-- The template of a stream operator, without what its braces stand around. -/
theorem avoids_helperTemplate : (Action.expand ("$\x7bindent\x7dtemplate<class ".toList ++
    Expansion.protect c.genericParameter.toList ++
      ">\n$\x7bindent\x7dinline static".toList)).Avoids isReturn := by
  have hindent : ∀ u, (Action.expand u).Avoids isReturn →
      (Action.expand ("$\x7bindent\x7d".toList ++ u)).Avoids isReturn := by
    intro u hu d hd
    have hparse : Expansion.parse ("$\x7bindent\x7d".toList ++ u) =
        .group "indent".toList :: Expansion.parse u :=
      rfl
    rw [hparse] at hd
    exact (List.mem_cons.1 hd).elim (fun hd => by cases hd) (hu d)
  have hliteral : ∀ {t u : Text}, Expansion.protect t = t → t.all (!isReturn ·) = true →
      (Action.expand u).Avoids isReturn → (Action.expand (t ++ u)).Avoids isReturn := by
    intro t u ht hall hu
    have happend := Expansion.avoids_protect_append (Text.avoids_of_all hall) hu
    rwa [ht] at happend
  have hparameter := hc c.genericParameter (by simp [Conventions.strings, Conventions.required])
  have hend : (Action.expand "inline static".toList).Avoids isReturn := by
    have happend := hliteral (t := "inline static".toList) (u := []) (by decide) (by decide)
      fun _ hd => by cases hd
    rwa [List.append_nil] at happend
  have hrest := hindent _ (hliteral (t := "template<class ".toList) (by decide) (by decide)
    (Expansion.avoids_protect_append hparameter (hliteral (t := ">\n".toList) (by decide)
      (by decide) (hindent _ hend))))
  simpa using hrest

theorem avoids_of_mem_helperRules {r : Rule} (hr : r ∈ helperRules c) :
    r.edit.Avoids isReturn := by
  have hparameter := hc c.genericParameter (by simp [Conventions.strings, Conventions.required])
  simp only [helperRules, List.mem_cons, List.not_mem_nil, or_false] at hr
  rcases hr with rfl | rfl | rfl
  · refine ⟨List.forall_mem_singleton.2 fun part hpart => ?_, avoids_helperTemplate hc⟩
    simp only [functionStart, List.mem_cons, List.not_mem_nil, or_false] at hpart
    rcases hpart with rfl | rfl | rfl | rfl
    · trivial
    · intro d hd
      rcases Bool.or_eq_true_iff.1 hd with hd | hd <;> rw [beq_iff_eq.1 hd] <;> rfl
    · exact Pattern.avoids_text (foreign_isReturn.avoids (by decide))
    · trivial
  · refine ⟨List.forall_mem_singleton.2 (Conventions.avoids_classNamePattern foreign_isReturn hc),
      Conventions.avoids_classNameTemplate hc ?_⟩
    have hargument : '<' :: Expansion.protect c.genericParameter.toList ++ ['>'] =
        Expansion.protect (['<'] ++ c.genericParameter.toList ++ ['>']) := by
      simp [Expansion.protect]
    rw [hargument, ← List.append_nil (Expansion.protect _)]
    refine Expansion.avoids_protect_append ?_ fun _ hd => by cases hd
    exact Text.avoids_append.2 ⟨Text.avoids_append.2
      ⟨foreign_isReturn.avoids (by decide), hparameter⟩, foreign_isReturn.avoids (by decide)⟩
  · exact avoids_symbolRule hc

omit hc in
/-- What is rewritten without returns has none afterwards. -/
theorem avoids_of_rewrite {rules : List Rule} (hrules : ∀ r ∈ rules, r.edit.Avoids isReturn)
    {t u : Text} (ht : t.Avoids isReturn) (h : rewrite c rules t = .ok u) : u.Avoids isReturn := by
  rw [← Rule.rewrite_of_applyAll (rewrite_eq_ok_iff.1 h).1, Text.avoids_iff_filter_eq_nil,
    Rule.filter_rewrite rfl hrules]
  exact Text.avoids_iff_filter_eq_nil.1 ht

theorem avoids_classDeclaration {f : Fragment} (hbody : f.body.Avoids isReturn) :
    (classDeclaration c f).Avoids isReturn := by
  have hparameter := hc c.genericParameter (by simp [Conventions.strings, Conventions.required])
  have hfields : ∀ t ∈ (fields f.arity).map ([·]), Text.Avoids isReturn t := by
    have hall : fieldAlphabet.all (!isReturn ·) = true := by decide
    refine List.forall_mem_map.2 fun d hd => List.forall_mem_singleton.2 ?_
    exact Text.avoids_of_all hall d (fields_subset _ hd)
  unfold classDeclaration
  simp only [Text.avoids_append]
  refine ⟨⟨⟨⟨⟨⟨⟨⟨⟨⟨?_, hparameter⟩, ?_⟩, avoids_genericClassName hc _⟩, ?_⟩, hparameter⟩, ?_⟩,
    Text.avoids_intercalate ?_ hfields⟩, ?_⟩, hbody⟩, ?_⟩
  all_goals exact Text.avoids_of_all (by decide)

theorem avoids_render {m : Master} (hinterface : m.interface.Avoids isReturn)
    (himplementation : m.implementation.Avoids isReturn) (hscope : m.layout.scope.Avoids isReturn)
    {a : Artifact} (h : render c m = .ok a) : Text.Avoids isReturn a.contents.toList := by
  obtain ⟨fs, helpers, htext, hfs, hhelpers⟩ := exists_of_render h
  have hclasses : ∀ t ∈ fs.map (classDeclaration c), Text.Avoids isReturn t := by
    refine List.forall_mem_map.2 fun f hf => avoids_classDeclaration hc ?_
    obtain ⟨r, -, -, hbody⟩ := hfs f hf
    have hsource : (sectionSource (m.regionText r)).Avoids isReturn :=
      Text.avoids_indented ⟨rfl, rfl⟩ (Text.avoids_trimEnd (Text.avoids_between himplementation _ _))
    refine avoids_of_rewrite (fun r' hr' => avoids_of_mem_fragmentRules hc ?_ hr') hsource hbody
    exact fun d hd => hsource d ((List.takeWhile_sublist _).mem hd)
  have hoperators := avoids_of_rewrite (fun r hr => avoids_of_mem_helperRules hc hr)
    (Text.avoids_trimEnd (Text.avoids_between hinterface _ _)) hhelpers
  rw [htext]
  unfold assemble
  simp only [Text.avoids_append]
  refine ⟨⟨⟨⟨⟨⟨?_, hscope⟩, ?_⟩, Text.avoids_intercalate ?_ hclasses⟩, ?_⟩, hoperators⟩, ?_⟩
  all_goals exact Text.avoids_of_all (by decide)

end

end GenericHeader

end VectorFamily
