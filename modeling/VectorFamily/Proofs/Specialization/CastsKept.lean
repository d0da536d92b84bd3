import VectorFamily.Proofs.Specialization.Casts

/-!
# Casts in the output

The rules behind the one that sets the casts keep them. All of them edit a text between characters
that no mixed expression holds, and `AllCast` can be taken apart and put together again at such a
character: `AllCast.left`, `AllCast.right`, `AllCast.append_cons`.
-/

namespace VectorFamily

open Piece (isWordAt)

namespace Specialization

/-! ### Where a text can be cut -/

section
variable {u v : Text} {e : Char}

theorem isWordAt_head?_append_cons (hw : Unicode.isWord e = false) (between : Text) :
    isWordAt (between ++ e :: v).head? = isWordAt between.head? := by
  cases between with
  | nil => simp [isWordAt, hw]
  | cons c between => simp

theorem isWordAt_getLast?_append_cons (hw : Unicode.isWord e = false) (between : Text) :
    isWordAt (u ++ e :: between).getLast? = isWordAt between.getLast? := by
  cases between with
  | nil => simp [isWordAt, hw]
  | cons c between => simp [List.getLast?_append, List.getLast?_cons]

theorem suffix_of_suffix_append_cons {l : Text} (he : e ∉ l) (h : l <:+ u ++ e :: v) : l <:+ v := by
  have hv : e :: v <:+ u ++ e :: v := List.suffix_append _ _
  rcases List.suffix_or_suffix_of_suffix h hv with h | h
  · rcases List.suffix_cons_iff.1 h with rfl | h
    · exact absurd List.mem_cons_self he
    · exact h
  · exact absurd (h.mem List.mem_cons_self) he

theorem AllCast.append_cons (hu : AllCast u) (hv : AllCast v) (he : e ∉ mixedChars)
    (hw : Unicode.isWord e = false) : AllCast (u ++ e :: v) := by
  intro g hg pre m post h hm
  obtain ⟨hmem, hpre, hpost⟩ := (mixedAt_iff hg).1 hm
  have hem : e ∉ m := fun hc => he (mem_mixedChars hg hmem hc)
  have hne : m ≠ [] := by
    obtain ⟨w, rfl⟩ := exists_cons_cons_of_mem_mixedTexts hmem
    simp
  -- no mixed expression holds `e`, so it stands wholly on one side
  rcases Text.append_cons_cases hne hem h with ⟨between, hleft, rfl⟩ | ⟨between, rfl, hright⟩
  · have hm' : MixedAt g pre m between := by
      refine (mixedAt_iff hg).2 ⟨hmem, hpre, ?_⟩
      rw [← isWordAt_head?_append_cons hw (v := v)]
      exact hpost
    obtain ⟨hopen, hclose⟩ := hu g hg pre m between hleft hm'
    exact ⟨hopen, hclose.trans (by simp)⟩
  · have hm' : MixedAt g between m post := by
      refine (mixedAt_iff hg).2 ⟨hmem, ?_, hpost⟩
      rw [← isWordAt_getLast?_append_cons hw (u := u)]
      exact hpre
    obtain ⟨hopen, hclose⟩ := hv g hg between m post hright hm'
    exact ⟨hopen.trans ⟨u ++ [e], by simp⟩, hclose⟩

theorem AllCast.left (h : AllCast (u ++ e :: v)) (hw : Unicode.isWord e = false) (he : e ≠ ')') :
    AllCast u := by
  intro g hg pre m post hu hm
  obtain ⟨hmem, hpre, hpost⟩ := (mixedAt_iff hg).1 hm
  rw [← isWordAt_head?_append_cons hw (v := v)] at hpost
  obtain ⟨hopen, hclose⟩ := h g hg pre m (post ++ e :: v) (by simp [hu])
    ((mixedAt_iff hg).2 ⟨hmem, hpre, hpost⟩)
  refine ⟨hopen, ?_⟩
  cases post with
  | nil => exact absurd (by simpa using hclose) he.symm
  | cons c post => simpa using hclose

theorem AllCast.right (h : AllCast (u ++ e :: v)) (hw : Unicode.isWord e = false)
    (he : e ∉ castOpening) : AllCast v := by
  intro g hg pre m post hv hm
  obtain ⟨hmem, hpre, hpost⟩ := (mixedAt_iff hg).1 hm
  rw [← isWordAt_getLast?_append_cons hw (u := u)] at hpre
  obtain ⟨hopen, hclose⟩ := h g hg (u ++ e :: pre) m post (by simp [hv])
    ((mixedAt_iff hg).2 ⟨hmem, hpre, hpost⟩)
  exact ⟨suffix_of_suffix_append_cons he hopen, hclose⟩

end

/-! ### Texts without operators -/

def operatorChars : Text := "+-*/".toList

/-- The text has none of these characters. -/
def HasNoOperator (t : Text) : Prop := ∀ c ∈ operatorChars, c ∉ t

instance (t : Text) : Decidable (HasNoOperator t) :=
  List.decidableBAll (fun c => c ∉ t) operatorChars

/-- No mixed expression stands in the text. -/
def Unmixed (t : Text) : Prop :=
  ∀ f ∈ fieldAlphabet, ∀ pre m post, t = pre ++ m ++ post → ¬ MixedAt f pre m post

theorem Unmixed.allCast {t : Text} (h : Unmixed t) : AllCast t :=
  fun f hf pre m post he hm => (h f hf pre m post he hm).elim

theorem HasNoOperator.unmixed {t : Text} (ht : HasNoOperator t) : Unmixed t := by
  have all : (mixedOperators.all fun op => operatorChars.any fun c => c ∈ op) = true := by decide
  simp only [List.all_eq_true, List.any_eq_true, decide_eq_true_eq] at all
  rintro g - pre m post rfl hm
  obtain ⟨op, hop, x, -, rfl⟩ := mem_mixedTexts.1 hm.mem
  obtain ⟨c, hc, hcop⟩ := all op hop
  exact absurd (by simp [hcop]) (ht c hc)

theorem HasNoOperator.allCast {t : Text} (ht : HasNoOperator t) : AllCast t :=
  ht.unmixed.allCast

/-! ### The lines around the casts -/

theorem allCast_append_line_cons (u v : Text) :
    AllCast (u ++ '\n' :: v) ↔ AllCast u ∧ AllCast v :=
  ⟨fun h => ⟨h.left (by decide) (by decide), h.right (by decide) (by decide)⟩,
    fun ⟨hu, hv⟩ => hu.append_cons hv (by decide) (by decide)⟩

/-! ### The rules behind the casts -/

theorem allCast_helperLine {symbol : String} (h : Unmixed symbol.toList) :
    AllCast ('\n' :: helperLine symbol) := by
  have hpre : AllCast "\n#define cast(x) static_cast".toList := HasNoOperator.allCast (by decide)
  have hpost : AllCast "(x)".toList := HasNoOperator.allCast (by decide)
  have hsym : AllCast (symbol.toList ++ '>' :: "(x)".toList) :=
    h.allCast.append_cons hpost (by decide) (by decide)
  have := hpre.append_cons (e := '<') hsym (by decide) (by decide)
  simpa [helperLine, castHelper] using this

theorem allCast_castRules {s : Specialization} (hs : Unmixed s.profile.symbol.toList) (t : Text) :
    AllCast (Rule.rewrite s.castRules t) := by
  have hscope : AllCast scopeLine := HasNoOperator.allCast (by decide)
  rw [castRules_eq, Rule.rewrite_cons, Rule.rewrite_cons, Rule.rewrite_cons, Rule.rewrite_nil,
    apply_wrapRule, apply_helperRule, apply_scopeRule]
  have hnil : AllCast [] := HasNoOperator.allCast (by decide)
  exact Edit.addLine_induction allCast_append_line_cons hnil hscope
    (Edit.insertLines_induction allCast_append_line_cons (allCast_helperLine hs)
      (allCast_substituteAll t))

def streamed (f : Char) : Text := "<< ".toList ++ fieldOfV f

/-- The field is promoted before it is written. -/
def promoted (f : Char) : Text := "<< (int)".toList ++ fieldOfV f

theorem render_promoted {f : Char} (hf : f ∈ fieldAlphabet) :
    (Action.expand "<< (int)$field".toList).render ⟨streamed f, [("field", fieldOfV f)]⟩ =
      promoted f := by
  have hall : (fieldAlphabet.all fun f => (Action.expand "<< (int)$field".toList).render
      ⟨streamed f, [("field", fieldOfV f)]⟩ = promoted f) = true := by
    decide
  exact of_decide_eq_true (List.all_eq_true.1 hall f hf)

theorem eq_of_match?_streamedField {before : Option Char} {rest : Text} {h : Hit}
    (hm : streamedField.match? before rest = some h) :
    ∃ f ∈ fieldAlphabet, h = ⟨streamed f, [("field", fieldOfV f)]⟩ := by
  obtain ⟨r₁, _, rfl, h₁, rfl⟩ := Pattern.match?_text_cons_eq_some.1 hm
  obtain ⟨t, r₂, _, ht, rfl, h₂, rfl⟩ := Pattern.match?_oneOf_cons_eq_some.1 h₁
  obtain ⟨-, h₃⟩ := Pattern.match?_boundary_cons_eq_some.1 h₂
  obtain rfl := Option.some.inj h₃
  obtain ⟨f, hf, rfl⟩ := List.mem_map.1 (List.mem_of_find?_eq_some ht)
  exact ⟨f, hf, by simp [Hit.after, Part.text, streamed]⟩

theorem allCast_printable {t : Text} (ht : AllCast t) :
    AllCast (streamedField.replaceAll (Action.expand "<< (int)$field".toList).render t).1 := by
  have solid : streamedField.Solid := Pattern.solid_text_cons (by decide) _
  refine Pattern.replaceAll_invariant solid ?_ ht
  intro before written h rest hm hcast
  obtain ⟨f, hf, rfl⟩ := eq_of_match?_streamedField hm
  -- cut at the second `<` and at the space, where `(int)` comes between
  have hcast' : AllCast ((written ++ ['<']) ++ '<' :: ([] ++ ' ' :: (fieldOfV f ++ rest))) := by
    simpa [streamed] using hcast
  have hleft := hcast'.left (by decide) (by decide)
  have hright := (hcast'.right (by decide) (by decide)).right (by decide) (by decide)
  have hint : AllCast " (int".toList := HasNoOperator.allCast (by decide)
  have := hleft.append_cons (e := '<') (hint.append_cons (e := ')') hright (by decide) (by decide))
    (by decide) (by decide)
  rw [render_promoted hf]
  show AllCast (written ++ ("<< (int)".toList ++ fieldOfV f) ++ rest)
  simpa using this

theorem allCast_wide {t : Text} (ht : AllCast t) :
    AllCast ((literal "std::ostream&" "std::wostream&").apply t).1 := by
  refine Pattern.replaceAll_invariant (Pattern.solid_token (by decide)) ?_ ht
  intro before written h rest hm hcast
  obtain rfl := Pattern.eq_of_match?_token hm
  have hcast' :
      AllCast ((written ++ "std:".toList) ++ ':' :: ("ostream".toList ++ '&' :: rest)) := by
    simpa using hcast
  have hleft := hcast'.left (by decide) (by decide)
  have hright := (hcast'.right (by decide) (by decide)).right (by decide) (by decide)
  have hwide : AllCast "wostream".toList := HasNoOperator.allCast (by decide)
  have := hleft.append_cons (e := ':') (hwide.append_cons (e := '&') hright (by decide) (by decide))
    (by decide) (by decide)
  simpa [Action.render] using this

theorem allCast_of_mem_streamRules {r : Rule} (hr : r ∈ streamRules) {t : Text} (ht : AllCast t) :
    AllCast (r.apply t).1 := by
  simp only [streamRules, List.mem_cons, List.not_mem_nil, or_false] at hr
  rcases hr with rfl | rfl
  · exact allCast_printable ht
  · exact allCast_wide ht

theorem mem_streamRules_of_mem_lateRules {s : Specialization} (hs : s.keepExport = true)
    {kind : ArtifactKind} {r : Rule} (hr : r ∈ s.lateRules kind) : r ∈ streamRules := by
  obtain ⟨hr, happlies⟩ := List.mem_filter.1 hr
  rcases List.mem_append.1 hr with hr | hr
  · exact hr
  · obtain rfl := List.mem_singleton.1 hr
    simp [Rule.applies, context, hs] at happlies

/-- In the implementation of an element type that needs casts, the macro that casts is applied to
every mixed expression, unless there is one in the name of the type. -/
theorem castAround_of_run {s : Specialization}
    (hcategory : s.profile.category.needsNarrowingCast = true) (hexport : s.keepExport = true)
    (hsymbol : Unmixed s.profile.symbol.toList) {source out : Text}
    (hrun : s.run .implementation source = .ok out) {f : Char} (hf : f ∈ fieldAlphabet)
    {pre m post : Text} (hout : out = pre ++ m ++ post) (hm : MixedAt f pre m post) :
    castOpening <:+ pre ∧ [')'] <+: post := by
  have hcast : AllCast out := by
    rw [← rewrite_of_run hrun, rulesFor_of_castsIn ⟨rfl, hcategory⟩, Rule.rewrite_append,
      Rule.rewrite_append]
    exact Rule.rewrite_induction
      (fun r hr t ht => allCast_of_mem_streamRules (mem_streamRules_of_mem_lateRules hexport hr) ht)
      (allCast_castRules hsymbol _)
  exact hcast f hf pre m post hout hm

/-- A narrow element type, to be made from the default template. -/
def charSpecialization : Specialization where
  conventions := {}
  profile :=
    { symbol := "char", classTag := "c", fileTag := "C", defaultLiteral := "0", byteSize := 1
      range := "-128 to 127", includeLabel := "VectorC.h", category := .narrowInteger }

/-- An implementation with two mixed expressions on one line. -/
def charSource : Text :=
  ("#include \"VectorD.h\"\n// std::double_t Vector2d, Bytes: 8, " ++
    "Range: 1.7E +/- 308  precision: (15 digits)\na * v.a - b / number;\n").toList

def charFront : Text :=
  ("#include \"VectorC.h\"\n\n#define cast(x) static_cast<char>(x)\n" ++
    "// char Vector2c, Bytes: 1, Range: -128 to 127\ncast(a * v.a) - cast(").toList

theorem castAround_of_run_char :
    charSpecialization.run .implementation charSource =
      .ok (charFront ++ "b / number".toList ++ ");\n#undef cast\n".toList) ∧
    castOpening <:+ charFront ∧ [')'] <+: ");\n#undef cast\n".toList := by
  have hrun : charSpecialization.run .implementation charSource =
      .ok (charFront ++ "b / number".toList ++ ");\n#undef cast\n".toList) := by
    decide +kernel
  have hsymbol : Unmixed charSpecialization.profile.symbol.toList :=
    HasNoOperator.unmixed (by decide)
  have hm : MixedAt 'b' charFront "b / number".toList ");\n#undef cast\n".toList :=
    ⟨by decide, by decide +kernel, by decide⟩
  exact ⟨hrun, castAround_of_run rfl rfl hsymbol hrun (by decide) rfl hm⟩

end Specialization

end VectorFamily
