import VectorFamily.Proofs.GenericHeader.Functions
import VectorFamily.Proofs.GenericHeader.Placeholders
import VectorFamily.Proofs.Pattern.Cleared
import VectorFamily.Proofs.Rule.Joined

/-!
# Pairs that have a generic header

The check behind the rules never fails for the stream operators, and for a section only if it names
the class of another arity. So the generic header of an accepted pair is rendered if its markers are
plain, each section qualifies a member and names no other class, and the stream operators hold what
their rules look for (`exists_render`).
-/

namespace VectorFamily

open Piece (isWordAt)
open VectorFamily.Specialization (TokenFree)

/-! ### Tokens without blanks -/

section
variable {l t u : Text} (hne : l ≠ []) (hl : ∀ c ∈ l, Unicode.isBlank c = false)
include hne hl

theorem tokenFree_of_isAllBlank (ht : Text.isAllBlank t = true) : TokenFree l t := by
  obtain ⟨c, l, rfl⟩ := List.exists_cons_of_ne_nil hne
  exact tokenFree_of_not_mem List.mem_cons_self
    (Text.not_mem_of_isAllBlank ht (hl c List.mem_cons_self))

theorem tokenFree_append_blank_iff {b : Text} (hb : Text.isAllBlank b = true) :
    TokenFree l (t ++ b) ↔ TokenFree l t := by
  cases b with
  | nil => rw [List.append_nil]
  | cons c b =>
    obtain ⟨hc, hb⟩ := Bool.and_eq_true_iff.1 hb
    have hcl : c ∉ l := fun h => absurd hc (by rw [hl c h]; decide)
    rw [tokenFree_append_cons hne hcl (isWord_of_isBlank hc)]
    exact and_iff_left (tokenFree_of_isAllBlank hne hl hb)

theorem tokenFree_blank_append_iff {b : Text} (hb : Text.isAllBlank b = true) :
    TokenFree l (b ++ t) ↔ TokenFree l t := by
  induction b with
  | nil => rfl
  | cons c b ih =>
    obtain ⟨hc, hb⟩ := Bool.and_eq_true_iff.1 hb
    have hcl : c ∉ l := fun h => absurd hc (by rw [hl c h]; decide)
    have hcut := tokenFree_append_cons hne hcl (u := []) (v := b ++ t) (isWord_of_isBlank hc)
    rw [List.nil_append] at hcut
    rw [List.cons_append, hcut, ih hb]
    exact and_iff_right (tokenFree_nil hne)

theorem tokenFree_trimEnd_iff : TokenFree l t.trimEnd ↔ TokenFree l t := by
  obtain ⟨b, hb, ht⟩ := Text.exists_trimEnd_append t
  conv_rhs => rw [ht]
  exact (tokenFree_append_blank_iff hne hl hb).symm

theorem tokenFree_cut_iff (t u : Text) : TokenFree l (t ++ '\n' :: u) ↔
    TokenFree l t ∧ TokenFree l u := by
  have hnewline : '\n' ∉ l := fun h => absurd (hl _ h) (by decide)
  exact tokenFree_append_cons hne hnewline (isWord_of_isBlank rfl)

theorem tokenFree_lines_iff : TokenFree l t ↔ ∀ x ∈ t.lines, TokenFree l x := by
  induction t using Text.rows_induction with
  | row t ht =>
    by_cases hnil : t = []
    · simp [hnil, tokenFree_nil hne]
    · simp [Text.lines_of_not_mem hnil ht]
  | cut t u ht ih =>
    rw [Text.lines_append_newline ht, tokenFree_cut_iff hne hl, ih, List.forall_mem_cons,
      tokenFree_append_blank_iff hne hl (b := ['\n']) (by decide)]

theorem tokenFree_indentedLine_iff : TokenFree l (Text.indentedLine t) ↔ TokenFree l t := by
  obtain ⟨e, he, ht⟩ := Text.exists_lineContent_append t
  have hcontent : TokenFree l t ↔ TokenFree l (Text.lineContent t) := by
    conv_lhs => rw [ht]
    exact tokenFree_append_blank_iff hne hl he
  rw [hcontent, Text.indentedLine]
  split
  · next hblank => exact iff_of_true (tokenFree_nil hne) (tokenFree_of_isAllBlank hne hl hblank)
  · exact tokenFree_blank_append_iff hne hl (b := ['\t']) (by decide)

/-- Indenting neither makes nor breaks a token without blanks. -/
theorem tokenFree_indented_iff : TokenFree l t.indented ↔ TokenFree l t := by
  by_cases hnil : t.lines = []
  · have ht : t = [] := by rw [← Text.flatten_lines t, hnil]; rfl
    rw [ht]
    exact iff_of_true (tokenFree_nil hne) (tokenFree_nil hne)
  · have hjoin : t.indented = Text.join (t.lines.map Text.indentedLine) := rfl
    rw [hjoin, Text.forall_join_iff (P := TokenFree l) (tokenFree_cut_iff hne hl) (by simpa using hnil),
      tokenFree_lines_iff hne hl, List.forall_mem_map]
    exact forall₂_congr fun x _ => tokenFree_indentedLine_iff hne hl

end

namespace GenericHeader

/-! ### The element type -/

theorem isWord_className {n : Nat} (hn : n ∈ arities) :
    IsWord (Conventions.className {} n).toList ∧ IsWord (Conventions.genericClassName {} n).toList := by
  have hne : (Conventions.genericClassName {} n).toList ≠ [] := by
    simp [Conventions.genericClassName]
  exact ⟨⟨className_ne_nil hn, isAsciiWord_of_mem_className hn⟩,
    ⟨hne, isAsciiWord_of_mem_genericClassName hn⟩⟩

theorem covers_symbol {name : String} (hname : name ∈ Conventions.canonicalNames {}) (rest : Text) :
    Covers name.toList ({} : Conventions).symbol.toList ({} : Conventions).genericParameter.toList
      rest := by
  have hapart : ∀ name ∈ Conventions.canonicalNames {},
      Text.Apart name.toList ({} : Conventions).genericParameter.toList := by
    decide
  exact ⟨hapart name hname, by decide, by decide, .inl (by decide)⟩

/-- The element type is gone once the type parameter has taken its place, and no class name comes of
it. -/
theorem tokenFree_replace_symbol {name : String} (hname : name ∈ Conventions.canonicalNames {})
    {t : Text} (ht : name = ({} : Conventions).symbol ∨ TokenFree name.toList t) :
    TokenFree name.toList ((Pattern.token ({} : Conventions).symbol.toList).replaceAll
      (fun _ => ({} : Conventions).genericParameter.toList) t).1 := by
  have hhead : ∀ name ∈ Conventions.canonicalNames {}, isWordAt name.toList.head? = true := by
    decide
  exact Pattern.tokenFree_replaceAll_token (firmFront_of_isWordAt (hhead _ hname)) (by decide)
    (covers_symbol hname) (ht.imp_left (congrArg String.toList))

/-! ### Sections -/

def qualifierWord (n : Nat) : Text := (Conventions.className {} n).toList ++ [':', ':']

section
variable {n : Nat} (hn : n ∈ arities) {t : Text}
include hn

theorem wholeToken_qualifierWord_iff {before after : Option Char} :
    WholeToken before (qualifierWord n) after ↔ isWordAt before = false := by
  have hedge : ∀ n ∈ arities, (qualifierWord n).head?.any Pattern.isEdge = true ∧
      isWordAt (qualifierWord n).head? = true ∧
      (qualifierWord n).getLast?.any Pattern.isEdge = false := by
    decide
  obtain ⟨hhead, hword, hlast⟩ := hedge n hn
  constructor
  · intro hw
    have hfront := hw.front hhead
    rw [hword] at hfront
    exact Bool.eq_false_iff.2 hfront
  · intro hb
    refine ⟨fun _ => ?_, fun he => ?_⟩
    · rw [hb, hword]
      exact Bool.false_ne_true
    · rw [hlast] at he
      cases he

theorem recognizes_qualifier : (qualifier {} n).Recognizes [⟨qualifierWord n, []⟩] := by
  have hword := (isWord_className hn).1
  have hcolon : isWordAt (some ':') = false := by decide
  intro before rest h
  rw [qualifier, Pattern.match?_token_append_eq_some, List.mem_singleton]
  simp only [hword.wholeToken_iff]
  constructor
  · rintro ⟨_, _, rfl, ⟨hb, -⟩, hm, rfl⟩
    obtain ⟨post, _, rfl, hend, rfl⟩ := Pattern.match?_text_cons_eq_some.1 hm
    obtain rfl := Option.some.inj hend
    exact ⟨rfl, post, by simp [Hit.after, Part.text],
      (wholeToken_qualifierWord_iff hn).2 hb⟩
  · rintro ⟨rfl, post, rfl, hw⟩
    refine ⟨"::".toList ++ post, ⟨"::".toList, []⟩, by simp [qualifierWord],
      ⟨(wholeToken_qualifierWord_iff hn).1 hw, hcolon⟩, ?_, rfl⟩
    exact Pattern.match?_text_cons_eq_some.2 ⟨post, _, rfl, rfl, rfl⟩

/-- Members lose their qualifier without another class name coming of it. -/
theorem tokenFree_delete_qualifier {l : Text} (hl : IsWord l) (ht : TokenFree l t) :
    TokenFree l ((qualifier {} n).replaceAll (fun _ => []) t).1 := by
  have hends : ∀ n ∈ arities, isWordAt (qualifierWord n).head? = true ∧
      isWordAt (qualifierWord n).getLast? = false := by
    decide
  refine Pattern.tokenFree_replaceAll solid_qualifier hl.firmFront (fun read post he hw => ?_)
    fun read written h rest hc hm => ?_
  · exact absurd hw (ht read post (by rw [he, List.append_assoc]))
  · obtain ⟨hmem, _, -, hw⟩ := (recognizes_qualifier hn _ _ _).1 hm
    obtain rfl := List.mem_singleton.1 hmem
    rw [List.append_nil]
    exact hc.delete hl ((wholeToken_qualifierWord_iff hn).1 hw) (hends n hn).1 (hends n hn).2

/-- Of a section that names no other class no canonical name is left. -/
theorem tokenFree_rewrite_substitutionRules
    (ht : ∀ k ∈ arities, k ≠ n → TokenFree (Conventions.className {} k).toList t) {name : String}
    (hname : name ∈ Conventions.canonicalNames {}) :
    TokenFree name.toList (Rule.rewrite (substitutionRules {} n) t) := by
  rw [rewrite_substitutionRules]
  refine tokenFree_replace_symbol hname ?_
  rcases List.mem_append.1 hname with hclass | hsymbol
  · obtain ⟨k, hk, rfl⟩ := List.mem_map.1 hclass
    have hdiffers : ∀ k ∈ arities, ∀ n ∈ arities,
        (Conventions.className {} k).toList ≠ (Conventions.genericClassName {} n).toList := by
      decide
    have hl := (isWord_className hk).1
    refine .inr (Pattern.tokenFree_rename hl (isWord_className hn).1 (isWord_className hn).2
      (hdiffers k hk n hn) ?_)
    by_cases hkn : k = n
    · exact .inl (by rw [hkn])
    · exact .inr (tokenFree_delete_qualifier hn hl (ht k hk hkn))
  · exact .inl (List.mem_singleton.1 hsymbol)

end

/-- The section qualifies a member of its class, and it names no other class. -/
structure Generalizable (n : Nat) (t : Text) : Prop where
  qualified : ¬ TokenFree (qualifierWord n) t
  alone : ∀ k ∈ arities, k ≠ n → TokenFree (Conventions.className {} k).toList t

theorem tokenFree_defaultConstructor {n : Nat} (hn : n ∈ arities) {name : String}
    (hname : name ∈ Conventions.canonicalNames {}) (t : Text) :
    TokenFree name.toList
      (defaultConstructor (indentOf t) (Conventions.genericClassName {} n).toList) := by
  have hblanks : ∀ name ∈ Conventions.canonicalNames {},
      name.toList.all (!Unicode.isBlank ·) = true := by
    decide
  simp only [List.all_eq_true, Bool.not_eq_true'] at hblanks
  have hrest : ∀ n ∈ arities, ∀ name ∈ Conventions.canonicalNames {},
      ¬ name.toList <:+: defaultConstructor [] (Conventions.genericClassName {} n).toList := by
    decide +kernel
  have hindent : Text.isAllBlank (indentOf t) = true :=
    isAllBlank_of_indent fun _ hc => List.mem_takeWhile_imp hc
  have hcut : defaultConstructor (indentOf t) (Conventions.genericClassName {} n).toList =
      indentOf t ++ defaultConstructor [] (Conventions.genericClassName {} n).toList := by
    simp [defaultConstructor]
  rw [hcut, tokenFree_blank_append_iff (name_ne_nil hname) (hblanks name hname) hindent]
  exact tokenFree_of_absent (hrest n hn name hname)

section
variable {interface implementation : Text} {m : Master}
  (hm : Master.ofSources {} interface implementation = .ok m)
include hm

theorem exists_fragment (hplain : PlainlyMarked {} m.implementation) {r : Region}
    (hr : r ∈ m.layout.regions) (h : Generalizable r.arity (m.regionText r)) :
    ∃ f, fragment {} m r = .ok f := by
  have hn := arity_mem hm hr
  obtain ⟨l, -, -, x, hrow, hx, -⟩ := exists_marker_row hm hr
  obtain ⟨a, b, -, ha, hb, rfl⟩ := exists_blanks_of_marker hx
  have hsource : ∀ l : Text, l ≠ [] → (∀ c ∈ l, Unicode.isBlank c = false) →
      (TokenFree l (sectionSource (m.regionText r)) ↔ TokenFree l (m.regionText r)) := by
    intro l hne hl
    rw [sectionSource, tokenFree_indented_iff hne hl, tokenFree_trimEnd_iff hne hl]
  have hqualified : (qualifier {} r.arity).occursIn (sectionSource (m.regionText r)) = true := by
    have hword : ∀ n ∈ arities, qualifierWord n ≠ [] ∧
        (qualifierWord n).all (!Unicode.isBlank ·) = true := by
      decide
    simp only [List.all_eq_true, Bool.not_eq_true'] at hword
    have hnone := (recognizes_qualifier hn).find?_eq_none_iff
      (t := sectionSource (m.regionText r))
    rw [List.forall_mem_singleton, hsource _ (hword _ hn).1 (hword _ hn).2] at hnone
    rw [Pattern.occursIn, Option.isSome_iff_ne_none, ne_eq, hnone]
    exact h.qualified
  obtain ⟨u, hu⟩ := (exists_applyAll_iff_occursIn hn ha hb hrow).2 hqualified
  -- the constructor finds its place, since that is the one thing that could be missing
  have hplaced : Rule.applyAll target .implementation
      (sectionRules {} r.arity (m.regionText r)) (sectionSource (m.regionText r)) =
        .ok ((constructorRule {} r.arity (indentOf (sectionSource (m.regionText r)))).apply u).1 := by
    refine Rule.applyAll_append_eq_ok hu (Rule.applyAll_cons_eq_ok_iff.2 ⟨fun _ hmissing => ?_, rfl⟩)
    refine generalize_ne_constructorMissing hm hr hplain (bind_eq_error.2 (.inl ?_))
    show Rule.applyAll target .implementation (substitutionRules {} r.arity ++
      [constructorRule {} r.arity (indentOf (sectionSource (m.regionText r)))])
        (sectionSource (m.regionText r)) = _
    rw [Rule.applyAll_append]
    exact bind_eq_error.2 (.inr ⟨u, hu,
      bind_eq_error.2 (.inl (Rule.applyChecked_eq_error_iff.2 ⟨hmissing, rfl, rfl⟩))⟩)
  refine ⟨⟨r.arity, _, _⟩, fragment_eq_ok_iff.2 ⟨rewrite_eq_ok_iff.2 ⟨hplaced,
    forall_placeholders_iff.2 fun name hname => ?_⟩, rfl, rfl⟩⟩
  refine Edit.insertLines_induction (P := TokenFree name.toList)
    (fun _ _ => tokenFree_append_newline hname) (tokenFree_defaultConstructor hn hname _) ?_
  rw [← Rule.rewrite_of_applyAll hu]
  refine tokenFree_rewrite_substitutionRules hn (fun k hk hkn => ?_) hname
  exact (hsource _ (isWord_className hk).1.ne (isWord_className hk).1.isBlank).2 (h.alone k hk hkn)

theorem exists_fragments (hplain : PlainlyMarked {} m.implementation)
    (h : ∀ r ∈ m.layout.regions, Generalizable r.arity (m.regionText r)) :
    ∃ fs, fragments {} m = .ok fs :=
  exists_mapM_eq_ok fun r hr => exists_fragment hm hplain hr (h r hr)

end

/-! ### Stream operators -/

theorem tokenFree_replace_classNames {n : Nat} (hn : n ∈ arities) (t : Text) :
    TokenFree (Conventions.className {} n).toList ((Conventions.classNamePattern {}).replaceAll
      (fun h => h.expand (Conventions.classNameTemplate {} ('<' ::
        Expansion.protect ({} : Conventions).genericParameter.toList ++ ['>']))) t).1 := by
  have hapart : ∀ n ∈ arities, ∀ k ∈ arities, Text.Apart (Conventions.className {} n).toList
      ((Conventions.genericClassName {} k).toList ++ "<T>".toList) := by
    decide
  have hfront : ∀ k ∈ arities,
      isWordAt ((Conventions.genericClassName {} k).toList ++ "<T>".toList).head? =
        isWordAt (Conventions.className {} k).toList.head? := by
    decide
  have hhit : (⟨(Conventions.className {} n).toList, [("arity", (toString n).toList)]⟩ : Hit) ∈
      Conventions.classNameHits {} :=
    List.mem_map_of_mem hn
  have hhead : isWordAt (Conventions.className {} n).toList.head? = true := by
    rw [head?_className hn]
    exact isWord_of_isAsciiWord (c := 'V') rfl
  refine Conventions.recognizes_classNamePattern.tokenFree_replaceAll
    (Conventions.recognizes_classNamePattern.solid (by decide)) hhit (firmFront_of_isWordAt hhead)
    fun before h rest hm => ?_
  obtain ⟨hmem, post, hpost, hw⟩ := (Conventions.recognizes_classNamePattern _ _ _).1 hm
  obtain rfl := List.append_cancel_left hpost
  obtain ⟨k, hk, htext, hexpand⟩ := expand_classArgument hmem
  rw [htext] at hw ⊢
  rw [hexpand]
  exact ⟨hapart n hn k hk, by simp, hfront k hk,
    .inr ((Conventions.wholeToken_className_iff hk).1 hw).2⟩

theorem tokenFree_rewrite_helperRules {name : String} (hname : name ∈ Conventions.canonicalNames {})
    (t : Text) : TokenFree name.toList (Rule.rewrite (helperRules {}) t) := by
  rw [rewrite_helperRules]
  refine tokenFree_replace_symbol hname ?_
  rcases List.mem_append.1 hname with hclass | hsymbol
  · obtain ⟨n, hn, rfl⟩ := List.mem_map.1 hclass
    exact .inr (tokenFree_replace_classNames hn _)
  · exact .inl (List.mem_singleton.1 hsymbol)

theorem helpers_eq_ok {m : Master} {u : Text}
    (h : Rule.applyAll target .implementation (helperRules {}) m.helpersText.trimEnd = .ok u) :
    helpers {} m = .ok u := by
  refine rewrite_eq_ok_iff.2 ⟨h, forall_placeholders_iff.2 fun name hname => ?_⟩
  rw [← Rule.rewrite_of_applyAll h]
  exact tokenFree_rewrite_helperRules hname _

/-! ### The header -/

/-- The generic header of an accepted pair is rendered if its parts can be made generic. -/
theorem exists_render {interface implementation : Text} {m : Master}
    (hm : Master.ofSources {} interface implementation = .ok m)
    (hplain : PlainlyMarked {} m.implementation)
    (hsections : ∀ r ∈ m.layout.regions, Generalizable r.arity (m.regionText r))
    (hhelpers : ∃ u, Rule.applyAll target .implementation (helperRules {}) m.helpersText.trimEnd =
      .ok u) : ∃ a, render {} m = .ok a := by
  obtain ⟨fs, hfs⟩ := exists_fragments hm hplain hsections
  obtain ⟨u, hu⟩ := hhelpers
  exact ⟨_, bind_eq_ok.2 ⟨fs, hfs, bind_eq_ok.2 ⟨u, helpers_eq_ok hu, rfl⟩⟩⟩

end GenericHeader

end VectorFamily
