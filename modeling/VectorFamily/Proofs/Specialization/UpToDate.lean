import VectorFamily.Proofs.Pattern.Cleared
import VectorFamily.Proofs.Specialization.PrunedRows

/-!
# Texts that stay up to date

A text without outdated tokens is up to date. The rules behind pruning keep it so: a cast and a
promotion are set around text that stays, and no token shares a character with what they put in; the
lines of the macro are free of tokens themselves; and the export token is not there to be deleted.
-/

namespace VectorFamily

open Piece (isWordAt)

namespace Specialization

/-- No token stands in the text that a run must not leave. -/
def UpToDate (p : Profile) (t : Text) : Prop := ∀ l, Outdated p l → TokenFree l t

variable {p : Profile} {keep : Bool} {kind : ArtifactKind} {t u v : Text}

theorem upToDate_append_newline : UpToDate p (u ++ '\n' :: v) ↔ UpToDate p u ∧ UpToDate p v := by
  have hcut {l : Text} (hl : Outdated p l) :
      TokenFree l (u ++ '\n' :: v) ↔ TokenFree l u ∧ TokenFree l v := by
    have hall : ∀ l ∈ Slot.tokens, l ≠ [] ∧ '\n' ∉ l := by decide
    obtain ⟨hne, hnewline⟩ := hall l hl.mem
    exact tokenFree_append_cons hne hnewline (isWord_of_isBlank rfl)
  exact ⟨fun h => ⟨fun l hl => ((hcut hl).1 (h l hl)).1, fun l hl => ((hcut hl).1 (h l hl)).2⟩,
    fun ⟨hu, hv⟩ l hl => (hcut hl).2 ⟨hu l hl, hv l hl⟩⟩

theorem upToDate_nil : UpToDate p [] :=
  fun _ hl => tokenFree_nil (Slot.ne_nil_of_mem_words (Slot.mem_words_of_mem_tokens _ hl.mem))

theorem upToDate_join {rs : List Text} (hrs : ∀ t ∈ rs, UpToDate p t) :
    UpToDate p (Text.join rs) := by
  by_cases hne : rs = []
  · subst hne
    exact upToDate_nil
  · exact (Text.forall_join_iff (fun _ _ => upToDate_append_newline) hne).2 hrs

/-- Replacing keeps a text up to date if everything that is put in covers every token. -/
theorem upToDate_substituteAll {action : Action} {ps : List Pattern}
    (hps : ∀ q ∈ ps, q.Solid ∧ ∀ l ∈ Slot.tokens, ∀ before h rest,
      q.match? before (h.text ++ rest) = some h → Covers l h.text (action.render h) rest)
    (ht : UpToDate p t) : UpToDate p (Edit.substituteAll action ps t).1 := by
  induction ps generalizing t with
  | nil => exact ht
  | cons q ps ih =>
    obtain ⟨⟨hsolid, hcovers⟩, hps⟩ := List.forall_mem_cons.1 hps
    rw [Edit.substituteAll_cons_fst]
    refine ih hps fun l hl => ?_
    have hhead := (Slot.words_ne_nil l (Slot.mem_words_of_mem_tokens l hl.mem)).1
    exact Pattern.tokenFree_replaceAll_of_tokenFree hsolid (firmFront_of_isWordAt hhead)
      (hcovers l hl.mem) (ht l hl)

/-! ### Casts -/

theorem apart_cast : ∀ l ∈ Slot.tokens, ∀ f ∈ fieldAlphabet, ∀ m ∈ mixedTexts f,
    Text.Apart l (castOpening ++ m ++ [')']) := by
  have hopening : ∀ l ∈ Slot.tokens, Text.Apart l castOpening ∧ l ≠ [] ∧
      (mixedChars ++ [')']).all (l.head? != some ·) = true := by
    decide
  intro l hl f hf m hm
  obtain ⟨hapart, hne, hhead⟩ := hopening l hl
  simp only [List.all_eq_true, bne_iff_ne] at hhead
  rw [List.append_assoc]
  refine hapart.append (Text.not_overlap_of_head hne fun c hc => hhead c ?_)
  rcases List.mem_append.1 hc with hc | hc
  · exact List.mem_append_left _ (mem_mixedChars hf hm hc)
  · exact List.mem_append_right _ hc

theorem upToDate_wrap (ht : UpToDate p t) : UpToDate p (wrapRule.apply t).1 := by
  rw [apply_wrapRule]
  refine upToDate_substituteAll (fun q hq => ?_) ht
  obtain ⟨f, hf, rfl⟩ := List.mem_map.1 hq
  refine ⟨solid_mixedExpression f, fun l hl before h rest hm => ?_⟩
  obtain ⟨m, hmem, post, he, -, hpost, rfl⟩ := (match?_mixedExpression_eq_some hf).1 hm
  obtain rfl := List.append_cancel_left he
  refine ⟨apart_cast l hl f hf m hmem, by simp [castAction, Action.render], ?_, .inr hpost⟩
  obtain ⟨w, rfl⟩ := exists_cons_cons_of_mem_mixedTexts hmem
  show isWordAt (some 'c') = isWordAt (some f)
  rw [show isWordAt (some f) = true from isWord_field hf]
  decide

/-- What stands in front of the element type in the line that defines the macro. -/
def helperFront : Text := "#define cast(x) static_cast<".toList

def helperBack : Text := ">(x)".toList

theorem helperLine_eq (symbol : String) :
    helperLine symbol = helperFront ++ symbol.toList ++ helperBack := by
  rw [helperLine, String.toList_append, String.toList_append]
  rfl

theorem upToDate_helperLine (hp : Suited p) : UpToDate p (helperLine p.symbol) := by
  have hsealed : sealedFrom Slot.words false (around helperFront .symbol helperBack) = true := by
    decide
  have hmark : (Slot.symbol, Slot.symbol.canonical) ∈ Slot.marks := by decide
  intro l hl
  have hword := Slot.mem_words_of_mem_tokens l hl.mem
  have hline : helperLine p.symbol = fill (slotValue p) (around helperFront .symbol helperBack) := by
    rw [fill_around, helperLine_eq]
    rfl
  rw [hline, tokenFree_fill_iff hword (Slot.ne_nil_of_mem_words hword) (fun n hn => ?_) hsealed]
  · intro s hs
    rw [slot_mem_around_iff.1 hs]
    exact tokenFree_slotValue hp hl hmark (by decide)
  · cases slot_mem_around_iff.1 hn

theorem upToDate_of_absent (h : ∀ l ∈ Slot.tokens, ¬ l <:+: t) : UpToDate p t :=
  fun l hl => tokenFree_of_absent (h l hl.mem)

theorem upToDate_castRules (hp : Suited p) (ht : UpToDate p t) :
    UpToDate p (Rule.rewrite (castRules ⟨{}, p, keep⟩) t) := by
  have hnil : ('\n' :: helperLine p.symbol) = [] ++ '\n' :: helperLine p.symbol := rfl
  have hhelper : UpToDate p ('\n' :: helperLine p.symbol) := by
    rw [hnil, upToDate_append_newline]
    exact ⟨upToDate_nil, upToDate_helperLine hp⟩
  have hscope : UpToDate p scopeLine := upToDate_of_absent (by decide +kernel)
  rw [castRules_eq, Rule.rewrite_cons, Rule.rewrite_cons, Rule.rewrite_cons, Rule.rewrite_nil,
    apply_helperRule, apply_scopeRule]
  exact Edit.addLine_induction (fun _ _ => upToDate_append_newline) upToDate_nil hscope
    (Edit.insertLines_induction (fun _ _ => upToDate_append_newline) hhelper (upToDate_wrap ht))

/-! ### Streams -/

theorem upToDate_printable (ht : UpToDate p t) : UpToDate p (printableRule.apply t).1 := by
  have hopening : ∀ l ∈ Slot.tokens, Text.Apart l "<< (int)".toList ∧ l ≠ [] ∧
      fieldAlphabet.all (fun f => (fieldOfV f).all (l.head? != some ·)) = true := by
    decide
  simp only [List.all_eq_true, bne_iff_ne] at hopening
  rw [apply_printableRule, ← Edit.substituteAll_singleton]
  refine upToDate_substituteAll (fun q hq => ?_) ht
  obtain rfl := List.mem_singleton.1 hq
  refine ⟨Pattern.solid_text_cons (by decide) _, fun l hl before h rest hm => ?_⟩
  obtain ⟨f, hf, rfl⟩ := eq_of_match?_streamedField hm
  obtain ⟨hapart, hne, hhead⟩ := hopening l hl
  rw [render_promoted hf]
  exact ⟨hapart.append (Text.not_overlap_of_head hne (hhead f hf)), List.cons_ne_nil _ _, rfl,
    .inl rfl⟩

theorem upToDate_wide (ht : UpToDate p t) : UpToDate p (wideRule.apply t).1 := by
  have hapart : ∀ l ∈ Slot.tokens, Text.Apart l "std::wostream&".toList := by decide
  rw [apply_wideRule, ← Edit.substituteAll_singleton]
  refine upToDate_substituteAll (fun q hq => ?_) ht
  obtain rfl := List.mem_singleton.1 hq
  refine ⟨Pattern.solid_token (by decide), fun l hl before h rest hm => ?_⟩
  rw [Pattern.eq_of_match?_token hm]
  exact ⟨hapart l hl, by decide, by decide, .inl (by decide)⟩

/-! ### The export token -/

theorem outdated_exportWord : Outdated p Slot.exportWord := by
  have hall : Slot.exportWord ∈ Slot.tokens ∧ ∀ e ∈ Slot.marks, e.2 ≠ Slot.exportWord := by decide
  exact ⟨hall.1, fun e he _ _ => hall.2 e he⟩

/-- In a text that is up to date there is no export token to delete. -/
theorem find?_exportPattern_of_upToDate (ht : UpToDate p t) :
    (exportPattern {}).find? t = none :=
  find?_exportPattern_of_tokenFree (ht _ outdated_exportWord)

theorem upToDate_export (ht : UpToDate p t) : UpToDate p ((exportRule {}).apply t).1 := by
  rw [apply_exportRule, Pattern.replaceAll_of_find?_none (find?_exportPattern_of_upToDate ht)]
  exact ht

theorem upToDate_lateRules (ht : UpToDate p t) :
    UpToDate p (Rule.rewrite (lateRules ⟨{}, p, keep⟩ kind) t) := by
  refine Rule.rewrite_induction (fun r hr u hu => ?_) ht
  have hr := (List.mem_filter.1 hr).1
  rw [streamRules_eq, exportRules_eq] at hr
  simp only [List.cons_append, List.nil_append, List.mem_cons, List.not_mem_nil, or_false] at hr
  rcases hr with rfl | rfl | rfl
  · exact upToDate_printable hu
  · exact upToDate_wide hu
  · exact upToDate_export hu

/-! ### The check at the end -/

/-- The canonical text of a slot is outdated if the profile has another value for the slot. -/
theorem outdated_canonical {s : Slot} (hs : (s, s.canonical) ∈ Slot.marks) (hne : s ≠ .closedLiteral)
    (hvalue : slotValue p s ≠ s.canonical) : Outdated p s.canonical := by
  have hunique : ∀ e ∈ Slot.marks, ∀ e' ∈ Slot.marks, e.2 = e'.2 → e.1 = e'.1 := by decide
  refine ⟨Slot.mark_mem_tokens hs hne, fun e he _ hsame htext => hvalue ?_⟩
  have hslot : e.1 = s := hunique e he _ hs htext
  rw [← hslot, hsame, ← (Slot.canonical_of_mem_marks e he).1]

theorem slotValue_className_ne (hp : Suited p) (n : Nat) :
    slotValue p (.className n) ≠ Slot.canonical (.className n) := by
  rw [canonical_className]
  exact fun h => hp.classTag_ne (String.toList_inj.1 (List.append_cancel_left h))

/-- What a run checks for at its end is not there. -/
theorem checkPlaceholders_of_upToDate (hp : Suited p) (ht : UpToDate p t) (target : String) :
    checkPlaceholders target kind t (placeholders ⟨{}, p, keep⟩) = .ok () := by
  have hclass : ({} : Conventions).classNamePattern.find? t = none := by
    have hmarks : ∀ n ∈ arities,
        (Slot.className n, Slot.canonical (.className n)) ∈ Slot.marks := by decide
    rw [Conventions.recognizes_classNamePattern.find?_eq_none_iff]
    intro w hw
    obtain ⟨n, hn, rfl⟩ := List.mem_map.1 hw
    exact ht _ (outdated_canonical (hmarks n hn) (by simp) (slotValue_className_ne hp n))
  have hvalue {placeholder value : String} {s : Slot} (hs : (s, s.canonical) ∈ Slot.marks)
      (hne : s ≠ .closedLiteral) (hplaceholder : placeholder.toList = s.canonical)
      (hvalue : value.toList = slotValue p s) (h : placeholder ≠ value) :
      (Pattern.token placeholder.toList).find? t = none := by
    rw [Pattern.find?_token_eq_none_iff, hplaceholder]
    refine ht _ (outdated_canonical hs hne fun he => h ?_)
    exact String.toList_inj.1 (by rw [hplaceholder, hvalue, he])
  rw [checkPlaceholders_eq_ok_iff, placeholders, List.forall_mem_cons, List.forall_mem_map]
  refine ⟨hclass, fun r hr => ?_⟩
  obtain ⟨hr, hne⟩ := List.mem_filter.1 hr
  have hne : r.1 ≠ r.2 := by simpa using hne
  simp only [replacements, List.mem_cons, List.not_mem_nil, or_false] at hr
  rcases hr with rfl | rfl | rfl | rfl | rfl
  · exact hvalue (s := .symbol) (by decide) (by decide) rfl rfl hne
  · exact hvalue (s := .literal) (by decide) (by decide) rfl rfl hne
  · exact hvalue (s := .byteSize) (by decide) (by decide) rfl rfl hne
  · exact hvalue (s := .range) (by decide) (by decide) rfl rfl hne
  · exact hvalue (s := .includeLabel) (by decide) (by decide) rfl rfl hne

end Specialization

end VectorFamily
