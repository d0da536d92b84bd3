import VectorFamily.Proofs.Pattern.Cleared
import VectorFamily.Proofs.Specialization.CastsKept

/-!
# Fields that are written to a stream

The fields of narrow integers and wide characters would be written as characters, so each field that
is written to a stream is promoted, and the streams of wide characters become wide. What is put in
shares no character with what is looked for, so no field is left as it was, wherever it comes from
(`promoted_of_run`).
-/

namespace VectorFamily

open Piece (isWordAt)

namespace Specialization

/-- The matches of the pattern for fields that are written. -/
def streamedHits : List Hit := fieldAlphabet.map fun f => ⟨streamed f, [("field", fieldOfV f)]⟩

/-- The stream that wide characters cannot be written to. -/
def narrowStream : Text := "std::ostream&".toList

variable {f : Char} {t : Text}

/-- Only the end of a field is looked at. -/
theorem wholeToken_streamed_iff (hf : f ∈ fieldAlphabet) {before after : Option Char} :
    WholeToken before (streamed f) after ↔ isWordAt after = false := by
  have hends : (fieldAlphabet.all fun f => (streamed f).head?.any Pattern.isEdge = false ∧
      (streamed f).getLast?.any Pattern.isEdge = true ∧
      isWordAt (streamed f).getLast? = true) = true := by
    decide
  obtain ⟨hfront, hedge, hlast⟩ := of_decide_eq_true (List.all_eq_true.1 hends f hf)
  constructor
  · intro hw
    have hback := hw.back hedge
    rw [hlast] at hback
    simpa using hback.symm
  · intro hafter
    refine ⟨fun he => ?_, fun _ => by simp [hlast, hafter]⟩
    rw [hfront] at he
    cases he

theorem prefixFree_fieldOfV : PrefixFree (fieldAlphabet.map fieldOfV) := by decide

theorem recognizes_streamedField : streamedField.Recognizes streamedHits := by
  have hlast : ∀ f ∈ fieldAlphabet, ∀ c, isWordAt ((fieldOfV f).getLast?.or c) = true :=
    fun f hf _ => isWord_field hf
  intro before rest h
  simp only [streamedField, Part.choice, Part.named, Pattern.match?_text_cons_eq_some,
    Pattern.match?_oneOf_cons_eq_some, Pattern.match?_boundary_cons_eq_some]
  constructor
  · rintro ⟨_, _, rfl, ⟨_, post, _, hfield, rfl, ⟨hb, hend⟩, rfl⟩, rfl⟩
    obtain rfl := Option.some.inj hend
    obtain ⟨f, hf, rfl⟩ := List.mem_map.1 (List.mem_of_find?_eq_some hfield)
    rw [hlast f hf] at hb
    refine ⟨List.mem_map.2 ⟨f, hf, ?_⟩, post, ?_, ?_⟩
    · simp [Hit.after, Part.text, streamed]
    · simp [Hit.after, Part.text]
    · have hafter : WholeToken before (streamed f) post.head? :=
        (wholeToken_streamed_iff hf).2 (by simpa using hb.symm)
      simpa [Hit.after, Part.text, streamed] using hafter
  · rintro ⟨hmem, post, rfl, hw⟩
    obtain ⟨f, hf, rfl⟩ := List.mem_map.1 hmem
    have hafter := (wholeToken_streamed_iff hf).1 hw
    have hfind := prefixFree_fieldOfV.find?_isPrefixOf (List.mem_map_of_mem hf) post
    refine ⟨_, _, List.append_assoc .., ⟨_, post, _, hfind, rfl, ⟨?_, rfl⟩, rfl⟩, ?_⟩
    · rw [hlast f hf, hafter]
      simp
    · simp [Hit.after, Part.text, streamed]

/-- A promoted field looks like one that is not from both sides. -/
theorem covers_promoted {g : Char} (hf : f ∈ fieldAlphabet) (hg : g ∈ fieldAlphabet) (rest : Text) :
    Covers (streamed f) (streamed g) (promoted g) rest := by
  have hall : (fieldAlphabet.all fun f => fieldAlphabet.all fun g =>
      Text.Apart (streamed f) (promoted g)) = true := by
    decide +kernel
  have hapart : Text.Apart (streamed f) (promoted g) :=
    of_decide_eq_true (List.all_eq_true.1 (List.all_eq_true.1 hall f hf) g hg)
  have hne : promoted g ≠ [] := List.cons_ne_nil _ _
  have hhead : (promoted g).head? = (streamed g).head? := rfl
  have hlast : (promoted g).getLast? = (streamed g).getLast? := rfl
  exact ⟨hapart, hne, congrArg _ hhead, .inl (congrArg _ hlast)⟩

/-- A match does not start where the operator is promoted, so no field is left to promote. -/
theorem tokenFree_printable (hf : f ∈ fieldAlphabet) (t : Text) :
    TokenFree (streamed f) (printableRule.apply t).1 := by
  rw [apply_printableRule]
  refine recognizes_streamedField.tokenFree_replaceAll (Pattern.solid_text_cons (by decide) _)
    (w := ⟨streamed f, [("field", fieldOfV f)]⟩) (List.mem_map_of_mem hf)
    ⟨'<', rfl, .inr (by decide)⟩ fun before h rest hm => ?_
  obtain ⟨g, hg, rfl⟩ := List.mem_map.1 ((recognizes_streamedField _ _ _).1 hm).1
  rw [render_promoted hg]
  exact covers_promoted hf hg rest

/-! ### Wide streams -/

theorem firmFront_narrowStream : FirmFront narrowStream := ⟨'s', rfl, .inl (by decide)⟩

/-- A wide stream shares no character with a narrow one or with a field that is written. -/
theorem tokenFree_wide {l : Text} (hl : l ∈ narrowStream :: fieldAlphabet.map streamed)
    (ht : l = narrowStream ∨ TokenFree l t) : TokenFree l (wideRule.apply t).1 := by
  have hfirm : ∀ l ∈ narrowStream :: fieldAlphabet.map streamed, FirmFront l := by
    rintro l hl
    rcases List.mem_cons.1 hl with rfl | hl
    · exact firmFront_narrowStream
    · obtain ⟨f, -, rfl⟩ := List.mem_map.1 hl
      exact ⟨'<', rfl, .inr (by decide)⟩
  have hapart : ∀ l ∈ narrowStream :: fieldAlphabet.map streamed,
      Text.Apart l "std::wostream&".toList := by
    decide +kernel
  rw [apply_wideRule]
  exact Pattern.tokenFree_replaceAll_token (hfirm l hl) (by decide)
    (fun rest => ⟨hapart l hl, by decide, by decide, .inl (by decide)⟩) ht

/-! ### Runs -/

/-- Streams are printable for narrow integers and wide characters, and wide for the latter. -/
theorem lateRules_of_keepExport {s : Specialization} (kind : ArtifactKind)
    (hexport : s.keepExport = true) : s.lateRules kind =
      (if s.profile.category.needsPrintableStream then [printableRule] else []) ++
        if s.profile.category = .wideCharacter then [wideRule] else [] := by
  obtain ⟨c, ⟨symbol, classTag, fileTag, literal, size, range, label, category⟩, keep⟩ := s
  obtain rfl : keep = true := hexport
  cases category <;> cases kind <;> rfl

theorem tokenFree_streamed_of_run {s : Specialization}
    (hcategory : s.profile.category = .narrowInteger ∨ s.profile.category = .wideCharacter)
    (hexport : s.keepExport = true) {kind : ArtifactKind} {source out : Text}
    (hrun : s.run kind source = .ok out) :
    (∀ f ∈ fieldAlphabet, TokenFree (streamed f) out) ∧
      (s.profile.category = .wideCharacter → TokenFree narrowStream out) := by
  -- the rules before the streams leave some text, whatever it is
  obtain ⟨t, ht⟩ : ∃ t, out = Rule.rewrite (s.lateRules kind) t := by
    rw [← rewrite_of_run hrun, rulesFor_eq, Rule.rewrite_append]
    exact ⟨_, rfl⟩
  rcases hcategory with hnarrow | hwide
  · rw [ht, lateRules_of_keepExport kind hexport, hnarrow]
    exact ⟨fun f hf => tokenFree_printable hf t, nofun⟩
  · rw [ht, lateRules_of_keepExport kind hexport, hwide]
    refine ⟨fun f hf => ?_, fun _ => tokenFree_wide List.mem_cons_self (.inl rfl)⟩
    exact tokenFree_wide (List.mem_cons_of_mem _ (List.mem_map_of_mem hf))
      (.inr (tokenFree_printable hf t))

/-- In the output for narrow integers and wide characters a word goes on behind every field of `v`
that is written to a stream as it is, so it is no field; and for wide characters a word ends in
front of every narrow stream. -/
theorem promoted_of_run {s : Specialization}
    (hcategory : s.profile.category = .narrowInteger ∨ s.profile.category = .wideCharacter)
    (hexport : s.keepExport = true) {kind : ArtifactKind} {source out : Text}
    (hrun : s.run kind source = .ok out) :
    (∀ f ∈ fieldAlphabet, ∀ pre post, out = pre ++ "<< v.".toList ++ [f] ++ post →
      isWordAt post.head? = true) ∧
    (s.profile.category = .wideCharacter → ∀ pre post,
      out = pre ++ "std::ostream&".toList ++ post → isWordAt pre.getLast? = true) := by
  obtain ⟨hfields, hstreams⟩ := tokenFree_streamed_of_run hcategory hexport hrun
  refine ⟨fun f hf pre post hout => ?_, fun hwide pre post hout => ?_⟩
  · by_contra hend
    refine hfields f hf pre post (by simpa [streamed, fieldOfV] using hout) ?_
    exact (wholeToken_streamed_iff hf).2 (Bool.not_eq_true _ ▸ hend)
  · by_contra hstart
    have hs : isWordAt narrowStream.head? = true := by decide
    refine hstreams hwide pre post hout ⟨fun _ => ?_, fun he => absurd he (by decide)⟩
    rw [hs]
    exact hstart

/-- A wide element type, to be made from the default template. -/
def wideSpecialization : Specialization where
  conventions := {}
  profile :=
    { symbol := "wchar_t", classTag := "w", fileTag := "W", defaultLiteral := "0", byteSize := 2
      range := "0 to 65535", includeLabel := "VectorW.h", category := .wideCharacter }

def wideSource : Text :=
  ("std::double_t Vector2d 0.0 Bytes: 8 Range: 1.7E +/- 308  precision: (15 digits)\n" ++
    "std::ostream& xstd::ostream& << v.x<< v.y << (int)v.a << v.xs").toList

def wideOutput : Text :=
  ("wchar_t Vector2w 0 Bytes: 2 Range: 0 to 65535\n" ++
    "std::wostream& xstd::ostream& << (int)v.x<< (int)v.y << (int)v.a << v.xs").toList

theorem promoted_of_run_wide : wideSpecialization.run .interface wideSource = .ok wideOutput ∧
    (∀ f ∈ fieldAlphabet, ∀ pre post, wideOutput = pre ++ "<< v.".toList ++ [f] ++ post →
      isWordAt post.head? = true) ∧
    ∀ pre post, wideOutput = pre ++ "std::ostream&".toList ++ post →
      isWordAt pre.getLast? = true := by
  have hrun : wideSpecialization.run .interface wideSource = .ok wideOutput := by decide +kernel
  obtain ⟨hfields, hstreams⟩ := promoted_of_run (.inr rfl) rfl hrun
  exact ⟨hrun, hfields, hstreams rfl⟩

end Specialization

end VectorFamily
