import VectorFamily.Placeholder
import VectorFamily.Proofs.Pattern.Find
import VectorFamily.Proofs.Specialization.Export
import VectorFamily.Proofs.Text.Occurrence

/-!
# Patterns that recognize words

A pattern that recognizes a list of words matches just where one of them stands as a whole token.
Such a pattern is not found in a text just if the text is free of the words, and a text is free of a
word just if its parts are, when what separates them cannot belong to the word.
-/

namespace VectorFamily

open Piece (isWordAt)
open VectorFamily.Specialization (TokenFree)

/-! ### Texts that are free of a token -/

section
variable {l t u v : Text}

theorem tokenFree_nil (hne : l ≠ []) : TokenFree l [] := by
  intro pre post he
  simp [hne] at he

theorem tokenFree_of_not_mem {e : Char} (hl : e ∈ l) (ht : e ∉ t) : TokenFree l t := by
  rintro pre post rfl
  simp [hl] at ht

theorem tokenFree_of_absent (h : ¬ l <:+: t) : TokenFree l t :=
  fun pre post he _ => h ⟨pre, post, he.symm⟩

theorem isWordAt_head?_append_cons {e : Char} (he : Unicode.isWord e = false) (t u : Text) :
    isWordAt (t ++ e :: u).head? = isWordAt t.head? := by
  cases t with
  | nil => exact he
  | cons c t => rfl

theorem isWordAt_getLast?_cons {e : Char} (he : Unicode.isWord e = false) (t u : Text) :
    isWordAt (u ++ e :: t).getLast? = isWordAt t.getLast? := by
  cases t with
  | nil => simpa [isWordAt] using he
  | cons c t => simp [List.getLast?_append, List.getLast?_cons]

/-- A separator confines the whole tokens of a text to its two sides. -/
theorem tokenFree_append_cons (hne : l ≠ []) {e : Char} (hl : e ∉ l)
    (he : Unicode.isWord e = false) :
    TokenFree l (u ++ e :: v) ↔ TokenFree l u ∧ TokenFree l v := by
  constructor
  · refine fun h => ⟨fun pre post hu hw => ?_, fun pre post hv hw => ?_⟩
    · exact h pre (post ++ e :: v) (by simp [hu])
        (hw.congr rfl (isWordAt_head?_append_cons he post v).symm)
    · exact h (u ++ e :: pre) post (by simp [hv])
        (hw.congr (isWordAt_getLast?_cons he pre u).symm rfl)
  · rintro ⟨hu, hv⟩ pre post hsplit hw
    rcases Text.append_cons_cases hne hl hsplit with ⟨w, hu', rfl⟩ | ⟨w, rfl, hv'⟩
    · exact hu pre w hu' (hw.congr rfl (isWordAt_head?_append_cons he w v))
    · exact hv w post hv' (hw.congr (isWordAt_getLast?_cons he w u) rfl)

end

/-! ### Recognition -/

namespace Pattern

/-- The pattern matches just where one of the words stands as a whole token. -/
def Recognizes (p : Pattern) (words : List Hit) : Prop :=
  ∀ before rest h, p.match? before rest = some h ↔
    h ∈ words ∧ ∃ post, rest = h.text ++ post ∧ WholeToken before h.text post.head?

theorem recognizes_token (literal : Text) : (token literal).Recognizes [⟨literal, []⟩] := by
  intro before rest h
  rw [match?_token_eq_some, List.mem_singleton]
  constructor
  · rintro ⟨post, rfl, hw, rfl⟩
    exact ⟨rfl, post, rfl, hw⟩
  · rintro ⟨rfl, post, rfl, hw⟩
    exact ⟨post, rfl, hw, rfl⟩

namespace Recognizes

variable {p : Pattern} {words : List Hit} (hp : p.Recognizes words)
include hp

theorem solid (hwords : ∀ w ∈ words, w.text ≠ []) : p.Solid :=
  fun before rest h hm => hwords h ((hp before rest h).1 hm).1

theorem find?_eq_none_iff {t : Text} :
    p.find? t = none ↔ ∀ w ∈ words, TokenFree w.text t := by
  rw [Pattern.find?_eq_none_iff]
  constructor
  · rintro h w hw pre post rfl hwhole
    have hm := (hp pre.getLast? (w.text ++ post) w).2 ⟨hw, post, rfl, hwhole⟩
    rw [h pre (w.text ++ post) (List.append_assoc ..)] at hm
    cases hm
  · rintro h u v rfl
    refine Option.eq_none_iff_forall_ne_some.2 fun w hm => ?_
    obtain ⟨hw, post, rfl, hwhole⟩ := (hp _ _ _).1 hm
    exact h w hw u post (List.append_assoc ..).symm hwhole

end Recognizes

/-- Where the pattern matches, one of the words stands as a whole token. -/
def StartsWith (p : Pattern) (words : List Text) : Prop :=
  ∀ before rest h, p.match? before rest = some h →
    ∃ l ∈ words, ∃ post, rest = l ++ post ∧ WholeToken before l post.head?

theorem StartsWith.find?_eq_none {p : Pattern} {words : List Text} (hp : p.StartsWith words)
    {t : Text} (ht : ∀ l ∈ words, TokenFree l t) : p.find? t = none := by
  refine Pattern.find?_eq_none_of_forall fun u v h huv hm => ?_
  obtain ⟨l, hl, post, rfl, hw⟩ := hp _ _ _ hm
  exact ht l hl u post (by rw [huv, List.append_assoc]) hw

theorem find?_token_eq_none_iff {l t : Text} : (token l).find? t = none ↔ TokenFree l t := by
  simp [(recognizes_token l).find?_eq_none_iff]

end Pattern

instance (l t : Text) : Decidable (TokenFree l t) :=
  decidable_of_iff _ Pattern.find?_token_eq_none_iff

/-! ### Class names -/

namespace Conventions

/-- The canonical class names, as the pattern for them matches them. -/
def classNameHits (c : Conventions) : List Hit :=
  arities.map fun n => ⟨(c.className n).toList, [("arity", (toString n).toList)]⟩

theorem toList_className (c : Conventions) (n : Nat) : (c.className n).toList =
    c.classPrefix.toList ++ ((toString n).toList ++ c.classTag.toList) := by
  simp [className, genericClassName]

/-- No arity is read for another one. -/
theorem find?_arityDigits {n : Nat} (hn : n ∈ arities) (post : Text) :
    arityDigits.find? (·.isPrefixOf ((toString n).toList ++ post)) = some (toString n).toList := by
  have hdigits : PrefixFree arityDigits := by decide
  have hmem : ∀ n ∈ arities, (toString n).toList ∈ arityDigits := by decide
  exact hdigits.find?_isPrefixOf (hmem n hn) post

section
variable {c : Conventions} (hlead : IsWord c.classPrefix.toList) (htag : IsWord c.classTag.toList)
include hlead htag

theorem isWord_className {n : Nat} (hn : n ∈ arities) : IsWord (c.className n).toList := by
  have hdigits : ∀ n ∈ arities, (toString n).toList.all Unicode.isAsciiWord = true := by decide
  rw [toList_className]
  refine ⟨by simp [hlead.ne], fun d hd => ?_⟩
  rcases List.mem_append.1 hd with hd | hd
  · exact hlead.chars d hd
  rcases List.mem_append.1 hd with hd | hd
  · exact List.all_eq_true.1 (hdigits n hn) d hd
  · exact htag.chars d hd

/-- Where prefix and tag are words, class names are matched as whole tokens. -/
theorem recognizes_classNamePattern_of_isWord :
    c.classNamePattern.Recognizes c.classNameHits := by
  have hfront {before : Option Char} {rest : Text} :
      isWordAt before ≠ isWordAt (c.classPrefix.toList ++ rest).head? ↔
        isWordAt before = false := by
    rw [hlead.isWordAt_head?, ne_eq, Bool.not_eq_true]
  have hback {d : Option Char} {post : Text} :
      isWordAt (c.classTag.toList.getLast?.or d) ≠ isWordAt post.head? ↔
        isWordAt post.head? = false := by
    have hlast := htag.isWordAt_getLast? []
    rw [List.nil_append, List.getLast?_eq_some_getLast htag.ne] at hlast
    rw [List.getLast?_eq_some_getLast htag.ne, Option.some_or, hlast, ne_eq, eq_comm,
      Bool.not_eq_true]
  intro before rest h
  simp only [classNamePattern, Part.choice, Part.named, Pattern.match?_boundary_cons_eq_some,
    Pattern.match?_text_cons_eq_some, Pattern.match?_oneOf_cons_eq_some]
  constructor
  · rintro ⟨hb, _, _, rfl, ⟨digits, _, _, hdigits, rfl, ⟨post, _, rfl, ⟨ha, hend⟩, rfl⟩, rfl⟩, rfl⟩
    obtain rfl := Option.some.inj hend
    obtain ⟨n, hn, rfl⟩ := List.mem_map.1 (List.mem_of_find?_eq_some hdigits)
    have hn : n ∈ arities := List.mem_reverse.1 hn
    have htext : c.classPrefix.toList ++ ((toString n).toList ++ (c.classTag.toList ++ [])) =
        (c.className n).toList := by
      rw [toList_className, List.append_nil]
    refine ⟨List.mem_map.2 ⟨n, hn, ?_⟩, post, ?_, ?_⟩
    · simp [Hit.after, Part.text, toList_className]
    · simp [Hit.after, Part.text]
    · simp only [Hit.after, htext]
      exact (isWord_className hlead htag hn).wholeToken_iff.2 ⟨hfront.1 hb, hback.1 ha⟩
  · rintro ⟨hmem, post, rfl, hw⟩
    obtain ⟨n, hn, rfl⟩ := List.mem_map.1 hmem
    obtain ⟨hb, ha⟩ := (isWord_className hlead htag hn).wholeToken_iff.1 hw
    simp only [toList_className, List.append_assoc]
    refine ⟨hfront.2 hb, _, _, rfl, ⟨_, _, _, find?_arityDigits hn _, rfl,
      ⟨post, _, rfl, ⟨hback.2 ha, rfl⟩, rfl⟩, rfl⟩, ?_⟩
    simp [Hit.after, Part.text]

end

theorem isWord_classPrefix : IsWord (classPrefix {}).toList :=
  ⟨by decide, List.all_eq_true.1 (by decide)⟩

theorem isWord_classTag : IsWord (classTag {}).toList :=
  ⟨by decide, List.all_eq_true.1 (by decide)⟩

theorem wholeToken_className_iff {before after : Option Char} {n : Nat} (hn : n ∈ arities) :
    WholeToken before (className {} n).toList after ↔
      isWordAt before = false ∧ isWordAt after = false :=
  (isWord_className isWord_classPrefix isWord_classTag hn).wholeToken_iff

theorem recognizes_classNamePattern :
    (classNamePattern {}).Recognizes (classNameHits {}) :=
  recognizes_classNamePattern_of_isWord isWord_classPrefix isWord_classTag

end Conventions

end VectorFamily
