import VectorFamily.Proofs.Pattern.Recognition

/-!
# Texts that become free of a token

While matches are replaced, a text is `Cleared` of a token as far as it has been written: the token
does not start there, and what is still to be read stands behind a character of the same kind as
before. The end of the scan is a text without the token. What takes the place of a match must not
share a character with the token and must look like the match at its ends (`Cleared.take`), or the
match is a word that goes away as a whole (`Cleared.delete`) or becomes another word
(`Cleared.rename`).
-/

namespace VectorFamily

open Piece (isWordAt)
open VectorFamily.Specialization (TokenFree)

/-- The token starts nowhere in what has been written, and what is still to be read stands behind a
character of the same kind as before, or starts no word. -/
structure Cleared (l read written rest : Text) : Prop where
  free : ∀ pre post, written ++ rest = pre ++ l ++ post → pre.length < written.length →
    ¬ WholeToken pre.getLast? l post.head?
  edge : isWordAt written.getLast? = isWordAt read.getLast? ∨ isWordAt rest.head? = false

/-- The token starts with a word character, or with one that asks for no word boundary. -/
def FirmFront (l : Text) : Prop :=
  ∃ c, l.head? = some c ∧ (Unicode.isWord c = true ∨ Pattern.isEdge c = false)

theorem firmFront_of_isWordAt {l : Text} (h : isWordAt l.head? = true) : FirmFront l := by
  cases hl : l.head? with
  | none =>
    rw [hl] at h
    cases h
  | some c =>
    rw [hl] at h
    exact ⟨c, hl, .inl h⟩

theorem FirmFront.ne {l : Text} (h : FirmFront l) : l ≠ [] := by
  rintro rfl
  obtain ⟨c, hc, -⟩ := h
  cases hc

theorem IsWord.firmFront {w : Text} (hw : IsWord w) : FirmFront w := by
  have h := hw.isWordAt_head? []
  rw [List.append_nil] at h
  exact firmFront_of_isWordAt h

/-- What takes the place of `m` in front of `rest` shares no character with the token and looks like
`m` from both sides. -/
structure Covers (l m r rest : Text) : Prop where
  apart : Text.Apart l r
  ne : r ≠ []
  front : isWordAt r.head? = isWordAt m.head?
  back : isWordAt r.getLast? = isWordAt m.getLast? ∨ isWordAt rest.head? = false

namespace Cleared

variable {l read written rest m : Text}

theorem skip {d : Char} (hl : FirmFront l) (h : Cleared l read written (d :: rest))
    (hd : ∀ post, d :: rest = l ++ post → ¬ WholeToken read.getLast? l post.head?) :
    Cleared l (read ++ [d]) (written ++ [d]) rest := by
  have hne := hl.ne
  refine ⟨fun pre post he hlt hw => ?_, .inl (by simp)⟩
  have he' : written ++ d :: rest = pre ++ l ++ post := by simpa using he
  by_cases hpre : pre.length < written.length
  · exact h.free pre post he' hpre hw
  -- a token that starts at the position would have been met in what was read
  have hlen : written.length = pre.length := by
    simp only [List.length_append, List.length_singleton] at hlt
    omega
  rw [List.append_assoc] at he'
  obtain ⟨rfl, hrest⟩ := List.append_inj he' hlen
  rcases h.edge with hedge | hedge
  · exact hd post hrest (hw.congr hedge rfl)
  obtain ⟨c, hc, hword | hplain⟩ := hl
  · rw [hrest, List.head?_append_of_ne_nil _ hne, hc] at hedge
    exact absurd (hedge.symm.trans hword) (by simp)
  · refine hd post hrest ⟨fun he => ?_, hw.back⟩
    rw [hc, Option.any_some, hplain] at he
    cases he

theorem take {r : Text} (hl : l ≠ []) (h : Cleared l read written (m ++ rest)) (hm : m ≠ [])
    (hr : Covers l m r rest) : Cleared l (read ++ m) (written ++ r) rest := by
  refine ⟨fun pre post he hlt hw => ?_, ?_⟩
  · rcases hr.apart.le_or_le he.symm with hle | hle
    · -- the token ends within what was written before, so it was there
      rw [List.append_assoc, List.append_assoc] at he
      obtain ⟨w, rfl⟩ : pre ++ l <+: written := by
        refine List.prefix_of_prefix_length_le ⟨post, ?_⟩ ⟨r ++ rest, rfl⟩ (by simpa using hle)
        rw [he, List.append_assoc]
      obtain rfl : w ++ (r ++ rest) = post := by simpa using he
      have hlen := List.length_pos_iff.2 hl
      refine h.free pre (w ++ (m ++ rest)) (by simp) (by simp; omega) (hw.congr rfl ?_)
      cases w with
      | nil =>
        rw [List.nil_append, List.nil_append, List.head?_append_of_ne_nil _ hr.ne,
          List.head?_append_of_ne_nil _ hm, hr.front]
      | cons c w => rfl
    · rw [List.length_append] at hlt
      omega
  · rw [List.getLast?_append_of_ne_nil _ hr.ne, List.getLast?_append_of_ne_nil _ hm]
    exact hr.back

/-- A token that is a word does not come of a word being taken out. -/
theorem delete (hl : IsWord l) (h : Cleared l read written (m ++ rest))
    (hfront : isWordAt read.getLast? = false) (hm : isWordAt m.head? = true)
    (hback : isWordAt m.getLast? = false) : Cleared l (read ++ m) written rest := by
  have hmne : m ≠ [] := by
    rintro rfl
    cases hm
  have hwritten : isWordAt written.getLast? = false := by
    rcases h.edge with hedge | hedge
    · rw [hedge, hfront]
    · rw [List.head?_append_of_ne_nil _ hmne, hm] at hedge
      cases hedge
  refine ⟨fun pre post he hlt hw => ?_, .inl ?_⟩
  · -- the token would end in a word, or go on beyond one
    obtain ⟨x, rfl⟩ : ∃ x, written = pre ++ x := by
      rw [List.append_assoc] at he
      obtain ⟨x, hx⟩ := List.prefix_of_prefix_length_le ⟨_, he.symm⟩ ⟨_, rfl⟩ (Nat.le_of_lt hlt)
      exact ⟨x, hx.symm⟩
    have hx : x ≠ [] := by
      rintro rfl
      simp at hlt
    have he' : x ++ rest = l ++ post := by simpa using he
    rcases List.append_eq_append_iff.1 he' with ⟨a, rfl, -⟩ | ⟨a, rfl, rfl⟩
    · have hinner : IsWord x := ⟨hx, fun c hc => hl.chars c (List.mem_append_left _ hc)⟩
      rw [hinner.isWordAt_getLast?] at hwritten
      cases hwritten
    · cases a with
      | nil =>
        rw [List.append_nil, hl.isWordAt_getLast?] at hwritten
        cases hwritten
      | cons c a =>
        exact h.free pre (c :: a ++ (m ++ rest)) (by simp) hlt (hw.congr rfl rfl)
  · rw [hwritten, List.getLast?_append_of_ne_nil _ hmne, hback]

/-- A token that is a word does not come of another word taking the place of a whole one. -/
theorem rename {r : Text} (hl : IsWord l) (hr : IsWord r) (hlr : l ≠ r) (hm : IsWord m)
    (hwhole : WholeToken read.getLast? m rest.head?) (h : Cleared l read written (m ++ rest)) :
    Cleared l (read ++ m) (written ++ r) rest := by
  obtain ⟨hread, hrest⟩ := hm.wholeToken_iff.1 hwhole
  have hwritten : isWordAt written.getLast? = false := by
    rcases h.edge with hedge | hedge
    · rw [hedge, hread]
    · rw [hm.isWordAt_head?] at hedge
      cases hedge
  refine ⟨fun pre post he hlt hw => ?_, .inl ?_⟩
  · obtain ⟨hfront, hback⟩ := hl.wholeToken_iff.1 hw
    rcases Text.occurrence_cases he with ⟨w, hpre, rfl⟩ | ⟨l₁, l₂, hl₁, -, rfl, rfl, -⟩ |
      ⟨d, x, hx, rfl, rfl, hxl⟩ | ⟨w, rfl, -⟩
    · -- the token was there before
      refine h.free pre (w ++ (m ++ rest)) (by simp [hpre]) ?_ (hw.congr rfl ?_)
      · have := List.length_pos_iff.2 hl.ne
        simp only [hpre, List.length_append]
        omega
      · cases w with
        | nil => rw [List.nil_append, List.nil_append, hr.isWordAt_head?, hm.isWordAt_head?]
        | cons c w => rfl
    · -- the token would go on from a word
      have hfirst : IsWord l₁ := ⟨hl₁, fun c hc => hl.chars c (List.mem_append_left _ hc)⟩
      rw [hfirst.isWordAt_getLast?] at hwritten
      cases hwritten
    · -- the token starts where the word does, and ends where it does
      have hd : d = [] := by
        by_contra hd
        have hinner : IsWord d := ⟨hd, fun c hc => hr.chars c (List.mem_append_left _ hc)⟩
        rw [hinner.isWordAt_getLast?] at hfront
        cases hfront
      rw [hd, List.nil_append] at hlr hr
      exact hlr (eq_of_words_append hl hr hback hrest hxl.symm)
    · rw [List.length_append, List.length_append] at hlt
      omega
  · rw [hr.isWordAt_getLast?, hm.isWordAt_getLast?]

end Cleared

namespace Pattern

variable {p : Pattern} {render : Hit → Text} {l t : Text}

/-- A text becomes free of a token if each of its tokens is matched and no step of the scan makes a
new one. -/
theorem tokenFree_replaceAll (hp : p.Solid) (hl : FirmFront l)
    (matched : ∀ read post, t = read ++ (l ++ post) → WholeToken read.getLast? l post.head? →
      p.match? read.getLast? (l ++ post) ≠ none)
    (step : ∀ read written h rest, Cleared l read written (h.text ++ rest) →
      p.match? read.getLast? (h.text ++ rest) = some h →
      Cleared l (read ++ h.text) (written ++ render h) rest) :
    TokenFree l (p.replaceAll render t).1 := by
  have walk : t = t ++ [] ∧ Cleared l t (p.replaceAll render t).1 [] := by
    refine replaceAll_induction hp
      (motive := fun read written rest => t = read ++ rest ∧ Cleared l read written rest)
      ?skip ?take ?start
    case start => exact ⟨rfl, ⟨by simp, .inl rfl⟩⟩
    case skip =>
      rintro read written d rest ⟨ht, h⟩ hm
      refine ⟨by simpa using ht, h.skip hl fun post hpost hw => ?_⟩
      rw [hpost] at ht hm
      exact matched read post ht hw hm
    case take =>
      rintro read written h rest ⟨ht, hc⟩ hm
      exact ⟨by simpa using ht, step read written h rest hc hm⟩
  intro pre post he hw
  refine walk.2.free pre post (by simpa using he) ?_ hw
  have := List.length_pos_iff.2 hl.ne
  simp only [he, List.length_append]
  omega

/-- A text stays free of a token that everything put in covers. -/
theorem tokenFree_replaceAll_of_tokenFree (hp : p.Solid) (hl : FirmFront l)
    (covers : ∀ before h rest, p.match? before (h.text ++ rest) = some h →
      Covers l h.text (render h) rest) (ht : TokenFree l t) :
    TokenFree l (p.replaceAll render t).1 := by
  refine tokenFree_replaceAll hp hl (fun read post he hw => ?_) fun read written h rest hc hm => ?_
  · exact absurd hw (ht read post (by rw [he, List.append_assoc]))
  · exact hc.take hl.ne (hp _ _ _ hm) (covers _ h rest hm)

/-- Where all words are replaced by something that covers them, none is left. -/
theorem Recognizes.tokenFree_replaceAll {words : List Hit} (hrec : p.Recognizes words)
    (hp : p.Solid) {w : Hit} (hw : w ∈ words) (hl : FirmFront w.text)
    (covers : ∀ before h rest, p.match? before (h.text ++ rest) = some h →
      Covers w.text h.text (render h) rest) :
    TokenFree w.text (p.replaceAll render t).1 := by
  refine Pattern.tokenFree_replaceAll hp hl (fun read post he hwhole hm => ?_)
    fun read written h rest hc hm => ?_
  · rw [(hrec _ _ w).2 ⟨hw, post, rfl, hwhole⟩] at hm
    cases hm
  · exact hc.take hl.ne (hp _ _ _ hm) (covers _ h rest hm)

/-- Where a word is replaced by something that covers it, the word is gone, and so is every other
token that was not there and is covered. -/
theorem tokenFree_replaceAll_token {m r : Text} (hl : FirmFront l) (hm : m ≠ [])
    (covers : ∀ rest, Covers l m r rest) (ht : l = m ∨ TokenFree l t) :
    TokenFree l ((token m).replaceAll (fun _ => r) t).1 := by
  have hcovers : ∀ before h rest, (token m).match? before (h.text ++ rest) = some h →
      Covers l h.text r rest := by
    intro before h rest hmatch
    rw [eq_of_match?_token hmatch]
    exact covers rest
  rcases ht with rfl | ht
  · exact (recognizes_token _).tokenFree_replaceAll (solid_token hm) (List.mem_singleton_self _)
      hl hcovers
  · exact tokenFree_replaceAll_of_tokenFree (solid_token hm) hl hcovers ht

/-- Where a word is replaced by another one, no third word comes of it, and the first is gone. -/
theorem tokenFree_rename {m r : Text} (hl : IsWord l) (hm : IsWord m) (hr : IsWord r) (hlr : l ≠ r)
    (ht : l = m ∨ TokenFree l t) : TokenFree l ((token m).replaceAll (fun _ => r) t).1 := by
  refine tokenFree_replaceAll (solid_token hm.ne) hl.firmFront (fun read post he hw hnone => ?_)
    fun read written h rest hc hmatch => ?_
  · rcases ht with rfl | ht
    · rw [match?_token_eq_some.2 ⟨post, rfl, hw, rfl⟩] at hnone
      cases hnone
    · exact ht read post (by rw [he, List.append_assoc]) hw
  · obtain ⟨post, hpost, hw, rfl⟩ := match?_token_eq_some.1 hmatch
    obtain rfl := List.append_cancel_left hpost
    exact hc.rename hl hr hlr hm hw

end Pattern

end VectorFamily
