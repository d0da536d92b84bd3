import VectorFamily.Proofs.Pattern.Recognition

/-!
# Cutting a text between words

A scan that recognizes words goes through the two parts of a text one after the other if no word
goes over the cut (`Parted`). A part that ends itself can be followed by anything that starts no
word.
-/

namespace VectorFamily

open Piece (isWordAt)

/-- Behind `before`, no whole token of the list goes from `u` into `v`, and `v` does not start with
a word character. -/
structure Parted (words : List Text) (before : Option Char) (u v : Text) : Prop where
  back : isWordAt v.head? = false
  across : ∀ a b y, u = a ++ b → b ≠ [] → y ≠ [] → b ++ y ∈ words → y <+: v →
    ∀ after, ¬ WholeToken (a.getLast?.or before) (b ++ y) after

namespace Parted

variable {words : List Text} {before : Option Char} {a u v : Text}

theorem append (h : Parted words before (a ++ u) v) :
    Parted words (a.getLast?.or before) u v := by
  refine ⟨h.back, fun a' b y hu hb hy hmem hv after => ?_⟩
  have hover := h.across (a ++ a') b y (by rw [hu, List.append_assoc]) hb hy hmem hv after
  rwa [List.getLast?_append, Option.or_assoc] at hover

end Parted

namespace Pattern

variable {p : Pattern} {hits : List Hit} {before before' : Option Char} {u v : Text}

/-- Of the character in front only the kind counts. -/
theorem Recognizes.match?_congr (hp : p.Recognizes hits)
    (hb : isWordAt before = isWordAt before') (t : Text) : p.match? before t = p.match? before' t := by
  refine Option.ext fun h => ?_
  rw [hp, hp]
  refine and_congr_right fun _ => exists_congr fun post => and_congr_right fun _ => ?_
  exact ⟨.congr hb rfl, .congr hb.symm rfl⟩

theorem Recognizes.segmentsFrom_congr (hp : p.Recognizes hits)
    (hb : isWordAt before = isWordAt before') (stand : Stand) (t : Text) :
    segmentsFrom p before stand t = segmentsFrom p before' stand t := by
  cases t with
  | nil => cases stand <;> simp [segmentsFrom, hp.match?_congr hb]
  | cons c t => rcases stand with _ | _ | n <;> simp [segmentsFrom, hp.match?_congr hb]

/-- A character that is in no word, and no word character, stays in front of the rest. -/
theorem Recognizes.replaceAll_cons (hp : p.Recognizes hits) {d : Char}
    (hd : Unicode.isWord d = false) (hhits : ∀ h ∈ hits, h.text ≠ [] ∧ d ∉ h.text)
    (render : Hit → Text) (t : Text) :
    (p.replaceAll render (d :: t)).1 = d :: (p.replaceAll render t).1 := by
  have hskip : p.match? none (d :: t) = none := by
    refine Option.eq_none_iff_forall_ne_some.2 fun h hm => ?_
    obtain ⟨hmem, post, he, -⟩ := (hp _ _ _).1 hm
    obtain ⟨hne, hnot⟩ := hhits h hmem
    obtain ⟨c, u, hu⟩ := List.exists_cons_of_ne_nil hne
    rw [hu, List.cons_append] at he
    exact hnot (by simp [hu, (List.cons.inj he).1])
  have hkind : isWordAt (some d) = isWordAt none := hd
  rw [replaceAll_fst, replaceAll_fst, segments, segmentsFrom_skip hskip,
    hp.segmentsFrom_congr hkind]
  rfl

theorem replaceAll_token_cons {literal : Text} (hne : literal ≠ []) {d : Char}
    (hd : Unicode.isWord d = false) (hnot : d ∉ literal) (render : Hit → Text) (t : Text) :
    ((token literal).replaceAll render (d :: t)).1 =
      d :: ((token literal).replaceAll render t).1 :=
  (recognizes_token literal).replaceAll_cons hd (List.forall_mem_singleton.2 ⟨hne, hnot⟩) render t

/-- In front of a cut the pattern matches what it matches at the end of the text. -/
theorem Recognizes.match?_append (hp : p.Recognizes hits) (hb : isWordAt before = isWordAt before')
    (hcut : Parted (hits.map (·.text)) before u v) (hu : u ≠ []) :
    p.match? before (u ++ v) = p.match? before' u := by
  have hend : isWordAt v.head? = isWordAt none := hcut.back
  refine Option.ext fun h => ?_
  rw [hp, hp]
  refine and_congr_right fun hmem => ?_
  constructor
  · rintro ⟨post, hpost, hw⟩
    rcases List.append_eq_append_iff.1 hpost with ⟨y, hy, rfl⟩ | ⟨w, rfl, rfl⟩
    · by_cases hne : y = []
      · subst hne
        rw [List.append_nil] at hy
        exact ⟨[], by rw [hy, List.append_nil], hw.congr hb hend⟩
      · have hover := hcut.across [] u y rfl hu hne (hy ▸ List.mem_map_of_mem hmem)
          (List.prefix_append _ _) post.head?
        exact absurd (hy ▸ hw) hover
    · refine ⟨w, rfl, hw.congr hb ?_⟩
      cases w with
      | nil => exact hend
      | cons c w => rfl
  · rintro ⟨post, rfl, hw⟩
    refine ⟨post ++ v, List.append_assoc .., hw.congr hb.symm ?_⟩
    cases post with
    | nil => exact hend.symm
    | cons c post => rfl

/-- A scan goes through the parts one after the other. -/
theorem Recognizes.segmentsFrom_append (hp : p.Recognizes hits) (hsolid : p.Solid)
    (hb : isWordAt before = isWordAt before') (hcut : Parted (hits.map (·.text)) before u v) :
    segmentsFrom p before .apart (u ++ v) = segmentsFrom p before' .apart u ++
      segmentsFrom p (u.getLast?.or before) .apart v := by
  have bounded : ∀ n, ∀ (u : Text) (before before' : Option Char), u.length ≤ n →
      isWordAt before = isWordAt before' → Parted (hits.map (·.text)) before u v →
      segmentsFrom p before .apart (u ++ v) = segmentsFrom p before' .apart u ++
        segmentsFrom p (u.getLast?.or before) .apart v := by
    intro n
    induction n with
    | zero =>
      intro u before before' hn _ _
      obtain rfl : u = [] := List.length_eq_zero_iff.1 (by omega)
      simp [segmentsFrom_nil hsolid]
    | succ n ih =>
      intro u before before' hn hb hcut
      cases u with
      | nil => simp [segmentsFrom_nil hsolid]
      | cons c u =>
        have hmatch := hp.match?_append hb hcut (List.cons_ne_nil c u)
        cases hm : p.match? before' (c :: u) with
        | none =>
          rw [hm, List.cons_append] at hmatch
          have hrest := ih u (some c) (some c) (by simpa using hn) rfl
            (Parted.append (a := [c]) (u := u) hcut)
          rw [segmentsFrom_skip hm, List.cons_append, segmentsFrom_skip hmatch, hrest,
            getLast?_cons_or]
          rfl
        | some h =>
          obtain ⟨w, hw⟩ := prefix_of_match? hm
          have hne := hsolid _ _ _ hm
          rw [hm] at hmatch
          rw [← hw] at hmatch hm hcut hn ⊢
          rw [List.append_assoc] at hmatch
          have hlen := List.length_pos_iff.2 hne
          have hedge : isWordAt (h.text.getLast?.or before) =
              isWordAt (h.text.getLast?.or before') := by
            rw [List.getLast?_eq_some_getLast hne]
            rfl
          have hrest := ih w _ _ (by simp only [List.length_append] at hn; omega) hedge
            hcut.append
          rw [List.append_assoc, segmentsFrom_take hsolid hmatch, segmentsFrom_take hsolid hm,
            hrest, List.getLast?_append, Option.or_assoc]
          rfl
  exact bounded u.length u before before' (Nat.le_refl _) hb hcut

end Pattern

end VectorFamily
