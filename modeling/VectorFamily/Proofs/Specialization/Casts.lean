import VectorFamily.Proofs.Specialization.Mixed
import VectorFamily.Proofs.Specialization.Rules
import VectorFamily.Proofs.Text.Occurrence

/-!
# Casts around mixed expressions

The patterns of the fields run one after another. While one of them runs, `Casting` holds: in the
part that has been written the mixed expressions of its field are cast, and everywhere those of the
fields before it are. A cast is set around one expression at a time, and `castAround_of_cast` says
that the others are left alone: they stand in front of it or behind it, since no expression
straddles the start of a cast and none but the cast one starts inside.
-/

namespace VectorFamily

open Piece (isWordAt)
open Text (occurrence_cases)

namespace Specialization

/-- The macro that casts is applied to what stands between `pre` and `post`. -/
def CastAround (pre post : Text) : Prop := castOpening <:+ pre ∧ [')'] <+: post

/-- The mixed expressions of the field `f` that start before the position `n` are cast. -/
def CastBefore (n : Nat) (f : Char) (t : Text) : Prop :=
  ∀ pre m post, t = pre ++ m ++ post → pre.length < n → MixedAt f pre m post → CastAround pre post

def Cast (f : Char) (t : Text) : Prop :=
  ∀ pre m post, t = pre ++ m ++ post → MixedAt f pre m post → CastAround pre post

/-! ### Setting a cast -/

/-- Where the start of a cast is cut, the word goes on, or the `t` of its name was the last. -/
theorem castOpening_cut {m c : Text} (h : castOpening = m ++ c) (hm : m ≠ []) (hc : c ≠ []) :
    isWordAt c.head? = true ∨ m.getLast? = some 't' := by
  have cut : ∀ n < 5, 0 < n → isWordAt (castOpening.drop n).head? = true ∨
      (castOpening.take n).getLast? = some 't' := by decide
  have hlen : m.length + c.length = 5 := by
    rw [← List.length_append, ← h]
    rfl
  have hc' := List.length_pos_iff.2 hc
  have := cut m.length (by omega) (List.length_pos_iff.2 hm)
  rwa [h, List.drop_left, List.take_left] at this

theorem paren_not_mem {g : Char} (hg : g ∈ fieldAlphabet) {m : Text} (hm : m ∈ mixedTexts g) :
    '(' ∉ m := by
  intro hc
  have := mem_mixedChars hg hm hc
  revert this
  decide

/-- No mixed expression ends within the start of a cast that is put behind its start. -/
theorem not_straddle_castOpening {g : Char} (hg : g ∈ fieldAlphabet) {m₁ m₂ rest post : Text}
    (hne : m₂ ≠ []) (hm : m₁ ++ m₂ ∈ mixedTexts g) (he : castOpening ++ rest = m₂ ++ post)
    (hpost : isWordAt post.head? = false) : False := by
  have hparen := paren_not_mem hg hm
  rcases List.append_eq_append_iff.1 he with ⟨a, rfl, -⟩ | ⟨c, hcut, rfl⟩
  · exact hparen (by simp [castOpening])
  · have hc : c ≠ [] := by
      rintro rfl
      rw [List.append_nil] at hcut
      exact hparen (by simp [← hcut, castOpening])
    obtain ⟨e, he', hlast⟩ := getLast?_mixedTexts hg hm
    rw [List.getLast?_append_of_ne_nil _ hne] at hlast
    rcases castOpening_cut hcut hne hc with hw | ht
    · obtain ⟨d, c, rfl⟩ := List.exists_cons_of_ne_nil hc
      rw [List.cons_append, List.head?_cons] at hpost
      rw [List.head?_cons, hpost] at hw
      exact absurd hw (by simp)
    · obtain rfl := Option.some.inj (hlast.symm.trans ht)
      revert he'
      decide

theorem space_not_mem_operands {f : Char} (hf : f ∈ fieldAlphabet) {x : Text}
    (hx : x ∈ operands f) : ' ' ∉ x := by
  have all : (fieldAlphabet.all fun f => (operands f).all fun x => ' ' ∉ x) = true := by decide
  simp only [List.all_eq_true, decide_eq_true_eq] at all
  exact all f hf x hx

theorem field_not_mem_operators {op : Text} (hop : op ∈ mixedOperators) {g : Char}
    (hg : g ∈ fieldAlphabet) : g ∉ op := by
  have all : (mixedOperators.all fun op => fieldAlphabet.all fun g => g ∉ op) = true := by decide
  simp only [List.all_eq_true, decide_eq_true_eq] at all
  exact all op hop g hg

theorem field_ne_of_not_mem {g c : Char} (hg : g ∈ fieldAlphabet) (hc : c ∉ fieldAlphabet) :
    g ≠ c := by
  rintro rfl
  exact hc hg

/-- Within a mixed expression that a bracket follows, a field with a space behind it stands only at
the start. -/
theorem start_in_argument {f g : Char} (hf : f ∈ fieldAlphabet) (hg : g ∈ fieldAlphabet) {m : Text}
    (hm : m ∈ mixedTexts f) {a b : Text} (h : m ++ [')'] = a ++ g :: b)
    (hb : ∀ c b', b = c :: b' → c = ' ') : a = [] := by
  -- a piece that starts with `g` goes on with a space, since it cannot end with `g`
  have next : ∀ {u v : Text}, u = v ++ g :: b → ')' ∈ u.getLast? → ' ' ∈ u := by
    rintro u v rfl hlast
    cases b with
    | nil => exact absurd (by simpa using hlast) (field_ne_of_not_mem hg (by decide))
    | cons e b =>
      obtain rfl := hb e b rfl
      simp
  cases a with
  | nil => rfl
  | cons e a =>
    exfalso
    obtain ⟨op, hop, x, hx, rfl⟩ := mem_mixedTexts.1 hm
    have hsplit : ' ' :: (op ++ [' ']) ++ (x ++ [')']) = a ++ g :: b := by
      simpa using (List.cons.inj h).2
    rcases List.append_eq_append_iff.1 hsplit with ⟨u, -, hu⟩ | ⟨u, hu, hd⟩
    · have hspace := next hu (by simp)
      exact space_not_mem_operands hf hx (by simpa using hspace)
    · cases u with
      | nil =>
        have hspace := next (u := x ++ [')']) (v := []) (by simpa using hd.symm) (by simp)
        exact space_not_mem_operands hf hx (by simpa using hspace)
      | cons e' u =>
        obtain rfl : g = e' := (List.cons.inj hd).1
        have hmem : g ∈ ' ' :: (op ++ [' ']) := by simp [hu]
        simp [field_not_mem_operators hop hg, field_ne_of_not_mem hg (c := ' ') (by decide)] at hmem

/-- In a cast, a field with a space behind it stands only at the start of the argument. -/
theorem start_in_cast {f g : Char} (hf : f ∈ fieldAlphabet) (hg : g ∈ fieldAlphabet) {m : Text}
    (hm : m ∈ mixedTexts f) {b₁ b₂ rest w : Text} (hb : castOpening ++ m ++ [')'] = b₁ ++ b₂)
    (hne : b₂ ≠ []) (he : b₂ ++ rest = g :: ' ' :: w) : b₁ = castOpening := by
  obtain ⟨d, b₂, rfl⟩ := List.exists_cons_of_ne_nil hne
  obtain ⟨rfl, hnext⟩ : d = g ∧ b₂ ++ rest = ' ' :: w := by simpa using he
  rw [List.append_assoc] at hb
  rcases List.append_eq_append_iff.1 hb with ⟨a, rfl, ha⟩ | ⟨c, hc, hb₂⟩
  · obtain rfl : a = [] := by
      refine start_in_argument hf hg hm ha fun c b' hcut => ?_
      rw [hcut] at hnext
      exact (List.cons.inj hnext).1
    simp
  -- a start inside `cast(` would need a space behind one of its letters
  · cases c with
    | nil => simp [hc]
    | cons e c =>
      exfalso
      obtain ⟨rfl, rfl⟩ := List.cons.inj hb₂
      cases c with
      | nil =>
        have hlast := congrArg List.getLast? hc
        simp only [castOpening, List.getLast?_append, List.getLast?_singleton, Option.some_or,
          Option.some.injEq] at hlast
        exact field_ne_of_not_mem hg (by decide) hlast.symm
      | cons e' c =>
        obtain ⟨rfl, -⟩ : e' = ' ' ∧ c ++ (m ++ [')']) ++ rest = w := by simpa using hnext
        have hspace : ' ' ∈ castOpening := by simp [hc]
        revert hspace
        decide

/-- The start of a cast does not reach back into a mixed expression. -/
theorem castOpening_suffix_behind {f : Char} (hf : f ∈ fieldAlphabet) {front x between : Text}
    (hx : x ∈ mixedTexts f) (hne : between ≠ []) (hbetween : isWordAt between.head? = false)
    (h : castOpening <:+ front ++ x ++ between) : castOpening <:+ between := by
  obtain ⟨z, hz⟩ := h
  rcases List.append_eq_append_iff.1 hz with ⟨c, hc, hcut⟩ | ⟨d, -, rfl⟩
  · by_cases hc0 : c = []
    · subst hc0
      simp [hcut]
    · exfalso
      rcases castOpening_cut hcut hc0 hne with hw | ht
      · simp [hbetween] at hw
      · obtain ⟨e, he, hlast⟩ := getLast?_mixedTexts hf hx
        have hx0 : x ≠ [] := by
          rintro rfl
          simp at hlast
        have hlast' : (front ++ x).getLast? = some 't' := by
          rw [hc, List.getLast?_append_of_ne_nil _ hc0, ht]
        rw [List.getLast?_append_of_ne_nil _ hx0, hlast] at hlast'
        obtain rfl := Option.some.inj hlast'
        revert he
        decide
  · exact List.suffix_append _ _

/-- A mixed expression in a text in which one has just been cast is cast, if it is that one or was
cast before: one that stands in front of the cast or behind it stood in the text already. -/
theorem castAround_of_cast {f g : Char} (hf : f ∈ fieldAlphabet) (hg : g ∈ fieldAlphabet)
    {front x rest pre m post : Text} (hx : x ∈ mixedTexts f) (hrest : isWordAt rest.head? = false)
    (hfront : ∀ between, front = pre ++ m ++ between → MixedAt g pre m (between ++ x ++ rest) →
      CastAround pre (between ++ x ++ rest))
    (hbehind : ∀ between, pre = front ++ (castOpening ++ x ++ [')']) ++ between →
      rest = between ++ m ++ post → MixedAt g (front ++ x ++ between) m post →
      CastAround (front ++ x ++ between) post)
    (he : front ++ (castOpening ++ x ++ [')']) ++ rest = pre ++ m ++ post)
    (hm : MixedAt g pre m post) : CastAround pre post := by
  obtain ⟨hmem, hpre, hpost⟩ := (mixedAt_iff hg).1 hm
  obtain ⟨w, hw⟩ := exists_cons_cons_of_mem_mixedTexts hmem
  -- it stands in front of the new cast, runs into it, starts in it or stands behind it
  rcases occurrence_cases he with ⟨between, rfl, rfl⟩ | ⟨m₁, m₂, -, hne, rfl, -, hblock⟩ |
    ⟨b₁, b₂, hne, hblock, rfl, hb₂⟩ | ⟨between, rfl, rfl⟩
  · cases between with
    | nil => exact absurd hpost (by simp [castOpening, castHelper, isWordAt]; decide)
    | cons c between =>
      obtain ⟨hopen, hclose⟩ := hfront _ rfl ((mixedAt_iff hg).2 ⟨hmem, hpre, by simpa using hpost⟩)
      refine ⟨hopen, ?_⟩
      simpa using hclose
  · exact (not_straddle_castOpening hg hne hmem (by simpa using hblock) hpost).elim
  · rw [hw] at hb₂
    obtain rfl := start_in_cast hf hg hx hblock hne hb₂
    obtain rfl : x ++ [')'] = b₂ := by simpa using hblock
    obtain ⟨v, rfl⟩ := exists_cons_cons_of_mem_mixedTexts hx
    obtain rfl : f = g := (List.cons.inj hb₂).1
    rw [← hw, List.append_assoc] at hb₂
    have hxm := eq_of_mixedTexts hx hmem hb₂
    rw [hxm, List.append_cancel_left_eq] at hb₂
    exact ⟨List.suffix_append _ _, ⟨rest, hb₂⟩⟩
  · have hne : between ≠ [] := by
      rintro rfl
      rw [hw] at hrest
      exact absurd hrest (by simp [isWordAt, isWord_field hg])
    have hhead : isWordAt between.head? = false := by
      rwa [List.append_assoc, List.head?_append_of_ne_nil _ hne] at hrest
    rw [List.getLast?_append_of_ne_nil _ hne] at hpre
    obtain ⟨hopen, hclose⟩ := hbehind between rfl rfl
      ((mixedAt_iff hg).2 ⟨hmem, by rwa [List.getLast?_append_of_ne_nil _ hne], hpost⟩)
    have := castOpening_suffix_behind hf hx hne hhead hopen
    exact ⟨this.trans (List.suffix_append _ _), hclose⟩

/-- What holds while the mixed expressions of the field `f` are being cast: those in the part that
has been written are, and those of the fields `fs`, which were all cast, still are. -/
structure Casting (fs : List Char) (f : Char) (read written rest : Text) : Prop where
  before : ∀ g ∈ fs, Cast g (written ++ rest)
  done : CastBefore written.length f (written ++ rest)
  edge : isWordAt written.getLast? = isWordAt read.getLast? ∨ isWordAt rest.head? = false

section
variable {fs : List Char} {f : Char} (hf : f ∈ fieldAlphabet) {read written rest : Text}
include hf

/-- A character at which the pattern does not match starts no mixed expression. -/
theorem Casting.skip {c : Char} (h : Casting fs f read written (c :: rest))
    (hmatch : (mixedExpression f).match? read.getLast? (c :: rest) = none) :
    Casting fs f (read ++ [c]) (written ++ [c]) rest := by
  refine ⟨by simpa using h.before, ?_, .inl (by simp)⟩
  intro pre m post he hlt hm
  have he' : written ++ c :: rest = pre ++ (m ++ post) := by simpa using he
  by_cases hpre : pre.length < written.length
  · exact h.done pre m post (by simpa using he') hpre hm
  exfalso
  have hlen : written.length = pre.length := by
    simp only [List.length_append, List.length_singleton] at hlt
    omega
  obtain ⟨rfl, hrest⟩ := List.append_inj he' hlen
  obtain ⟨hmem, hw, hpost⟩ := (mixedAt_iff hf).1 hm
  rcases h.edge with hedge | hedge
  · have := (match?_mixedExpression_eq_some hf).2 ⟨m, hmem, post, hrest, hedge ▸ hw, hpost, rfl⟩
    rw [hmatch] at this
    exact absurd this (by simp)
  · obtain ⟨w, rfl⟩ := exists_cons_cons_of_mem_mixedTexts hmem
    rw [hrest] at hedge
    exact absurd hedge (by simp [isWordAt, isWord_field hf])

/-- A match is cast, and no cast comes undone by that. -/
theorem Casting.take (hfs : ∀ g ∈ fs, g ∈ fieldAlphabet) {hit : Hit}
    (h : Casting fs f read written (hit.text ++ rest))
    (hmatch : (mixedExpression f).match? read.getLast? (hit.text ++ rest) = some hit) :
    Casting fs f (read ++ hit.text) (written ++ castAction.render hit) rest := by
  obtain ⟨x, hx, post, hrest, -, hpost, rfl⟩ := (match?_mixedExpression_eq_some hf).1 hmatch
  obtain rfl : rest = post := List.append_cancel_left hrest
  refine ⟨?_, ?_, .inr hpost⟩
  · intro g hg pre m post he hm
    refine castAround_of_cast hf (hfs g hg) hx hpost ?_ ?_ he hm
    · rintro between rfl hm'
      exact h.before g hg _ _ _ (by simp) hm'
    · rintro between - rfl hm'
      exact h.before g hg _ _ _ (by simp) hm'
  · intro pre m post he hlt hm
    refine castAround_of_cast hf hf hx hpost ?_ ?_ he hm
    · rintro between rfl hm'
      obtain ⟨w, rfl⟩ := exists_cons_cons_of_mem_mixedTexts hm'.mem
      exact h.done _ _ _ (by simp) (by simp) hm'
    -- nothing behind the cast has been written yet
    · rintro between rfl - -
      simp only [castAction, Action.render, List.length_append] at hlt
      omega

/-- One pattern casts the mixed expressions of its field, and keeps the casts of the others. -/
theorem cast_replaceAll (hfs : ∀ g ∈ fs, g ∈ fieldAlphabet) {t : Text} (ht : ∀ g ∈ fs, Cast g t) :
    ∀ g ∈ f :: fs, Cast g ((mixedExpression f).replaceAll castAction.render t).1 := by
  have walk : Casting fs f t ((mixedExpression f).replaceAll castAction.render t).1 [] := by
    refine Pattern.replaceAll_induction (solid_mixedExpression f)
      (motive := Casting fs f) ?skip ?take ?start
    case start => exact ⟨ht, by simp [CastBefore], .inl rfl⟩
    case skip => exact fun _ _ _ _ h hmatch => h.skip hf hmatch
    case take => exact fun _ _ _ _ h hmatch => h.take hf hfs hmatch
  intro g hg
  rcases List.mem_cons.1 hg with rfl | hg
  · intro pre m post he hm
    obtain ⟨w, rfl⟩ := exists_cons_cons_of_mem_mixedTexts hm.mem
    refine walk.done pre _ post (by simpa using he) ?_ hm
    rw [he]
    simp
  · simpa using walk.before g hg

end

theorem cast_substituteAll {gs fs : List Char} (hgs : ∀ g ∈ gs, g ∈ fieldAlphabet)
    (hfs : ∀ g ∈ fs, g ∈ fieldAlphabet) {t : Text} (ht : ∀ g ∈ fs, Cast g t) :
    ∀ g, g ∈ gs ∨ g ∈ fs →
      Cast g (Edit.substituteAll castAction (gs.map mixedExpression) t).1 := by
  induction gs generalizing fs t with
  | nil => simpa using ht
  | cons f gs ih =>
    have hf : f ∈ fieldAlphabet := hgs f List.mem_cons_self
    rw [List.map_cons, Edit.substituteAll_cons_fst]
    have hfs' : ∀ g ∈ f :: fs, g ∈ fieldAlphabet := by
      intro g hg
      rcases List.mem_cons.1 hg with rfl | hg
      · exact hf
      · exact hfs g hg
    have hgs' : ∀ g ∈ gs, g ∈ fieldAlphabet := fun g hg => hgs g (List.mem_cons_of_mem _ hg)
    intro g hg
    refine ih hgs' hfs' (cast_replaceAll hf hfs ht) g ?_
    rcases hg with hg | hg
    · rcases List.mem_cons.1 hg with rfl | hg
      · exact .inr List.mem_cons_self
      · exact .inl hg
    · exact .inr (List.mem_cons_of_mem _ hg)

def AllCast (t : Text) : Prop := ∀ f ∈ fieldAlphabet, Cast f t

/-- Behind the patterns of all fields every mixed expression is cast, whatever the text was. -/
theorem allCast_substituteAll (t : Text) :
    AllCast (Edit.substituteAll castAction (perField mixedExpression) t).1 := by
  have none : ∀ g ∈ ([] : List Char), g ∈ fieldAlphabet := by simp
  intro f hf
  exact cast_substituteAll (fun _ h => h) none (by simp) f (.inl hf)

end Specialization

end VectorFamily
