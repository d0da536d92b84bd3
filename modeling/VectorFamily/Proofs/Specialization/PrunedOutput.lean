import VectorFamily.Proofs.Specialization.Lines
import VectorFamily.Proofs.Specialization.Pruning

/-!
# Implementations for booleans

Behind the deletions a cast is set around the expressions that mix fields, and the lines of its
macro are put in. `Traced` characters say of a text what was put into it, and `BringsNone t u` that
each expression in `u` that means nothing for booleans stood in `t` already, made of the same
characters. It holds of a cast, which keeps the expression in it, and of the lines, which hold none.
`pruned_of_run` traces the expressions in the output of a run back so to the text before the
deletions.
-/

namespace VectorFamily

open Piece (isWordAt)
open Text (occurrence_cases)

namespace Specialization

/-! ### What is put in -/

/-- A character with the place it had, if it was there before. -/
abbrev Traced := Char × Option Nat

/-- The characters that were there. -/
def letters (u : List Traced) : List Letter := u.filterMap fun c => c.2.map (c.1, ·)

def traced (l : List Letter) : List Traced := l.map fun c => (c.1, some c.2)

/-- Characters that were not there. -/
def putIn (t : Text) : List Traced := t.map (·, none)

@[simp] theorem letters_nil : letters [] = [] := rfl

@[simp] theorem letters_cons (c : Traced) (u : List Traced) :
    letters (c :: u) = (c.2.map (c.1, ·)).toList ++ letters u := by
  obtain ⟨c, _ | n⟩ := c <;> rfl

@[simp] theorem letters_append (u v : List Traced) : letters (u ++ v) = letters u ++ letters v :=
  List.filterMap_append

@[simp] theorem letters_traced (l : List Letter) : letters (traced l) = l := by
  simp [letters, traced]

@[simp] theorem letters_putIn (t : Text) : letters (putIn t) = [] := by
  simp [letters, putIn]

@[simp] theorem chars_traced (l : List Letter) : chars (traced l) = chars l := by
  simp [chars, traced]

@[simp] theorem chars_putIn (t : Text) : chars (putIn t) = t := by
  simp [chars, putIn, Function.comp_def]

theorem traced_letters_of_append {l : List Letter} {u v : List Traced} (h : traced l = u ++ v) :
    traced (letters u) = u ∧ traced (letters v) = v := by
  obtain ⟨l₁, l₂, -, rfl, rfl⟩ := List.map_eq_append_iff.1 h
  exact ⟨congrArg traced (letters_traced l₁), congrArg traced (letters_traced l₂)⟩

/-! ### Beside a bracket or a line feed -/

def separators : Text := "()<>\n".toList

theorem isWord_of_mem_separators {e : Char} (he : e ∈ separators) : Unicode.isWord e = false := by
  have all : separators.all fun e => !Unicode.isWord e := by decide
  simpa using List.all_eq_true.1 all e he

section
variable {f : Char} {m pre post u v : Text} {e : Char}

theorem not_mem_prunedTexts (hf : f ∈ fieldAlphabet) (hm : m ∈ prunedTexts f)
    (he : e ∈ separators) : e ∉ m := by
  have all : (fieldAlphabet.all fun f => (prunedTexts f).all fun m =>
      separators.all fun e => e ∉ m) = true := by decide +kernel
  simp only [List.all_eq_true, decide_eq_true_eq] at all
  exact all f hf m hm e he

theorem prunedAt_append_separator (he : e ∈ separators) :
    PrunedAt f pre m (post ++ e :: v) ↔ PrunedAt f pre m post := by
  have hw := isWordAt_head?_append_cons (v := v) (isWord_of_mem_separators he) post
  constructor
  · rintro ⟨hm, huncut⟩
    exact ⟨hm, by rwa [uncut_iff, ← hw, ← uncut_iff]⟩
  · rintro ⟨hm, huncut⟩
    exact ⟨hm, by rwa [uncut_iff, hw, ← uncut_iff]⟩

theorem prunedAt_separator_append (he : e ∈ separators) :
    PrunedAt f (u ++ e :: pre) m post ↔ PrunedAt f pre m post := by
  have hw := isWordAt_getLast?_append_cons (u := u) (isWord_of_mem_separators he) pre
  constructor
  · rintro ⟨hm, huncut⟩
    exact ⟨hm, by rwa [uncut_iff, ← hw, ← uncut_iff]⟩
  · rintro ⟨hm, huncut⟩
    exact ⟨hm, by rwa [uncut_iff, hw, ← uncut_iff]⟩

end

/-- An expression stands on one side of a separator. -/
theorem separator_cases {f : Char} (hf : f ∈ fieldAlphabet) {u v a m b : List Traced} {e : Traced}
    (he : e.1 ∈ separators) (hcut : u ++ e :: v = a ++ m ++ b)
    (hm : PrunedAt f (chars a) (chars m) (chars b)) :
    (∃ between, u = a ++ m ++ between ∧ b = between ++ e :: v ∧
      PrunedAt f (chars a) (chars m) (chars between)) ∨
    ∃ between, a = u ++ e :: between ∧ v = between ++ m ++ b ∧
      PrunedAt f (chars between) (chars m) (chars b) := by
  have hne : m ≠ [] := by
    rintro rfl
    exact ne_nil_of_mem_prunedTexts hm.mem rfl
  have hem : e ∉ m := fun hc => not_mem_prunedTexts hf hm.mem he (List.mem_map_of_mem hc)
  rcases Text.append_cons_cases hne hem hcut with ⟨between, hu, rfl⟩ | ⟨between, rfl, hv⟩
  · rw [chars_append, chars_cons, prunedAt_append_separator he] at hm
    exact .inl ⟨between, hu, rfl, hm⟩
  · rw [chars_append, chars_cons, prunedAt_separator_append he] at hm
    exact .inr ⟨between, rfl, hv, hm⟩

/-! ### Texts that bring no expression in -/

/-- The letters of `u` are those of `t`, and each expression in `u` stood in `t` already, uncut and
between the same letters. -/
structure BringsNone (t u : List Traced) : Prop where
  same : letters u = letters t
  stood : ∀ f ∈ fieldAlphabet, ∀ a m b, u = a ++ m ++ b →
    PrunedAt f (chars a) (chars m) (chars b) →
      ∃ a' b', t = a' ++ m ++ b' ∧ PrunedAt f (chars a') (chars m) (chars b') ∧
        letters a' = letters a ∧ letters b' = letters b

namespace BringsNone

theorem refl (t : List Traced) : BringsNone t t :=
  ⟨rfl, fun _ _ a _ b he hm => ⟨a, b, he, hm, rfl, rfl⟩⟩

theorem trans {t u v : List Traced} (h : BringsNone t u) (h' : BringsNone u v) :
    BringsNone t v := by
  refine ⟨h'.same.trans h.same, fun f hf a m b he hm => ?_⟩
  obtain ⟨a', b', he', hm', ha', hb'⟩ := h'.stood f hf a m b he hm
  obtain ⟨a'', b'', he'', hm'', ha'', hb''⟩ := h.stood f hf a' m b' he' hm'
  exact ⟨a'', b'', he'', hm'', ha''.trans ha', hb''.trans hb'⟩

section
variable {t u u' v v' : List Traced}

theorem append_cons {e : Traced} (he : e.1 ∈ separators) (hu : BringsNone u u')
    (hv : BringsNone v v') : BringsNone (u ++ e :: v) (u' ++ e :: v') := by
  refine ⟨by simp [hu.same, hv.same], fun f hf a m b hcut hm => ?_⟩
  rcases separator_cases hf he hcut hm with
    ⟨between, hleft, rfl, hside⟩ | ⟨between, rfl, hright, hside⟩
  · obtain ⟨a', b', rfl, hm', ha', hb'⟩ := hu.stood f hf a m between hleft hside
    refine ⟨a', b' ++ e :: v, by simp, ?_, ha', by simp [hb', hv.same]⟩
    rwa [chars_append, chars_cons, prunedAt_append_separator he]
  · obtain ⟨a', b', rfl, hm', ha', hb'⟩ := hv.stood f hf between m b hright hside
    refine ⟨u ++ e :: a', b', by simp, ?_, by simp [ha', hu.same], hb'⟩
    rwa [chars_append, chars_cons, prunedAt_separator_append he]

/-- Behind a separator that is put in, more can be put in. -/
theorem append_putIn_cons {e : Char} (he : e ∈ separators) (hu : BringsNone t u) {w : Text}
    (hw : BringsNone [] (putIn w)) : BringsNone t (u ++ putIn (e :: w)) := by
  refine ⟨by simp [hu.same], fun f hf a m b hcut hm => ?_⟩
  rcases separator_cases (e := (e, none)) hf he hcut hm with
    ⟨between, hleft, rfl, hside⟩ | ⟨between, rfl, hright, hside⟩
  · obtain ⟨a', b', rfl, hm', ha', hb'⟩ := hu.stood f hf a m between hleft hside
    have hnone : letters ((e, none) :: putIn w) = [] := letters_putIn (e :: w)
    refine ⟨a', b', rfl, hm', ha', ?_⟩
    rw [hb', letters_append]
    exact (List.append_right_eq_self.2 hnone).symm
  · -- nothing stands in the text that is put in
    obtain ⟨a', b', hnil, -⟩ := hw.stood f hf between m b hright hside
    obtain rfl : m = [] := by
      have hempty := List.append_eq_nil_iff.1 hnil.symm
      exact (List.append_eq_nil_iff.1 hempty.1).2
    exact absurd rfl (ne_nil_of_mem_prunedTexts hm.mem)

end

theorem of_not_holdsPruned {w : Text} (hw : ∀ f ∈ fieldAlphabet, ∀ m, ¬ HoldsPruned f m w) :
    BringsNone [] (putIn w) := by
  refine ⟨letters_putIn w, fun f hf a m b hcut hm => ?_⟩
  have hw' := congrArg chars hcut
  rw [chars_putIn, chars_append, chars_append] at hw'
  exact absurd ⟨_, _, hw', hm⟩ (hw f hf (chars m))

end BringsNone

theorem not_holdsPruned {f : Char} {m t : Text} (hf : f ∈ fieldAlphabet) (hstatement : ';' ∉ t)
    (hdivision : '/' ∉ t) : ¬ HoldsPruned f m t := by
  rintro ⟨pre, post, rfl, hmem, -⟩
  have all :
      (fieldAlphabet.all fun f => (prunedTexts f).all fun m => ';' ∈ m ∨ '/' ∈ m) = true := by
    decide +kernel
  simp only [List.all_eq_true, decide_eq_true_eq] at all
  rcases all f hf m hmem with hc | hc
  · exact hstatement (by simp [hc])
  · exact hdivision (by simp [hc])

theorem bringsNone_of_not_mem {t : Text} (hstatement : ';' ∉ t) (hdivision : '/' ∉ t) :
    BringsNone [] (putIn t) :=
  .of_not_holdsPruned fun _ hf _ => not_holdsPruned hf hstatement hdivision

/-! ### The casts -/

section
variable {f : Char} {m : Text}

/-- An expression is one that can be cast, or a statement. -/
theorem mem_mixedTexts_or_statement (hm : m ∈ prunedTexts f) :
    m ∈ mixedTexts f ∨ ∃ w, m = w ++ [';'] := by
  simp only [prunedTexts, List.mem_append] at hm
  rcases hm with (hm | hm) | hm
  · obtain ⟨op, -, rfl⟩ := List.mem_map.1 hm
    exact .inr ⟨op ++ [f], by simp⟩
  · obtain ⟨x, hx, rfl⟩ := List.mem_map.1 hm
    refine .inl (mem_mixedTexts.2 ⟨"/".toList, by decide, x, ?_, rfl⟩)
    simp only [divisors, List.mem_cons, List.not_mem_nil, or_false] at hx
    rcases hx with rfl | rfl <;> simp [operands]
  · obtain ⟨op, -, x, -, rfl⟩ := mem_compoundTexts.1 hm
    exact .inr ⟨[f, ' '] ++ (op ++ ([' '] ++ x)), by simp⟩

theorem semicolon_not_mem_cast {g : Char} (hg : g ∈ fieldAlphabet) {x : Text}
    (hx : x ∈ mixedTexts g) : ';' ∉ castOpening ++ x := by
  have hopen : ';' ∉ castOpening := by decide
  have hchars : ';' ∉ mixedChars := by decide
  simp only [List.mem_append, not_or]
  exact ⟨hopen, fun hc => hchars (mem_mixedChars hg hx hc)⟩

/-- A piece that holds no bracket and starts in front of a closing one ends in front of it. -/
theorem prefix_of_append_bracket {u rest post : Text} (hm : ')' ∉ m)
    (h : u ++ ')' :: rest = m ++ post) : m <+: u := by
  rcases List.append_eq_append_iff.1 h with ⟨d, rfl, hd⟩ | ⟨d, rfl, -⟩
  · cases d with
    | nil => simp
    | cons c d =>
      obtain rfl : ')' = c := (List.cons.inj hd).1
      simp at hm
  · exact List.prefix_append m d

/-- No expression starts in front of a cast and ends inside of it. -/
theorem not_straddle_cast (hf : f ∈ fieldAlphabet) {g : Char} (hg : g ∈ fieldAlphabet)
    {x m₁ m₂ rest post : Text} (hx : x ∈ mixedTexts g) (hne : m₂ ≠ [])
    (hmem : m₁ ++ m₂ ∈ prunedTexts f)
    (hpost : isWordAt (m₁ ++ m₂).getLast? = false ∨ isWordAt post.head? = false) :
    castOpening ++ x ++ ')' :: rest ≠ m₂ ++ post := by
  intro h
  rcases mem_mixedTexts_or_statement hmem with hmix | ⟨w, hw⟩
  · have hlast := isWordAt_getLast?_mixedTexts hf hmix
    rw [List.append_assoc] at h
    exact not_straddle_castOpening hf hne hmix h (hpost.resolve_left (by rw [hlast]; decide))
  · -- a statement would bring its semicolon into the cast
    have hclose : ')' ∉ m₁ ++ m₂ := not_mem_prunedTexts hf hmem (by decide)
    have hsemi : ';' ∈ m₂ := by
      have hlast := congrArg List.getLast? hw
      rw [List.getLast?_append_of_ne_nil _ hne, List.getLast?_concat] at hlast
      exact List.mem_of_getLast? hlast
    have hinside := prefix_of_append_bracket (fun hc => hclose (List.mem_append_right _ hc)) h
    exact semicolon_not_mem_cast hg hx (hinside.mem hsemi)

/-- No statement starts inside of a cast. -/
theorem not_statement_in_cast {g : Char} (hg : g ∈ fieldAlphabet) {x w b₁ b₂ rest post : Text}
    (hx : x ∈ mixedTexts g) (hclose : ')' ∉ w ++ [';']) (hne : b₂ ≠ [])
    (hblock : castOpening ++ x ++ [')'] = b₁ ++ b₂) : b₂ ++ rest ≠ w ++ [';'] ++ post := by
  intro h
  obtain ⟨b, rfl⟩ : ∃ b, b₂ = b ++ [')'] := by
    have hlast := congrArg List.getLast? hblock
    rw [List.getLast?_concat, List.getLast?_append_of_ne_nil _ hne] at hlast
    exact List.getLast?_eq_some_iff.1 hlast.symm
  rw [← List.append_assoc, List.append_left_inj] at hblock
  have hsemi := (prefix_of_append_bracket hclose (by simpa using h)).mem
    (List.mem_append_right w List.mem_cons_self)
  refine semicolon_not_mem_cast hg hx ?_
  rw [hblock]
  exact List.mem_append_right _ hsemi

/-- A mixed expression that starts inside of a cast is the one that is cast. -/
theorem eq_of_start_in_cast (hf : f ∈ fieldAlphabet) {g : Char} (hg : g ∈ fieldAlphabet)
    {x m b₁ b₂ rest b : List Traced} (hx : chars x ∈ mixedTexts g) (hm : chars m ∈ mixedTexts f)
    (hne : b₂ ≠ []) (hblock : putIn castOpening ++ x ++ putIn [')'] = b₁ ++ b₂)
    (hb₂ : b₂ ++ rest = m ++ b) :
    b₁ = putIn castOpening ∧ m = x ∧ b = putIn [')'] ++ rest := by
  have hblock' := congrArg chars hblock
  have hb₂' := congrArg chars hb₂
  simp only [chars_append, chars_putIn] at hblock' hb₂'
  obtain ⟨v, hv⟩ := exists_cons_cons_of_mem_mixedTexts hx
  obtain ⟨w, hw⟩ := exists_cons_cons_of_mem_mixedTexts hm
  have hstart := start_in_cast hg hf hx hblock' (by simpa using hne) (by rw [hb₂', hw]; rfl)
  have hopening : (putIn castOpening).length = b₁.length := by
    rw [← length_chars, chars_putIn, ← hstart, length_chars]
  rw [List.append_assoc] at hblock
  obtain ⟨rfl, rfl⟩ := List.append_inj hblock hopening
  simp only [chars_append, chars_putIn, List.append_assoc] at hb₂'
  -- both start with their fields
  obtain rfl : g = f := by
    rw [hv, hw] at hb₂'
    exact (List.cons.inj hb₂').1
  have hlen := congrArg List.length (eq_of_mixedTexts hx hm hb₂')
  rw [length_chars, length_chars] at hlen
  rw [List.append_assoc] at hb₂
  obtain ⟨rfl, rfl⟩ := List.append_inj hb₂ hlen
  exact ⟨rfl, rfl, rfl⟩

end

/-- When an expression is cast, those around it stay what they are. -/
theorem BringsNone.cast {g : Char} (hg : g ∈ fieldAlphabet) {front x rest : List Traced}
    (hx : chars x ∈ mixedTexts g) (hfront : isWordAt (chars front).getLast? = false)
    (hrest : isWordAt (chars rest).head? = false) :
    BringsNone (front ++ x ++ rest)
      (front ++ (putIn castOpening ++ x ++ putIn [')']) ++ rest) := by
  refine ⟨by simp, fun f hf a m b he hm => ?_⟩
  obtain ⟨hmem, huncut⟩ := hm
  have hclose : ')' ∉ chars m := not_mem_prunedTexts hf hmem (by decide)
  obtain ⟨hpre, hpost⟩ := uncut_iff.1 huncut
  -- it stands in front of the new cast, runs into it, starts in it or stands behind it
  rcases occurrence_cases he with ⟨between, rfl, rfl⟩ | ⟨m₁, m₂, -, hne, rfl, -, hblock⟩ |
    ⟨b₁, b₂, hne, hblock, rfl, hb₂⟩ | ⟨between, rfl, rfl⟩
  · refine ⟨a, between ++ x ++ rest, by simp, ⟨hmem, uncut_iff.2 ⟨hpre, ?_⟩⟩, rfl, by simp⟩
    cases between with
    | nil =>
      refine .inl (hpost.resolve_right ?_)
      show isWordAt (some 'c') ≠ false
      decide
    | cons c between => simpa using hpost
  · have hblock := congrArg chars hblock
    rw [chars_append] at hmem hpost
    exact absurd (by simpa using hblock)
      (not_straddle_cast hf hg hx (by simpa using hne) hmem hpost)
  · rcases mem_mixedTexts_or_statement hmem with hmix | ⟨w, hw⟩
    · obtain ⟨rfl, rfl, rfl⟩ := eq_of_start_in_cast hf hg hx hmix hne hblock hb₂
      exact ⟨front, rest, rfl, ⟨hmem, uncut_iff.2 ⟨.inl hfront, .inr hrest⟩⟩, by simp, by simp⟩
    · have hblock := congrArg chars hblock
      have hb₂ := congrArg chars hb₂
      simp only [chars_append, chars_putIn, hw] at hblock hb₂ hclose
      exact absurd hb₂ (not_statement_in_cast hg hx hclose (by simpa using hne) hblock)
  · refine ⟨front ++ x ++ between, b, by simp, ⟨hmem, uncut_iff.2 ⟨?_, hpost⟩⟩, by simp, rfl⟩
    cases between with
    | nil =>
      rw [List.nil_append, chars_append,
        List.head?_append_of_ne_nil _ (ne_nil_of_mem_prunedTexts hmem)] at hrest
      exact .inr hrest
    | cons c between =>
      simp only [chars_append, chars_cons] at hpre ⊢
      rwa [List.getLast?_append_of_ne_nil _ (by simp)] at hpre ⊢

/-- While the casts of a field are set, `read` and `rest` are the text, and `written` takes the
place of `read`. -/
structure Wrapping (t read written rest : List Traced) : Prop where
  append : t = read ++ rest
  none : BringsNone t (written ++ rest)
  edge : isWordAt (chars written).getLast? = true → isWordAt (chars read).getLast? = true

theorem Wrapping.take {g : Char} (hg : g ∈ fieldAlphabet) {t read written x rest : List Traced}
    (h : Wrapping t read written (x ++ rest)) (hx : chars x ∈ mixedTexts g)
    (hbefore : isWordAt (chars read).getLast? = false)
    (hafter : isWordAt (chars rest).head? = false) :
    Wrapping t (read ++ x) (written ++ (putIn castOpening ++ x ++ putIn [')'])) rest where
  append := by rw [h.append, List.append_assoc]
  none := by
    have hfront : isWordAt (chars written).getLast? = false := by
      cases hw : isWordAt (chars written).getLast? with
      | false => rfl
      | true => rw [h.edge hw] at hbefore; cases hbefore
    exact h.none.trans (by simpa using BringsNone.cast hg hx hfront hafter)
  edge := by
    have hclose : isWordAt (some ')') = false := by decide
    simp [hclose]

/-- Setting the casts of one field brings no expression in. -/
theorem exists_traced_replaceAll {g : Char} (hg : g ∈ fieldAlphabet) (t : List Traced) :
    ∃ u, chars u = ((mixedExpression g).replaceAll castAction.render (chars t)).1 ∧
      BringsNone t u := by
  have walk : ∃ r w s, chars r = chars t ∧
      chars w = ((mixedExpression g).replaceAll castAction.render (chars t)).1 ∧
      chars s = [] ∧ Wrapping t r w s := by
    refine Pattern.replaceAll_induction (solid_mixedExpression g)
      (motive := fun read written rest =>
        ∃ r w s, chars r = read ∧ chars w = written ∧ chars s = rest ∧ Wrapping t r w s)
      ?skip ?take ⟨[], [], t, rfl, rfl, rfl, rfl, .refl t, id⟩
    case skip =>
      rintro _ _ c rest ⟨r, w, s, rfl, rfl, hs, h⟩ -
      obtain ⟨c, s, rfl, rfl, rfl⟩ := chars_eq_cons_iff.1 hs
      exact ⟨r ++ [c], w ++ [c], s, by simp, by simp, rfl, by simp [h.append],
        by simpa using h.none, by simp⟩
    case take =>
      rintro _ _ found _ ⟨r, w, s, rfl, rfl, hs, h⟩ hm
      obtain ⟨x, hx, post, hrest, hbefore, hpost, rfl⟩ := (match?_mixedExpression_eq_some hg).1 hm
      obtain rfl := List.append_cancel_left hrest
      obtain ⟨x, s, rfl, rfl, rfl⟩ := chars_eq_append_iff.1 hs
      exact ⟨r ++ x, _, s, chars_append r x, by simp [castAction, Action.render], rfl,
        h.take hg hx hbefore hpost⟩
  obtain ⟨r, w, s, -, hw, hs, h⟩ := walk
  obtain rfl := chars_eq_nil_iff.1 hs
  exact ⟨w, hw, by simpa using h.none⟩

theorem exists_traced_substituteAll {gs : List Char} (hgs : ∀ g ∈ gs, g ∈ fieldAlphabet)
    (t : List Traced) :
    ∃ u, chars u = (Edit.substituteAll castAction (gs.map mixedExpression) (chars t)).1 ∧
      BringsNone t u := by
  induction gs generalizing t with
  | nil => exact ⟨t, rfl, .refl t⟩
  | cons g gs ih =>
    obtain ⟨u, hu, hnone⟩ := exists_traced_replaceAll (hgs g List.mem_cons_self) t
    obtain ⟨v, hv, hnone'⟩ := ih (fun g hg => hgs g (List.mem_cons_of_mem _ hg)) u
    exact ⟨v, by rw [hv, hu, List.map_cons, Edit.substituteAll_cons_fst], hnone.trans hnone'⟩

/-! ### The lines of the macro -/

theorem exists_traced_insertLines (anchor : Pattern) {w : Text} (hw : BringsNone [] (putIn w))
    (t : List Traced) :
    ∃ u, chars u = (Edit.insertLines anchor w (chars t)).1 ∧ BringsNone t u := by
  cases hfind : anchor.find? (chars t) with
  | none => exact ⟨t, (Edit.insertLines_of_find?_none hfind).symm, .refl t⟩
  | some found =>
    obtain ⟨before, h, after⟩ := found
    rcases Edit.insertLines_of_find? w hfind with ⟨-, he⟩ | ⟨lineRest, later, -, rfl, he⟩
    · exact ⟨t ++ putIn ('\n' :: w), by simp [he],
        (BringsNone.refl t).append_putIn_cons (by decide) hw⟩
    · -- the line feed behind the line stays behind the lines that are put in
      have ht : chars t = (before ++ h.text ++ lineRest) ++ '\n' :: later := by
        simp [← Pattern.append_of_find? hfind]
      obtain ⟨u, v, rfl, hu, hv⟩ := chars_eq_append_iff.1 ht
      obtain ⟨e, v, rfl, hnewline, rfl⟩ := chars_eq_cons_iff.1 hv
      refine ⟨u ++ putIn ('\n' :: w) ++ e :: v, ?_, ?_⟩
      · rw [he, chars_append, chars_append, chars_putIn, hu, chars_cons, hnewline]
      · have hinserted := (BringsNone.refl u).append_putIn_cons (e := '\n') (by decide) hw
        exact hinserted.append_cons (by rw [hnewline]; decide) (.refl v)

theorem exists_traced_addLine {line : Text} (hline : BringsNone [] (putIn line))
    (t : List Traced) : ∃ u, chars u = Edit.addLine line (chars t) ∧ BringsNone t u := by
  have hnil : BringsNone [] (putIn []) := .refl []
  have hend : BringsNone [] (putIn (line ++ ['\n'])) := by
    simpa [putIn] using hline.append_putIn_cons (e := '\n') (by decide) hnil
  unfold Edit.addLine
  split
  · next hlast =>
    cases hl : (chars t).getLast? with
    | none =>
      obtain rfl := chars_eq_nil_iff.1 (List.getLast?_eq_none_iff.1 hl)
      exact ⟨putIn (line ++ ['\n']), by simp, hend⟩
    | some c =>
      obtain ⟨u, hu⟩ := List.getLast?_eq_some_iff.1 hl
      obtain rfl : c = '\n' := by simpa [hl] using hlast
      obtain ⟨u, v, rfl, rfl, hv⟩ := chars_eq_append_iff.1 hu
      obtain ⟨e, v, rfl, hnewline, hv⟩ := chars_eq_cons_iff.1 hv
      obtain rfl := chars_eq_nil_iff.1 hv
      refine ⟨u ++ e :: putIn (line ++ ['\n']), by simp, ?_⟩
      exact (BringsNone.refl u).append_cons (by rw [hnewline]; decide) hend
  · exact ⟨t ++ putIn ('\n' :: (line ++ ['\n'])), by simp,
      (BringsNone.refl t).append_putIn_cons (by decide) hend⟩

theorem bringsNone_helperLine {symbol : String}
    (hsymbol : ∀ f ∈ fieldAlphabet, ∀ m, ¬ HoldsPruned f m symbol.toList) :
    BringsNone [] (putIn ('\n' :: helperLine symbol)) := by
  have hfront : BringsNone [] (putIn "\n#define cast(x) static_cast".toList) :=
    bringsNone_of_not_mem (by decide) (by decide)
  have hback : BringsNone [] (putIn "(x)".toList) := bringsNone_of_not_mem (by decide) (by decide)
  have hname := BringsNone.of_not_holdsPruned hsymbol
  have htype : BringsNone [] (putIn (symbol.toList ++ '>' :: "(x)".toList)) := by
    simpa [putIn] using hname.append_putIn_cons (e := '>') (by decide) hback
  simpa [helperLine, castHelper, putIn] using
    hfront.append_putIn_cons (e := '<') (by decide) htype

/-- The rules of the casts bring no expression in, unless the name of the type holds one. -/
theorem exists_traced_castRules {s : Specialization}
    (hsymbol : ∀ f ∈ fieldAlphabet, ∀ m, ¬ HoldsPruned f m s.profile.symbol.toList)
    (t : List Traced) :
    ∃ u, chars u = Rule.rewrite s.castRules (chars t) ∧ BringsNone t u := by
  have hscope : BringsNone [] (putIn scopeLine) := bringsNone_of_not_mem (by decide) (by decide)
  obtain ⟨u, hu, hcasts⟩ := exists_traced_substituteAll (fun _ hg => hg) t
  obtain ⟨v, hv, hlines⟩ := exists_traced_insertLines (includeDirective s.profile.includeLabel)
    (bringsNone_helperLine hsymbol) u
  obtain ⟨w, hw, hlast⟩ := exists_traced_addLine hscope v
  refine ⟨w, ?_, (hcasts.trans hlines).trans hlast⟩
  rw [castRules_eq, Rule.rewrite_cons, Rule.rewrite_cons, Rule.rewrite_cons, Rule.rewrite_nil,
    apply_wrapRule, apply_helperRule, apply_scopeRule, hw, hv, hu]
  rfl

/-! ### Runs for booleans -/

theorem rulesFor_boolean {s : Specialization} (hcategory : s.profile.category = .boolean)
    (hexport : s.keepExport = true) : s.rulesFor .implementation =
      s.tokenRules ++ s.metadataRules ++ booleanRules ++ s.castRules := by
  have hcasts : s.castsIn .implementation := ⟨rfl, by rw [hcategory]; rfl⟩
  have hcontext : s.context .implementation = ⟨.boolean, .implementation, true⟩ := by
    simp [context, hcategory, hexport]
  have hearly : s.earlyRules .implementation =
      s.tokenRules ++ s.metadataRules ++ booleanRules := by
    rw [earlyRules, hcontext]
    rfl
  have hlate : s.lateRules .implementation = [] := by
    rw [lateRules, hcontext]
    rfl
  rw [rulesFor_of_castsIn hcasts, hearly, hlate, List.append_nil]

/-- In an implementation for booleans, the letters of a step, of a division or of a change of a
field by an operand that is still there did not stand side by side before such expressions were
deleted: those that did are gone. What is put into the text behind that brings none in, so `origin`,
which says where the characters of the output come from, traces every expression of the output back
to one of what was left. -/
theorem pruned_of_run {s : Specialization} (hcategory : s.profile.category = .boolean)
    (hexport : s.keepExport = true)
    (hsymbol : ∀ f ∈ fieldAlphabet, ∀ m, ¬ HoldsPruned f m s.profile.symbol.toList)
    {source out : Text} (hrun : s.run .implementation source = .ok out) :
    let prepared := Rule.rewrite (s.tokenRules ++ s.metadataRules) source
    let left := Pattern.keptLetters prunedPatterns prepared.zipIdx
    chars left = Rule.rewrite booleanRules prepared ∧
    (∀ f ∈ fieldAlphabet, ∀ a m b, left = a ++ m ++ b →
      PrunedAt f (chars a) (chars m) (chars b) → ¬ m <:+: prepared.zipIdx) ∧
    ∃ origin : List Traced, chars origin = out ∧ letters origin = left ∧
      ∀ f ∈ fieldAlphabet, ∀ a m b, origin = a ++ m ++ b →
        PrunedAt f (chars a) (chars m) (chars b) → m = traced (letters m) ∧
          PrunedAt f (chars (letters a)) (chars (letters m)) (chars (letters b)) := by
  intro prepared left
  have hleft : chars left = Rule.rewrite booleanRules prepared := by
    rw [rewrite_booleanRules, Pattern.chars_keptLetters]
    simp [chars]
  obtain ⟨origin, hout, hnone⟩ := exists_traced_castRules hsymbol (traced left)
  rw [chars_traced, hleft] at hout
  refine ⟨hleft, fun f hf a m b he hm => not_infix_of_left hf he hm, origin, ?_, ?_, ?_⟩
  · rw [hout, ← rewrite_of_run hrun, rulesFor_boolean hcategory hexport, Rule.rewrite_append,
      Rule.rewrite_append]
  · rw [hnone.same, letters_traced]
  · intro f hf a m b he hm
    obtain ⟨a', b', hcut, hm', ha, hb⟩ := hnone.stood f hf a m b he hm
    -- before the casts all characters are letters
    obtain ⟨hfront, hb'⟩ := traced_letters_of_append hcut
    obtain ⟨ha', hm₀⟩ := traced_letters_of_append hfront
    refine ⟨hm₀.symm, ?_⟩
    rwa [← ha, ← hb, ← chars_traced (letters a'), ← chars_traced (letters m),
      ← chars_traced (letters b'), ha', hm₀, hb']

/-- An implementation in which a step is brought together, with a division that is not deleted. -/
def divisionSource : Text :=
  ("#include \"VectorD.h\"\n" ++
    "std::double_t Vector2d Bytes: 8 Range: 1.7E +/- 308  precision: (15 digits)\n" ++
    "x / number; x += number; ++++x;x;\nx / right.x;\n").toList

def divisionFront : Text :=
  ("#include \"VectorB.h\"\n\n#define cast(x) static_cast<bool>(x)\n" ++
    "bool Vector2b Bytes: 1 Range: true or false\n;  ").toList

theorem run_divisionSource : run ⟨{}, boolProfile, true⟩ .implementation divisionSource =
    .ok (divisionFront ++ "++x;".toList ++ "\ncast(x / right.x);\n#undef cast\n".toList) := by
  decide +kernel

def divisionLeft : List Letter :=
  Pattern.keptLetters prunedPatterns (Rule.rewrite (tokenRules ⟨{}, boolProfile, true⟩ ++
    metadataRules ⟨{}, boolProfile, true⟩) divisionSource).zipIdx

theorem pruned_of_run_step : ∃ a m b, divisionLeft = a ++ m ++ b ∧ chars m = "++x;".toList ∧
    ¬ m <:+: (Rule.rewrite (tokenRules ⟨{}, boolProfile, true⟩ ++
      metadataRules ⟨{}, boolProfile, true⟩) divisionSource).zipIdx := by
  have hsymbol : ∀ f ∈ fieldAlphabet, ∀ m, ¬ HoldsPruned f m boolProfile.symbol.toList :=
    fun f hf m => not_holdsPruned hf (by decide) (by decide)
  obtain ⟨-, hapart, origin, hout, hleft, hfrom⟩ := pruned_of_run rfl rfl hsymbol run_divisionSource
  -- the step of the output is traced back to the letters that are left
  obtain ⟨_, b, rfl, hfront, hb⟩ := chars_eq_append_iff.1 hout
  obtain ⟨a, m, rfl, ha, hm⟩ := chars_eq_append_iff.1 hfront
  have hstep : PrunedAt 'x' (chars a) (chars m) (chars b) := by
    rw [ha, hm, hb]
    exact ⟨by decide, uncut_iff.2 ⟨.inr rfl, .inl rfl⟩⟩
  obtain ⟨htraced, hstood⟩ := hfrom 'x' (by decide) a m b rfl hstep
  rw [letters_append, letters_append] at hleft
  refine ⟨_, _, _, hleft.symm, ?_, hapart 'x' (by decide) _ _ _ hleft.symm hstood⟩
  rw [← hm, ← chars_traced, ← htraced]

/-- The divisions of a field by a field of `right` are not among the expressions that are deleted,
and a deletion can bring a step together. -/
theorem division_left :
    (∀ v ∈ [boolProfile.symbol, boolProfile.classTag, boolProfile.fileTag,
        boolProfile.defaultLiteral, boolProfile.byteSizeNote, boolProfile.range,
        boolProfile.includeLabel], HasNoOperator v.toList) ∧
    boolProfile.category = .boolean ∧
    ∃ out, run ⟨{}, boolProfile, true⟩ .implementation divisionSource = .ok out ∧
      "++x;".toList <:+: out ∧
      ∃ pre post, out = pre ++ "x / right.x".toList ++ post ∧
        WholeWords pre "x / right.x".toList post := by
  refine ⟨by decide, rfl, _, run_divisionSource, ⟨_, _, rfl⟩,
    divisionFront ++ "++x;\ncast(".toList, ");\n#undef cast\n".toList, by decide, ?_⟩
  exact ⟨by decide, by decide⟩

end Specialization

end VectorFamily
