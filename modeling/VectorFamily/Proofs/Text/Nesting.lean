import Mathlib.Data.List.Basic
import VectorFamily.Proofs.Text.Indented

/-!
# Nesting of braces

Pair every closing brace of a text with the last opening one before it that is still open. What is
left over are some closing braces and, behind them, some opening ones; `nesting` counts both. It is
computed piece by piece (`nesting_append`), and nothing is left over just if the text is balanced
(`balanced_iff`).
-/

namespace VectorFamily

/-- The braces of a text that have no partner. -/
structure Nesting where
  unopened : Nat := 0
  unclosed : Nat := 0
deriving DecidableEq, Repr

namespace Nesting

/-- The opening braces of the first piece are closed by those of the second. -/
instance : Append Nesting where
  append a b := ⟨a.unopened + (b.unopened - a.unclosed), b.unclosed + (a.unclosed - b.unopened)⟩

theorem append_def (a b : Nesting) : a ++ b =
    ⟨a.unopened + (b.unopened - a.unclosed), b.unclosed + (a.unclosed - b.unopened)⟩ :=
  rfl

theorem append_assoc (a b c : Nesting) : a ++ b ++ c = a ++ (b ++ c) := by
  simp only [append_def, mk.injEq]
  omega

@[simp] theorem level_append (a : Nesting) : ({} : Nesting) ++ a = a := by
  simp [append_def]

@[simp] theorem append_level (a : Nesting) : a ++ {} = a := by
  simp [append_def]

end Nesting

namespace Text

variable {t u v : Text}

def brace (c : Char) : Nesting :=
  if c = '\x7b' then { unclosed := 1 } else if c = '\x7d' then { unopened := 1 } else {}

def nesting : Text → Nesting
  | [] => {}
  | c :: t => brace c ++ nesting t

@[simp] theorem nesting_nil : nesting [] = {} := rfl

theorem nesting_cons (c : Char) (t : Text) : nesting (c :: t) = brace c ++ nesting t := rfl

@[simp] theorem nesting_append (u v : Text) : nesting (u ++ v) = nesting u ++ nesting v := by
  induction u with
  | nil => simp
  | cons c u ih => rw [List.cons_append, nesting_cons, ih, nesting_cons, Nesting.append_assoc]

theorem brace_of_ne {c : Char} (hopen : c ≠ '\x7b') (hclose : c ≠ '\x7d') : brace c = {} := by
  simp [brace, hopen, hclose]

theorem nesting_of_not_mem (hopen : '\x7b' ∉ t) (hclose : '\x7d' ∉ t) : nesting t = {} := by
  induction t with
  | nil => rfl
  | cons c t ih =>
    rw [nesting_cons, ih (List.not_mem_of_not_mem_cons hopen) (List.not_mem_of_not_mem_cons hclose),
      brace_of_ne (List.ne_of_not_mem_cons hopen).symm (List.ne_of_not_mem_cons hclose).symm,
      Nesting.append_level]

theorem nesting_of_isAllBlank (ht : isAllBlank t = true) : nesting t = {} :=
  nesting_of_not_mem (not_mem_of_isAllBlank ht (by decide)) (not_mem_of_isAllBlank ht (by decide))

/-! ### Balanced texts -/

/-- No prefix closes more braces than it opens, and all together open as many as they close. -/
structure Balanced (t : Text) : Prop where
  prefixes : ∀ u, u <+: t → u.count '\x7d' ≤ u.count '\x7b'
  totals : t.count '\x7d' = t.count '\x7b'

theorem count_add_nesting (t : Text) : t.count '\x7b' + (nesting t).unopened =
    t.count '\x7d' + (nesting t).unclosed := by
  induction t with
  | nil => rfl
  | cons c t ih =>
    rw [nesting_cons, Nesting.append_def]
    by_cases hopen : c = '\x7b'
    · subst hopen
      simp only [brace, ↓reduceIte, List.count_cons_self]
      rw [List.count_cons_of_ne (by decide)]
      omega
    by_cases hclose : c = '\x7d'
    · subst hclose
      simp only [brace, hopen, ↓reduceIte, List.count_cons_self]
      rw [List.count_cons_of_ne (by decide)]
      omega
    · rw [brace_of_ne hopen hclose, List.count_cons_of_ne hopen, List.count_cons_of_ne hclose]
      simpa using ih

/-- With `k` open braces in front, no prefix closes more than are open just if the text has at most
`k` closing braces without a partner. -/
theorem forall_prefix_iff {k : Nat} :
    (∀ u, u <+: t → u.count '\x7d' ≤ u.count '\x7b' + k) ↔ (nesting t).unopened ≤ k := by
  induction t generalizing k with
  | nil => simp
  | cons c t ih =>
    have hcons : (∀ u, u <+: c :: t → u.count '\x7d' ≤ u.count '\x7b' + k) ↔
        ∀ u, u <+: t → (c :: u).count '\x7d' ≤ (c :: u).count '\x7b' + k := by
      constructor
      · exact fun h u hu => h _ ((List.prefix_cons_inj c).2 hu)
      · intro h u hu
        rcases List.prefix_cons_iff.1 hu with rfl | ⟨w, rfl, hw⟩
        · simp
        · exact h w hw
    rw [hcons, nesting_cons, Nesting.append_def]
    by_cases hopen : c = '\x7b'
    · subst hopen
      have hstep : ∀ u : Text, (('\x7b' :: u).count '\x7d' ≤ ('\x7b' :: u).count '\x7b' + k ↔
          u.count '\x7d' ≤ u.count '\x7b' + (k + 1)) := by
        intro u
        rw [List.count_cons_self, List.count_cons_of_ne (by decide)]
        omega
      simp only [hstep, ih, brace, ↓reduceIte]
      omega
    by_cases hclose : c = '\x7d'
    · subst hclose
      have hstep : ∀ u : Text, (('\x7d' :: u).count '\x7d' ≤ ('\x7d' :: u).count '\x7b' + k ↔
          u.count '\x7d' + 1 ≤ u.count '\x7b' + k) := by
        intro u
        rw [List.count_cons_self, List.count_cons_of_ne (by decide)]
      simp only [hstep, brace, hopen, ↓reduceIte]
      cases k with
      | zero =>
        -- the brace alone is a prefix
        exact iff_of_false (fun h => absurd (h [] List.nil_prefix) (by simp)) (by simp)
      | succ k =>
        have hone : ∀ u : Text, (u.count '\x7d' + 1 ≤ u.count '\x7b' + (k + 1) ↔
            u.count '\x7d' ≤ u.count '\x7b' + k) := by
          intro u
          omega
        simp only [hone, ih]
        omega
    · simp only [List.count_cons_of_ne hopen, List.count_cons_of_ne hclose, ih,
        brace_of_ne hopen hclose]
      simp

theorem balanced_iff : Balanced t ↔ nesting t = {} := by
  have hcount := count_add_nesting t
  have hstart := forall_prefix_iff (t := t) (k := 0)
  constructor
  · rintro ⟨hstartes, htotals⟩
    have hunopened := hstart.1 hstartes
    have hunclosed : (nesting t).unclosed = 0 := by omega
    rw [show nesting t = ⟨(nesting t).unopened, (nesting t).unclosed⟩ from rfl,
      Nat.le_zero.1 hunopened, hunclosed]
  · intro h
    rw [h] at hcount hstart
    exact ⟨hstart.2 (Nat.le_refl 0), hcount.symm⟩

instance (t : Text) : Decidable (Balanced t) := decidable_of_iff _ balanced_iff.symm

/-! ### What leaves the braces alone -/

theorem nesting_trimEnd (t : Text) : nesting (trimEnd t) = nesting t := by
  obtain ⟨b, hb, ht⟩ := exists_trimEnd_append t
  conv_rhs => rw [ht]
  rw [nesting_append, nesting_of_isAllBlank hb, Nesting.append_level]

theorem nesting_lineContent (l : Text) : nesting (lineContent l) = nesting l := by
  obtain ⟨e, he, hl⟩ := exists_lineContent_append l
  conv_rhs => rw [hl]
  rw [nesting_append, nesting_of_isAllBlank he, Nesting.append_level]

theorem nesting_indentedLine (l : Text) : nesting (indentedLine l) = nesting l := by
  rw [← nesting_lineContent l]
  unfold indentedLine
  split
  · next hblank => rw [nesting_of_isAllBlank hblank, nesting_nil]
  · exact Nesting.level_append _

theorem nesting_flatten_congr {f : Text → Text} (hf : ∀ t, nesting (f t) = nesting t)
    (ts : List Text) : nesting (ts.map f).flatten = nesting ts.flatten := by
  induction ts with
  | nil => rfl
  | cons t ts ih =>
    rw [List.map_cons, List.flatten_cons, List.flatten_cons, nesting_append, nesting_append, hf, ih]

theorem nesting_intercalate {sep : Text} (hsep : nesting sep = {}) (ts : List Text) :
    nesting (sep.intercalate ts) = nesting ts.flatten := by
  induction ts with
  | nil => rfl
  | cons t ts ih =>
    cases ts with
    | nil => simp
    | cons u us =>
      rw [List.intercalate_cons_cons, nesting_append, nesting_append, ih, hsep,
        Nesting.append_level, ← nesting_append]
      rfl

theorem nesting_indented (t : Text) : nesting (indented t) = nesting t := by
  have hlines : indented t = ['\n'].intercalate ((lines t).map indentedLine) := rfl
  rw [hlines, nesting_intercalate rfl, nesting_flatten_congr nesting_indentedLine, flatten_lines]

end Text

end VectorFamily
