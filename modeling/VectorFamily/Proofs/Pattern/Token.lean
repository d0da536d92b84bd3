import Mathlib.Data.List.Basic
import VectorFamily.Proofs.Pattern.Match

/-!
# Where whole tokens stand

`WholeToken` says when a literal that stands in a text counts as a whole token, by the characters
around it. `match?_token_append_eq_some` ties this to the pattern of a token, whatever follows in
the pattern.
-/

namespace VectorFamily

open Piece (isWordAt)

/-- Between the two characters the literal stands as a whole token: at each end at which it could
run on into a word there is a word boundary. -/
structure WholeToken (before : Option Char) (literal : Text) (after : Option Char) : Prop where
  front : literal.head?.any Pattern.isEdge = true → isWordAt before ≠ isWordAt literal.head?
  back : literal.getLast?.any Pattern.isEdge = true → isWordAt literal.getLast? ≠ isWordAt after

instance (before : Option Char) (literal : Text) (after : Option Char) :
    Decidable (WholeToken before literal after) :=
  decidable_of_iff (_ ∧ _) ⟨fun h => ⟨h.1, h.2⟩, fun h => ⟨h.front, h.back⟩⟩

/-- Only the kinds of the neighbours count. -/
theorem WholeToken.congr {before before' after after' : Option Char} {l : Text}
    (hb : isWordAt before = isWordAt before') (ha : isWordAt after = isWordAt after')
    (h : WholeToken before l after) : WholeToken before' l after' :=
  ⟨fun he => hb ▸ h.front he, fun he => ha ▸ h.back he⟩

/-! ### Tokens that are words -/

theorem toNat_lt_of_isAsciiWord {c : Char} (h : Unicode.isAsciiWord c = true) :
    c.toNat < 0x80 := by
  have h : (((decide (c.val ≥ 'A'.val ∧ c.val ≤ 'Z'.val) || (c.val ≥ 'a'.val && c.val ≤ 'z'.val)) ||
      (c.val ≥ '0'.val && c.val ≤ '9'.val)) || c == '_') = true := h
  simp only [Bool.or_eq_true, Bool.and_eq_true, decide_eq_true_eq, beq_iff_eq,
    UInt32.le_iff_toNat_le] at h
  rcases h with ((⟨-, h⟩ | ⟨-, h⟩) | ⟨-, h⟩) | rfl
  · exact Nat.lt_of_le_of_lt h (by decide)
  · exact Nat.lt_of_le_of_lt h (by decide)
  · exact Nat.lt_of_le_of_lt h (by decide)
  · decide

theorem isWord_of_isAsciiWord {c : Char} (h : Unicode.isAsciiWord c = true) :
    Unicode.isWord c = true := by
  rwa [Unicode.isWord_of_ascii (toNat_lt_of_isAsciiWord h)]

theorem isEdge_of_isAsciiWord {c : Char} (h : Unicode.isAsciiWord c = true) :
    Pattern.isEdge c = true := by
  rwa [Pattern.isEdge, Unicode.isAlphanumeric_of_ascii (toNat_lt_of_isAsciiWord h)]

def blankCodes : List Nat :=
  [0x09, 0x0a, 0x0b, 0x0c, 0x0d, 0x20, 0x85, 0xa0, 0x1680, 0x2000, 0x2001, 0x2002, 0x2003, 0x2004,
    0x2005, 0x2006, 0x2007, 0x2008, 0x2009, 0x200a, 0x2028, 0x2029, 0x202f, 0x205f, 0x3000]

theorem isWord_of_isBlank {c : Char} (h : Unicode.isBlank c = true) :
    Unicode.isWord c = false := by
  have hcodes : ∀ n ∈ blankCodes, Unicode.isWord (Char.ofNat n) = false := by decide +kernel
  have hc : c.toNat ∈ blankCodes := by
    simp only [Unicode.isBlank, Bool.or_eq_true, Bool.and_eq_true, decide_eq_true_eq,
      beq_iff_eq] at h
    simp only [blankCodes, List.mem_cons, List.not_mem_nil, or_false]
    omega
  rw [← Char.ofNat_toNat c]
  exact hcodes _ hc

theorem isWordAt_head?_of_isAllBlank {t : Text} (ht : t.isAllBlank = true) :
    isWordAt t.head? = false := by
  cases t with
  | nil => rfl
  | cons c t => exact isWord_of_isBlank (List.all_eq_true.1 ht c List.mem_cons_self)

theorem isWordAt_getLast?_append {u w : Text} (hne : w ≠ [])
    (hw : ∀ c ∈ w, Unicode.isAsciiWord c = true) : isWordAt (u ++ w).getLast? = true := by
  rw [List.getLast?_append_of_ne_nil _ hne, List.getLast?_eq_some_getLast hne]
  exact isWord_of_isAsciiWord (hw _ (List.getLast_mem hne))

/-- Word characters of any alphabet end where something else follows. -/
theorem takeWhile_isWord_append {w x : Text} (hw : ∀ c ∈ w, Unicode.isWord c = true)
    (hx : isWordAt x.head? = false) : (w ++ x).takeWhile Unicode.isWord = w := by
  rw [List.takeWhile_append_of_pos hw]
  cases x with
  | nil => simp
  | cons c x =>
    have hc : Unicode.isWord c = false := hx
    simp [hc]

/-- A word counts as a whole token where no word character touches it. -/
theorem wholeToken_iff_of_word {before after : Option Char} {literal : Text} (hne : literal ≠ [])
    (hw : ∀ c ∈ literal, Unicode.isAsciiWord c = true) :
    WholeToken before literal after ↔ isWordAt before = false ∧ isWordAt after = false := by
  have ends : ∀ c : Option Char, (∃ d ∈ literal, c = some d) →
      c.any Pattern.isEdge = true ∧ isWordAt c = true := by
    rintro _ ⟨d, hd, rfl⟩
    exact ⟨isEdge_of_isAsciiWord (hw d hd), isWord_of_isAsciiWord (hw d hd)⟩
  obtain ⟨hhead, hhead'⟩ := ends literal.head?
    ⟨_, List.head_mem hne, List.head?_eq_some_head hne⟩
  obtain ⟨hlast, hlast'⟩ := ends literal.getLast?
    ⟨_, List.getLast_mem hne, List.getLast?_eq_some_getLast hne⟩
  constructor
  · rintro ⟨hfront, hback⟩
    have hfront := hfront hhead
    have hback := hback hlast
    rw [hhead'] at hfront
    rw [hlast'] at hback
    exact ⟨by simpa using hfront, by simpa using hback.symm⟩
  · rintro ⟨hb, ha⟩
    exact ⟨fun _ => by simp [hb, hhead'], fun _ => by simp [ha, hlast']⟩

/-- A text of letters, digits and underscores of ASCII, not empty. -/
structure IsWord (w : Text) : Prop where
  ne : w ≠ []
  chars : ∀ c ∈ w, Unicode.isAsciiWord c = true

namespace IsWord

variable {w : Text} (hw : IsWord w)
include hw

theorem isWordAt_head? (u : Text) : isWordAt (w ++ u).head? = true := by
  rw [List.head?_append_of_ne_nil _ hw.ne, List.head?_eq_some_head hw.ne]
  exact isWord_of_isAsciiWord (hw.chars _ (List.head_mem hw.ne))

theorem isWordAt_getLast? (u : Text) : isWordAt (u ++ w).getLast? = true := by
  rw [List.getLast?_append_of_ne_nil _ hw.ne, List.getLast?_eq_some_getLast hw.ne]
  exact isWord_of_isAsciiWord (hw.chars _ (List.getLast_mem hw.ne))

theorem wholeToken_iff {before after : Option Char} :
    WholeToken before w after ↔ isWordAt before = false ∧ isWordAt after = false :=
  wholeToken_iff_of_word hw.ne hw.chars

theorem isBlank : ∀ c ∈ w, Unicode.isBlank c = false := by
  intro c hc
  refine Bool.eq_false_iff.2 fun hb => ?_
  have hword := isWord_of_isAsciiWord (hw.chars c hc)
  rw [isWord_of_isBlank hb] at hword
  cases hword

theorem takeWhile_append {x : Text} (hx : isWordAt x.head? = false) :
    (w ++ x).takeWhile Unicode.isWord = w :=
  takeWhile_isWord_append (fun c hc => isWord_of_isAsciiWord (hw.chars c hc)) hx

end IsWord

/-- A word ends where something else follows, so texts that start alike start with the same word. -/
theorem eq_of_words_append {u v x y : Text} (hu : IsWord u) (hv : IsWord v)
    (hx : isWordAt x.head? = false) (hy : isWordAt y.head? = false) (h : u ++ x = v ++ y) :
    u = v := by
  rw [← hu.takeWhile_append hx, h, hv.takeWhile_append hy]

namespace Pattern

variable {ps : Pattern} {before : Option Char} {rest : Text} {h : Hit}

theorem match?_edge_append_eq_some {c : Option Char} :
    match? (edge c ++ ps) before rest = some h ↔
      (c.any isEdge = true → isWordAt before ≠ isWordAt rest.head?) ∧
        match? ps before rest = some h := by
  unfold edge
  by_cases hc : c.any isEdge = true
  · simp only [hc, ↓reduceIte, List.cons_append, List.nil_append, match?_boundary_cons_eq_some,
      true_imp_iff]
  · simp [hc]

theorem match?_token_append_eq_some {literal : Text} :
    match? (token literal ++ ps) before rest = some h ↔
      ∃ post h', rest = literal ++ post ∧ WholeToken before literal post.head? ∧
        match? ps (literal.getLast?.or before) post = some h' ∧
        h = ⟨literal ++ h'.text, h'.groups⟩ := by
  -- an end that asks for a boundary is there
  have head {post : Text} (hedge : literal.head?.any isEdge = true) :
      (literal ++ post).head? = literal.head? := by
    cases literal with
    | nil => simp at hedge
    | cons c u => rfl
  have last (hedge : literal.getLast?.any isEdge = true) :
      literal.getLast?.or before = literal.getLast? := by
    cases hl : literal.getLast? with
    | none => simp [hl] at hedge
    | some c => rfl
  simp only [token, List.append_assoc, List.cons_append, List.nil_append,
    match?_edge_append_eq_some, match?_text_cons_eq_some]
  constructor
  · rintro ⟨hfront, post, h', rfl, ⟨hback, hm⟩, rfl⟩
    exact ⟨post, h', rfl, ⟨fun he => head he ▸ hfront he, fun he => last he ▸ hback he⟩, hm, rfl⟩
  · rintro ⟨post, h', rfl, ⟨hfront, hback⟩, hm, rfl⟩
    exact ⟨fun he => (head he).symm ▸ hfront he, post, h', rfl,
      ⟨fun he => (last he).symm ▸ hback he, hm⟩, rfl⟩

theorem match?_token_eq_some {literal : Text} :
    match? (token literal) before rest = some h ↔
      ∃ post, rest = literal ++ post ∧ WholeToken before literal post.head? ∧
        h = ⟨literal, []⟩ := by
  rw [← List.append_nil (token literal), match?_token_append_eq_some]
  constructor
  · rintro ⟨post, h', rfl, hw, hm, rfl⟩
    obtain rfl := Option.some.inj hm
    exact ⟨post, rfl, hw, by simp⟩
  · rintro ⟨post, rfl, hw, rfl⟩
    exact ⟨post, _, rfl, hw, rfl, by simp⟩

end Pattern

end VectorFamily
