import Mathlib.Data.List.Find
import VectorFamily.Proofs.Pattern.Match
import VectorFamily.Proofs.Pattern.Scan
import VectorFamily.Proofs.Text.LineLocal

/-!
# Patterns that stay in a line

A pattern stays in a line if none of its parts takes a line feed. Such a pattern sees no difference
between a line feed and an end of the text: it matches before a line feed what it matches at the end
of the text, and behind one what it matches at the start. A scan therefore meets in a text what it
meets in its rows. Any other character that a pattern does not tell from an end of the text cuts the
text for it in the same way (`CutsAt`).
-/

namespace VectorFamily

open Piece (isWordAt)

namespace Piece

/-- The piece takes no line feed. -/
def StaysInLine : Piece → Prop
  | boundary | lineStart | lineEnd => True
  | oneOf options => ∀ o ∈ options, '\n' ∉ o
  | run cls _ => cls.has '\n' = false

instance : DecidablePred StaysInLine
  | boundary | lineStart | lineEnd => .isTrue trivial
  | oneOf options => inferInstanceAs (Decidable (∀ o ∈ options, '\n' ∉ o))
  | run cls _ => inferInstanceAs (Decidable (cls.has '\n' = false))

/-- The piece takes no `e`, and sees it as the end or the start of a text. -/
def StopsAt (e : Char) : Piece → Prop
  | boundary => Unicode.isWord e = false
  | lineStart | lineEnd => e = '\n'
  | oneOf options => ∀ o ∈ options, e ∉ o
  | run cls _ => cls.has e = false

instance (e : Char) : DecidablePred (StopsAt e)
  | boundary => inferInstanceAs (Decidable (Unicode.isWord e = false))
  | lineStart | lineEnd => inferInstanceAs (Decidable (e = '\n'))
  | oneOf options => inferInstanceAs (Decidable (∀ o ∈ options, e ∉ o))
  | run cls _ => inferInstanceAs (Decidable (cls.has e = false))

variable {piece : Piece} {e : Char}

theorem isWordAt_newline : isWordAt (some '\n') = false := by
  decide

theorem StaysInLine.stopsAt (h : piece.StaysInLine) : piece.StopsAt '\n' := by
  cases piece with
  | boundary => exact isWordAt_newline
  | lineStart | lineEnd => rfl
  | oneOf options => exact h
  | run cls least => exact h

theorem take?_append_cons (h : piece.StopsAt e) (before : Option Char) (t u : Text) :
    piece.take? before (t ++ e :: u) = piece.take? before t := by
  cases piece with
  | boundary =>
    have hhead : isWordAt (t ++ e :: u).head? = isWordAt t.head? := by
      cases t with
      | nil => exact h
      | cons c t => rfl
    simp only [take?, hhead]
  | lineStart => rfl
  | lineEnd =>
    obtain rfl : e = '\n' := h
    cases t <;> rfl
  | oneOf options =>
    have hprefix : ∀ o ∈ options, o.isPrefixOf (t ++ e :: u) = o.isPrefixOf t := by
      intro o ho
      rw [Bool.eq_iff_iff, List.isPrefixOf_iff_prefix, List.isPrefixOf_iff_prefix]
      refine ⟨?_, fun hp => hp.trans (List.prefix_append _ _)⟩
      rintro ⟨v, hv⟩
      rcases List.append_eq_append_iff.1 hv with ⟨w, hw, -⟩ | ⟨w, hw, hcut⟩
      · exact ⟨w, hw.symm⟩
      · cases w with
        | nil => exact ⟨[], by simp [hw]⟩
        | cons c w =>
          obtain ⟨rfl, -⟩ := List.cons.inj hcut
          exact absurd (by simp [hw]) (h o ho)
    exact List.find?_congr hprefix
  | run cls least =>
    have htake : (t ++ e :: u).takeWhile cls.has = t.takeWhile cls.has := by
      induction t with
      | nil => exact List.takeWhile_cons_of_neg (by rw [h]; simp)
      | cons c t ih => rw [List.cons_append, List.takeWhile_cons, List.takeWhile_cons, ih]
    simp only [take?, htake]

theorem take?_behind (h : piece.StopsAt e) (t : Text) :
    piece.take? (some e) t = piece.take? none t := by
  cases piece with
  | boundary =>
    have hsome : isWordAt (some e) = isWordAt none := h
    simp only [take?, hsome]
  | lineStart =>
    obtain rfl : e = '\n' := h
    rfl
  | _ => rfl

theorem take?_newline (t : Text) : piece.take? (some '\n') t = piece.take? none t := by
  cases piece with
  | boundary =>
    have hstays : StaysInLine boundary := trivial
    exact take?_behind hstays.stopsAt t
  | _ => rfl

end Piece

namespace Pattern

/-- No part of the pattern takes a line feed. -/
def StaysInLine (p : Pattern) : Prop := ∀ part ∈ p, part.piece.StaysInLine

instance : DecidablePred StaysInLine := fun p =>
  inferInstanceAs (Decidable (∀ part ∈ p, part.piece.StaysInLine))

/-- For no part of the pattern `e` is different from the end or the start of a text. -/
def StopsAt (e : Char) (p : Pattern) : Prop := ∀ part ∈ p, part.piece.StopsAt e

instance (e : Char) : DecidablePred (StopsAt e) := fun p =>
  inferInstanceAs (Decidable (∀ part ∈ p, part.piece.StopsAt e))

/-- The pattern sees no difference between the character and an end of the text. -/
structure CutsAt (p : Pattern) (e : Char) : Prop where
  front : ∀ before t u, p.match? before (t ++ e :: u) = p.match? before t
  behind : ∀ t, p.match? (some e) t = p.match? none t

variable {p : Pattern} {e : Char}

theorem staysInLine_token {literal : Text} (hl : '\n' ∉ literal) : (token literal).StaysInLine := by
  have hedge : ∀ c, StaysInLine (edge c) := by
    intro c part hpart
    unfold edge at hpart
    split at hpart
    · obtain rfl := List.mem_singleton.1 hpart
      exact trivial
    · simp at hpart
  intro part hpart
  simp only [token, List.mem_append, List.mem_singleton] at hpart
  rcases hpart with (hpart | rfl) | hpart
  · exact hedge _ part hpart
  · simpa [Part.text, Piece.StaysInLine] using hl
  · exact hedge _ part hpart

theorem match?_append_cons (hp : p.StopsAt e) (before : Option Char) (t u : Text) :
    p.match? before (t ++ e :: u) = p.match? before t := by
  induction p generalizing before t with
  | nil => rfl
  | cons part p ih =>
    have ih := ih fun part' hpart => hp part' (List.mem_cons_of_mem _ hpart)
    rw [match?, match?, Piece.take?_append_cons (hp part List.mem_cons_self)]
    cases htake : part.piece.take? before t with
    | none => rfl
    | some taken =>
      have hlen : taken.length ≤ t.length := (Piece.prefix_of_take? htake).length_le
      rw [Option.bind_some, Option.bind_some, List.drop_append_of_le_length hlen, ih]

/-- Behind a character that every part sees as the start of a text the pattern does as well. -/
theorem match?_behind (hp : ∀ part ∈ p, ∀ t, part.piece.take? (some e) t = part.piece.take? none t)
    (t : Text) : p.match? (some e) t = p.match? none t := by
  induction p generalizing t with
  | nil => rfl
  | cons part p ih =>
    have ih := ih fun part' hpart => hp part' (List.mem_cons_of_mem _ hpart)
    rw [match?, match?, hp part List.mem_cons_self]
    cases htake : part.piece.take? none t with
    | none => rfl
    | some taken =>
      rw [Option.bind_some, Option.bind_some]
      cases hlast : taken.getLast? with
      | none =>
        rw [Option.none_or, Option.none_or, ih]
      | some c => rfl

theorem StopsAt.cutsAt (hp : p.StopsAt e) : p.CutsAt e :=
  ⟨match?_append_cons hp, match?_behind fun part hpart => Piece.take?_behind (hp part hpart)⟩

theorem match?_newline (p : Pattern) (t : Text) :
    p.match? (some '\n') t = p.match? none t :=
  match?_behind (fun _ _ => Piece.take?_newline) t

theorem StaysInLine.cutsAt (hp : p.StaysInLine) : p.CutsAt '\n' :=
  StopsAt.cutsAt fun part hpart => (hp part hpart).stopsAt

theorem match?_append_newline (hp : p.StaysInLine) (before : Option Char) (t u : Text) :
    p.match? before (t ++ '\n' :: u) = p.match? before t :=
  hp.cutsAt.front before t u

/-! ### Scans -/

section
variable (hp : p.CutsAt e)
include hp

theorem segmentsFrom_behind (stand : Stand) (t : Text) :
    segmentsFrom p (some e) stand t = segmentsFrom p none stand t := by
  cases t with
  | nil => cases stand <;> simp [segmentsFrom, hp.behind]
  | cons c t => rcases stand with _ | _ | n <;> simp [segmentsFrom, hp.behind]

/-- A scan starts anew behind a character at which the pattern is cut. -/
theorem segmentsFrom_append_cons {before : Option Char} {stand : Stand} {t : Text}
    (hstand : ∀ n, stand = .inside n → n ≤ t.length) (u : Text) :
    segmentsFrom p before stand (t ++ e :: u) =
      segmentsFrom p before stand t ++ .plain e :: segmentsFrom p none .apart u := by
  induction t generalizing before stand with
  | nil =>
    have hmatch := hp.front before [] u
    rw [List.nil_append] at hmatch
    have hstand' : stand = .apart ∨ stand = .inside 0 := by
      rcases stand with _ | n
      · exact .inl rfl
      · exact .inr (by rw [Nat.le_zero.1 (hstand n rfl)])
    cases hm : p.match? before [] with
    | none =>
      rcases hstand' with rfl | rfl <;> simp [segmentsFrom, hmatch, hm, segmentsFrom_behind hp]
    | some h =>
      have htext : h.text = [] := List.prefix_nil.1 (prefix_of_match? hm)
      rcases hstand' with rfl | rfl <;>
        simp [segmentsFrom, hmatch, hm, htext, segmentsFrom_behind hp]
  | cons c t ih =>
    have hmatch := hp.front before (c :: t) u
    rw [List.cons_append] at hmatch
    have apart : ∀ n, Stand.apart = .inside n → n ≤ t.length := by simp
    have hapart : segmentsFrom p (some c) .apart (t ++ e :: u) =
        segmentsFrom p (some c) .apart t ++ .plain e :: segmentsFrom p none .apart u := ih apart
    -- a position that is not inside an earlier match
    have key : stand = .apart ∨ stand = .inside 0 →
        segmentsFrom p before stand (c :: t ++ e :: u) =
          segmentsFrom p before stand (c :: t) ++ .plain e :: segmentsFrom p none .apart u := by
      intro hstand'
      cases hm : p.match? before (c :: t) with
      | none =>
        rcases hstand' with rfl | rfl <;> simp [segmentsFrom, hmatch, hm, hapart]
      | some h =>
        have hlen := (prefix_of_match? hm).length_le
        cases hl : h.text.length with
        | zero => rcases hstand' with rfl | rfl <;> simp [segmentsFrom, hmatch, hm, hl, hapart]
        | succ n =>
          have hleft : ∀ m, Stand.inside n = .inside m → m ≤ t.length := by
            rintro m ⟨rfl⟩
            simp only [hl, List.length_cons] at hlen
            omega
          rcases hstand' with rfl | rfl <;> simp [segmentsFrom, hmatch, hm, hl, ih hleft]
    rcases stand with _ | _ | n
    · exact key (.inl rfl)
    · exact key (.inr rfl)
    · have hleft : ∀ m, Stand.inside n = .inside m → m ≤ t.length := by
        rintro m ⟨rfl⟩
        simpa using hstand (n + 1) rfl
      simp [segmentsFrom, ih hleft]

theorem replaceAll_append_cons (render : Hit → Text) (t u : Text) :
    (p.replaceAll render (t ++ e :: u)).1 =
      (p.replaceAll render t).1 ++ e :: (p.replaceAll render u).1 := by
  have apart : ∀ n, Stand.apart = .inside n → n ≤ t.length := by simp
  simp only [replaceAll_fst, segments, segmentsFrom_append_cons hp apart, List.flatMap_append,
    List.flatMap_cons, Segment.replaced, List.cons_append, List.nil_append]

end

theorem replaceAll_append_newline (hp : p.StaysInLine) (render : Hit → Text) (t u : Text) :
    (p.replaceAll render (t ++ '\n' :: u)).1 =
      (p.replaceAll render t).1 ++ '\n' :: (p.replaceAll render u).1 :=
  replaceAll_append_cons hp.cutsAt render t u

theorem replaceAll_empty (hp : p.match? none [] = none) (render : Hit → Text) :
    (p.replaceAll render []).1 = [] := by
  rw [replaceAll_fst, segments, segmentsFrom, hp]
  rfl

/-- What a scan meets is a character of the text or a match in it. -/
theorem mem_segmentsFrom {before : Option Char} {stand : Stand} {t : Text} {s : Segment}
    (hs : s ∈ segmentsFrom p before stand t) :
    (∃ c ∈ t, s = .plain c) ∨
      ∃ before' rest h, rest <:+ t ∧ p.match? before' rest = some h ∧ s = .hit h := by
  induction t generalizing before stand with
  | nil =>
    cases stand with
    | apart =>
      simp only [segmentsFrom, List.mem_map, Option.mem_toList] at hs
      obtain ⟨h, hm, rfl⟩ := hs
      exact .inr ⟨before, [], h, List.suffix_rfl, hm, rfl⟩
    | inside n => simp [segmentsFrom] at hs
  | cons c t ih =>
    have tail : ∀ {before' stand'}, s ∈ segmentsFrom p before' stand' t →
        (∃ d ∈ c :: t, s = .plain d) ∨
          ∃ before' rest h, rest <:+ c :: t ∧ p.match? before' rest = some h ∧ s = .hit h := by
      intro before' stand' hs
      rcases ih hs with ⟨d, hd, rfl⟩ | ⟨before', rest, h, hrest, hm, rfl⟩
      · exact .inl ⟨d, List.mem_cons_of_mem _ hd, rfl⟩
      · exact .inr ⟨before', rest, h, hrest.trans (List.suffix_cons _ _), hm, rfl⟩
    by_cases hinside : ∃ n, stand = .inside (n + 1)
    · obtain ⟨n, rfl⟩ := hinside
      rw [segmentsFrom] at hs
      exact tail hs
    · rw [segmentsFrom.eq_4 _ _ _ _ _ (by rintro n rfl; exact hinside ⟨n, rfl⟩)] at hs
      cases hm : p.match? before (c :: t) with
      | none =>
        simp only [hm, List.mem_cons] at hs
        rcases hs with rfl | hs
        · exact .inl ⟨c, List.mem_cons_self, rfl⟩
        · exact tail hs
      | some h =>
        have hhit : s = .hit h → ∃ before' rest h, rest <:+ c :: t ∧
            p.match? before' rest = some h ∧ s = .hit h :=
          fun hs => ⟨before, c :: t, h, List.suffix_rfl, hm, hs⟩
        cases hl : h.text.length with
        | zero =>
          simp only [hm, hl, List.mem_append, List.mem_ite_nil_right, List.mem_cons] at hs
          rcases hs with ⟨-, hs⟩ | rfl | hs
          · exact .inr (hhit (by simpa using hs))
          · exact .inl ⟨c, List.mem_cons_self, rfl⟩
          · exact tail hs
        | succ n =>
          simp only [hm, hl, List.mem_cons] at hs
          rcases hs with hs | hs
          · exact .inr (hhit hs)
          · exact tail hs

end Pattern

/-! ### What is put in place of a match -/

theorem Pattern.mem_of_mem_groups {p : Pattern} {before : Option Char} {rest : Text} {h : Hit}
    (hm : p.match? before rest = some h) {g : String × Text} (hg : g ∈ h.groups) {c : Char}
    (hc : c ∈ g.2) : c ∈ h.text := by
  induction p generalizing before rest h with
  | nil =>
    obtain rfl := Option.some.inj hm
    simp at hg
  | cons part p ih =>
    simp only [match?, Option.bind_eq_some_iff, Option.map_eq_some_iff] at hm
    obtain ⟨taken, -, h', hm', rfl⟩ := hm
    rcases List.mem_append.1 hg with hg | hg
    · obtain ⟨name, -, rfl⟩ := List.mem_map.1 hg
      exact List.mem_append_left _ hc
    · exact List.mem_append_right _ (ih hm' hg)

namespace Expansion

/-- A template has the characters that it is read to have, or a dollar sign in their place. -/
theorem mem_of_literal_mem_parseFrom {state : State} {t : Text} {c : Char}
    (hc : .literal c ∈ parseFrom state t) : c = '$' ∨ c ∈ t := by
  fun_induction parseFrom state t <;> grind

end Expansion

namespace Hit

/-- What a group took is part of the match. -/
theorem mem_of_mem_group {p : Pattern} {before : Option Char} {rest : Text} {h : Hit}
    (hm : p.match? before rest = some h) {name : Text} {c : Char} (hc : c ∈ h.group name) :
    c ∈ h.text := by
  unfold group at hc
  split at hc
  · exact hc
  · next n _ =>
    cases hg : h.groups[n]? with
    | none => simp [hg] at hc
    | some g =>
      rw [hg] at hc
      exact Pattern.mem_of_mem_groups hm (List.mem_of_getElem? hg) hc
  · cases hg : h.groups.lookup (String.ofList name) with
    | none => simp [hg] at hc
    | some taken =>
      obtain ⟨l₁, l₂, hl, -⟩ := List.lookup_eq_some_iff.1 hg
      have hmem : (String.ofList name, taken) ∈ h.groups := by simp [hl]
      rw [hg] at hc
      exact Pattern.mem_of_mem_groups hm hmem hc

end Hit

namespace Action

/-- Nothing that the action puts in place of a match has a line feed of its own. -/
def StaysInLine : Action → Prop
  | replace text => '\n' ∉ text
  | expand template => '\n' ∉ template
  | wrap before after => '\n' ∉ before ∧ '\n' ∉ after
  | delete => True

theorem newline_not_mem_render {action : Action} (ha : action.StaysInLine) {p : Pattern}
    {before : Option Char} {rest : Text} (hrest : '\n' ∉ rest) {h : Hit}
    (hm : p.match? before rest = some h) : '\n' ∉ action.render h := by
  have htext : '\n' ∉ h.text := fun hc => hrest ((Pattern.prefix_of_match? hm).mem hc)
  cases action with
  | replace text => exact ha
  | expand template =>
    intro hc
    obtain ⟨piece, hpiece, hc⟩ := List.mem_flatMap.1 hc
    cases piece with
    | literal d =>
      obtain rfl := List.mem_singleton.1 hc
      rcases Expansion.mem_of_literal_mem_parseFrom hpiece with hd | hd
      · exact absurd hd (by decide)
      · exact ha hd
    | group name => exact htext (Hit.mem_of_mem_group hm hc)
  | wrap before after => simp [render, ha.1, ha.2, htext]
  | delete => simp [render]

end Action

end VectorFamily
