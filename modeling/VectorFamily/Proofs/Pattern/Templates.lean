import VectorFamily.Proofs.Pattern.Expansion
import VectorFamily.Rule.Basic

/-!
# How templates are read

`Expansion.Reads` writes the forms of a template down side by side: two dollar signs, a name that
is as long as it can be, a name in braces up to the first closing one, and a dollar sign that
starts none of these. Each template can be read in exactly one way, and the reader by states finds
it (`reads_iff`). A protected text is read character by character in front of anything, also where
its last dollar sign meets the one of a reference (`render_protected`).
-/

namespace VectorFamily

namespace Expansion

/-- A dollar sign in front of the text is more than a character. -/
def Opens : Text → Prop
  | [] => False
  | c :: rest => c = '$' ∨ isNameChar c ∨ c = '\x7b' ∧ '\x7d' ∈ rest

/-- The pieces are a reading of the template. -/
inductive Reads : Text → List TemplatePiece → Prop
  | nil : Reads [] []
  /-- Any other character than a dollar sign stands for itself. -/
  | plain {c rest pieces} (hc : c ≠ '$') (h : Reads rest pieces) :
      Reads (c :: rest) (.literal c :: pieces)
  /-- Two dollar signs stand for one. -/
  | dollars {rest pieces} (h : Reads rest pieces) :
      Reads ('$' :: '$' :: rest) (.literal '$' :: pieces)
  /-- A name without braces ends where no letter, digit or underscore follows. -/
  | name {name rest pieces} (hne : name ≠ []) (hname : ∀ c ∈ name, isNameChar c = true)
      (hrest : ∀ c ∈ rest.head?, isNameChar c = false) (h : Reads rest pieces) :
      Reads ('$' :: (name ++ rest)) (.group name :: pieces)
  /-- A name in braces ends at the first closing one. -/
  | braced {name rest pieces} (hname : '\x7d' ∉ name) (h : Reads rest pieces) :
      Reads ('$' :: '\x7b' :: (name ++ '\x7d' :: rest)) (.group name :: pieces)
  /-- A dollar sign that starts none of these stands for itself. -/
  | lone {rest pieces} (hrest : ¬ Opens rest) (h : Reads rest pieces) :
      Reads ('$' :: rest) (.literal '$' :: pieces)

/-! ### The reader by states -/

section
variable {c : Char} {name rest read : Text}

theorem parse_cons_of_ne (hc : c ≠ '$') : parse (c :: rest) = .literal c :: parse rest := by
  simp [parse, parseFrom, hc]

theorem parseFrom_name (hname : ∀ c ∈ name, isNameChar c = true)
    (hrest : ∀ c ∈ rest.head?, isNameChar c = false) :
    parseFrom (.name read) (name ++ rest) = .group (read.reverse ++ name) :: parse rest := by
  induction name generalizing read with
  | nil =>
    cases rest with
    | nil => simp [parse, parseFrom]
    | cons c rest =>
      have hc : isNameChar c = false := hrest c rfl
      simp [parse, parseFrom, hc]
  | cons c name ih =>
    have hc : isNameChar c = true := hname c List.mem_cons_self
    rw [List.cons_append, parseFrom, if_pos hc, ih fun d hd => hname d (List.mem_cons_of_mem c hd)]
    simp

theorem parse_name (hne : name ≠ []) (hname : ∀ c ∈ name, isNameChar c = true)
    (hrest : ∀ c ∈ rest.head?, isNameChar c = false) :
    parse ('$' :: (name ++ rest)) = .group name :: parse rest := by
  obtain ⟨c, name, rfl⟩ := List.exists_cons_of_ne_nil hne
  have hc : isNameChar c = true := hname c List.mem_cons_self
  -- neither of the other two forms starts with a character of a name
  have hdollar : c ≠ '$' := by rintro rfl; cases hc
  have hbrace : c ≠ '\x7b' := by rintro rfl; cases hc
  have hstart : parse ('$' :: (c :: name ++ rest)) = parseFrom (.name [c]) (name ++ rest) := by
    simp [parse, parseFrom, hc, hdollar, hbrace]
  rw [hstart, parseFrom_name (fun d hd => hname d (List.mem_cons_of_mem c hd)) hrest]
  rfl

theorem parseFrom_braced (hname : '\x7d' ∉ name) :
    parseFrom (.braced read) (name ++ '\x7d' :: rest) =
      .group (read.reverse ++ name) :: parse rest := by
  induction name generalizing read with
  | nil => simp [parse, parseFrom]
  | cons c name ih =>
    obtain ⟨hc, hname⟩ := List.ne_and_not_mem_of_not_mem_cons hname
    simp [parseFrom, hc.symm, ih hname]

theorem parse_braced (hname : '\x7d' ∉ name) :
    parse ('$' :: '\x7b' :: (name ++ '\x7d' :: rest)) = .group name :: parse rest := by
  have hstart : parse ('$' :: '\x7b' :: (name ++ '\x7d' :: rest)) =
      parseFrom (.braced []) (name ++ '\x7d' :: rest) := by
    simp [parse, parseFrom]
  rw [hstart, parseFrom_braced hname]
  rfl

theorem parse_lone (hrest : ¬ Opens rest) : parse ('$' :: rest) = .literal '$' :: parse rest := by
  cases rest with
  | nil => rfl
  | cons c rest =>
    obtain ⟨hdollar, hname, hbrace⟩ : c ≠ '$' ∧ isNameChar c = false ∧
        ¬ (c = '\x7b' ∧ '\x7d' ∈ rest) := by
      simpa [Opens] using hrest
    rw [parse_cons_of_ne hdollar]
    simp [parse, parseFrom, hdollar, hname, hbrace]

end

/-! ### One reading -/

variable {t : Text} {pieces : List TemplatePiece}

theorem parse_eq_of_reads (h : Reads t pieces) : parse t = pieces := by
  induction h with
  | nil => rfl
  | plain hc _ ih => rw [parse_cons_of_ne hc, ih]
  | dollars _ ih => rw [← ih]; rfl
  | name hne hname hrest _ ih => rw [parse_name hne hname hrest, ih]
  | braced hname _ ih => rw [parse_braced hname, ih]
  | lone hrest _ ih => rw [parse_lone hrest, ih]

/-- A text that starts with a character of a name has a longest name at its front. -/
theorem exists_name {c : Char} (hc : isNameChar c = true) (rest : Text) :
    ∃ name later, c :: rest = name ++ later ∧ name ≠ [] ∧ (∀ d ∈ name, isNameChar d = true) ∧
      ∀ d ∈ later.head?, isNameChar d = false := by
  refine ⟨c :: rest.takeWhile isNameChar, rest.dropWhile isNameChar, ?_, List.cons_ne_nil _ _,
    List.forall_mem_cons.2 ⟨hc, List.all_eq_true.1 List.all_takeWhile⟩, fun d hd => ?_⟩
  · rw [List.cons_append, List.takeWhile_append_dropWhile]
  · have hnot := List.head?_dropWhile_not isNameChar rest
    rwa [hd] at hnot

theorem exists_reads (t : Text) : ∃ pieces, Reads t pieces := by
  induction hlength : t.length using Nat.strong_induction_on generalizing t with
  | _ n ih =>
    subst hlength
    rcases t with - | ⟨c, rest⟩
    · exact ⟨[], .nil⟩
    -- each form leaves an end of `rest` to be read
    have hread {later : Text} (hlater : later <:+ rest) : ∃ pieces, Reads later pieces :=
      ih later.length (Nat.lt_succ_of_le hlater.length_le) later rfl
    by_cases hc : c = '$'
    case neg =>
      obtain ⟨pieces, h⟩ := hread List.suffix_rfl
      exact ⟨_, .plain hc h⟩
    subst hc
    by_cases hopens : Opens rest
    case neg =>
      obtain ⟨pieces, h⟩ := hread List.suffix_rfl
      exact ⟨_, .lone hopens h⟩
    rcases rest with - | ⟨c, rest⟩
    · exact hopens.elim
    rcases hopens with rfl | hname | ⟨rfl, hclosed⟩
    · obtain ⟨pieces, h⟩ := hread (List.suffix_cons '$' rest)
      exact ⟨_, .dollars h⟩
    · obtain ⟨name, later, heq, hne, hname, hlater⟩ := exists_name hname rest
      obtain ⟨pieces, h⟩ := hread ⟨name, heq.symm⟩
      rw [heq]
      exact ⟨_, .name hne hname hlater h⟩
    · obtain ⟨name, later, rfl, hname⟩ := List.eq_append_cons_of_mem hclosed
      have hlater : later <:+ '\x7b' :: (name ++ '\x7d' :: later) :=
        ⟨'\x7b' :: (name ++ ['\x7d']), by simp⟩
      obtain ⟨pieces, h⟩ := hread hlater
      exact ⟨_, .braced hname h⟩

/-- A template has one reading, and the reader by states finds it. -/
theorem reads_iff : Reads t pieces ↔ parse t = pieces := by
  refine ⟨parse_eq_of_reads, ?_⟩
  rintro rfl
  obtain ⟨pieces, h⟩ := exists_reads t
  rwa [parse_eq_of_reads h]

end Expansion

/-- What a group of that name took, if the name is no number. -/
theorem Hit.group_of_lookup {found : Hit} {name : String} {taken : Text}
    (hname : Expansion.number? name.toList = none) (h : found.groups.lookup name = some taken) :
    found.group name.toList = taken := by
  simp [group, hname, h]

theorem Hit.expand_protect_append (found : Hit) (t u : Text) :
    found.expand (Expansion.protect t ++ u) = t ++ found.expand u := by
  rw [expand, Expansion.parse_protect_append, List.flatMap_append, flatMap_expandPiece_literal]
  rfl

namespace Action

open Expansion (Reads protect)

/-- A protected text stands for itself, whatever it holds and whatever follows it. Between two of
them a reference to the arity gives what the group took: it is read as that reference, each
character around it as itself, and there is no other reading. -/
theorem render_protected (p q : Text) {found : Hit} {arity : Text}
    (harity : found.groups.lookup "arity" = some arity) :
    (expand (protect p ++ "$\x7barity\x7d".toList ++ protect q)).render found = p ++ arity ++ q ∧
    (∀ pieces, Reads (protect p ++ "$\x7barity\x7d".toList ++ protect q) pieces ↔
      pieces = p.map .literal ++ .group "arity".toList :: q.map .literal) ∧
    ∀ rest, (expand (protect p ++ rest)).render found = p ++ (expand rest).render found := by
  have hparse := Expansion.parse_protect_arity p (protect q)
  rw [Expansion.parse_protect] at hparse
  refine ⟨?_, fun pieces => ?_, found.expand_protect_append p⟩
  · have hgroup : found.group "arity".toList = arity := Hit.group_of_lookup (by decide) harity
    rw [render, Hit.expand, hparse, List.flatMap_append, List.flatMap_cons, Hit.expandPiece, hgroup,
      Hit.flatMap_expandPiece_literal, Hit.flatMap_expandPiece_literal, List.append_assoc]
  · rw [Expansion.reads_iff, hparse, eq_comm]

/-- The dollar signs at the end of the one text run on into the reference, the other text goes on
as if it held references of its own; a brace that nothing closes opens none. -/
theorem render_protected_dollars :
    ∃ found, (Conventions.classNamePattern {}).match? none "Vector10d::x".toList = some found ∧
      found.groups.lookup "arity" = some "10".toList ∧
      protect "a$$".toList ++ "$\x7barity\x7d".toList ++ protect "\x7b0\x7d$2\x7d$".toList =
        "a$$$$$\x7barity\x7d\x7b0\x7d$$2\x7d$$".toList ∧
      (expand "a$$$$$\x7barity\x7d\x7b0\x7d$$2\x7d$$".toList).render found =
        "a$$10\x7b0\x7d$2\x7d$".toList ∧
      (expand "a$$$$$\x7barity".toList).render found = "a$$$\x7barity".toList := by
  let found : Hit := ⟨"Vector10d".toList, [("arity", "10".toList)]⟩
  have hmatch :
      (Conventions.classNamePattern {}).match? none "Vector10d::x".toList = some found := by
    decide
  have harity : found.groups.lookup "arity" = some "10".toList := rfl
  obtain ⟨hbetween, -, hfront⟩ := render_protected "a$$".toList "\x7b0\x7d$2\x7d$".toList harity
  exact ⟨found, hmatch, harity, rfl, hbetween, hfront "$\x7barity".toList⟩

end Action

end VectorFamily
