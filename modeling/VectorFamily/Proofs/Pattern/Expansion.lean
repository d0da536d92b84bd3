import VectorFamily.Proofs.Pattern.Recognition

/-!
# Templates of class names

A protected text stands for itself in a template. The template of class names puts the arity of a
canonical class name between the prefix and a suffix.
-/

namespace VectorFamily

namespace Expansion

theorem parse_protect_append (t u : Text) :
    parse (protect t ++ u) = t.map .literal ++ parse u := by
  induction t with
  | nil => rfl
  | cons c t ih =>
    have hcons : protect (c :: t) = (if c == '$' then ['$', '$'] else [c]) ++ protect t := rfl
    rw [hcons, List.append_assoc, List.map_cons, List.cons_append, ← ih]
    by_cases hc : c = '$'
    · subst hc
      rfl
    · simp [parse, parseFrom, hc]

theorem parse_protect (t : Text) : parse (protect t) = t.map .literal := by
  have := parse_protect_append t []
  rwa [List.append_nil, show parse [] = [] from rfl, List.append_nil] at this

theorem parse_protect_arity (t u : Text) :
    parse (protect t ++ "$\x7barity\x7d".toList ++ u) =
      t.map .literal ++ .group "arity".toList :: parse u := by
  rw [List.append_assoc, parse_protect_append]
  rfl

end Expansion

namespace Hit

theorem flatMap_expandPiece_literal (h : Hit) (t : Text) :
    (t.map TemplatePiece.literal).flatMap h.expandPiece = t := by
  simp [List.flatMap_map, expandPiece]

theorem expand_protect (h : Hit) (t : Text) : h.expand (Expansion.protect t) = t := by
  rw [expand, Expansion.parse_protect, flatMap_expandPiece_literal]

end Hit

namespace Conventions

variable {c : Conventions}

theorem parse_classNameTemplate (suffix : Text) :
    Expansion.parse (c.classNameTemplate suffix) =
      c.classPrefix.toList.map .literal ++ .group "arity".toList :: Expansion.parse suffix :=
  Expansion.parse_protect_arity c.classPrefix.toList suffix

/-- The hit for the class of one arity. -/
def classNameHit (c : Conventions) (n : Nat) : Hit :=
  ⟨(c.className n).toList, [("arity", (toString n).toList)]⟩

theorem classNameHits_eq (c : Conventions) : c.classNameHits = arities.map c.classNameHit := rfl

/-- A canonical class name with another text in the place of its tag. -/
theorem expand_classNameHit (n : Nat) (suffix : Text) :
    (c.classNameHit n).expand (c.classNameTemplate suffix) =
      (c.genericClassName n).toList ++ (c.classNameHit n).expand suffix := by
  have harity : (c.classNameHit n).group "arity".toList = (toString n).toList := rfl
  rw [Hit.expand, parse_classNameTemplate, List.flatMap_append, Hit.flatMap_expandPiece_literal,
    List.flatMap_cons, Hit.expandPiece, harity, genericClassName, String.toList_append,
    List.append_assoc]
  rfl

theorem expand_classNameTemplate {found : Hit} (hfound : found ∈ c.classNameHits) :
    ∃ n ∈ arities, found.text = (c.className n).toList ∧ ∀ suffix : Text,
      found.expand (c.classNameTemplate suffix) =
        (c.genericClassName n).toList ++ found.expand suffix := by
  obtain ⟨n, hn, rfl⟩ := List.mem_map.1 hfound
  exact ⟨n, hn, rfl, expand_classNameHit n⟩

end Conventions

end VectorFamily
