import VectorFamily.Proofs.GenericHeader.Assembly
import VectorFamily.Proofs.Pattern.Expansion

/-!
# The stream operators of the generic header

A function of the interface starts with its keywords at the front of a line, behind an indentation.
The start becomes that of a function template, on two lines with the same indentation, and the class
names become those of the class templates with the type parameter as their argument.
-/

namespace VectorFamily.GenericHeader

open Piece (isWordAt)

theorem match?_functionStart_eq_some {before : Option Char} {rest : Text} {h : Hit} :
    functionStart.match? before rest = some h ↔
      before.all (· == '\n') = true ∧ ∃ post, rest.dropWhile CharClass.indent.has =
        "inline static".toList ++ post ∧ isWordAt post.head? = false ∧
        h = ⟨indentOf rest ++ "inline static".toList, [("indent", indentOf rest)]⟩ := by
  have hlast : ∀ b : Option Char, isWordAt ("inline static".toList.getLast?.or b) = true := by
    intro b
    exact isWord_of_isAsciiWord (c := 'c') rfl
  have hdrop : (rest.takeWhile CharClass.indent.has ++ rest.dropWhile CharClass.indent.has).drop
      (rest.takeWhile CharClass.indent.has).length = rest.dropWhile CharClass.indent.has :=
    List.drop_left
  rw [List.takeWhile_append_dropWhile] at hdrop
  have hrun : ∀ ps : Pattern, Pattern.match? (.named "indent" (.run .indent 0) :: ps) before rest =
      (Pattern.match? ps ((indentOf rest).getLast?.or before)
        (rest.dropWhile CharClass.indent.has)).map
          (Hit.after (.named "indent" (.run .indent 0)) (indentOf rest)) := by
    intro ps
    simp [Pattern.match?, Part.named, Part.run, Piece.take?, indentOf, hdrop]
  rw [functionStart, Pattern.match?_lineStart_cons_eq_some, hrun, Option.map_eq_some_iff]
  simp only [Pattern.match?_text_cons_eq_some, Pattern.match?_boundary_cons_eq_some, hlast]
  refine and_congr_right fun _ => ?_
  constructor
  · rintro ⟨_, ⟨post, _, hpost, ⟨hword, hend⟩, rfl⟩, rfl⟩
    obtain rfl := Option.some.inj hend
    exact ⟨post, hpost, by simpa using hword.symm,
      by simp [Hit.after, Part.named, Part.text, Part.run]⟩
  · rintro ⟨post, hpost, hword, rfl⟩
    exact ⟨_, ⟨post, _, hpost, ⟨by simp [hword], rfl⟩, rfl⟩,
      by simp [Hit.after, Part.named, Part.text, Part.run]⟩

def templateStart : Text :=
  "$\x7bindent\x7dtemplate<class ".toList ++
    Expansion.protect ({} : Conventions).genericParameter.toList ++
    ">\n$\x7bindent\x7dinline static".toList

theorem expand_templateStart {before : Option Char} {rest : Text} {h : Hit}
    (hm : functionStart.match? before rest = some h) :
    h.expand templateStart = indentOf rest ++ "template<class T>\n".toList ++
      indentOf rest ++ "inline static".toList := by
  obtain ⟨-, post, -, -, rfl⟩ := match?_functionStart_eq_some.1 hm
  have hparse : Expansion.parse templateStart = .group "indent".toList ::
      ("template<class T>\n".toList.map .literal ++ .group "indent".toList ::
        "inline static".toList.map .literal) := by
    decide +kernel
  have hindent : Hit.group ⟨indentOf rest ++ "inline static".toList, [("indent", indentOf rest)]⟩
      "indent".toList = indentOf rest := rfl
  rw [Hit.expand, hparse, List.flatMap_cons, List.flatMap_append, List.flatMap_cons,
    Hit.flatMap_expandPiece_literal, Hit.flatMap_expandPiece_literal, Hit.expandPiece, hindent]
  simp only [List.append_assoc]

/-- A class name in a stream operator becomes the class template with the type parameter. -/
theorem expand_classArgument {found : Hit}
    (hfound : found ∈ Conventions.classNameHits {}) :
    ∃ n ∈ arities, found.text = (Conventions.className {} n).toList ∧
      found.expand (Conventions.classNameTemplate {} ('<' ::
        Expansion.protect ({} : Conventions).genericParameter.toList ++ ['>'])) =
          (Conventions.genericClassName {} n).toList ++ "<T>".toList := by
  obtain ⟨n, hn, htext, hexpand⟩ := Conventions.expand_classNameTemplate hfound
  refine ⟨n, hn, htext, ?_⟩
  have hargument : '<' :: Expansion.protect ({} : Conventions).genericParameter.toList ++ ['>'] =
      Expansion.protect "<T>".toList := by decide
  rw [hexpand, hargument, Hit.expand_protect]

/-- The stream operators after their rules, whether these match or not. -/
theorem rewrite_helperRules (t : Text) : Rule.rewrite (helperRules {}) t =
    ((Pattern.token ({} : Conventions).symbol.toList).replaceAll
      (fun _ => ({} : Conventions).genericParameter.toList)
      ((Conventions.classNamePattern {}).replaceAll
        (fun h => h.expand (Conventions.classNameTemplate {} ('<' ::
          Expansion.protect ({} : Conventions).genericParameter.toList ++ ['>'])))
        (functionStart.replaceAll (fun h => h.expand templateStart) t).1).1).1 := by
  simp only [helperRules, Rule.rewrite_cons, Rule.rewrite_nil, Rule.apply, Edit.apply, symbolRule,
    Edit.substituteAll_singleton]
  rfl

theorem solid_functionStart : functionStart.Solid := by
  intro before rest h hm
  obtain ⟨-, post, -, -, rfl⟩ := match?_functionStart_eq_some.1 hm
  simp

end VectorFamily.GenericHeader
