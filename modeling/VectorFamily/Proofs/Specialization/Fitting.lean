import VectorFamily.Proofs.Output.Names
import VectorFamily.Proofs.Registry.WellFormed
import VectorFamily.Proofs.Template.Slots

/-!
# Values that fit into the template

A value fits into the place of a canonical one if no rule but its own finds anything in it. The
values of a profile that are not free to choose fit by themselves: class names and the label of the
included file are made of tags (`tokenFree_taggedName`, `tokenFree_includeLabel`).
-/

namespace VectorFamily

open Piece (isWordAt)
open VectorFamily.Specialization (TokenFree)

namespace Conventions

/-- The tokens of a template: what stands in the place of the values of an element type, and the
export token. -/
def canonicalTokens (c : Conventions) : List String :=
  arities.map c.className ++
    [c.symbol, c.defaultLiteral, c.byteSizeNote, c.rangeNote, c.includeLabel, c.exportToken]

/-- The value is the canonical one or holds no token of the template, and it holds nothing that a
statement pruned for booleans needs. -/
structure Fits (c : Conventions) (canonical value : String) : Prop where
  free : value = canonical ∨ ∀ name ∈ c.canonicalTokens, TokenFree name.toList value.toList
  statement : ';' ∉ value.toList
  quotient : ¬ " / ".toList <:+: value.toList

end Conventions

/-- The values of the profile fit into the template. -/
structure Profile.Fits (p : Profile) (c : Conventions) : Prop where
  symbol : c.Fits c.symbol p.symbol
  defaultLiteral : c.Fits c.defaultLiteral p.defaultLiteral
  byteSizeNote : c.Fits c.byteSizeNote p.byteSizeNote
  rangeNote : c.Fits c.rangeNote p.rangeNote

/-! ### The tokens of the default template -/

namespace Slot

/-- The rule that fills the slot. -/
def ruleName : Slot → String
  | className _ => "token.class-name"
  | includeLabel => "metadata.include-label"
  | symbol => "token.symbol"
  | literal | closedLiteral => "token.default-literal"
  | byteSize => "metadata.byte-size"
  | range => "metadata.range"

def exportWord : Text := ['P', 'F', 'O', '_', 'A', 'P', 'I']

/-- The words that no row of the canonical pair may hold outside of its slots. -/
def words : List Text := exportWord :: marks.map (·.2)

theorem mark_mem_words {e : Slot × Text} (he : e ∈ marks) : e.2 ∈ words :=
  List.mem_cons_of_mem _ (List.mem_map_of_mem he)

theorem words_ne_nil : ∀ l ∈ words, isWordAt l.head? = true ∧ l.head?.any Pattern.isEdge = true := by
  decide +kernel

theorem ne_nil_of_mem_words {l : Text} (hl : l ∈ words) : l ≠ [] := by
  rintro rfl
  exact absurd (words_ne_nil [] hl).1 (by decide)

/-- What a value must not hold unless it is the canonical one. -/
def tokens : List Text := exportWord :: (marks.filter (·.1 ≠ .closedLiteral)).map (·.2)

theorem mem_words_of_mem_tokens : ∀ l ∈ tokens, l ∈ words := by
  decide

theorem mark_mem_tokens {e : Slot × Text} (he : e ∈ marks) (hne : e.1 ≠ .closedLiteral) :
    e.2 ∈ tokens :=
  List.mem_cons_of_mem _ (List.mem_map_of_mem (List.mem_filter.2 ⟨he, by simpa using hne⟩))

theorem exists_mem_canonicalTokens : ∀ l ∈ tokens,
    ∃ name ∈ Conventions.canonicalTokens {}, name.toList = l := by
  decide

/-- What stands in a slot of the canonical pair holds no token but the one that it starts with. -/
theorem tokenFree_marks : ∀ e ∈ marks, ∀ l ∈ tokens, ¬ l <+: e.2 → TokenFree l e.2 := by
  decide +kernel

theorem eq_of_token_prefix_mark : ∀ e ∈ marks, e.1 ≠ .closedLiteral → ∀ l ∈ tokens,
    l <+: e.2 → l = e.2 := by
  decide

theorem ruleName_eq_of_prefix : ∀ e ∈ marks, ∀ e' ∈ marks, e'.1 ≠ .closedLiteral →
    e'.2 <+: e.2 → e'.1.ruleName = e.1.ruleName := by
  decide

end Slot

/-! ### Words -/

/-- A token that stands in a word as a whole is that word. -/
theorem eq_of_wholeToken_word {w l pre post : Text} (hw : ∀ c ∈ w, Unicode.isAsciiWord c = true)
    (hne : l ≠ []) (he : w = pre ++ l ++ post) (hwhole : WholeToken pre.getLast? l post.head?) :
    l = w := by
  subst he
  have hl : ∀ c ∈ l, Unicode.isAsciiWord c = true := fun c hc => hw c (by simp [hc])
  obtain ⟨hfront, hback⟩ := (wholeToken_iff_of_word hne hl).1 hwhole
  have hpre : pre = [] := by
    by_contra hpre
    rw [List.getLast?_eq_some_getLast hpre] at hfront
    have hmem := List.getLast_mem hpre
    rw [isWordAt, Option.any_some, isWord_of_isAsciiWord (hw _ (by simp [hmem]))] at hfront
    cases hfront
  have hpost : post = [] := by
    by_contra hpost
    rw [List.head?_eq_some_head hpost] at hback
    have hmem := List.head_mem hpost
    rw [isWordAt, Option.any_some, isWord_of_isAsciiWord (hw _ (by simp [hmem]))] at hback
    cases hback
  simp [hpre, hpost]

theorem tokenFree_word {w l : Text} (hw : ∀ c ∈ w, Unicode.isAsciiWord c = true) (hne : l ≠ [])
    (hlw : l ≠ w) : TokenFree l w :=
  fun _ _ he hwhole => hlw (eq_of_wholeToken_word hw hne he hwhole)

/-! ### Names with a tag -/

def taggedName (n : Nat) (tag : String) : Text :=
  (({} : Conventions).genericClassName n).toList ++ tag.toList

theorem canonical_className (n : Nat) : Slot.canonical (.className n) = taggedName n "d" := by
  show (({} : Conventions).genericClassName n ++ "d").toList = taggedName n "d"
  rw [String.toList_append]
  rfl

theorem isTag_classTag : IsTag "d" := tagDefect?_eq_none_iff.1 (by decide)

theorem isAsciiWord_of_isTag {tag : String} (h : IsTag tag) :
    ∀ c ∈ tag.toList, Unicode.isAsciiWord c = true :=
  isAsciiWord_of_tagDefect?_eq_none (tagDefect?_eq_none_iff.2 h)

section
variable {n : Nat} {tag : String} (hn : n ∈ arities) (htag : IsTag tag)
include hn

theorem isAsciiWord_of_mem_taggedName (htag : IsTag tag) :
    ∀ c ∈ taggedName n tag, Unicode.isAsciiWord c = true := by
  have hall : ∀ n ∈ arities, (({} : Conventions).genericClassName n).toList.all
      Unicode.isAsciiWord = true := by decide
  intro c hc
  rcases List.mem_append.1 hc with hc | hc
  · exact List.all_eq_true.1 (hall n hn) c hc
  · exact isAsciiWord_of_isTag htag c hc

include htag

theorem takeWhile_isDigit (y : Text) :
    ((toString n).toList ++ (tag.toList ++ y)).takeWhile Char.isDigit = (toString n).toList := by
  have hall : ∀ n ∈ arities, (toString n).toList.all Char.isDigit = true := by decide
  have htags : (tag.toList ++ y).takeWhile Char.isDigit = [] := by
    have hne : tag.toList ≠ [] := by simpa using htag.nonempty
    obtain ⟨c, cs, hcs⟩ := List.exists_cons_of_ne_nil hne
    have hc := htag.notDigit c (by simp [hcs])
    simp [hcs, hc]
  rw [List.takeWhile_append_of_pos (List.all_eq_true.1 (hall n hn)), htags, List.append_nil]

/-- A canonical class name that starts like a name with a tag is that name. -/
theorem eq_of_taggedName_append {k : Nat} (hk : k ∈ arities) {y : Text}
    (h : taggedName n tag ++ y = taggedName k "d") : tag = "d" ∧ y = [] := by
  have hdigits : (toString n).toList ++ (tag.toList ++ y) =
      (toString k).toList ++ ("d".toList ++ []) := by
    simpa [taggedName, Conventions.genericClassName] using h
  have hsame := congrArg (List.takeWhile Char.isDigit) hdigits
  rw [takeWhile_isDigit hn htag, takeWhile_isDigit hk isTag_classTag] at hsame
  rw [hsame, List.append_cancel_left_eq, List.append_nil] at hdigits
  have hne : tag.toList ≠ [] := by simpa using htag.nonempty
  rcases List.append_eq_singleton_iff.1 hdigits with ⟨hnil, -⟩ | ⟨hd, hy⟩
  · exact absurd hnil hne
  · exact ⟨String.toList_inj.1 hd, hy⟩

/-- The words do not go on from a name with a tag. -/
theorem eq_of_taggedName_append_mem_words {y : Text} (h : taggedName n tag ++ y ∈ Slot.words) :
    tag = "d" ∧ y = [] := by
  have hwords : ∀ l ∈ Slot.words, l.take 6 = "Vector".toList →
      (∃ k ∈ arities, l = taggedName k "d") ∨ (l[6]?).any Char.isDigit = false := by
    decide
  have hall : ∀ n ∈ arities, (toString n).toList ≠ [] ∧
      (toString n).toList.all Char.isDigit = true := by decide
  obtain ⟨d, ds, hds⟩ := List.exists_cons_of_ne_nil (hall n hn).1
  have hd : d.isDigit = true := List.all_eq_true.1 (hall n hn).2 d (by rw [hds]; simp)
  have hname : taggedName n tag ++ y = "Vector".toList ++ d :: (ds ++ (tag.toList ++ y)) := by
    have htext : (({} : Conventions).genericClassName n).toList =
        "Vector".toList ++ (toString n).toList := by
      simp [Conventions.genericClassName]
    rw [taggedName, htext, hds]
    simp
  rcases hwords _ h (by rw [hname]; rfl) with ⟨k, hk, he⟩ | hdigit
  · exact eq_of_taggedName_append hn htag hk he
  · rw [hname] at hdigit
    have hget : ("Vector".toList ++ d :: (ds ++ (tag.toList ++ y)))[6]? = some d := rfl
    rw [hget, Option.any_some, hd] at hdigit
    cases hdigit

theorem tokenFree_taggedName (hne : tag ≠ "d") {l : Text} (hl : l ∈ Slot.words) :
    TokenFree l (taggedName n tag) := by
  refine tokenFree_word (isAsciiWord_of_mem_taggedName hn htag) (Slot.ne_nil_of_mem_words hl) ?_
  rintro rfl
  exact hne (eq_of_taggedName_append_mem_words hn htag (y := []) (by simpa using hl)).1

/-- A token can start in a name with a tag only where the name does. -/
theorem eq_nil_of_wholeToken_taggedName {a b y : Text} (hu : taggedName n tag = a ++ b)
    (hb : b ≠ []) {before after : Option Char}
    (hw : WholeToken (a.getLast?.or before) (b ++ y) after) : a = [] := by
  have hword := isAsciiWord_of_mem_taggedName hn htag
  obtain ⟨c, b, rfl⟩ := List.exists_cons_of_ne_nil hb
  have hc := hword c (by simp [hu])
  have hfront : isWordAt (a.getLast?.or before) ≠ Unicode.isWord c :=
    hw.front (isEdge_of_isAsciiWord hc)
  rw [isWord_of_isAsciiWord hc] at hfront
  by_contra ha
  rw [List.getLast?_eq_some_getLast ha] at hfront
  have hlast := hword _ (by rw [hu]; exact List.mem_append_left _ (List.getLast_mem ha))
  exact hfront (isWord_of_isAsciiWord hlast)

theorem endsItself_taggedName : EndsItself Slot.words (taggedName n tag) := by
  intro a b y hu hb hy hmem before after _ hw
  obtain rfl := eq_nil_of_wholeToken_taggedName hn htag hu hb hw
  rw [List.nil_append] at hu
  rw [← hu] at hmem
  exact hy (eq_of_taggedName_append_mem_words hn htag hmem).2

/-- The same holds of further words, if none of them starts like a class name. -/
theorem endsItself_taggedName_append {words : List Text} (hwords : ∀ l ∈ words, l.head? ≠ some 'V') :
    EndsItself (Slot.words ++ words) (taggedName n tag) := by
  intro a b y hu hb hy hmem before after hbefore hw
  rcases List.mem_append.1 hmem with hmem | hmem
  · exact endsItself_taggedName hn htag a b y hu hb hy hmem before after hbefore hw
  · obtain rfl := eq_nil_of_wholeToken_taggedName hn htag hu hb hw
    rw [List.nil_append] at hu
    refine hwords _ hmem ?_
    rw [← hu, taggedName]
    simp [Conventions.genericClassName]

end

/-! ### Labels of included files -/

/-- Around the only separator of a text stand the parts of what is found there. -/
theorem eq_of_only {d : Char} {u e pre x y post : Text} (hu : d ∉ u) (he : d ∉ e) (hx : d ∉ x)
    (h : u ++ d :: e = pre ++ (x ++ d :: y) ++ post) : u = pre ++ x ∧ e = y ++ post := by
  have hpre : d ∉ pre := by
    intro hmem
    obtain ⟨a, b, rfl, ha⟩ := List.eq_append_cons_of_mem hmem
    have hcut := (eq_of_append_cons hu ha (v := b ++ (x ++ d :: y) ++ post) (by simpa using h)).2
    exact he (hcut ▸ by simp)
  exact eq_of_append_cons hu (b := pre ++ x) (v := y ++ post) (by simp [hpre, hx])
    (by simpa using h)

section
variable {fileTag : String} {l : Text}

theorem toList_includeLabelFor : (({} : Conventions).includeLabelFor fileTag).toList =
    ("Vector".toList ++ fileTag.toList) ++ '.' :: ['h'] := by
  simp [Conventions.includeLabelFor, Conventions.stem]

variable (htag : IsTag fileTag)
include htag

theorem isAsciiWord_stem :
    ∀ c ∈ "Vector".toList ++ fileTag.toList, Unicode.isAsciiWord c = true := by
  have hstem : "Vector".toList.all Unicode.isAsciiWord = true := by decide
  exact fun c hc =>
    (List.mem_append.1 hc).elim (List.all_eq_true.1 hstem c) (isAsciiWord_of_isTag htag c)

theorem isAsciiWord_or_dot_includeLabelFor :
    ∀ c ∈ (({} : Conventions).includeLabelFor fileTag).toList,
      Unicode.isAsciiWord c = true ∨ c = '.' := by
  intro c hc
  rw [toList_includeLabelFor, List.mem_append, List.mem_cons, List.mem_singleton] at hc
  rcases hc with hc | rfl | rfl
  · exact .inl (isAsciiWord_stem htag c hc)
  · exact .inr rfl
  · exact .inl (by decide)

/-- The only dot of the label is that of the token, so the token is the canonical label. -/
theorem tokenFree_includeLabel_of_dot (hne : fileTag ≠ "D") (hl : l ∈ Slot.words) (hdot : '.' ∈ l) :
    TokenFree l (({} : Conventions).includeLabelFor fileTag).toList := by
  have hwords : ∀ l ∈ Slot.words, '.' ∈ l → (l.dropWhile (· != '.')).tail <+: ['h'] →
      l.takeWhile (· != '.') = "VectorD".toList := by
    decide
  have hword := isAsciiWord_stem htag
  rw [toList_includeLabelFor]
  intro pre post he hw
  have hnodot : '.' ∉ "Vector".toList ++ fileTag.toList := fun h => absurd (hword _ h) (by decide)
  obtain ⟨x, y, rfl, hx⟩ := List.eq_append_cons_of_mem hdot
  have hx' : ∀ c ∈ x, (c != '.') = true := fun c hc => by
    simpa using fun h : c = '.' => hx (h ▸ hc)
  obtain ⟨hstem, hextension⟩ := eq_of_only hnodot (by decide) hx he
  have hxD := hwords _ hl hdot
  rw [List.dropWhile_append_of_pos hx', List.takeWhile_append_of_pos hx'] at hxD
  have hxD : x = "VectorD".toList := by simpa [hextension] using hxD
  have hfront := hw.front (Slot.words_ne_nil _ hl).2
  rw [(Slot.words_ne_nil _ hl).1] at hfront
  have hprenil : pre = [] := by
    by_contra hne'
    rw [List.getLast?_eq_some_getLast hne'] at hfront
    have hlast := hword _ (by rw [hstem]; exact List.mem_append_left _ (List.getLast_mem hne'))
    exact hfront (isWord_of_isAsciiWord hlast)
  rw [hprenil, hxD] at hstem
  have htagD : fileTag.toList = "D".toList :=
    List.append_cancel_left (hstem : "Vector".toList ++ fileTag.toList = "Vector".toList ++ _)
  exact hne (String.toList_inj.1 htagD)

/-- A word without a dot is neither the stem of the label, as tags do not start with digits, nor its
extension. -/
theorem tokenFree_includeLabel_of_not_dot (hl : l ∈ Slot.words) (hdot : '.' ∉ l) :
    TokenFree l (({} : Conventions).includeLabelFor fileTag).toList := by
  have hwords : ∀ l ∈ Slot.words, l ≠ ['h'] ∧ ('.' ∉ l → l.take 6 = "Vector".toList →
      l[6]?.any Char.isDigit = true) := by
    decide
  have hextension : ['h'].all Unicode.isAsciiWord = true := by decide
  have hlne := Slot.ne_nil_of_mem_words hl
  rw [toList_includeLabelFor]
  refine (tokenFree_append_cons hlne hdot (by decide)).2
    ⟨tokenFree_word (isAsciiWord_stem htag) hlne ?_,
      tokenFree_word (List.all_eq_true.1 hextension) hlne (hwords l hl).1⟩
  rintro rfl
  have hdigit := (hwords _ hl).2 hdot rfl
  have hget : ("Vector".toList ++ fileTag.toList)[6]? = fileTag.toList.head? := by
    cases fileTag.toList <;> rfl
  rw [hget] at hdigit
  cases hhead : fileTag.toList.head? with
  | none =>
    rw [hhead] at hdigit
    cases hdigit
  | some c =>
    rw [hhead, Option.any_some, htag.notDigit c hhead] at hdigit
    cases hdigit

theorem tokenFree_includeLabel (hne : fileTag ≠ "D") (hl : l ∈ Slot.words) :
    TokenFree l (({} : Conventions).includeLabelFor fileTag).toList := by
  by_cases hdot : '.' ∈ l
  · exact tokenFree_includeLabel_of_dot htag hne hl hdot
  · exact tokenFree_includeLabel_of_not_dot htag hl hdot

end

end VectorFamily
