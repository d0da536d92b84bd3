import VectorFamily.Proofs.GenericHeader.SectionRows
import VectorFamily.Proofs.Specialization.ClassNames

/-!
# The rows of the stream operators

The stream operators become function templates row by row. A row that starts a function gets one
row in front of it, and no other row is new. Within a row the class names and the element type can
be found without patterns, as runs: the name of a class is a run, the element type is three of them
one behind the other, and a renamed class is never a part of it (`rows_of_helpers`).
-/

namespace VectorFamily

open Piece (isWordAt)
open Text (rows runs IsRun ByTurns byTurns_runs flatten_runs)

/-- Where the characters of another kind start, a run ends: texts that start alike start with the
same run. -/
theorem Text.IsRun.append_inj {u x v w : Text} (hu : IsRun u) (hx : IsRun x)
    (hv : ∀ c ∈ v.head?, Unicode.isWord c ≠ isWordAt u.head?)
    (hw : ∀ c ∈ w.head?, Unicode.isWord c ≠ isWordAt x.head?) (h : u ++ v = x ++ w) :
    u = x ∧ v = w := by
  have hhead : u.head? = x.head? := by
    rw [← List.head?_append_of_ne_nil u hu.ne, h, List.head?_append_of_ne_nil x hx.ne]
  rcases List.append_eq_append_iff.1 h with ⟨a, rfl, rfl⟩ | ⟨a, rfl, rfl⟩
  · cases a with
    | nil => simp
    | cons c a => exact absurd (hx.kind c (by simp)) (hhead ▸ hv c rfl)
  · cases a with
    | nil => simp
    | cons c a => exact absurd (hu.kind c (by simp)) (hhead ▸ hw c rfl)

namespace GenericHeader

/-! ### Rows that start a function -/

def startsFunction (row : Text) : Bool :=
  match "inline static".toList.isPrefixOf? (row.dropWhile CharClass.indent.has) with
  | some post => !isWordAt post.head?
  | none => false

/-- The row, behind that of the template if it starts a function. -/
def templateRows (row : Text) : List Text :=
  if startsFunction row then [indentOf row ++ "template<class T>".toList, row] else [row]

theorem startsFunction_iff {row : Text} : startsFunction row = true ↔
    ∃ post, row.dropWhile CharClass.indent.has = "inline static".toList ++ post ∧
      isWordAt post.head? = false := by
  rw [startsFunction]
  cases hrest : "inline static".toList.isPrefixOf? (row.dropWhile CharClass.indent.has) with
  | none =>
    simp only [Bool.false_eq_true, false_iff]
    rintro ⟨post, hpost, -⟩
    rw [List.isPrefixOf?_eq_some_iff_append_eq.2 hpost.symm] at hrest
    cases hrest
  | some post =>
    have hpost := (List.isPrefixOf?_eq_some_iff_append_eq.1 hrest).symm
    simp only [Bool.not_eq_true']
    constructor
    · exact fun hword => ⟨post, hpost, hword⟩
    · rintro ⟨post', hpost', hword⟩
      rw [hpost] at hpost'
      rwa [List.append_cancel_left hpost']

theorem staysInLine_functionStart : functionStart.StaysInLine := by
  decide +kernel

theorem replaceAll_functionStart_row {row : Text} (hrow : '\n' ∉ row) :
    (functionStart.replaceAll (fun h => h.expand templateStart) row).1 =
      if startsFunction row then indentOf row ++ "template<class T>".toList ++ '\n' :: row
      else row := by
  rw [Pattern.replaceAll_of_lineStart rfl hrow solid_functionStart]
  cases hm : functionStart.match? none row with
  | none =>
    rw [if_neg]
    intro hstarts
    obtain ⟨post, hpost, hword⟩ := startsFunction_iff.1 hstarts
    rw [match?_functionStart_eq_some.2 ⟨rfl, post, hpost, hword, rfl⟩] at hm
    cases hm
  | some h =>
    obtain ⟨-, post, hpost, hword, hh⟩ := match?_functionStart_eq_some.1 hm
    have hrest : row = indentOf row ++ "inline static".toList ++ post := by
      rw [List.append_assoc, ← hpost, indentOf, List.takeWhile_append_dropWhile]
    have hdrop : row.drop h.text.length = post := by
      conv_lhs => rw [hrest, hh, List.drop_left]
    have hrows : ∀ indent : Text, row = indent ++ "inline static".toList ++ post →
        indent ++ "template<class T>\n".toList ++ indent ++ "inline static".toList ++ post =
          indent ++ "template<class T>".toList ++ '\n' :: row := by
      rintro indent rfl
      simp
    rw [if_pos (startsFunction_iff.2 ⟨post, hpost, hword⟩), ← hrows _ hrest]
    simp only [hdrop, expand_templateStart hm]

theorem rows_replaceAll_functionStart_row {row : Text} (hrow : '\n' ∉ row) :
    rows (functionStart.replaceAll (fun h => h.expand templateStart) row).1 =
      templateRows row := by
  have hindent : '\n' ∉ indentOf row := fun hn => hrow (List.takeWhile_subset _ hn)
  rw [replaceAll_functionStart_row hrow, templateRows]
  split
  · rw [Text.rows_append_newline, Text.rows_of_not_mem (by simp [hindent]),
      Text.rows_of_not_mem hrow, List.singleton_append]
  · exact Text.rows_of_not_mem hrow

theorem rows_replaceAll_functionStart (t : Text) :
    rows (functionStart.replaceAll (fun h => h.expand templateStart) t).1 =
      (rows t).flatMap templateRows := by
  induction t using Text.rows_induction with
  | row t ht =>
    rw [rows_replaceAll_functionStart_row ht, Text.rows_of_not_mem ht, List.flatMap_singleton]
  | cut t u ht ih =>
    rw [Pattern.replaceAll_append_newline staysInLine_functionStart, Text.rows_append_newline,
      Text.rows_append_newline, ih, rows_replaceAll_functionStart_row ht, Text.rows_of_not_mem ht]
    rfl

/-! ### Names within a row -/

/-- The run as the class template with its argument, if it is the name of a class. -/
def templateName (run : Text) : Text :=
  match Conventions.arityOf? {} run with
  | some n => (Conventions.genericClassName {} n).toList ++ "<T>".toList
  | none => run

def symbolRuns : List Text := ["std".toList, "::".toList, "double_t".toList]

/-- The runs with the type parameter in place of the element type and the class templates in place
of the classes. -/
def genericRuns : List Text → Text
  | u :: v :: w :: us =>
    if [u, v, w] = symbolRuns then 'T' :: genericRuns us
    else templateName u ++ genericRuns (v :: w :: us)
  | u :: us => templateName u ++ genericRuns us
  | [] => []

theorem isRun_symbolRuns :
    IsRun "std".toList ∧ IsRun "::".toList ∧ IsRun "double_t".toList :=
  ⟨Text.isRun_iff.2 (by decide), Text.isRun_iff.2 (by decide), Text.isRun_iff.2 (by decide)⟩

theorem genericRuns_symbol (us : List Text) :
    genericRuns (symbolRuns ++ us) = 'T' :: genericRuns us :=
  if_pos rfl

theorem genericRuns_cons {u : Text} {us : List Text} (h : ∀ us', u :: us ≠ symbolRuns ++ us') :
    genericRuns (u :: us) = templateName u ++ genericRuns us := by
  match us with
  | [] => rfl
  | [v] => rfl
  | v :: w :: us =>
    rw [genericRuns, if_neg]
    exact fun he => h us (by rw [← he]; rfl)

section
variable {u x w : Text} {us : List Text}

theorem templateName_eq_or (u : Text) : templateName u = u ∨
    ∃ n ∈ arities, (Conventions.className {} n).toList = u ∧
      templateName u = (Conventions.genericClassName {} n).toList ++ "<T>".toList := by
  rw [templateName]
  split
  · next n hn =>
    obtain ⟨hmem, hname⟩ := Conventions.arityOf?_eq_some hn
    exact .inr ⟨n, hmem, hname, rfl⟩
  · exact .inl rfl

theorem head?_templateName_append (hu : IsRun u) (t : Text) :
    (templateName u ++ t).head? = u.head? := by
  rcases templateName_eq_or u with h | ⟨n, hn, rfl, h⟩
  · rw [h, List.head?_append_of_ne_nil _ hu.ne]
  · have hhead : ∀ n ∈ arities, (Conventions.genericClassName {} n).toList.head? =
        (Conventions.className {} n).toList.head? ∧
          (Conventions.genericClassName {} n).toList ≠ [] := by
      decide
    obtain ⟨hsame, hne⟩ := hhead n hn
    rw [h, List.append_assoc, List.head?_append_of_ne_nil _ hne, hsame]

/-- Behind a run comes a character of the other kind, also if the next run is a class name. -/
theorem isWord_ne_of_mem_head? (hus : ByTurns (u :: us)) :
    ∀ c ∈ (us.flatMap templateName).head?, Unicode.isWord c ≠ isWordAt u.head? := by
  cases us with
  | nil => simp
  | cons v us =>
    have hne := (List.isChain_cons_cons.1 hus.turn).1
    intro c hc
    rw [List.flatMap_cons, head?_templateName_append (hus.isRun v (by simp)), Option.mem_def] at hc
    rw [hc] at hne
    exact hne.symm

/-- A run that is no class name can be read off the front. -/
theorem eq_of_flatMap_templateName_eq (hus : ByTurns us) (hx : IsRun x) (hlead : x.head? ≠ some 'V')
    (hw : ∀ c ∈ w.head?, Unicode.isWord c ≠ isWordAt x.head?)
    (he : us.flatMap templateName = x ++ w) :
    ∃ us', us = x :: us' ∧ ByTurns us' ∧ us'.flatMap templateName = w := by
  cases us with
  | nil => exact absurd (List.nil_eq_append_iff.1 he).1 hx.ne
  | cons u us =>
    have hu := hus.isRun u List.mem_cons_self
    have hname : templateName u = u := by
      rcases templateName_eq_or u with h | ⟨n, hn, rfl, -⟩
      · exact h
      · have hfirst : ∀ n ∈ arities, (Conventions.className {} n).toList.head? = some 'V' := by
          decide
        have hhead := congrArg List.head? he
        rw [List.flatMap_cons, head?_templateName_append hu, hfirst n hn,
          List.head?_append_of_ne_nil _ hx.ne] at hhead
        exact absurd hhead.symm hlead
    rw [List.flatMap_cons, hname] at he
    obtain ⟨rfl, hrest⟩ := hu.append_inj hx (isWord_ne_of_mem_head? hus) hw he
    exact ⟨us, rfl, hus.of_cons, hrest⟩

theorem wholeToken_symbol_iff {before after : Option Char} :
    WholeToken before (Conventions.symbol {}).toList after ↔
      isWordAt before = false ∧ isWordAt after = false := by
  have hends : isWordAt (Conventions.symbol {}).toList.head? = true ∧
      isWordAt (Conventions.symbol {}).toList.getLast? = true := by
    decide
  constructor
  · intro h
    have hfront := h.front (by decide)
    have hback := h.back (by decide)
    rw [hends.1] at hfront
    rw [hends.2] at hback
    exact ⟨by simpa using hfront, by simpa using hback.symm⟩
  · rintro ⟨hfront, hback⟩
    refine ⟨fun _ => ?_, fun _ => ?_⟩
    · rw [hends.1, hfront]
      exact Bool.false_ne_true
    · rw [hends.2, hback]
      exact Bool.false_ne_true.symm

/-- The element type is found only where its runs are. -/
theorem match?_symbol_eq_none (hus : ByTurns (u :: us)) (hnot : ∀ us', u :: us ≠ symbolRuns ++ us')
    (hname : templateName u = u) {a b : Text} (hab : u = a ++ b) (hb : b ≠ [])
    (before : Option Char) :
    (Pattern.token (Conventions.symbol {}).toList).match? (a.getLast?.or before)
      (b ++ us.flatMap templateName) = none := by
  refine Option.eq_none_iff_forall_ne_some.2 fun h hm => ?_
  obtain ⟨post, hpost, hw, -⟩ := Pattern.match?_token_eq_some.1 hm
  obtain ⟨hfront, hback⟩ := wholeToken_symbol_iff.1 hw
  have hu := hus.isRun u List.mem_cons_self
  -- the run starts where the element type does
  have hword : isWordAt u.head? = true := by
    obtain ⟨d, b, rfl⟩ := List.exists_cons_of_ne_nil hb
    obtain rfl : d = 's' := (List.cons.inj hpost).1
    rw [← hu.kind 's' (by simp [hab])]
    decide
  have ha : a = [] := by
    by_contra ha
    have hlast := hu.kind (a.getLast ha) (by simp [hab])
    rw [List.getLast?_eq_some_getLast ha, Option.some_or] at hfront
    exact absurd (hlast.symm.trans hfront) (by simp [hword])
  have hall : (u :: us).flatMap templateName =
      "std".toList ++ ("::".toList ++ ("double_t".toList ++ post)) := by
    rw [List.flatMap_cons, hname, hab, ha, List.nil_append, hpost]
    rfl
  have hrest : ∀ c ∈ post.head?, Unicode.isWord c ≠ isWordAt "double_t".toList.head? := by
    intro c hc
    rw [Option.mem_def.1 hc] at hback
    exact fun he => absurd (hback.symm.trans he) (by decide)
  obtain ⟨hstd, hcolons, hdouble⟩ := isRun_symbolRuns
  obtain ⟨us₁, h₁, hus₁, hall⟩ := eq_of_flatMap_templateName_eq hus hstd (by decide)
    (fun c hc => by obtain rfl := Option.some.inj hc; decide) hall
  obtain ⟨us₂, rfl, hus₂, hall⟩ := eq_of_flatMap_templateName_eq hus₁ hcolons (by decide)
    (fun c hc => by obtain rfl := Option.some.inj hc; decide) hall
  obtain ⟨us₃, rfl, -⟩ := eq_of_flatMap_templateName_eq hus₂ hdouble (by decide) hrest hall
  exact hnot us₃ h₁

/-- What a scan for the element type makes of a text that stands behind a character. -/
def withParameter (before : Option Char) (t : Text) : Text :=
  (Pattern.segmentsFrom (Pattern.token (Conventions.symbol {}).toList) before .apart t).flatMap
    (Segment.replaced fun _ => (Conventions.genericParameter {}).toList)

/-- A run that does not start the element type is passed over, renamed or not. -/
theorem withParameter_cons (hus : ByTurns (u :: us)) (hnot : ∀ us', u :: us ≠ symbolRuns ++ us')
    (before : Option Char) : withParameter before ((u :: us).flatMap templateName) =
      templateName u ++
        withParameter ((templateName u).getLast?.or before) (us.flatMap templateName) := by
  rw [withParameter, List.flatMap_cons, Pattern.segmentsFrom_append_of_match?_eq_none,
    List.flatMap_append, Pattern.flatMap_replaced_map_plain, withParameter]
  intro a b hab hb
  rcases templateName_eq_or u with h | ⟨n, hn, -, h⟩
  · exact match?_symbol_eq_none hus hnot h (h ▸ hab) hb before
  · have hapart : ∀ n ∈ arities,
        's' ∉ (Conventions.genericClassName {} n).toList ++ "<T>".toList := by
      decide
    obtain ⟨d, b, rfl⟩ := List.exists_cons_of_ne_nil hb
    refine Option.eq_none_iff_forall_ne_some.2 fun found hm => ?_
    obtain ⟨post, hpost, -⟩ := Pattern.match?_token_eq_some.1 hm
    obtain rfl : d = 's' := (List.cons.inj hpost).1
    exact hapart n hn (h ▸ hab ▸ by simp)

/-- The runs of the element type become the type parameter. -/
theorem withParameter_symbol (hus : ByTurns (symbolRuns ++ us)) {before : Option Char}
    (hbefore : isWordAt before = false) :
    withParameter before ((symbolRuns ++ us).flatMap templateName) =
      'T' :: withParameter (some 't') (us.flatMap templateName) := by
  have hruns : symbolRuns.flatMap templateName = (Conventions.symbol {}).toList := by decide
  have hnext : isWordAt (us.flatMap templateName).head? = false := by
    have hlast : ByTurns ("double_t".toList :: us) := hus.of_cons.of_cons
    have hother := isWord_ne_of_mem_head? hlast
    cases hhead : (us.flatMap templateName).head? with
    | none => rfl
    | some c => exact Bool.eq_false_iff.2 fun hc => hother c hhead (hc.trans (by decide))
  have hm : (Pattern.token (Conventions.symbol {}).toList).match? before
      ((Conventions.symbol {}).toList ++ us.flatMap templateName) =
        some ⟨(Conventions.symbol {}).toList, []⟩ :=
    Pattern.match?_token_eq_some.2
      ⟨_, rfl, wholeToken_symbol_iff.2 ⟨hbefore, hnext⟩, rfl⟩
  have htake := Pattern.segmentsFrom_take (h := ⟨(Conventions.symbol {}).toList, []⟩)
    (Pattern.solid_token (by decide)) hm
  rw [withParameter, List.flatMap_append, hruns]
  exact congrArg (List.flatMap (Segment.replaced fun _ => (Conventions.genericParameter {}).toList))
    htake

theorem isWordAt_getLast?_templateName (hus : ByTurns (u :: us)) {before : Option Char}
    (hhead : isWordAt us.flatten.head? = true) :
    isWordAt ((templateName u).getLast?.or before) = false := by
  rcases templateName_eq_or u with h | ⟨n, -, -, h⟩
  · have hlast := hus.isWordAt_getLast? hhead
    rw [List.getLast?_eq_some_getLast (hus.isRun u List.mem_cons_self).ne] at hlast
    rw [h, List.getLast?_eq_some_getLast (hus.isRun u List.mem_cons_self).ne]
    exact hlast
  · rw [h, List.getLast?_append]
    exact (by decide : isWordAt (some '>') = false)

theorem withParameter_runs (hus : ByTurns us) {before : Option Char}
    (hbefore : isWordAt us.flatten.head? = true → isWordAt before = false) :
    withParameter before (us.flatMap templateName) = genericRuns us := by
  induction hn : us.length using Nat.strong_induction_on generalizing us before with
  | _ n ih =>
    by_cases hsymbol : ∃ us', us = symbolRuns ++ us'
    · obtain ⟨us, rfl⟩ := hsymbol
      have hstart : isWordAt (symbolRuns ++ us).flatten.head? = true :=
        (by decide : isWordAt (some 's') = true)
      have hend : isWordAt us.flatten.head? = true → isWordAt (some 't') = false := fun h =>
        ByTurns.isWordAt_getLast? (u := "double_t".toList) hus.of_cons.of_cons h
      have hrest : ByTurns us := hus.of_cons.of_cons.of_cons
      have hlen : us.length < n := by
        rw [← hn, List.length_append]
        exact Nat.lt_add_of_pos_left (by decide)
      rw [withParameter_symbol hus (hbefore hstart), genericRuns_symbol,
        ih us.length hlen hrest hend rfl]
    · cases us with
      | nil => exact congrArg _ (Pattern.segmentsFrom_nil (Pattern.solid_token (by decide)))
      | cons u us =>
        have hnot : ∀ us', u :: us ≠ symbolRuns ++ us' := fun us' he => hsymbol ⟨us', he⟩
        rw [withParameter_cons hus hnot, genericRuns_cons hnot]
        rw [ih us.length (by simp [← hn]) hus.of_cons (isWordAt_getLast?_templateName hus) rfl]

end

/-! ### Rows of the function templates -/

/-- The row with its class names as class templates and the type parameter as the element type. -/
def parametricRow (row : Text) : Text := genericRuns (runs row)

def helperRows (row : Text) : List Text :=
  if startsFunction row then [indentOf row ++ "template<class T>".toList, parametricRow row]
  else [parametricRow row]

/-- The rules for names, behind the rule for the starts of functions. -/
def rename (t : Text) : Text :=
  ((Pattern.token (Conventions.symbol {}).toList).replaceAll
    (fun _ => (Conventions.genericParameter {}).toList)
    ((Conventions.classNamePattern {}).replaceAll
      (fun h => h.expand (Conventions.classNameTemplate {} ('<' ::
        Expansion.protect (Conventions.genericParameter {}).toList ++ ['>']))) t).1).1

theorem rename_eq_runs (t : Text) : rename t = parametricRow t := by
  have hwords : ∀ w ∈ Conventions.classNameHits {}, IsWord w.text :=
    List.forall_mem_map.2 fun n hn =>
      Conventions.isWord_className Conventions.isWord_classPrefix Conventions.isWord_classTag hn
  have hargument : '<' :: Expansion.protect (Conventions.genericParameter {}).toList ++ ['>'] =
      Expansion.protect "<T>".toList := by
    decide
  have hclasses : ((Conventions.classNamePattern {}).replaceAll
      (fun h => h.expand (Conventions.classNameTemplate {} ('<' ::
        Expansion.protect (Conventions.genericParameter {}).toList ++ ['>']))) t).1 =
      (runs t).flatMap templateName := by
    rw [Conventions.recognizes_classNamePattern.replaceAll_eq_runs hwords]
    refine List.flatMap_congr fun u _ => ?_
    rw [Conventions.find?_classNameHits, templateName]
    cases Conventions.arityOf? {} u with
    | none => rfl
    | some n =>
      simp only [Option.map_some, Option.getD_some, Conventions.expand_classNameHit, hargument,
        Hit.expand_protect]
  rw [rename, hclasses, Pattern.replaceAll_fst, Pattern.segments]
  exact withParameter_runs (byTurns_runs t) fun _ => rfl

theorem lineLocal_rename : Text.LineLocal rename := by
  have hclass : (Conventions.classNamePattern {}).StaysInLine ∧
      (Action.expand (Conventions.classNameTemplate {} ('<' ::
        Expansion.protect (Conventions.genericParameter {}).toList ++ ['>']))).StaysInLine :=
    ⟨by decide +kernel, (by decide : '\n' ∉ Conventions.classNameTemplate {} ('<' ::
      Expansion.protect (Conventions.genericParameter {}).toList ++ ['>']))⟩
  have hsolid : (Conventions.classNamePattern {}).Solid :=
    Conventions.recognizes_classNamePattern.solid (by decide)
  exact (Edit.lineLocal_replaceAll_token (by decide) (by decide) (by decide)).comp
    (Edit.lineLocal_replaceAll hclass.1
      (Pattern.match?_nil_of_solid hsolid) hclass.2)

theorem rename_templateRow {indent : Text} (hindent : ∀ c ∈ indent, CharClass.indent.has c = true) :
    rename (indent ++ "template<class T>".toList) = indent ++ "template<class T>".toList := by
  have hfree : ∀ c : Char, CharClass.indent.has c = false → c ∉ "template<class T>".toList →
      c ∉ indent ++ "template<class T>".toList := by
    intro c hblank hc hmem
    rcases List.mem_append.1 hmem with hmem | hmem
    · exact absurd (hindent c hmem) (by simp [hblank])
    · exact hc hmem
  have hclass : (Conventions.classNamePattern {}).find? (indent ++ "template<class T>".toList) =
      none := by
    have hlead : ∀ n ∈ arities, 'V' ∈ (Conventions.className {} n).toList := by decide
    exact Conventions.recognizes_classNamePattern.find?_eq_none_iff.2 (List.forall_mem_map.2
      fun n hn => tokenFree_of_not_mem (hlead n hn) (hfree 'V' (by decide) (by decide)))
  rw [rename, Pattern.replaceAll_of_find?_none hclass,
    Pattern.replaceAll_of_find?_none (Pattern.find?_token_eq_none_iff.2
      (tokenFree_of_not_mem (e := ':') (by decide) (hfree ':' (by decide) (by decide))))]

theorem map_rename_templateRows (row : Text) : (templateRows row).map rename = helperRows row := by
  have hindent : ∀ c ∈ indentOf row, CharClass.indent.has c = true := fun c hc =>
    List.mem_takeWhile_imp hc
  rw [templateRows, helperRows]
  split
  · rw [List.map_cons, List.map_singleton, rename_eq_runs row, rename_templateRow hindent]
  · rw [List.map_singleton, rename_eq_runs]

/-- The stream operators of the generic header are those of the interface row by row. A row that
starts a function follows a row with the same indentation that declares the type parameter, and in
every row the type parameter is put for the element type and behind the class names. -/
theorem rows_of_helpers {m : Master} {out : Text} (h : helpers {} m = .ok out) :
    rows out = (rows m.helpersText.trimEnd).flatMap helperRows ∧
    (rows out).length =
      (rows m.helpersText.trimEnd).length + (rows m.helpersText.trimEnd).countP startsFunction := by
  have hrows : rows out = (rows m.helpersText.trimEnd).flatMap helperRows := by
    have hout : out = rename (functionStart.replaceAll (fun h => h.expand templateStart)
        m.helpersText.trimEnd).1 := by
      rw [← Rule.rewrite_of_applyAll (rewrite_eq_ok_iff.1 h).1, rewrite_helperRules]
      rfl
    rw [hout, lineLocal_rename.rows_apply, rows_replaceAll_functionStart, List.map_flatMap]
    exact List.flatMap_congr fun row _ => map_rename_templateRows row
  refine ⟨hrows, ?_⟩
  rw [hrows]
  generalize rows m.helpersText.trimEnd = rs
  induction rs with
  | nil => rfl
  | cons row rs ih =>
    rw [List.flatMap_cons, List.length_append, ih, List.countP_cons, List.length_cons, helperRows]
    cases startsFunction row with
    | true =>
      simp only [if_true, List.length_cons, List.length_nil]
      omega
    | false =>
      simp only [Bool.false_eq_true, if_false, List.length_singleton]
      omega

/-- An interface with two functions in a row, and with the keywords elsewhere in a row and as parts
of other words. -/
def crowdedInterface : Text :=
  ("// overloads for the << operator\n\t inline static Vector2d f(std::double_t); " ++
    "inline static Vector3d\ninline static Vector10d::std::double_t\n" ++
    " inline statics Vector2dd xstd::double_t\n\n// End\n").toList

theorem rows_of_helpers_crowded : ∃ m out,
    Master.ofSources {} crowdedInterface tabbedImplementation = .ok m ∧ helpers {} m = .ok out ∧
    rows out = ["// overloads for the << operator".toList, "\t template<class T>".toList,
      "\t inline static Vector2<T> f(T); inline static Vector3<T>".toList,
      "template<class T>".toList, "inline static Vector10<T>::T".toList,
      " inline statics Vector2dd xstd::double_t".toList] := by
  have hok : (Master.ofSources {} crowdedInterface tabbedImplementation >>= fun m =>
      helpers {} m >>= fun _ => pure ((rows m.helpersText.trimEnd).flatMap helperRows)) =
        .ok ["// overloads for the << operator".toList, "\t template<class T>".toList,
          "\t inline static Vector2<T> f(T); inline static Vector3<T>".toList,
          "template<class T>".toList, "inline static Vector10<T>::T".toList,
          " inline statics Vector2dd xstd::double_t".toList] := by
    decide +kernel
  obtain ⟨m, hm, hhelpers⟩ := bind_eq_ok.1 hok
  obtain ⟨out, hout, hrows⟩ := bind_eq_ok.1 hhelpers
  exact ⟨m, out, hm, hout, (rows_of_helpers hout).1.trans (Except.ok.inj hrows)⟩

end GenericHeader

end VectorFamily
