import VectorFamily.Proofs.Pattern.Expansion
import VectorFamily.Proofs.Pattern.Runs
import VectorFamily.Proofs.Registry.Accepted
import VectorFamily.Specialization

/-!
# Renamed classes

Where the prefix of the classes is a word, the search for class names can be done without patterns:
cut the text into runs, and give another tag to each run that is a class name
(`classNames_eq_runs`). What is renamed is a run like any other, so it is met again by the next
search, and is no canonical class name then.
-/

namespace VectorFamily

open Text (IsRun runs runs_eq_iff byTurns_runs flatten_runs)

theorem IsWord.isRun {w : Text} (hw : IsWord w) : IsRun w := by
  refine ⟨hw.ne, fun c hc => ?_⟩
  have hhead := hw.isWordAt_head? []
  rw [List.append_nil] at hhead
  rw [hhead, isWord_of_isAsciiWord (hw.chars c hc)]

theorem isWord_of_checkTag {role : TagRole} {tag : String} (h : checkTag role tag = .ok ()) :
    IsWord tag.toList := by
  have hnone := checkTag_eq_ok_iff.1 h
  refine ⟨fun hnil => ?_, isAsciiWord_of_tagDefect?_eq_none hnone⟩
  rw [tagDefect?, hnil] at hnone
  cases hnone

namespace Conventions

/-- The arity whose class the run names. -/
def arityOf? (c : Conventions) (run : Text) : Option Nat :=
  arities.find? fun n => (c.className n).toList = run

/-- The run with another tag, if it is the name of a class. -/
def retag (c : Conventions) (tag : String) (run : Text) : Text :=
  match c.arityOf? run with
  | some n => (c.genericClassName n ++ tag).toList
  | none => run

variable {c : Conventions} {run : Text} {tag : String} {n : Nat}

theorem arityOf?_eq_some (h : c.arityOf? run = some n) :
    n ∈ arities ∧ (c.className n).toList = run :=
  ⟨List.mem_of_find?_eq_some h, by simpa using List.find?_some h⟩

theorem find?_classNameHits (c : Conventions) (run : Text) :
    c.classNameHits.find? (·.text = run) = (c.arityOf? run).map c.classNameHit := by
  rw [classNameHits_eq, List.find?_map]
  rfl

/-- The number in a class name can be told from what follows it. -/
theorem arity_and_tag_inj {k : Nat} {tag' : String} (hn : n ∈ arities) (hk : k ∈ arities)
    (h : c.genericClassName n ++ tag = c.genericClassName k ++ tag') : n = k ∧ tag = tag' := by
  have hinj : ∀ n ∈ arities, ∀ k ∈ arities, (toString n).toList = (toString k).toList → n = k := by
    decide
  have htexts : (toString n).toList ++ tag.toList = (toString k).toList ++ tag'.toList := by
    simpa [genericClassName, ← String.toList_inj] using h
  have hdigits := find?_arityDigits hn tag.toList
  rw [htexts, find?_arityDigits hk] at hdigits
  obtain rfl := hinj n hn k hk (Option.some.inj hdigits).symm
  exact ⟨rfl, String.toList_inj.1 (List.append_cancel_left htexts)⟩

/-- A class with a new tag is no canonical one. -/
theorem arityOf?_retag (htag : tag ≠ c.classTag) (run : Text) :
    c.arityOf? (c.retag tag run) = none := by
  rw [retag]
  split
  · next n hrun =>
    refine List.find?_eq_none.2 fun k hk hname => ?_
    have hname := String.toList_inj.1 (of_decide_eq_true hname)
    exact htag (arity_and_tag_inj hk (arityOf?_eq_some hrun).1 hname).2.symm
  · next hrun => exact hrun

theorem isRun_retag (hlead : IsWord c.classPrefix.toList) (hclass : IsWord c.classTag.toList)
    (htag : IsWord tag.toList) (hrun : IsRun run) :
    IsRun (c.retag tag run) ∧
      Piece.isWordAt (c.retag tag run).head? = Piece.isWordAt run.head? := by
  rw [retag]
  split
  · next n hn =>
    obtain ⟨hmem, rfl⟩ := arityOf?_eq_some hn
    have hold := isWord_className hlead hclass hmem
    have hnew : IsWord (c.genericClassName n ++ tag).toList :=
      isWord_className (c := { c with classTag := tag }) hlead htag hmem
    have hhead := hold.isWordAt_head? []
    have hhead' := hnew.isWordAt_head? []
    rw [List.append_nil] at hhead hhead'
    exact ⟨hnew.isRun, hhead'.trans hhead.symm⟩
  · exact ⟨hrun, rfl⟩

/-- The runs of a text with other tags are the runs of the text, each with its other tag. -/
theorem runs_flatMap_retag (hlead : IsWord c.classPrefix.toList)
    (hclass : IsWord c.classTag.toList) (htag : IsWord tag.toList) (t : Text) :
    runs ((runs t).flatMap (c.retag tag)) = (runs t).map (c.retag tag) := by
  refine runs_eq_iff.2 ⟨List.flatMap_def.symm, (byTurns_runs t).map fun u hu => ?_⟩
  exact isRun_retag hlead hclass htag ((byTurns_runs t).isRun u hu)

end Conventions

namespace Specialization

variable {s : Specialization}

def classNameRule (s : Specialization) : Rule where
  name := "token.class-name"
  stage := .tokenSubstitution
  expect := .matchIn .both
  edit := .substitute [s.conventions.classNamePattern]
    (.expand (s.conventions.classNameTemplate (Expansion.protect s.profile.classTag.toList)))

theorem filter_rules_className (s : Specialization) :
    s.rules.filter (·.name == "token.class-name") = [s.classNameRule] :=
  rfl

theorem apply_classNameRule (hlead : IsWord s.conventions.classPrefix.toList)
    (hclass : IsWord s.conventions.classTag.toList) (t : Text) :
    s.classNameRule.apply t = ((runs t).flatMap (s.conventions.retag s.profile.classTag),
      (runs t).countP fun run => (s.conventions.arityOf? run).isSome) := by
  have hwords : ∀ w ∈ s.conventions.classNameHits, IsWord w.text :=
    List.forall_mem_map.2 fun n hn => Conventions.isWord_className hlead hclass hn
  rw [Rule.apply, classNameRule, Edit.apply, Edit.substituteAll_singleton,
    (Conventions.recognizes_classNamePattern_of_isWord hlead hclass).replaceAll_eq_runs hwords]
  simp only [Conventions.find?_classNameHits, Option.map_map, Option.isSome_map]
  refine Prod.ext (List.flatMap_congr fun run _ => ?_) rfl
  rw [Conventions.retag]
  cases s.conventions.arityOf? run with
  | none => rfl
  | some n =>
    simp only [Option.map_some, Option.getD_some, Function.comp_apply, Action.render,
      Conventions.expand_classNameHit, Hit.expand_protect, String.toList_append]

/-- The rule that renames the classes gives another tag to those runs of the text that are class
names, and to no others. After it there are none, unless the tag is the canonical one. -/
theorem classNames_eq_runs (hlead : IsWord s.conventions.classPrefix.toList)
    (hcanonical : checkTag .canonicalClassTag s.conventions.classTag = .ok ())
    (htag : checkTag .classTag s.profile.classTag = .ok ()) :
    ∃ r, s.rules.filter (·.name == "token.class-name") = [r] ∧ ∀ t : Text,
      r.apply t = ((runs t).flatMap (s.conventions.retag s.profile.classTag),
        (runs t).countP fun run => (s.conventions.arityOf? run).isSome) ∧
      (s.profile.classTag ≠ s.conventions.classTag →
        r.apply (r.apply t).1 = ((r.apply t).1, 0)) := by
  have hclass := isWord_of_checkTag hcanonical
  have happly := apply_classNameRule hlead hclass
  refine ⟨s.classNameRule, filter_rules_className s, fun t => ⟨happly t, fun hne => ?_⟩⟩
  have hruns := Conventions.runs_flatMap_retag hlead hclass (isWord_of_checkTag htag) t
  have hnone : ∀ run ∈ runs (s.classNameRule.apply t).1, s.conventions.arityOf? run = none := by
    rw [happly t, hruns]
    exact List.forall_mem_map.2 fun run _ => Conventions.arityOf?_retag hne run
  rw [happly]
  refine Prod.ext ?_ (List.countP_eq_zero.2 fun run hrun => by simp [hnone run hrun])
  have hstay : ∀ run ∈ runs (s.classNameRule.apply t).1,
      s.conventions.retag s.profile.classTag run = run := fun run hrun => by
    rw [Conventions.retag, hnone run hrun]
  show (runs (s.classNameRule.apply t).1).flatMap (s.conventions.retag s.profile.classTag) = _
  rw [List.flatMap_congr hstay, List.flatMap_id', flatten_runs]

/-- The prefix of the classes ends in a digit. -/
def numbered : Specialization where
  conventions := { classPrefix := "V1" }
  profile :=
    { symbol := "q", classTag := "q2", fileTag := "Q", defaultLiteral := "1", byteSize := 1
      range := "w", includeLabel := "V1Q.h", category := .standardNumeric }

/-- Names back to back and next to other letters are parts of longer words. -/
theorem classNames_eq_runs_numbered :
    IsWord numbered.conventions.classPrefix.toList ∧
    checkTag .canonicalClassTag numbered.conventions.classTag = .ok () ∧
    checkTag .classTag numbered.profile.classTag = .ok () ∧
    numbered.profile.classTag ≠ numbered.conventions.classTag ∧
    ∃ r, numbered.rules.filter (·.name == "token.class-name") = [r] ∧
      r.apply "V12d V110d::V12d éV12d V12dV13d V12d_ (V111d) V19d\n".toList =
        ("V12q2 V110q2::V12q2 éV12d V12dV13d V12d_ (V111d) V19q2\n".toList, 4) ∧
      r.apply "V12q2 V110q2::V12q2 éV12d V12dV13d V12d_ (V111d) V19q2\n".toList =
        ("V12q2 V110q2::V12q2 éV12d V12dV13d V12d_ (V111d) V19q2\n".toList, 0) := by
  have hlead : IsWord numbered.conventions.classPrefix.toList :=
    ⟨by decide, List.all_eq_true.1 (by decide)⟩
  have hcanonical : checkTag .canonicalClassTag numbered.conventions.classTag = .ok () := by decide
  have htag : checkTag .classTag numbered.profile.classTag = .ok () := by decide
  have hne : numbered.profile.classTag ≠ numbered.conventions.classTag := by decide
  obtain ⟨r, hr, happly⟩ := classNames_eq_runs hlead hcanonical htag
  obtain ⟨hfirst, hsecond⟩ := happly "V12d V110d::V12d éV12d V12dV13d V12d_ (V111d) V19d\n".toList
  have hrenamed : r.apply "V12d V110d::V12d éV12d V12dV13d V12d_ (V111d) V19d\n".toList =
      ("V12q2 V110q2::V12q2 éV12d V12dV13d V12d_ (V111d) V19q2\n".toList, 4) := by
    rw [hfirst]
    decide +kernel
  refine ⟨hlead, hcanonical, htag, hne, r, hr, hrenamed, ?_⟩
  have hagain := hsecond hne
  rwa [hrenamed] at hagain

end Specialization

end VectorFamily
