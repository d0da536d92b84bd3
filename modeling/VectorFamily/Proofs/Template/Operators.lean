import VectorFamily.Proofs.GenericHeader.Constructor

/-!
# The stream operators of an interface

An interface is read up to the first end marker behind the marker of its stream operators, and no
further; an end marker in front of that is passed over. `Layout.helpersFrom_eq_iff` says what comes
of every interface by the places of these lines, and `Master.helpers_spec` says so of a pair. In
an implementation no marker may stand twice, but in an interface both may: `helpers_marker_again`.
-/

namespace VectorFamily

namespace Line

def IsComment (comment : String) (l : Line) : Prop := l.text.trim = comment.toList

instance (comment : String) (l : Line) : Decidable (l.IsComment comment) :=
  inferInstanceAs (Decidable (_ = _))

/-- The line neither opens nor closes the stream operators. -/
def IsInner (l : Line) : Prop := ¬ l.IsComment helpersMarker ∧ ¬ l.IsComment endMarker

instance (l : Line) : Decidable l.IsInner := inferInstanceAs (Decidable (_ ∧ _))

theorem IsComment.not_endMarker {l : Line} (h : l.IsComment helpersMarker) :
    ¬ l.IsComment endMarker := fun hend =>
  absurd (h.symm.trans hend) (by decide)

end Line

/-- The comment is a line of its own just once. -/
def OnOneLine (comment : String) (ls : List Line) : Prop :=
  ls.countP (fun l => l.IsComment comment) = 1

instance (comment : String) (ls : List Line) : Decidable (OnOneLine comment ls) :=
  inferInstanceAs (Decidable (_ = _))

namespace Layout

/-! ### Reading an interface -/

/-- The stream operators are opened by the line `first`, in front of which the marker does not
stand; of the lines behind it, those in `inner` leave them open. -/
structure Opened (ls pre : List Line) (first : Line) (inner rest : List Line) : Prop where
  lines : ls = pre ++ first :: (inner ++ rest)
  before : ∀ l ∈ pre, ¬ l.IsComment helpersMarker
  marker : first.IsComment helpersMarker
  inner : ∀ l ∈ inner, l.IsInner

/-- What comes of an interface with the given lines. -/
inductive Reads (ls : List Line) : Except Failure (Nat × Nat) → Prop where
  /-- The marker is on no line. -/
  | unmarked (h : ∀ l ∈ ls, ¬ l.IsComment helpersMarker) :
    Reads ls (.error (.markerMissing .interface helpersMarker))
  /-- Behind the marker neither of the two comments stands. -/
  | unclosed {pre first inner} (h : Opened ls pre first inner []) :
    Reads ls (.error (.markerMissing .interface endMarker))
  /-- The marker stands again before the end. -/
  | repeated {pre first inner again post} (h : Opened ls pre first inner (again :: post))
    (hagain : again.IsComment helpersMarker) :
    Reads ls (.error (.markerRepeated .interface helpersMarker))
  /-- The end marker is the first of the two comments behind the marker. -/
  | closed {pre first inner last post} (h : Opened ls pre first inner (last :: post))
    (hlast : last.IsComment endMarker) : Reads ls (.ok (first.offset, last.offset))

section
variable {l : Line} {ls pre : List Line} {offset : Nat}

theorem helpersFrom_none_cons : helpersFrom none (l :: ls) =
    helpersFrom (if l.IsComment helpersMarker then some l.offset else none) ls := by
  by_cases h : l.IsComment helpersMarker
  · rw [helpersFrom, beq_iff_eq.2 h, if_pos h]
    rfl
  · rw [helpersFrom, beq_eq_false_iff_ne.2 h, if_neg h]
    rfl

theorem helpersFrom_some_cons : helpersFrom (some offset) (l :: ls) =
    if l.IsComment helpersMarker then .error (.markerRepeated .interface helpersMarker)
    else if l.IsComment endMarker then .ok (offset, l.offset)
    else helpersFrom (some offset) ls := by
  by_cases h : l.IsComment helpersMarker
  · rw [helpersFrom, beq_iff_eq.2 h, if_pos h]
    rfl
  by_cases hend : l.IsComment endMarker
  · rw [helpersFrom, beq_eq_false_iff_ne.2 h, beq_iff_eq.2 hend, if_neg h, if_pos hend]
    rfl
  · rw [helpersFrom, beq_eq_false_iff_ne.2 h, beq_eq_false_iff_ne.2 hend, if_neg h, if_neg hend]
    rfl

/-- Lines in front of the marker are passed over, also those that are end markers. -/
theorem helpersFrom_none_append (hpre : ∀ l ∈ pre, ¬ l.IsComment helpersMarker) :
    helpersFrom none (pre ++ ls) = helpersFrom none ls := by
  induction pre with
  | nil => rfl
  | cons l pre ih =>
    obtain ⟨hl, hpre⟩ := List.forall_mem_cons.1 hpre
    rw [List.cons_append, helpersFrom_none_cons, if_neg hl, ih hpre]

theorem helpersFrom_of_unmarked (h : ∀ l ∈ ls, ¬ l.IsComment helpersMarker) :
    helpersFrom none ls = .error (.markerMissing .interface helpersMarker) := by
  have hend : helpersFrom none (ls ++ []) = helpersFrom none [] := helpersFrom_none_append h
  rwa [List.append_nil] at hend

theorem helpersFrom_some_append (hpre : ∀ l ∈ pre, l.IsInner) :
    helpersFrom (some offset) (pre ++ ls) = helpersFrom (some offset) ls := by
  induction pre with
  | nil => rfl
  | cons l pre ih =>
    obtain ⟨⟨hl, hend⟩, hpre⟩ := List.forall_mem_cons.1 hpre
    rw [List.cons_append, helpersFrom_some_cons, if_neg hl, if_neg hend, ih hpre]

end

section
variable {ls pre : List Line} {first : Line} {inner rest : List Line}

theorem Opened.helpersFrom_eq (h : Opened ls pre first inner rest) :
    helpersFrom none ls = helpersFrom (some first.offset) rest := by
  rw [h.lines, helpersFrom_none_append h.before, helpersFrom_none_cons, if_pos h.marker,
    helpersFrom_some_append h.inner]

/-- If the marker is there, the lines behind the first one can be followed up to the next line that
is one of the two comments. -/
theorem exists_opened {l : Line} (hl : l ∈ ls) (hmarker : l.IsComment helpersMarker) :
    ∃ pre first inner rest, Opened ls pre first inner rest ∧ ∀ l ∈ rest.head?, ¬ l.IsInner := by
  cases hfirst : ls.find? (·.IsComment helpersMarker) with
  | none =>
    have hnone := List.find?_eq_none.1 hfirst l hl
    simp [hmarker] at hnone
  | some first =>
    obtain ⟨hopens, pre, behind, rfl, hpre⟩ := List.find?_eq_some_iff_append.1 hfirst
    have hopens : first.IsComment helpersMarker := by simpa using hopens
    have hbefore : ∀ l ∈ pre, ¬ l.IsComment helpersMarker := by simpa using hpre
    cases hnext : behind.find? (¬ ·.IsInner) with
    | none =>
      have hinner : ∀ l ∈ behind, l.IsInner := by simpa using List.find?_eq_none.1 hnext
      exact ⟨pre, first, behind, [], ⟨by rw [List.append_nil], hbefore, hopens, hinner⟩, by simp⟩
    | some next =>
      obtain ⟨hstops, inner, post, rfl, hinner⟩ := List.find?_eq_some_iff_append.1 hnext
      have hinner : ∀ l ∈ inner, l.IsInner := by simpa using hinner
      exact ⟨pre, first, inner, next :: post, ⟨rfl, hbefore, hopens, hinner⟩, by simpa using hstops⟩

/-- Reading follows the lines: each outcome has its own arrangement of the two comments. -/
theorem helpersFrom_eq_iff {result : Except Failure (Nat × Nat)} :
    helpersFrom none ls = result ↔ Reads ls result := by
  constructor
  · rintro rfl
    by_cases hmarked : ∃ l ∈ ls, l.IsComment helpersMarker
    · obtain ⟨l, hl, hmarker⟩ := hmarked
      obtain ⟨pre, first, inner, rest, hopened, hnext⟩ := exists_opened hl hmarker
      rw [hopened.helpersFrom_eq]
      cases rest with
      | nil => exact .unclosed hopened
      | cons next post =>
        rw [helpersFrom_some_cons]
        by_cases hagain : next.IsComment helpersMarker
        · rw [if_pos hagain]
          exact .repeated hopened hagain
        · have hlast : next.IsComment endMarker :=
            not_not.1 fun hend => hnext next rfl ⟨hagain, hend⟩
          rw [if_neg hagain, if_pos hlast]
          exact .closed hopened hlast
    · have hnone : ∀ l ∈ ls, ¬ l.IsComment helpersMarker := fun l hl h => hmarked ⟨l, hl, h⟩
      rw [helpersFrom_of_unmarked hnone]
      exact .unmarked hnone
  · intro h
    cases h with
    | unmarked h => exact helpersFrom_of_unmarked h
    | unclosed h => exact h.helpersFrom_eq
    | repeated h hagain => rw [h.helpersFrom_eq, helpersFrom_some_cons, if_pos hagain]
    | closed h hlast =>
      have hagain := fun hmarker : Line.IsComment helpersMarker _ => hmarker.not_endMarker hlast
      rw [h.helpersFrom_eq, helpersFrom_some_cons, if_neg hagain, if_pos hlast]

/-- Both comments stand once if none stands where it is passed over: no end marker in front of the
operators, and neither comment behind them. -/
theorem Opened.onOneLine_iff {last : Line} {post : List Line}
    (h : Opened ls pre first inner (last :: post)) (hlast : last.IsComment endMarker) :
    OnOneLine helpersMarker ls ∧ OnOneLine endMarker ls ↔
      (∀ l ∈ pre, ¬ l.IsComment endMarker) ∧ ∀ l ∈ post, l.IsInner := by
  have hfirst := h.marker.not_endMarker
  have hagain : ¬ last.IsComment helpersMarker := fun hmarker => hmarker.not_endMarker hlast
  have hpre : pre.countP (fun l => l.IsComment helpersMarker) = 0 := by
    simpa [List.countP_eq_zero] using h.before
  have hinner : inner.countP (fun l => l.IsComment helpersMarker) = 0 ∧
      inner.countP (fun l => l.IsComment endMarker) = 0 := by
    simp only [List.countP_eq_zero, decide_eq_true_eq]
    exact ⟨fun l hl => (h.inner l hl).1, fun l hl => (h.inner l hl).2⟩
  have hmarkers : OnOneLine helpersMarker ls ↔
      post.countP (fun l => l.IsComment helpersMarker) = 0 := by
    rw [OnOneLine, h.lines, List.countP_append, List.countP_cons_of_pos (by simpa using h.marker),
      List.countP_append, List.countP_cons_of_neg (by simpa using hagain), hpre, hinner.1]
    omega
  have hends : OnOneLine endMarker ls ↔ pre.countP (fun l => l.IsComment endMarker) = 0 ∧
      post.countP (fun l => l.IsComment endMarker) = 0 := by
    rw [OnOneLine, h.lines, List.countP_append, List.countP_cons_of_neg (by simpa using hfirst),
      List.countP_append, List.countP_cons_of_pos (by simpa using hlast), hinner.2]
    omega
  rw [hmarkers, hends]
  simp only [List.countP_eq_zero, decide_eq_true_eq, Line.IsInner]
  exact ⟨fun ⟨hpost, hpre, hpost'⟩ => ⟨hpre, fun l hl => ⟨hpost l hl, hpost' l hl⟩⟩,
    fun ⟨hpre, hpost⟩ => ⟨fun l hl => (hpost l hl).1, hpre, fun l hl => (hpost l hl).2⟩⟩

end

end Layout

namespace Master

open Layout Text

variable {c : Conventions} {interface implementation : Text} {m : Master}

/-- Beside an implementation that is accepted with some interface, only the stream operators of
another interface are left to be found. -/
theorem ofSources_eq_of_accepted {interface' : Text} {m' : Master}
    (hm' : ofSources c interface' implementation = .ok m') :
    ofSources c interface implementation =
      (helpersFrom none interface.normalizeNewlines.placedLines).map fun helpers =>
        { m' with
          interface := interface.normalizeNewlines
          layout := { m'.layout with helpers := helpers } } := by
  obtain ⟨-, himplementation, hregions, hscope, -⟩ := ofSources_eq_ok_iff.1 hm'
  rw [ofSources_eq, ← himplementation, hregions]
  show (locateScope _ _ >>= _) = _
  rw [hscope]
  rfl

/-- A pair that is accepted has stream operators, from the first line that is their marker up to the
first end marker behind it. The two comments stand on no other line just if none stands where it is
passed over. Beside an implementation that is accepted, every interface in which the comments are
arranged so is accepted, and the others are refused by what is missing or repeated in them. -/
theorem helpers_spec (c : Conventions) (interface implementation : Text) :
    (∀ m, ofSources c interface implementation = .ok m →
      ∃ pre first inner last post,
        Opened m.interface.placedLines pre first inner (last :: post) ∧
        last.IsComment endMarker ∧ m.layout.helpers = (first.offset, last.offset) ∧
        m.helpersText = (first :: inner).flatMap (·.text) ∧
        (OnOneLine helpersMarker m.interface.placedLines ∧
            OnOneLine endMarker m.interface.placedLines ↔
          (∀ l ∈ pre, ¬ l.IsComment endMarker) ∧ ∀ l ∈ post, l.IsInner)) ∧
    ((∃ interface' m', ofSources c interface' implementation = .ok m') →
      ((∃ m, ofSources c interface implementation = .ok m) ↔
        ∃ helpers, Reads interface.normalizeNewlines.placedLines (.ok helpers)) ∧
      ∀ e, ofSources c interface implementation = .error e ↔
        Reads interface.normalizeNewlines.placedLines (.error e)) := by
  refine ⟨fun m hm => ?_, fun ⟨interface', m', hm'⟩ => ?_⟩
  · have hreads := helpersFrom_eq_iff.1 (ofSources_eq_ok_iff.1 hm).helpers
    generalize hplace : m.layout.helpers = helpers at hreads
    cases hreads with
    | @closed pre first inner last post hopened hlast =>
      refine ⟨pre, first, inner, last, post, hopened, hlast, rfl, ?_, hopened.onOneLine_iff hlast⟩
      rw [helpersText, hplace]
      exact between_offsets (pairwise_placedLines m.interface) hopened.lines
  · rw [ofSources_eq_of_accepted hm']
    simp only [← helpersFrom_eq_iff]
    cases helpersFrom none interface.normalizeNewlines.placedLines <;> simp [Except.map]

open GenericHeader (sparseInterface sparseImplementation)

/-- An end marker in front of the operators is passed over. By itself it does not make an
interface. -/
theorem helpers_spec_sparse : ∃ m,
    ofSources {} ("// End\n".toList ++ sparseInterface) (sparseImplementation []) = .ok m ∧
    (∃ pre first inner last post,
      Opened m.interface.placedLines pre first inner (last :: post) ∧
      last.IsComment endMarker ∧ m.helpersText = (first :: inner).flatMap (·.text)) ∧
    ofSources {} "// End\n".toList (sparseImplementation []) =
      .error (.markerMissing .interface helpersMarker) := by
  have hok : (ofSources {} ("// End\n".toList ++ sparseInterface)
      (sparseImplementation [])).isOk = true := by
    decide +kernel
  obtain ⟨m, hm⟩ := exists_of_isOk hok
  obtain ⟨pre, first, inner, last, post, hopened, hlast, -, htext, -⟩ :=
    (helpers_spec {} _ _).1 m hm
  refine ⟨m, hm, ⟨pre, first, inner, last, post, hopened, hlast, htext⟩, ?_⟩
  exact (((helpers_spec {} _ _).2 ⟨_, m, hm⟩).2 _).2 (.unmarked (by decide +kernel))

/-- What stands behind the end marker is not looked at: there the operators may start once more,
with both comments. -/
theorem helpers_marker_again : ¬ ∀ c interface implementation m,
    ofSources c interface implementation = .ok m →
      OnOneLine helpersMarker m.interface.placedLines ∧
        OnOneLine endMarker m.interface.placedLines := by
  have hok : (ofSources {} (sparseInterface ++ sparseInterface)
      (sparseImplementation [])).isOk = true := by
    decide +kernel
  have htwice : ¬ OnOneLine helpersMarker
      (sparseInterface ++ sparseInterface).normalizeNewlines.placedLines := by
    decide +kernel
  obtain ⟨m, hm⟩ := exists_of_isOk hok
  intro h
  rw [← (ofSources_eq_ok_iff.1 hm).interface] at htwice
  exact htwice (h _ _ _ m hm).1

end Master

end VectorFamily
