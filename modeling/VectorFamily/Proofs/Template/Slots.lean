import VectorFamily.Proofs.Pattern.Cut

/-!
# Rows with slots

A row of the canonical pair is a sequence of characters that stay and of slots, where placeholders
stand. The row is sealed against a list of words if no word can start at a character that stays and
none can go on from a slot into what follows it, whatever the slots are filled with. A pattern that
recognizes some of the words then treats the filled row slot by slot (`segments_fill`).
-/

namespace VectorFamily

open Piece (isWordAt)
open VectorFamily.Specialization (TokenFree)

/-- The places of a canonical pair that are filled anew for each element type. -/
inductive Slot where
  | className (n : Nat)
  | includeLabel
  | symbol
  | literal
  /-- A literal and the bracket behind it, which the end of a range annotation could need. -/
  | closedLiteral
  | byteSize
  | range
deriving DecidableEq, Repr

/-- A character that stays, or a slot. -/
inductive Cell where
  | char (c : Char)
  | slot (s : Slot)
deriving DecidableEq, Repr

namespace Cell

def text (v : Slot → Text) : Cell → Text
  | char c => [c]
  | slot s => v s

/-- What a scan meets in a cell. -/
def segments (p : Pattern) (v : Slot → Text) : Cell → List Segment
  | char c => [.plain c]
  | slot s => p.segments (v s)

end Cell

def fill (v : Slot → Text) (cells : List Cell) : Text := cells.flatMap (Cell.text v)

section
variable {v : Slot → Text} {cells : List Cell}

@[simp] theorem fill_nil : fill v [] = [] := rfl

@[simp] theorem fill_char (c : Char) : fill v (.char c :: cells) = c :: fill v cells := rfl

@[simp] theorem fill_slot (s : Slot) : fill v (.slot s :: cells) = v s ++ fill v cells := rfl

@[simp] theorem fill_append (cells cells' : List Cell) :
    fill v (cells ++ cells') = fill v cells ++ fill v cells' :=
  List.flatMap_append

@[simp] theorem fill_map_char (t : Text) : fill v (t.map .char) = t := by
  induction t with
  | nil => rfl
  | cons c t ih => rw [List.map_cons, fill_char, ih]

end

/-- Cells with one slot. -/
def around (front : Text) (s : Slot) (back : Text) : List Cell :=
  front.map .char ++ .slot s :: back.map .char

section
variable {v : Slot → Text} {s s' : Slot} {front back : Text}

theorem fill_around : fill v (around front s back) = front ++ v s ++ back := by
  simp [around]

theorem slot_mem_around_iff : .slot s' ∈ around front s back ↔ s' = s := by
  simp [around]

end

/-! ### Sealed rows -/

/-- The word can start where the cells do, for all that is known of their slots. -/
def canStart : Text → List Cell → Bool
  | [], _ => true
  | _ :: _, [] => false
  | _ :: _, .slot _ :: _ => true
  | c :: l, .char d :: cells => c == d && canStart l cells

/-- One of the words can start at the character that the cells begin with. -/
def startsAny (words : List Text) : List Cell → Bool
  | .char c :: cells => (words.filter (·.head? == some c)).any fun l => canStart l.tail cells
  | _ => false

/-- The ends of a text, the empty one apart. -/
def ends : Text → List Text
  | [] => []
  | c :: t => (c :: t) :: ends t

/-- The ends of the words, from inside of them on. -/
def innerTails (words : List Text) : List Text := words.flatMap fun l => ends l.tail

/-- How words that start in a slot could go on behind it. A class name does not let any. -/
def Slot.openTails (words : List Text) : Slot → List Text
  | className _ => []
  | _ => innerTails words

/-- The cells end a slot: no word character follows, and none of the tails. -/
def fenced (tails : List Text) : List Cell → Bool
  | [] => true
  | .slot _ :: _ => false
  | .char c :: cells => !Unicode.isWord c && !startsAny tails (.char c :: cells)

/-- The cells are sealed against the words; `inWord` says that a word character stays in front of
them. -/
def sealedFrom (words : List Text) : Bool → List Cell → Bool
  | _, [] => true
  | inWord, .char c :: cells =>
    (inWord && Unicode.isWord c && Pattern.isEdge c || !startsAny words (.char c :: cells)) &&
      sealedFrom words (Unicode.isWord c) cells
  | inWord, .slot s :: cells =>
    !inWord && fenced (s.openTails words) cells && sealedFrom words false cells

/-- No whole token that starts in the text goes on behind its end. -/
def EndsItself (words : List Text) (u : Text) : Prop :=
  ∀ a b y, u = a ++ b → b ≠ [] → y ≠ [] → b ++ y ∈ words →
    ∀ before after, isWordAt before = false → ¬ WholeToken (a.getLast?.or before) (b ++ y) after

section
variable {words : List Text} {v : Slot → Text} {cells : List Cell}

theorem canStart_of_prefix {l : Text} (h : l <+: fill v cells) : canStart l cells = true := by
  induction cells generalizing l with
  | nil =>
    obtain rfl := List.prefix_nil.1 h
    rfl
  | cons cell cells ih =>
    cases l with
    | nil => rfl
    | cons c l =>
      cases cell with
      | slot s => rfl
      | char d =>
        rw [fill_char] at h
        obtain ⟨rfl, hrest⟩ := List.cons_prefix_cons.1 h
        simp [canStart, ih hrest]

theorem not_prefix_of_startsAny {c : Char} (h : startsAny words (.char c :: cells) = false)
    {l : Text} (hl : l ∈ words) (hne : l ≠ []) : ¬ l <+: fill v (.char c :: cells) := by
  intro hp
  obtain ⟨d, l, rfl⟩ := List.exists_cons_of_ne_nil hne
  rw [fill_char] at hp
  obtain ⟨rfl, hrest⟩ := List.cons_prefix_cons.1 hp
  have hmem : d :: l ∈ words.filter (·.head? == some d) := List.mem_filter.2 ⟨hl, by simp⟩
  have hstart : canStart (d :: l).tail cells = true := canStart_of_prefix hrest
  exact absurd hstart (List.any_eq_false.1 h _ hmem)

theorem mem_ends_append {y : Text} (hy : y ≠ []) (b : Text) : y ∈ ends (b ++ y) := by
  induction b with
  | nil =>
    obtain ⟨c, y, rfl⟩ := List.exists_cons_of_ne_nil hy
    exact List.mem_cons_self
  | cons c b ih => exact List.mem_cons_of_mem _ ih

theorem mem_innerTails {b y : Text} (hb : b ≠ []) (hy : y ≠ []) (h : b ++ y ∈ words) :
    y ∈ innerTails words := by
  obtain ⟨c, b, rfl⟩ := List.exists_cons_of_ne_nil hb
  exact List.mem_flatMap.2 ⟨_, h, mem_ends_append hy b⟩

theorem startsAny_mono {words' : List Text} (h : words ⊆ words')
    (hs : startsAny words' cells = false) : startsAny words cells = false := by
  cases cells with
  | nil => rfl
  | cons cell cells =>
    cases cell with
    | slot s => rfl
    | char c =>
      refine List.any_eq_false.2 fun l hl => List.any_eq_false.1 hs l ?_
      obtain ⟨hl, hhead⟩ := List.mem_filter.1 hl
      exact List.mem_filter.2 ⟨h hl, hhead⟩

theorem openTails_subset {words' : List Text} (h : words ⊆ words') (s : Slot) :
    s.openTails words ⊆ s.openTails words' := by
  have hinner : innerTails words ⊆ innerTails words' := fun y hy => by
    obtain ⟨l, hl, hy⟩ := List.mem_flatMap.1 hy
    exact List.mem_flatMap.2 ⟨l, h hl, hy⟩
  cases s with
  | className n => exact List.Subset.refl _
  | _ => exact hinner

theorem fenced_mono {tails tails' : List Text} (h : tails ⊆ tails')
    (hs : fenced tails' cells = true) : fenced tails cells = true := by
  cases cells with
  | nil => rfl
  | cons cell cells =>
    cases cell with
    | slot s => cases hs
    | char c =>
      simp only [fenced, Bool.and_eq_true, Bool.not_eq_true'] at hs ⊢
      exact ⟨hs.1, startsAny_mono h hs.2⟩

/-- Cells that are sealed against words are sealed against some of them. -/
theorem sealedFrom_mono {words' : List Text} (h : words ⊆ words') {inWord : Bool}
    (hs : sealedFrom words' inWord cells = true) : sealedFrom words inWord cells = true := by
  induction cells generalizing inWord with
  | nil => rfl
  | cons cell cells ih =>
    cases cell with
    | char c =>
      simp only [sealedFrom, Bool.and_eq_true, Bool.or_eq_true, Bool.not_eq_true'] at hs ⊢
      exact ⟨hs.1.imp_right (startsAny_mono h), ih hs.2⟩
    | slot s =>
      simp only [sealedFrom, Bool.and_eq_true] at hs ⊢
      exact ⟨⟨hs.1.1, fenced_mono (openTails_subset h s) hs.1.2⟩, ih hs.2⟩

/-- A fence keeps the words that start in a slot out of what follows it. -/
theorem parted_of_fenced {s : Slot} {before : Option Char}
    (hs : fenced (s.openTails words) cells = true)
    (hv : ∀ n, s = .className n → EndsItself words (v s)) (hb : isWordAt before = false) :
    Parted words before (v s) (fill v cells) := by
  cases cells with
  | nil =>
    refine ⟨rfl, fun a b y _ _ hy _ hyv => absurd (List.prefix_nil.1 hyv) hy⟩
  | cons cell cells =>
    cases cell with
    | slot s' => cases hs
    | char c =>
      simp only [fenced, Bool.and_eq_true, Bool.not_eq_true'] at hs
      refine ⟨hs.1, fun a b y hu hbne hy hmem hyv after hw => ?_⟩
      by_cases hname : ∃ n, s = .className n
      · obtain ⟨n, rfl⟩ := hname
        exact hv n rfl a b y hu hbne hy hmem before after hb hw
      · have hopen : s.openTails words = innerTails words := by
          cases s with
          | className n => exact absurd ⟨n, rfl⟩ hname
          | _ => rfl
        rw [hopen] at hs
        exact not_prefix_of_startsAny hs.2 (mem_innerTails hbne hy hmem) hy hyv

end

/-! ### Scans of sealed rows -/

section
variable {p : Pattern} {hits : List Hit} {words : List Text} {v : Slot → Text} {cells : List Cell}

/-- A scan of sealed cells passes over the characters that stay and goes through the slots one after
the other. -/
theorem segmentsFrom_fill (hp : p.Recognizes hits) (hsolid : p.Solid)
    (hwords : ∀ h ∈ hits, h.text ∈ words)
    (hv : ∀ n, .slot (.className n) ∈ cells → EndsItself words (v (.className n)))
    {inWord : Bool} (hs : sealedFrom words inWord cells = true) {before : Option Char}
    (hword : inWord = true → isWordAt before = true)
    (hslot : ∀ s rest, cells = .slot s :: rest → isWordAt before = false) :
    p.segmentsFrom before .apart (fill v cells) = cells.flatMap (Cell.segments p v) := by
  induction cells generalizing inWord before with
  | nil => exact Pattern.segmentsFrom_nil hsolid
  | cons cell cells ih =>
    have hv' : ∀ n, .slot (.className n) ∈ cells → EndsItself words (v (.className n)) :=
      fun n hn => hv n (List.mem_cons_of_mem _ hn)
    cases cell with
    | char c =>
      simp only [sealedFrom, Bool.and_eq_true, Bool.or_eq_true, Bool.not_eq_true'] at hs
      obtain ⟨hstart, hs⟩ := hs
      have hnone : p.match? before (c :: fill v cells) = none := by
        refine Option.eq_none_iff_forall_ne_some.2 fun h hm => ?_
        obtain ⟨hmem, post, hpost, hw⟩ := (hp _ _ _).1 hm
        have hne := hsolid _ _ _ hm
        rcases hstart with ⟨⟨hin, hc⟩, hedge⟩ | hstart
        · -- inside of a word no token starts
          have hhead : h.text.head? = some c := by
            have := congrArg List.head? hpost
            rw [List.head?_append_of_ne_nil _ hne] at this
            exact this.symm
          have hfront := hw.front (by simpa [hhead] using hedge)
          rw [hhead, hword hin] at hfront
          exact hfront hc.symm
        · exact not_prefix_of_startsAny hstart (hwords h hmem) hne ⟨post, hpost.symm⟩
      have hrest : p.segmentsFrom (some c) .apart (fill v cells) =
          cells.flatMap (Cell.segments p v) := by
        refine ih hv' hs id fun s rest hcells => ?_
        rw [hcells] at hs
        simp only [sealedFrom, Bool.and_eq_true, Bool.not_eq_true'] at hs
        exact hs.1.1
      rw [fill_char, Pattern.segmentsFrom_skip hnone, hrest]
      rfl
    | slot s =>
      simp only [sealedFrom, Bool.and_eq_true] at hs
      obtain ⟨⟨-, hfence⟩, hs⟩ := hs
      have hbefore := hslot s cells rfl
      have hparted : Parted (hits.map (·.text)) before (v s) (fill v cells) := by
        have hall := parted_of_fenced (v := v) hfence
          (fun n hn => hn ▸ hv n (by rw [hn]; exact List.mem_cons_self)) hbefore
        refine ⟨hall.back, fun a b y hu hb hy hmem => hall.across a b y hu hb hy ?_⟩
        obtain ⟨h, hh, htext⟩ := List.mem_map.1 hmem
        exact htext ▸ hwords h hh
      have hrest : p.segmentsFrom ((v s).getLast?.or before) .apart (fill v cells) =
          cells.flatMap (Cell.segments p v) := by
        refine ih hv' hs (fun h => by cases h) fun s' rest hcells => ?_
        rw [hcells] at hfence
        cases hfence
      have hnone : isWordAt before = isWordAt none := hbefore
      rw [fill_slot, hp.segmentsFrom_append hsolid hnone hparted, hrest]
      rfl

theorem segments_fill (hp : p.Recognizes hits) (hsolid : p.Solid)
    (hwords : ∀ h ∈ hits, h.text ∈ words)
    (hv : ∀ n, .slot (.className n) ∈ cells → EndsItself words (v (.className n)))
    (hs : sealedFrom words false cells = true) :
    p.segments (fill v cells) = cells.flatMap (Cell.segments p v) :=
  segmentsFrom_fill hp hsolid hwords hv hs (fun h => by cases h) fun _ _ _ => rfl

/-- In sealed cells matches are replaced slot by slot. -/
theorem replaceAll_fill (hp : p.Recognizes hits) (hsolid : p.Solid)
    (hwords : ∀ h ∈ hits, h.text ∈ words)
    (hv : ∀ n, .slot (.className n) ∈ cells → EndsItself words (v (.className n)))
    (hs : sealedFrom words false cells = true) (render : Hit → Text) :
    (p.replaceAll render (fill v cells)).1 =
      fill (fun s => (p.replaceAll render (v s)).1) cells := by
  rw [Pattern.replaceAll_fst, segments_fill hp hsolid hwords hv hs, List.flatMap_assoc]
  refine List.flatMap_congr fun cell _ => ?_
  cases cell with
  | char c => rfl
  | slot s => exact (Pattern.replaceAll_fst ..).symm

/-- In sealed cells a pattern is found just if it is found in a slot. -/
theorem find?_fill_eq_none_iff (hp : p.Recognizes hits) (hsolid : p.Solid)
    (hwords : ∀ h ∈ hits, h.text ∈ words)
    (hv : ∀ n, .slot (.className n) ∈ cells → EndsItself words (v (.className n)))
    (hs : sealedFrom words false cells = true) :
    p.find? (fill v cells) = none ↔ ∀ s, .slot s ∈ cells → p.find? (v s) = none := by
  have hplain : ∀ t : Text, p.find? t = none ↔ ∀ x ∈ p.segments t, x.isHit = false := by
    intro t
    have hcount : (p.replaceAll Hit.text t).2 = 0 ↔ p.find? t = none :=
      Pattern.replaceAll_snd_eq_zero_iff hsolid
    rw [← hcount, Pattern.replaceAll_snd, List.countP_eq_zero]
    simp
  simp only [hplain, segments_fill hp hsolid hwords hv hs, List.mem_flatMap, forall_exists_index,
    and_imp]
  constructor
  · exact fun h s hs x hx => h x _ hs hx
  · intro h x cell hcell hx
    cases cell with
    | char c =>
      obtain rfl := List.mem_singleton.1 hx
      rfl
    | slot s => exact h s hcell x hx

/-- A filled row is free of a word just if its slots are. -/
theorem tokenFree_fill_iff {l : Text} (hl : l ∈ words) (hne : l ≠ [])
    (hv : ∀ n, .slot (.className n) ∈ cells → EndsItself words (v (.className n)))
    (hs : sealedFrom words false cells = true) :
    TokenFree l (fill v cells) ↔ ∀ s, .slot s ∈ cells → TokenFree l (v s) := by
  simp only [← Pattern.find?_token_eq_none_iff]
  refine find?_fill_eq_none_iff (Pattern.recognizes_token l) (Pattern.solid_token hne) ?_ hv hs
  simpa using hl

end

/-! ### Reading the slots of a row -/

namespace Slot

def canonical : Slot → Text
  | className n => (({} : Conventions).className n).toList
  | includeLabel => ({} : Conventions).includeLabel.toList
  | symbol => ({} : Conventions).symbol.toList
  | literal => ({} : Conventions).defaultLiteral.toList
  | closedLiteral => ({} : Conventions).defaultLiteral.toList ++ [')']
  | byteSize => ({} : Conventions).byteSizeNote.toList
  | range => ({} : Conventions).rangeNote.toList

/-- The slots with what stands in them, character by character. Of two that start alike the longer
one comes first. -/
def marks : List (Slot × Text) :=
  [(className 2, ['V', 'e', 'c', 't', 'o', 'r', '2', 'd']),
   (className 3, ['V', 'e', 'c', 't', 'o', 'r', '3', 'd']),
   (className 4, ['V', 'e', 'c', 't', 'o', 'r', '4', 'd']),
   (className 5, ['V', 'e', 'c', 't', 'o', 'r', '5', 'd']),
   (className 6, ['V', 'e', 'c', 't', 'o', 'r', '6', 'd']),
   (className 7, ['V', 'e', 'c', 't', 'o', 'r', '7', 'd']),
   (className 8, ['V', 'e', 'c', 't', 'o', 'r', '8', 'd']),
   (className 9, ['V', 'e', 'c', 't', 'o', 'r', '9', 'd']),
   (className 10, ['V', 'e', 'c', 't', 'o', 'r', '1', '0', 'd']),
   (includeLabel, ['V', 'e', 'c', 't', 'o', 'r', 'D', '.', 'h']),
   (symbol, ['s', 't', 'd', ':', ':', 'd', 'o', 'u', 'b', 'l', 'e', '_', 't']),
   (closedLiteral, ['0', '.', '0', ')']),
   (literal, ['0', '.', '0']),
   (byteSize, ['B', 'y', 't', 'e', 's', ':', ' ', '8']),
   (range, ['R', 'a', 'n', 'g', 'e', ':', ' ', '1', '.', '7', 'E', ' ', '+', '/', '-', ' ',
      '3', '0', '8', ' ', ' ', 'p', 'r', 'e', 'c', 'i', 's', 'i', 'o', 'n', ':', ' ',
      '(', '1', '5', ' ', 'd', 'i', 'g', 'i', 't', 's', ')'])]

theorem canonical_of_mem_marks : ∀ e ∈ marks, e.1.canonical = e.2 ∧ e.2 ≠ [] := by
  decide

end Slot

/-- The cells of a text, from a position `skip` characters behind the start of a slot on. -/
def cellsFrom : Nat → Text → List Cell
  | _, [] => []
  | skip + 1, _ :: t => cellsFrom skip t
  | 0, c :: t =>
    match (Slot.marks.filter (·.2.head? == some c)).find? (·.2.isPrefixOf (c :: t)) with
    | some (s, m) => .slot s :: cellsFrom (m.length - 1) t
    | none => .char c :: cellsFrom 0 t

/-- The cells of a text of the canonical pair. -/
def cells (t : Text) : List Cell := cellsFrom 0 t

theorem fill_cellsFrom (skip : Nat) (t : Text) :
    fill Slot.canonical (cellsFrom skip t) = t.drop skip := by
  induction t generalizing skip with
  | nil => simp [cellsFrom]
  | cons c t ih =>
    cases skip with
    | succ skip => simpa [cellsFrom] using ih skip
    | zero =>
      rw [cellsFrom]
      split
      · next s m hfind =>
        have hmem := (List.mem_filter.1 (List.mem_of_find?_eq_some hfind)).1
        obtain ⟨hcanonical, hne⟩ := Slot.canonical_of_mem_marks _ hmem
        obtain ⟨rest, hrest⟩ : m <+: c :: t := by simpa using List.find?_some hfind
        obtain ⟨d, m, rfl⟩ := List.exists_cons_of_ne_nil hne
        have ht : t = m ++ rest := (List.cons.inj hrest).2.symm
        have hcanonical : s.canonical = d :: m := hcanonical
        rw [fill_slot, ih, hcanonical, List.length_cons, Nat.add_sub_cancel, List.drop_zero, ← hrest,
          ht, List.drop_left]
      · rw [fill_char, ih]
        rfl

theorem fill_cells (t : Text) : fill Slot.canonical (cells t) = t :=
  fill_cellsFrom 0 t

theorem mem_marks_of_mem_cellsFrom {skip : Nat} {t : Text} {s : Slot}
    (h : .slot s ∈ cellsFrom skip t) : s ∈ Slot.marks.map (·.1) := by
  induction t generalizing skip with
  | nil => simp [cellsFrom] at h
  | cons c t ih =>
    cases skip with
    | succ skip => exact ih h
    | zero =>
      rw [cellsFrom] at h
      split at h
      · next s' m hfind =>
        rcases List.mem_cons.1 h with hs | h
        · obtain rfl := Cell.slot.inj hs
          have hmem := (List.mem_filter.1 (List.mem_of_find?_eq_some hfind)).1
          exact List.mem_map_of_mem (f := (·.1)) hmem
        · exact ih h
      · exact ih (by simpa using h)

/-! ### Bare rows -/

def bare (words : List Text) (t : Text) : Bool :=
  t.all fun c => (words.filter (·.head? == some c)).isEmpty

section
variable {words : List Text} {t : Text}

theorem head?_ne_of_bare (h : bare words t = true) {l : Text} (hl : l ∈ words) {c : Char}
    (hc : c ∈ t) : l.head? ≠ some c := by
  intro hhead
  have hnil := List.isEmpty_iff.1 (List.all_eq_true.1 h c hc)
  exact absurd (by simpa using hhead) (List.filter_eq_nil_iff.1 hnil l hl)

theorem cells_of_bare (hwords : ∀ e ∈ Slot.marks, e.2 ∈ words) (h : bare words t = true) :
    cells t = t.map .char := by
  induction t with
  | nil => rfl
  | cons c t ih =>
    have hnone : Slot.marks.filter (·.2.head? == some c) = [] := by
      refine List.filter_eq_nil_iff.2 fun e he => ?_
      simpa using head?_ne_of_bare h (hwords e he) List.mem_cons_self
    have hrest : cellsFrom 0 t = t.map .char := ih (Bool.and_eq_true_iff.1 h).2
    simp [cells, cellsFrom, hnone, hrest]

theorem sealedFrom_of_bare (inWord : Bool) (h : bare words t = true) :
    sealedFrom words inWord (t.map .char) = true := by
  induction t generalizing inWord with
  | nil => rfl
  | cons c t ih =>
    obtain ⟨hc, ht⟩ := Bool.and_eq_true_iff.1 h
    simp [sealedFrom, startsAny, List.isEmpty_iff.1 hc, ih _ ht]

end

end VectorFamily
