import VectorFamily.Proofs.Specialization.FilledRows

/-!
# No canonical value is left

A token is `Outdated` for a profile if a run must not leave it: it stands for a value that the
profile has another one for, or it is the export token. The filled rows of the canonical pair are
free of outdated tokens (`tokenFree_rewrite_slotRules`). The one place where a value and what follows
it can make up a token is a default argument: its literal can hold a range annotation up to the
closing bracket. The rule for the range then replaces the annotation that has come about.
-/

namespace VectorFamily.Specialization

open Piece (isWordAt)

/-- The slot is one of an artifact of the kind. -/
def standsIn : ArtifactKind → Slot → Bool
  | .interface, s => s != .includeLabel
  | .implementation, s => s != .closedLiteral

/-- The token must not be left by a run for the profile. -/
structure Outdated (p : Profile) (l : Text) : Prop where
  mem : l ∈ Slot.tokens
  replaced : ∀ e ∈ Slot.marks, e.1 ≠ .closedLiteral → slotValue p e.1 = e.2 → e.2 ≠ l

variable {p : Profile} {keep : Bool} {kind : ArtifactKind} {l : Text}

/-! ### Values -/

section
variable (hp : Suited p)
include hp

theorem rewrite_slotRules_canonical {s : Slot} (hs : s ∈ Slot.marks.map (·.1))
    (hne : s ≠ .closedLiteral) (hkind : standsIn kind s = true) :
    Rule.rewrite (slotRules ⟨{}, p, keep⟩ kind) s.canonical = slotValue p s := by
  have hnames : ∀ s ∈ Slot.marks.map (·.1), ∀ kind ∈ ArtifactKind.all, standsIn kind s = true →
      s.ruleName ∈ slotRuleNames kind := by
    decide
  have hname := hnames s hs kind kind.mem_all hkind
  obtain ⟨⟨s, m⟩, he, rfl⟩ := List.mem_map.1 hs
  have hsubset : slotRules ⟨{}, p, keep⟩ kind ⊆
      tokenRules ⟨{}, p, keep⟩ ++ metadataRules ⟨{}, p, keep⟩ := slotRules_subset
  have hvalue := rewrite_mark hp hsubset nodup_names_slotRules he hne
  rw [names_slotRules, if_pos hname] at hvalue
  rwa [(Slot.canonical_of_mem_marks _ he).1]

theorem tokenFree_slotValue (hl : Outdated p l) {e : Slot × Text} (he : e ∈ Slot.marks)
    (hne : e.1 ≠ .closedLiteral) : TokenFree l (slotValue p e.1) := by
  rcases slotValue_cases hp he hne with hvalue | hfree
  · rw [hvalue]
    refine Slot.tokenFree_marks e he l hl.mem fun hpre => ?_
    exact hl.replaced e he hne hvalue (Slot.eq_of_token_prefix_mark e he hne l hl.mem hpre).symm
  · exact hfree l hl.mem

end

/-! ### Default arguments -/

/-- A token that does not go on with `c` is not made where `c` starts something else. -/
theorem tokenFree_append_of_not_mem_tail {pre u v : Text} {c : Char}
    (hl : isWordAt l.head? = true ∧ l.head?.any Pattern.isEdge = true) (hc : c ∉ l.tail)
    (hu : TokenFree l (pre ++ c :: u)) (hv : TokenFree l (c :: v)) :
    TokenFree l (pre ++ c :: v) := by
  have hne : l ≠ [] := by
    rintro rfl
    cases hl.1
  intro a post he hw
  rw [List.append_assoc] at he
  have behind : ∀ a', a = pre ++ a' → c :: v ≠ a' ++ (l ++ post) := by
    rintro a' rfl hv'
    have hfront := hw.front hl.2
    rw [hl.1] at hfront
    refine hv a' post (by rw [hv', List.append_assoc]) (hw.congr ?_ rfl)
    cases a' with
    | nil => simpa [isWordAt] using hfront
    | cons d a' => simp [List.getLast?_append, List.getLast?_cons]
  rcases List.append_eq_append_iff.1 he with ⟨a', ha, hv'⟩ | ⟨w, rfl, hw'⟩
  · exact behind a' ha hv'
  · rcases List.append_eq_append_iff.1 hw' with ⟨y, rfl, rfl⟩ | ⟨y, rfl, hy⟩
    · exact hu a (y ++ c :: u) (by simp) (hw.congr rfl (by cases y <;> rfl))
    · cases w with
      | nil => exact behind [] (by simp) (by simpa using hy)
      | cons d w =>
        -- the token would go on with `c`
        cases y with
        | nil =>
          obtain rfl : c :: v = post := hy
          exact hu a (c :: u) (by simp) (hw.congr rfl rfl)
        | cons e y =>
          obtain rfl : c = e := (List.cons.inj hy).1
          simp at hc

theorem tokenFree_closing (hl : ')' ∉ l) (hne : l ≠ []) {t : Text} (ht : TokenFree l t) :
    TokenFree l (t ++ [')']) :=
  (tokenFree_append_cons hne hl (by decide)).2 ⟨ht, tokenFree_nil hne⟩

/-- A token that stands nowhere but at the end is replaced there. -/
theorem replaceAll_token_end {t u : Text} (hne : l ≠ []) (hw : WholeToken u.getLast? l none)
    (honly : ∀ a b, u = a ++ b → b ≠ [] → (Pattern.token l).match? a.getLast? (b ++ l) = none) :
    ((Pattern.token l).replaceAll (fun _ => t) (u ++ l)).1 = u ++ t := by
  have hsolid := Pattern.solid_token hne
  have hmatch : (Pattern.token l).match? u.getLast? (l ++ []) = some ⟨l, []⟩ :=
    Pattern.match?_token_eq_some.2 ⟨[], rfl, hw, rfl⟩
  have htake := Pattern.segmentsFrom_take hsolid (h := ⟨l, []⟩) hmatch
  simp only [List.append_nil, Pattern.segmentsFrom_nil hsolid] at htake
  rw [Pattern.replaceAll_fst, Pattern.segments, Pattern.segmentsFrom_append_of_match?_eq_none,
    Option.or_none, htake, List.flatMap_append, Pattern.flatMap_replaced_map_plain]
  · simp [Segment.replaced]
  · simpa using honly

/-- The range annotation, the bracket at its end apart. -/
def openRange : Text := ({} : Conventions).rangeNote.toList.dropLast

theorem rangeNote_eq : ({} : Conventions).rangeNote.toList = openRange ++ [')'] := by
  decide

/-- Behind a literal that is free of it, the range annotation ends with the bracket. -/
theorem eq_nil_of_range_closing {d pre post : Text}
    (hd : TokenFree ({} : Conventions).rangeNote.toList d)
    (he : d ++ [')'] = pre ++ ({} : Conventions).rangeNote.toList ++ post)
    (hw : WholeToken pre.getLast? ({} : Conventions).rangeNote.toList post.head?) : post = [] := by
  have hback : ∀ after, WholeToken pre.getLast? ({} : Conventions).rangeNote.toList after :=
    fun _ => ⟨hw.front, fun hedge => absurd hedge (by decide)⟩
  rcases List.eq_nil_or_concat post with rfl | ⟨post, c, rfl⟩
  · rfl
  · rw [List.concat_eq_append, ← List.append_assoc] at he
    exact absurd (hback _) (hd pre post (List.append_inj' he rfl).1)

/-- A default argument, once the range annotation that the bracket may complete is replaced. -/
theorem replaceAll_range_closing {d r : Text}
    (hd : TokenFree ({} : Conventions).rangeNote.toList d) :
    let t := ((Pattern.token ({} : Conventions).rangeNote.toList).replaceAll (fun _ => r)
      (d ++ [')'])).1
    (t = d ++ [')'] ∧ TokenFree ({} : Conventions).rangeNote.toList t) ∨
      ∃ u, d = u ++ openRange ∧ t = u ++ r := by
  intro t
  by_cases hfree : TokenFree ({} : Conventions).rangeNote.toList (d ++ [')'])
  · have ht : t = d ++ [')'] :=
      Pattern.replaceAll_of_find?_none (Pattern.find?_token_eq_none_iff.2 hfree) _
    exact .inl ⟨ht, ht ▸ hfree⟩
  · simp only [TokenFree, not_forall, not_not] at hfree
    obtain ⟨u, post, he, hw⟩ := hfree
    obtain rfl := eq_nil_of_range_closing hd he hw
    rw [List.append_nil] at he
    refine .inr ⟨u, ?_, ?_⟩
    · rw [rangeNote_eq, ← List.append_assoc] at he
      exact (List.append_inj' he rfl).1
    · show ((Pattern.token ({} : Conventions).rangeNote.toList).replaceAll (fun _ => r)
        (d ++ [')'])).1 = u ++ r
      rw [he]
      refine replaceAll_token_end (by decide) hw fun a b hab hb => ?_
      -- a match in front of the end would be longer than what is left
      refine Option.eq_none_iff_forall_ne_some.2 fun h hm => ?_
      obtain ⟨post, hpost, hw', -⟩ := Pattern.match?_token_eq_some.1 hm
      have hsplit : d ++ [')'] = a ++ ({} : Conventions).rangeNote.toList ++ post := by
        rw [he, hab, List.append_assoc, hpost, List.append_assoc]
      have hnil := eq_nil_of_range_closing hd hsplit hw'
      have hlen := congrArg List.length hpost
      have hb := List.length_pos_iff.2 hb
      simp only [hnil, List.length_append, List.append_nil] at hlen
      omega

section
variable (hp : Suited p)
include hp

theorem tokenFree_defaultLiteral {m : Text} (hm : m ∈ Slot.tokens) (hne : m ≠ ['0', '.', '0']) :
    TokenFree m p.defaultLiteral.toList := by
  have hmark : (Slot.literal, ['0', '.', '0']) ∈ Slot.marks := by decide
  rcases slotValue_cases hp hmark (by decide) with he | hall
  · have he : p.defaultLiteral.toList = ['0', '.', '0'] := he
    rw [he]
    exact Slot.tokenFree_marks _ hmark m hm fun hpre =>
      hne (Slot.eq_of_token_prefix_mark _ hmark (by decide) m hm hpre)
  · exact hall m hm

theorem rewrite_closedLiteral :
    Rule.rewrite (slotRules ⟨{}, p, keep⟩ .interface) Slot.closedLiteral.canonical =
      ((Pattern.token ({} : Conventions).rangeNote.toList).replaceAll
        (fun _ => p.rangeNote.toList) (p.defaultLiteral.toList ++ [')'])).1 := by
  obtain ⟨symbol, className, literal, byteSize, range, hrules, hnames, hrange⟩ :
      ∃ a b c d e, slotRules ⟨{}, p, keep⟩ .interface = [a, b, c, d, e] ∧
        [a, b, c, d, e].map (·.name) = slotRuleNames .interface ∧
        ∀ t, e.apply t = Edit.substituteAll (.replace p.rangeNote.toList)
          [Pattern.token ({} : Conventions).rangeNote.toList] t :=
    ⟨_, _, _, _, _, rfl, rfl, fun _ => rfl⟩
  have hmem : ∀ r ∈ [symbol, className, literal, byteSize, range],
      r ∈ tokenRules ⟨{}, p, keep⟩ ++ metadataRules ⟨{}, p, keep⟩ :=
    fun r hr => slotRules_subset (hrules ▸ hr)
  simp only [List.map_cons, List.map_nil, slotRuleNames, List.cons.injEq, and_true] at hnames
  obtain ⟨hsymbol, hclass, hliteral, hbytes, -⟩ := hnames
  have hclosed : (Slot.closedLiteral, Slot.closedLiteral.canonical) ∈ Slot.marks := by decide
  have hother : ∀ r ∈ [symbol, className, literal, byteSize, range],
      Slot.closedLiteral.ruleName ≠ r.name → (r.apply Slot.closedLiteral.canonical).1 =
        Slot.closedLiteral.canonical := fun r hr hname => by
    rw [apply_other (hmem r hr) hclosed hname]
  have hbytesQuiet : (byteSize.apply (p.defaultLiteral.toList ++ [')'])).1 =
      p.defaultLiteral.toList ++ [')'] := by
    have hmarks : ∀ e ∈ Slot.marks, e.1.ruleName = "metadata.byte-size" →
        e.2 ∈ Slot.tokens ∧ e.2 ≠ ['0', '.', '0'] ∧ ')' ∉ e.2 ∧ e.2 ≠ [] := by
      decide
    obtain ⟨q, render, hits, hfills, -⟩ := fills_spec (hmem byteSize (by simp))
    rw [hfills.apply_of_quiet]
    intro e he _ hname
    obtain ⟨htoken, hne, hclosing, hnil⟩ := hmarks e he (hname.trans hbytes)
    exact tokenFree_closing hclosing hnil (tokenFree_defaultLiteral hp htoken hne)
  rw [hrules, Rule.rewrite_cons, hother _ (by simp) (by rw [hsymbol]; decide), Rule.rewrite_cons,
    hother _ (by simp) (by rw [hclass]; decide), Rule.rewrite_cons,
    apply_closedLiteral (hmem _ (by simp)) (by rw [hliteral]; rfl), Rule.rewrite_cons, hbytesQuiet,
    Rule.rewrite_cons, Rule.rewrite_nil, hrange, Edit.substituteAll_singleton]
  rfl

/-- A default argument holds no token that must not be left. -/
theorem tokenFree_closedLiteral (hl : Outdated p l) : TokenFree l
    (Rule.rewrite (slotRules ⟨{}, p, keep⟩ .interface) Slot.closedLiteral.canonical) := by
  have htokens : ∀ m ∈ Slot.tokens, m ≠ [] ∧ (')' ∈ m → m = ({} : Conventions).rangeNote.toList) ∧
      'R' ∉ m.tail ∧ isWordAt m.head? = true ∧ m.head?.any Pattern.isEdge = true := by
    decide +kernel
  obtain ⟨hne, hclosing, hR, hhead⟩ := htokens l hl.mem
  have hmark : (Slot.literal, ['0', '.', '0']) ∈ Slot.marks := by decide
  have hrangeMark : (Slot.range, ({} : Conventions).rangeNote.toList) ∈ Slot.marks := by decide
  have hliteral : TokenFree l p.defaultLiteral.toList :=
    tokenFree_slotValue hp hl hmark (by decide)
  have hclosed : ')' ∉ l → TokenFree l (p.defaultLiteral.toList ++ [')']) :=
    fun h => tokenFree_closing h hne hliteral
  rw [rewrite_closedLiteral hp]
  rcases replaceAll_range_closing (r := p.rangeNote.toList)
    (tokenFree_defaultLiteral hp (by decide) (by decide)) with ⟨ht, hfree⟩ | ⟨u, hd, ht⟩
  · by_cases h : ')' ∈ l
    · exact hclosing h ▸ hfree
    · rw [ht]
      exact hclosed h
  · -- what stands in front of the annotation is free of the token, and so is the new annotation
    have hvalue : TokenFree l p.rangeNote.toList :=
      tokenFree_slotValue hp hl hrangeMark (by decide)
    obtain ⟨x, hx⟩ : ∃ x, openRange = 'R' :: x := ⟨_, rfl⟩
    obtain ⟨y, hy⟩ : ∃ y, p.rangeNote.toList = 'R' :: y := ⟨_, by
      rw [Profile.rangeNote, String.toList_append]
      rfl⟩
    rw [ht, hy]
    refine tokenFree_append_of_not_mem_tail hhead hR (u := x) ?_ (hy ▸ hvalue)
    rw [← hx, ← hd]
    exact hliteral

end

/-! ### Rows -/

/-- The row of a canonical artifact is sealed, and each of its slots is filled there. -/
structure RowOf (kind : ArtifactKind) (t : Text) : Prop where
  sealed : sealedFrom Slot.words false (cells t) = true
  slots : ∀ s, .slot s ∈ cells t → standsIn kind s = true

theorem RowOf.rewrite_cells (hp : Suited p) {t : Text} (ht : RowOf kind t) :
    Rule.rewrite (slotRules ⟨{}, p, keep⟩ kind) t =
      fill (fun s => Rule.rewrite (slotRules ⟨{}, p, keep⟩ kind) s.canonical) (cells t) :=
  Specialization.rewrite_cells slotRules_subset hp nodup_names_slotRules ht.sealed

theorem RowOf.rewrite_of_no_slot (hp : Suited p) {t : Text} (ht : RowOf kind t)
    (hno : ∀ s, .slot s ∉ cells t) : Rule.rewrite (slotRules ⟨{}, p, keep⟩ kind) t = t := by
  rw [ht.rewrite_cells hp]
  conv_rhs => rw [← fill_cells t]
  refine List.flatMap_congr fun cell hcell => ?_
  cases cell with
  | char c => rfl
  | slot s => exact absurd hcell (hno s)

/-- No token that must not be left is in a filled row. -/
theorem tokenFree_rewrite_slotRules (hp : Suited p) (hl : Outdated p l) {t : Text}
    (ht : RowOf kind t) : TokenFree l (Rule.rewrite (slotRules ⟨{}, p, keep⟩ kind) t) := by
  have hword := Slot.mem_words_of_mem_tokens l hl.mem
  rw [ht.rewrite_cells hp, tokenFree_fill_iff hword (Slot.ne_nil_of_mem_words hword)
    (fun n hn => endsItself_rewrite_className slotRules_subset hp nodup_names_slotRules
      (mem_arities_of_mem_cells hn)) ht.sealed]
  intro s hs
  have hslot := mem_marks_of_mem_cellsFrom hs
  by_cases hne : s = .closedLiteral
  · subst hne
    cases kind with
    | interface => exact tokenFree_closedLiteral hp hl
    | implementation => exact absurd (ht.slots _ hs) (by decide)
  · rw [rewrite_slotRules_canonical hp hslot hne (ht.slots s hs)]
    obtain ⟨e, he, rfl⟩ := List.mem_map.1 hslot
    exact tokenFree_slotValue hp hl he hne

/-- A filled row is free of further words that it is sealed against, if its slots are. -/
theorem tokenFree_rewrite_of_sealed (hp : Suited p) {words : List Text}
    (hwords : ∀ l ∈ words, l ≠ [] ∧ l.head? ≠ some 'V') {t : Text}
    (hs : sealedFrom (Slot.words ++ words) false (cells t) = true) {l : Text} (hl : l ∈ words)
    (hslots : ∀ s, .slot s ∈ cells t →
      TokenFree l (Rule.rewrite (slotRules ⟨{}, p, keep⟩ kind) s.canonical)) :
    TokenFree l (Rule.rewrite (slotRules ⟨{}, p, keep⟩ kind) t) := by
  have hsealed := sealedFrom_mono (List.subset_append_left Slot.words words) hs
  rw [rewrite_cells slotRules_subset hp nodup_names_slotRules hsealed,
    tokenFree_fill_iff (List.mem_append_right _ hl) (hwords l hl).1 (fun n hn => ?_) hs]
  · exact hslots
  · have hn := mem_arities_of_mem_cells hn
    have hsubset : slotRules ⟨{}, p, keep⟩ kind ⊆
        tokenRules ⟨{}, p, keep⟩ ++ metadataRules ⟨{}, p, keep⟩ := slotRules_subset
    obtain ⟨tag, htag, he⟩ := rewrite_className hsubset hp nodup_names_slotRules hn
    rw [he]
    exact endsItself_taggedName_append hn htag fun l hl => (hwords l hl).2

end VectorFamily.Specialization
