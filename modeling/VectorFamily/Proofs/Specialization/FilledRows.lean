import VectorFamily.Proofs.Specialization.SlotRules

/-!
# Rows with filled slots

In sealed rows the rules for tokens and metadata, applied one after another, are a substitution that
fills all slots at once (`rewrite_cells`). Each rule that has to match does so where there is a row
with a slot for it (`applyAll_slotRules`), and what is filled in brings no canonical value back
(`tokenFree_rewrite_slotRules`).
-/

namespace VectorFamily.Specialization

open Piece (isWordAt)

variable {p : Profile} {keep : Bool} {kind : ArtifactKind}

/-! ### Filling all slots at once -/

section
variable {rules : List Rule}
  (hrules : rules ⊆ tokenRules ⟨{}, p, keep⟩ ++ metadataRules ⟨{}, p, keep⟩)
include hrules

theorem rewrite_fill {cells : List Cell} (hs : sealedFrom Slot.words false cells = true)
    {v : Slot → Text} (hv : ∀ n, .slot (.className n) ∈ cells → ∀ pre, pre <+: rules →
      EndsItself Slot.words (Rule.rewrite pre (v (.className n)))) :
    Rule.rewrite rules (fill v cells) = fill (fun s => Rule.rewrite rules (v s)) cells := by
  induction rules generalizing v with
  | nil => rfl
  | cons r rules ih =>
    obtain ⟨hr, hrest⟩ := List.cons_subset.1 hrules
    obtain ⟨q, render, hits, hfills, -⟩ := fills_spec hr
    have hstart : ∀ n, .slot (.className n) ∈ cells →
        EndsItself Slot.words (v (.className n)) := fun n hn => hv n hn [] List.nil_prefix
    rw [Rule.rewrite_cons, hfills.apply_fill hstart hs, ih hrest]
    · rfl
    · exact fun n hn pre hpre => hv n hn (r :: pre) (List.cons_prefix_cons.2 ⟨rfl, hpre⟩)

variable (hp : Suited p) (hnodup : (rules.map (·.name)).Nodup)
include hp hnodup

/-- What the rules make of a class name is one with a tag. -/
theorem rewrite_className {n : Nat} (hn : n ∈ arities) : ∃ tag, IsTag tag ∧
    Rule.rewrite rules (Slot.canonical (.className n)) = taggedName n tag := by
  have hmark : ∀ n ∈ arities, (Slot.className n, Slot.canonical (.className n)) ∈ Slot.marks := by
    decide
  have hvalue := rewrite_mark hp hrules hnodup (hmark n hn) (by simp)
  simp only at hvalue
  rw [hvalue]
  split
  · exact ⟨p.classTag, hp.classTag, rfl⟩
  · exact ⟨"d", isTag_classTag, canonical_className n⟩

theorem endsItself_rewrite_className {n : Nat} (hn : n ∈ arities) :
    EndsItself Slot.words (Rule.rewrite rules (Slot.canonical (.className n))) := by
  obtain ⟨tag, htag, he⟩ := rewrite_className hrules hp hnodup hn
  exact he ▸ endsItself_taggedName hn htag

/-- The rules rewrite a sealed row slot by slot. -/
theorem rewrite_cells {t : Text} (hs : sealedFrom Slot.words false (cells t) = true) :
    Rule.rewrite rules t = fill (fun s => Rule.rewrite rules s.canonical) (cells t) := by
  have hfill := rewrite_fill hrules hs (v := Slot.canonical) fun n hn pre hpre => ?_
  · rwa [fill_cells] at hfill
  · exact endsItself_rewrite_className (fun r hr => hrules (hpre.subset hr)) hp
      (hnodup.sublist (hpre.sublist.map _)) (mem_arities_of_mem_cells hn)

end

/-! ### The rules that fill slots succeed -/

theorem slotRules_subset : slotRules ⟨{}, p, keep⟩ kind ⊆
    tokenRules ⟨{}, p, keep⟩ ++ metadataRules ⟨{}, p, keep⟩ :=
  List.filter_subset_self _

def slotRuleNames : ArtifactKind → List String
  | .interface =>
    ["token.symbol", "token.class-name", "token.default-literal", "metadata.byte-size",
      "metadata.range"]
  | .implementation =>
    ["token.symbol", "token.class-name", "token.default-literal", "metadata.byte-size",
      "metadata.range", "metadata.include-label"]

theorem names_slotRules :
    (slotRules ⟨{}, p, keep⟩ kind).map (·.name) = slotRuleNames kind := by
  cases kind <;> rfl

theorem nodup_names_slotRules : ((slotRules ⟨{}, p, keep⟩ kind).map (·.name)).Nodup := by
  rw [names_slotRules]
  cases kind <;> decide

theorem cuts_slotRules : ∀ r ∈ slotRules ⟨{}, p, keep⟩ kind, r.edit.Cuts := by
  intro r hr
  obtain ⟨q, render, hits, hfills, -⟩ := fills_spec (slotRules_subset hr)
  exact hfills.cuts

/-- The row has a slot for each rule that has to match in an artifact of the kind. -/
def HasSlotFor (name : String) (t : Text) : Prop :=
  ∃ e ∈ Slot.marks, e.1 ≠ .closedLiteral ∧ e.1.ruleName = name ∧ .slot e.1 ∈ cells t

/-- The rules that fill slots, as they have to match in an artifact. -/
def requiredNames : ArtifactKind → List String
  | .interface =>
    ["token.symbol", "token.class-name", "token.default-literal", "metadata.byte-size",
      "metadata.range"]
  | .implementation =>
    ["token.symbol", "token.class-name", "metadata.byte-size", "metadata.range",
      "metadata.include-label"]

theorem name_mem_requiredNames {r : Rule} (hr : r ∈ slotRules ⟨{}, p, keep⟩ kind)
    (hreq : r.expect.requiredFor kind = true) : r.name ∈ requiredNames kind := by
  have hnames : ((slotRules ⟨{}, p, keep⟩ kind).filter (·.expect.requiredFor kind)).map (·.name) =
      requiredNames kind := by
    cases kind <;> rfl
  rw [← hnames]
  exact List.mem_map_of_mem (List.mem_filter.2 ⟨hr, hreq⟩)

section
variable (hp : Suited p)
include hp

/-- A rule hits, at its turn, a row with a slot for it. -/
theorem hits_at_turn {pre post : List Rule} {r : Rule}
    (hrules : slotRules ⟨{}, p, keep⟩ kind = pre ++ r :: post) {t : Text}
    (hs : sealedFrom Slot.words false (cells t) = true) (ht : HasSlotFor r.name t) :
    (r.apply (Rule.rewrite pre t)).2 ≠ 0 := by
  obtain ⟨⟨s, m⟩, he, hne, hname, hmem⟩ := ht
  have hsubset : pre ++ r :: post ⊆ tokenRules ⟨{}, p, keep⟩ ++ metadataRules ⟨{}, p, keep⟩ :=
    hrules ▸ slotRules_subset
  have hpre : pre ⊆ tokenRules ⟨{}, p, keep⟩ ++ metadataRules ⟨{}, p, keep⟩ :=
    fun r hr => hsubset (List.mem_append_left _ hr)
  have hr := hsubset (List.mem_append_right _ List.mem_cons_self)
  have hnames : (pre.map (·.name) ++ r.name :: post.map (·.name)).Nodup := by
    have hall : ((slotRules ⟨{}, p, keep⟩ kind).map (·.name)).Nodup := nodup_names_slotRules
    simpa [hrules] using hall
  have hnodup := (List.nodup_append.1 hnames).1
  obtain ⟨q, render, hits, hfills, -⟩ := fills_spec hr
  rw [rewrite_cells hpre hp hnodup hs]
  refine hfills.hits_fill (fun n hn => ?_) hs hmem ?_
  · exact endsItself_rewrite_className hpre hp hnodup (mem_arities_of_mem_cells hn)
  · -- the rules in front of this one have not touched the slot
    have hnotMem : r.name ∉ pre.map (·.name) := fun h =>
      (List.nodup_append.1 hnames).2.2 _ h _ List.mem_cons_self rfl
    have hcanonical : s.canonical = m := (Slot.canonical_of_mem_marks _ he).1
    have hvalue := rewrite_mark hp hpre hnodup he hne
    rw [if_neg (by simpa only [hname] using hnotMem)] at hvalue
    have happly := apply_mark hr he hne hname
    simp only at hvalue happly
    rw [hcanonical, hvalue, happly]
    exact Nat.one_ne_zero

theorem applyAll_slotRules {rs : List Text} (hne : rs ≠ [])
    (hs : ∀ t ∈ rs, sealedFrom Slot.words false (cells t) = true)
    (hslots : ∀ name ∈ requiredNames kind, ∃ t ∈ rs, HasSlotFor name t) (target : String) :
    Rule.applyAll target kind (slotRules ⟨{}, p, keep⟩ kind) (Text.join rs) =
      .ok (Text.join (rs.map (Rule.rewrite (slotRules ⟨{}, p, keep⟩ kind)))) := by
  refine Rule.applyAll_join cuts_slotRules hne fun pre r post hrules hreq => ?_
  have hr : r ∈ slotRules ⟨{}, p, keep⟩ kind := by simp [hrules]
  obtain ⟨t, ht, hslot⟩ := hslots _ (name_mem_requiredNames hr hreq)
  exact ⟨t, ht, hits_at_turn hp hrules (hs t ht) hslot⟩

end

end VectorFamily.Specialization
