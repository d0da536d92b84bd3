import Mathlib.Data.List.Nodup
import VectorFamily.Registry.Basic

/-!
# The index of a registry

`Registry.Indexes` relates the positions filed under the class tags to the list of profiles. Each
step of `Registry.index` keeps it for the profiles seen so far, so the index of a registry never
leads out of its profiles, and two profiles cannot share a tag (`index_spec`).
-/

namespace VectorFamily

namespace Registry

variable {byTag : OrderedMap String Nat} {ps : List Profile} {p : Profile} {tag : String} {i : Nat}

/-- The position under a tag is that of a profile with this tag, and each profile is filed. -/
def Indexes (byTag : OrderedMap String Nat) (ps : List Profile) : Prop :=
  ∀ tag i, byTag.get? tag = some i ↔ ∃ p, ps[i]? = some p ∧ p.classTag = tag

namespace Indexes

theorem empty : Indexes ∅ [] := fun tag i => by simp [OrderedMap.get?_eq_some_iff]

theorem get?_eq_none_iff (h : Indexes byTag ps) :
    byTag.get? tag = none ↔ ∀ p ∈ ps, p.classTag ≠ tag := by
  rw [Option.eq_none_iff_forall_ne_some]
  constructor
  · intro hnone p hp htag
    obtain ⟨i, hi⟩ := List.mem_iff_getElem?.1 hp
    exact hnone i ((h tag i).2 ⟨p, hi, htag⟩)
  · intro hall i hi
    obtain ⟨p, hp, htag⟩ := (h tag i).1 hi
    exact hall p (List.mem_of_getElem? hp) htag

/-- A tag has one position. -/
theorem pairwise (h : Indexes byTag ps) : ps.Pairwise fun p q => p.classTag ≠ q.classTag := by
  rw [List.pairwise_iff_getElem]
  intro i j hi hj hlt htag
  have hfirst := (h ps[j].classTag i).2 ⟨ps[i], List.getElem?_eq_getElem hi, htag⟩
  have hsecond := (h ps[j].classTag j).2 ⟨ps[j], List.getElem?_eq_getElem hj, rfl⟩
  exact absurd (Option.some.inj (hfirst.symm.trans hsecond)) (Nat.ne_of_lt hlt)

/-- The step of the loop: one more profile, under a tag that none has yet. -/
theorem insert (h : Indexes byTag ps) (hnew : byTag.get? p.classTag = none) :
    Indexes (byTag.insert p.classTag ps.length).2 (ps ++ [p]) := by
  intro tag i
  rw [OrderedMap.get?_insert]
  by_cases htag : tag = p.classTag
  · subst htag
    rw [if_pos rfl, Option.some.injEq]
    constructor
    · rintro rfl
      exact ⟨p, List.getElem?_concat_length, rfl⟩
    · rintro ⟨q, hq, htag⟩
      by_contra hne
      -- another position is that of an earlier profile
      have hlt : i < ps.length := by
        have := (List.getElem?_eq_some_iff.1 hq).1
        rw [List.length_append, List.length_singleton] at this
        omega
      rw [List.getElem?_append_left hlt] at hq
      exact h.get?_eq_none_iff.1 hnew q (List.mem_of_getElem? hq) htag
  · rw [if_neg htag, h tag i]
    refine exists_congr fun q => and_congr_left fun hq => ?_
    by_cases hlt : i < ps.length
    · rw [List.getElem?_append_left hlt]
    · rw [List.getElem?_append_right (Nat.not_lt.1 hlt), List.getElem?_eq_none (Nat.not_lt.1 hlt)]
      refine ⟨fun hnone => (Option.some_ne_none q hnone.symm).elim, fun hlast => ?_⟩
      obtain rfl := List.mem_singleton.1 (List.mem_of_getElem? hlast)
      exact absurd hq.symm htag

end Indexes

theorem index_cons {position : Nat} : index byTag position (p :: ps) =
    if byTag.get? p.classTag = none then
      index (byTag.insert p.classTag position).2 (position + 1) ps
    else .error (.duplicateTag .classTag p.classTag) := by
  rw [← OrderedMap.insert_fst, index]
  rcases byTag.insert p.classTag position with ⟨_ | _, _⟩ <;> rfl

/-- The run of the loop from an index of the profiles seen before: it stops at the first profile
whose tag one before it has, and files all of them if there is none. -/
theorem index_spec {seen : List Profile} (h : Indexes byTag seen) (ps : List Profile) :
    match index byTag seen.length ps with
    | .ok byTag' => Indexes byTag' (seen ++ ps)
    | .error e => ∃ pre p post, ps = pre ++ p :: post ∧
        (∃ q ∈ seen ++ pre, q.classTag = p.classTag) ∧ e = .duplicateTag .classTag p.classTag := by
  induction ps generalizing byTag seen with
  | nil => simpa [index] using h
  | cons p ps ih =>
    rw [index_cons]
    by_cases hnew : byTag.get? p.classTag = none
    · have hrest := ih (h.insert hnew)
      rw [List.length_append, List.length_singleton] at hrest
      rw [if_pos hnew]
      cases hindex : index (byTag.insert p.classTag seen.length).2 (seen.length + 1) ps with
      | ok byTag' =>
        rw [hindex] at hrest
        simpa using hrest
      | error e =>
        rw [hindex] at hrest
        obtain ⟨pre, q, post, rfl, hq, rfl⟩ := hrest
        exact ⟨p :: pre, q, post, rfl, by simpa using hq, rfl⟩
    · rw [if_neg hnew]
      obtain ⟨i, hi⟩ := Option.ne_none_iff_exists'.1 hnew
      obtain ⟨q, hq, htag⟩ := (h _ _).1 hi
      exact ⟨[], p, ps, rfl, ⟨q, by simpa using List.mem_of_getElem? hq, htag⟩, rfl⟩

theorem indexes_of_index (h : index ∅ 0 ps = .ok byTag) : Indexes byTag ps := by
  have hspec := index_spec Indexes.empty ps
  rw [List.length_nil, h] at hspec
  exact hspec

theorem exists_index_iff :
    (∃ byTag, index ∅ 0 ps = .ok byTag) ↔ ps.Pairwise fun p q => p.classTag ≠ q.classTag := by
  refine ⟨fun ⟨_, h⟩ => (indexes_of_index h).pairwise, fun hapart => ?_⟩
  have hspec := index_spec Indexes.empty ps
  rw [List.length_nil] at hspec
  cases hindex : index ∅ 0 ps with
  | ok byTag => exact ⟨byTag, rfl⟩
  | error e =>
    rw [hindex] at hspec
    obtain ⟨pre, p, post, rfl, ⟨q, hq, htag⟩, -⟩ := hspec
    exact absurd htag ((List.pairwise_append.1 hapart).2.2 q (by simpa using hq) p (by simp))

/-- The registry of one profile. -/
def single (c : Conventions) (p : Profile) : Registry :=
  ⟨c, [p], ⟨[(p.classTag, 0)], List.nodup_singleton _⟩⟩

@[simp] theorem conventions_single (c : Conventions) : (single c p).conventions = c := rfl

@[simp] theorem profiles_single (c : Conventions) : (single c p).profiles = [p] := rfl

/-! ### Finding profiles -/

theorem lookup_eq_some_iff_classTag {r : Registry} (h : Indexes r.byTag r.profiles) :
    r.lookup tag = some p ↔ p ∈ r.profiles ∧ p.classTag = tag := by
  rw [lookup, Option.bind_eq_some_iff, List.mem_iff_getElem?]
  constructor
  · rintro ⟨i, hi, hp⟩
    obtain ⟨q, hq, rfl⟩ := (h tag i).1 hi
    obtain rfl := Option.some.inj (hq.symm.trans hp)
    exact ⟨⟨i, hp⟩, rfl⟩
  · rintro ⟨⟨i, hp⟩, htag⟩
    exact ⟨i, (h tag i).2 ⟨p, hp, htag⟩, hp⟩

theorem lookup_eq_none_iff {r : Registry} (h : Indexes r.byTag r.profiles) :
    r.lookup tag = none ↔ ∀ p ∈ r.profiles, p.classTag ≠ tag := by
  rw [Option.eq_none_iff_forall_ne_some]
  simp only [ne_eq, lookup_eq_some_iff_classTag h, not_and]

theorem lookup_eq_some_iff {r : Registry} (h : Indexes r.byTag r.profiles) :
    r.lookup tag = some p ↔ p ∈ r.profiles ∧ ∀ q ∈ r.profiles, q.classTag = tag ↔ q = p := by
  rw [lookup_eq_some_iff_classTag h]
  refine and_congr_right fun hp => ⟨?_, fun hunique => (hunique p hp).2 rfl⟩
  rintro rfl q hq
  have hinj := List.inj_on_of_nodup_map (List.pairwise_map.2 h.pairwise)
  exact ⟨fun htag => hinj hq hp htag, fun he => by rw [he]⟩

end Registry

end VectorFamily
