import VectorFamily.List.Lookup
import VectorFamily.Proofs.Registry.Accepted
import VectorFamily.Registry.Document

/-!
# The keys of a registry document

A document is refused if it has a key that means nothing in it, and so it is if one of its profiles
has one. A key that means nothing under `canonical` is passed over instead: the document is read as
if it was not there, and a convention that only a misspelled key was to change stays as it is in the
canonical template (`Registry.parse_keys_spec`).
-/

namespace VectorFamily

namespace Toml

def Value.entries : Value → List (String × Value)
  | .table _ es => es
  | _ => []

/-- The value is a table with another key than the given ones. -/
def Value.HasForeignKey (keys : List String) (v : Value) : Prop := ∃ e ∈ v.entries, e.1 ∉ keys

instance (keys : List String) (v : Value) : Decidable (v.HasForeignKey keys) :=
  inferInstanceAs (Decidable (∃ e ∈ v.entries, _))

/-- The value with no other keys than the given ones, if it is a table. -/
def Value.keep (keys : List String) : Value → Value
  | .table origin es => .table origin (es.filter fun e => keys.contains e.1)
  | v => v

theorem Table.find?_replace (t : Table) (key key' : String) (v : Value) :
    (t.replace key v).find? key' =
      if key' = key then (t.find? key).map fun _ => v else t.find? key' :=
  lookup_map_replace key key' v t.entries

end Toml

namespace Document

open Toml (Value Table)

variable {document : Table} {v w : Value}

/-! ### Keys that are refused -/

theorem onlyKeys_eq_ok_iff {keys : List String} :
    onlyKeys keys v = .ok () ↔ ¬ v.HasForeignKey keys := by
  cases v with
  | table origin es =>
    simp only [onlyKeys]
    cases hfind : es.find? fun e => !keys.contains e.1 with
    | some e =>
      have hforeign : e.1 ∉ keys := by simpa using List.find?_some hfind
      simp only [reduceCtorEq, false_iff]
      exact fun hnot => hnot ⟨e, List.mem_of_find?_eq_some hfind, hforeign⟩
    | none => simpa [Value.HasForeignKey, Value.entries] using hfind
  | _ => simp [onlyKeys, Value.HasForeignKey, Value.entries]

/-- A document is read in three steps: its own keys, the conventions and the profiles. -/
theorem read_eq (document : Table) : read document =
    onlyKeys ["canonical", "profile"] document.value >>= fun _ =>
      (document.find? "canonical").elim (pure {}) conventions >>= fun c =>
        (document.find? "profile").elim (pure []) (profiles "profile") >>= fun ps =>
          pure (c, ps) := by
  unfold read
  cases document.find? "canonical" <;> cases document.find? "profile" <;> rfl

/-- The document has a key that means nothing in it, or one of its profiles has one. -/
def HasForeignKey (document : Table) : Prop :=
  document.value.HasForeignKey ["canonical", "profile"] ∨
    ∃ tables elements, document.find? "profile" = some (.array tables elements) ∧
      ∃ v ∈ elements, v.HasForeignKey profileKeys

theorem not_hasForeignKey_of_read {x : Conventions × List Profile} (h : read document = .ok x) :
    ¬ HasForeignKey document := by
  rw [read_eq] at h
  obtain ⟨⟨⟩, hown, h⟩ := bind_eq_ok.1 h
  obtain ⟨c, -, h⟩ := bind_eq_ok.1 h
  obtain ⟨ps, hps, -⟩ := bind_eq_ok.1 h
  rintro (hforeign | ⟨tables, elements, hfind, v, hv, hforeign⟩)
  · exact onlyKeys_eq_ok_iff.1 hown hforeign
  · rw [hfind] at hps
    obtain ⟨p, hp⟩ := exists_of_mapM_eq_ok hps hv
    obtain ⟨⟨⟩, hkeys, -⟩ := bind_eq_ok.1 hp
    exact onlyKeys_eq_ok_iff.1 hkeys hforeign

/-! ### Keys that are passed over -/

def conventionKeys : List String := "byte_size" :: (Conventions.required {}).map (·.1)

theorem field?_keep {keys : List String} {name : String} (hname : name ∈ keys) (place : Nat) :
    field? (v.keep keys) place name = field? v place name := by
  cases v with
  | table origin es =>
    have hlookup := lookup_filter_fst keys.contains name es
    rw [if_pos (List.contains_iff_mem.2 hname)] at hlookup
    exact congrArg Except.ok hlookup
  | _ => rfl

theorem conventions_keep : conventions (v.keep conventionKeys) = conventions v := by
  have hfield : ∀ {α : Type} (place name) (read : String → Value → Except DocumentError α) default,
      name ∈ conventionKeys →
        optional (v.keep conventionKeys) place name read default =
          optional v place name read default := by
    intro α place name read default hname
    unfold optional
    rw [field?_keep hname]
  simp (disch := decide) only [conventions, hfield]

theorem onlyKeys_replace {keys : List String} (key : String) :
    onlyKeys keys (document.replace key w).value = onlyKeys keys document.value := by
  have hkeys : ∀ e : String × Value, (if e.1 = key then (key, w) else e).1 = e.1 := by
    intro e
    split
    · next he => exact he.symm
    · rfl
  simp only [onlyKeys, Table.value, Table.replace, List.find?_map, Function.comp_def, hkeys]
  cases hfind : document.entries.find? fun e => !keys.contains e.1 with
  | none => rfl
  | some e => exact congrArg (fun k => Except.error (DocumentError.unknownKey k)) (hkeys e)

/-- Only the conventions count that are read under `canonical`. -/
theorem read_replace (hfind : document.find? "canonical" = some v)
    (hsame : conventions w = conventions v) :
    read (document.replace "canonical" w) = read document := by
  rw [read_eq, read_eq, onlyKeys_replace, Table.find?_replace, Table.find?_replace, if_pos rfl,
    if_neg (by decide), hfind, Option.map_some, Option.elim_some, Option.elim_some, hsame]

/-! ### Conventions that are left out -/

section
variable {origin : Toml.Origin} {entries : List (String × Value)} {place : Nat} {name : String}

theorem optional_table_eq_ok_iff {α : Type} {read : String → Value → Except DocumentError α}
    {default a : α} : optional (.table origin entries) place name read default = .ok a ↔
      (∃ v, entries.lookup name = some v ∧ read name v = .ok a) ∨
        entries.lookup name = none ∧ a = default := by
  have hfield : field? (.table origin entries) place name = .ok (entries.lookup name) := rfl
  unfold optional
  rw [hfield]
  cases entries.lookup name <;> simp [bind, Except.bind, pure, Except.pure, eq_comm]

theorem string_eq_ok_iff {s : String} : string name v = .ok s ↔ v = .string s := by
  cases v <;> simp [string]

theorem eq_integer_of_size {n : Nat} (h : size name v = .ok n) : v = .integer n := by
  cases v with
  | integer m =>
    by_cases hm : 0 ≤ m ∧ m < UInt32.size
    · rw [size, if_pos hm] at h
      rw [← Except.ok.inj h, Int.toNat_of_nonneg hm.1]
    · rw [size, if_neg hm] at h
      cases h
  | _ => cases h

theorem eq_string_or_default_of_optional {s default : String}
    (h : optional (.table origin entries) place name string default = .ok s) :
    entries.lookup name = some (.string s) ∨ entries.lookup name = none ∧ s = default := by
  refine (optional_table_eq_ok_iff.1 h).imp_left fun ⟨v, hv, hs⟩ => ?_
  rw [hv, string_eq_ok_iff.1 hs]

/-- Each convention is that of the table, or the one of the canonical template if the table has no
such key. -/
theorem of_conventions_eq_ok {c : Conventions} (h : conventions (.table origin entries) = .ok c) :
    (∀ f ∈ c.required, entries.lookup f.1 = some (.string f.2) ∨
      entries.lookup f.1 = none ∧ f ∈ Conventions.required {}) ∧
    (entries.lookup "byte_size" = some (.integer c.byteSize) ∨
      entries.lookup "byte_size" = none ∧ c.byteSize = Conventions.byteSize {}) := by
  simp only [conventions, bind_eq_ok, pure_eq_ok] at h
  obtain ⟨_, h0, _, h1, _, h2, _, h3, _, h4, n, h5, _, h6, _, h7, _, h8, _, h9, _, h10, rfl⟩ := h
  refine ⟨?_, (optional_table_eq_ok_iff.1 h5).imp_left fun ⟨v, hv, hn⟩ => ?_⟩
  · have hstring : ∀ {place name s default},
        optional (.table origin entries) place name string default = .ok s →
          (name, default) ∈ Conventions.required {} →
          entries.lookup name = some (.string s) ∨
            entries.lookup name = none ∧ (name, s) ∈ Conventions.required {} := by
      intro place name s default hs hdefault
      refine (eq_string_or_default_of_optional hs).imp_right fun ⟨hnone, heq⟩ => ⟨hnone, ?_⟩
      rw [heq]
      exact hdefault
    simp only [Conventions.required, List.forall_mem_cons]
    exact ⟨hstring h0 (by decide), hstring h1 (by decide), hstring h2 (by decide),
      hstring h3 (by decide), hstring h4 (by decide), hstring h6 (by decide),
      hstring h7 (by decide), hstring h8 (by decide), hstring h9 (by decide),
      hstring h10 (by decide), by simp⟩
  · rw [hv, eq_integer_of_size hn]

end

end Document

namespace Registry

open Toml (Value Table)
open Document (HasForeignKey conventionKeys)

theorem ofDocument_eq_ok_iff {document : Table} {r : Registry} : ofDocument document = .ok r ↔
    Document.read document = .ok (r.conventions, r.profiles) ∧
      new r.conventions r.profiles = .ok r := by
  unfold ofDocument
  cases hread : Document.read document with
  | error detail => simp
  | ok x =>
    obtain ⟨c, ps⟩ := x
    simp only [Except.ok.injEq, Prod.mk.injEq]
    constructor
    · intro h
      obtain ⟨rfl, rfl, -, -⟩ := new_eq_ok_iff.1 h
      exact ⟨⟨rfl, rfl⟩, h⟩
    · rintro ⟨⟨rfl, rfl⟩, h⟩
      exact h

theorem exists_malformed_of_hasForeignKey {document : Table} (h : HasForeignKey document) :
    ∃ detail, ofDocument document = .error (.malformed detail) := by
  unfold ofDocument
  cases hread : Document.read document with
  | error detail => exact ⟨detail, rfl⟩
  | ok x => exact absurd h (Document.not_hasForeignKey_of_read hread)

/-- A document is refused as malformed if it or one of its profiles has a key that means nothing
there. Under `canonical` such keys are passed over: the registry is the same without them, and each
convention whose key is not there is that of the canonical template. -/
theorem parse_keys_spec {text : String} {document : Table}
    (htext : Toml.parse? text = some document) :
    (HasForeignKey document → ∃ detail, parse text = .error (.malformed detail)) ∧
    ∀ v, document.find? "canonical" = some v →
      parse text = ofDocument (document.replace "canonical" (v.keep conventionKeys)) ∧
      ∀ origin entries r, v = .table origin entries → parse text = .ok r →
        (∀ f ∈ r.conventions.required, entries.lookup f.1 = some (.string f.2) ∨
          entries.lookup f.1 = none ∧ f ∈ Conventions.required {}) ∧
        (entries.lookup "byte_size" = some (.integer r.conventions.byteSize) ∨
          entries.lookup "byte_size" = none ∧ r.conventions.byteSize = Conventions.byteSize {}) := by
  have hparse : parse text = ofDocument document := by rw [parse, htext]
  rw [hparse]
  refine ⟨exists_malformed_of_hasForeignKey, fun v hfind => ⟨?_, ?_⟩⟩
  · rw [ofDocument, ofDocument, Document.read_replace hfind Document.conventions_keep]
  · rintro origin entries r rfl hr
    have hread := (ofDocument_eq_ok_iff.1 hr).1
    rw [Document.read_eq, hfind] at hread
    obtain ⟨-, -, hread⟩ := bind_eq_ok.1 hread
    obtain ⟨c, hc, hread⟩ := bind_eq_ok.1 hread
    obtain ⟨ps, -, hread⟩ := bind_eq_ok.1 hread
    obtain ⟨rfl, -⟩ := Prod.mk.inj (pure_eq_ok.1 hread)
    exact Document.of_conventions_eq_ok hc

/-- A document with a misspelled key under `canonical`. -/
def misspelledText : String :=
  "[canonical]\nexport_tokn = \"X\"\n\n[[profile]]\nsymbol = \"Q\"\nshort_tag = \"q\"\n" ++
  "file_tag = \"A\"\ndefault_literal = \"1\"\nbyte_size = 2\nrange = \"w\"\n" ++
  "include_label = \"VectorA.h\"\ncategory = \"boolean\"\n"

theorem exists_parse_misspelledText : ∃ document v, Toml.parse? misspelledText = some document ∧
    document.find? "canonical" = some v ∧ v.HasForeignKey conventionKeys ∧
    ∃ r, ofDocument document = .ok r := by
  have hdocument : ((Toml.parse? misspelledText).any fun document =>
      (document.find? "canonical").any (fun v => v.HasForeignKey conventionKeys) &&
        (ofDocument document).isOk) = true := by
    decide +kernel
  obtain ⟨document, hparse, hdocument⟩ := (Option.any_eq_true _ _).1 hdocument
  obtain ⟨hcanonical, hok⟩ := Bool.and_eq_true_iff.1 hdocument
  obtain ⟨v, hfind, hforeign⟩ := (Option.any_eq_true _ _).1 hcanonical
  exact ⟨document, v, hparse, hfind, of_decide_eq_true hforeign, exists_of_isOk hok⟩

/-- A misspelled header is refused, and a misspelled convention is as good as none. -/
theorem parse_keys_spec_misspelled :
    (∃ document, Toml.parse? "[canonicl]\n" = some document ∧ HasForeignKey document ∧
      ∃ detail, parse "[canonicl]\n" = .error (.malformed detail)) ∧
    ∃ document v, Toml.parse? misspelledText = some document ∧
      document.find? "canonical" = some v ∧ v.HasForeignKey conventionKeys ∧
      parse misspelledText = ofDocument (document.replace "canonical" (v.keep conventionKeys)) := by
  constructor
  · have hdocument : ((Toml.parse? "[canonicl]\n").any fun document =>
        document.value.HasForeignKey ["canonical", "profile"]) = true := by
      decide +kernel
    obtain ⟨document, hparse, hforeign⟩ := (Option.any_eq_true _ _).1 hdocument
    have hforeign : HasForeignKey document := .inl (of_decide_eq_true hforeign)
    exact ⟨document, hparse, hforeign, (parse_keys_spec hparse).1 hforeign⟩
  · obtain ⟨document, v, hparse, hfind, hforeign, -⟩ := exists_parse_misspelledText
    exact ⟨document, v, hparse, hfind, hforeign, ((parse_keys_spec hparse).2 v hfind).1⟩

/-- A document is accepted although it has a key that means nothing. -/
theorem parse_misspelledText : ¬ ∀ text document, Toml.parse? text = some document →
    (HasForeignKey document ∨
      ∃ v, document.find? "canonical" = some v ∧ v.HasForeignKey conventionKeys) →
    ∃ detail, parse text = .error (.malformed detail) := by
  obtain ⟨document, v, hparse, hfind, hforeign, r, hr⟩ := exists_parse_misspelledText
  intro h
  obtain ⟨detail, hrefused⟩ := h misspelledText document hparse (.inr ⟨v, hfind, hforeign⟩)
  rw [parse, hparse] at hrefused
  cases hr.symm.trans hrefused

end Registry

end VectorFamily
