import VectorFamily.Failure
import VectorFamily.Hash.Sha256

/-!
# Output sets

What a run produces is collected before anything is written. A set holds files under different
names, in the order of the names; names are compared by their code points, which is the order of
their bytes as well.
-/

namespace VectorFamily

/-- Files by name. -/
structure OutputSet where
  files : List (String × String) := []
  sorted : files.Pairwise fun f g => f.1 < g.1 := by simp

namespace OutputSet

def empty : OutputSet := {}

def names (s : OutputSet) : List String := s.files.map (·.1)

def size (s : OutputSet) : Nat := s.files.length

def isEmpty (s : OutputSet) : Bool := s.files.isEmpty

def contains (s : OutputSet) (name : String) : Bool := s.names.contains name

def get? (s : OutputSet) (name : String) : Option String := s.files.lookup name

/-! ### Adding files -/

/-- Puts a file before the first one that has no smaller name. -/
def place (f : String × String) : List (String × String) → List (String × String)
  | [] => [f]
  | g :: gs => if g.1 < f.1 then g :: place f gs else f :: g :: gs

theorem mem_place {f x : String × String} {fs : List (String × String)} :
    x ∈ place f fs ↔ x = f ∨ x ∈ fs := by
  induction fs with
  | nil => simp [place]
  | cons g gs ih =>
    unfold place
    split
    · simp only [List.mem_cons, ih]
      exact ⟨fun h => by rcases h with h | h | h <;> simp [h], fun h => by
        rcases h with h | h | h <;> simp [h]⟩
    · simp

theorem sorted_place {f : String × String} {fs : List (String × String)}
    (hs : fs.Pairwise fun f g => f.1 < g.1) (hf : f.1 ∉ fs.map (·.1)) :
    (place f fs).Pairwise fun f g => f.1 < g.1 := by
  induction fs with
  | nil => simp [place]
  | cons g gs ih =>
    obtain ⟨hg, hgs⟩ := List.pairwise_cons.1 hs
    simp only [List.map_cons, List.mem_cons, not_or] at hf
    unfold place
    split
    · next hlt =>
      refine List.pairwise_cons.2 ⟨fun x hx => ?_, ih hgs hf.2⟩
      rcases mem_place.1 hx with rfl | hx
      · exact hlt
      · exact hg x hx
    · next hlt =>
      have hfg : f.1 < g.1 := Std.lt_of_le_of_ne (String.not_lt.1 hlt) hf.1
      refine List.pairwise_cons.2 ⟨fun x hx => ?_, hs⟩
      rcases List.mem_cons.1 hx with rfl | hx
      · exact hfg
      · exact String.lt_trans hfg (hg x hx)

/-- The set with one more file, whose name must be new. -/
def insert (s : OutputSet) (a : Artifact) : Except Failure OutputSet :=
  if h : a.fileName ∈ s.names then .error (.duplicateOutput a.fileName)
  else .ok ⟨place (a.fileName, a.contents) s.files, sorted_place s.sorted h⟩

def insertAll (s : OutputSet) (artifacts : List Artifact) : Except Failure OutputSet :=
  artifacts.foldlM insert s

/-! ### Digests -/

/-- The bytes of one file that the digest is taken over: its name and its contents, each with a zero
behind it. -/
def fileBytes (f : String × String) : ByteArray :=
  f.1.toUTF8 ++ ⟨#[0]⟩ ++ f.2.toUTF8 ++ ⟨#[0]⟩

def digestBytes (s : OutputSet) : ByteArray :=
  s.files.foldl (fun out f => out ++ fileBytes f) ByteArray.empty

def digest (s : OutputSet) : String := Sha256.hex (Sha256.hash s.digestBytes)

end OutputSet

end VectorFamily
