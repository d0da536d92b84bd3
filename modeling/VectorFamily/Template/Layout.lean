import VectorFamily.Failure
import VectorFamily.List.Repeat
import VectorFamily.Text.Lines

/-!
# The layout of the canonical pair

Comment lines mark the parts of the pair. The implementation has a section for each arity, from the
line that names its class to the next such line, and an end marker behind the last section. What
comes before the first section opens the namespace. The interface has its stream operators between
a marker of their own and the end marker.
-/

namespace VectorFamily

/-- A comment line that starts a section of the implementation, or ends the last one. -/
inductive Marker where
  | arity (n : Nat)
  | finish
deriving DecidableEq, Repr

/-- The comment that closes the last part of either file. -/
def endMarker : String := "// End"

/-- The comment that opens the stream operators of the interface. -/
def helpersMarker : String := "// overloads for the << operator"

namespace Marker

/-- The comment, without the blanks around it. -/
def comment (c : Conventions) : Marker → String
  | arity n => "// " ++ c.className n
  | finish => endMarker

/-- The markers of an implementation in the order in which they have to stand. -/
def all : List Marker := arities.map arity ++ [finish]

/-- The marker that a line is. -/
def ofLine? (c : Conventions) (line : Text) : Option Marker :=
  all.find? fun m => (m.comment c).toList == line.trim

/-- The markers among the lines, with their offsets. -/
def sightings (c : Conventions) (ls : List Line) : List (Marker × Nat) :=
  ls.filterMap fun l => (ofLine? c l.text).map (·, l.offset)

end Marker

/-- The section of one arity, by the offsets of its first byte and of the byte behind it. -/
structure Region where
  arity : Nat
  start : Nat
  stop : Nat
deriving DecidableEq, Repr

/-- Where the parts of the canonical pair are. -/
structure Layout where
  /-- The namespace of the definitions. -/
  scope : Text
  /-- The sections of the implementation, by ascending arity. -/
  regions : List Region
  /-- The stream operators of the interface: the offset of the marker and that of the end. -/
  helpers : Nat × Nat
deriving DecidableEq, Repr

namespace Layout

/-- The offset of a marker that has to be there. -/
def offsetOf (c : Conventions) (seen : List (Marker × Nat)) (m : Marker) : Except Failure Nat :=
  match seen.lookup m with
  | some offset => .ok offset
  | none => .error (.markerMissing .implementation (m.comment c))

/-- The sections that start at the given offsets, each ending where the next one starts and the last
one at `finish`; no section may be empty or end before it starts. -/
def regionsFrom (c : Conventions) (finish : Nat) : List (Nat × Nat) → Except Failure (List Region)
  | [] => .ok []
  | (n, start) :: rest => do
    let (next, stop) := (rest.head?.map fun r => (Marker.arity r.1, r.2)).getD (.finish, finish)
    if stop ≤ start then
      throw (.markerMisplaced .implementation (next.comment c) ((Marker.arity n).comment c))
    return ⟨n, start, stop⟩ :: (← regionsFrom c finish rest)

/-- The sections of an implementation. -/
def locateRegions (c : Conventions) (implementation : List Line) :
    Except Failure (List Region) := do
  let seen := Marker.sightings c implementation
  match firstRepeat? [] (seen.map (·.1)) with
  | some m => throw (.markerRepeated .implementation (m.comment c))
  | none =>
    let starts ← arities.mapM fun n => return (n, ← offsetOf c seen (.arity n))
    let finish ← offsetOf c seen .finish
    regionsFrom c finish starts

/-- The namespace that a line opens: what stands between the keyword and the brace at the end. -/
def openedScope? (line : Text) : Option Text := do
  let rest ← "namespace ".toList.isPrefixOf? line.trim
  let name ← Text.dropSuffix? ['\x7b'] rest
  if name.trim.isEmpty then none else pure name.trim

/-- The first namespace that is opened before the given offset of an implementation. -/
def locateScope (implementation : List Line) (stop : Nat) : Except Failure Text :=
  match (implementation.takeWhile (·.offset < stop)).findSome? (openedScope? ·.text) with
  | some name => .ok name
  | none => .error (.markerMissing .implementation "namespace")

/-- The stream operators in the remaining lines of an interface, where `start` is the offset of
their marker if it was seen. -/
def helpersFrom (start : Option Nat) : List Line → Except Failure (Nat × Nat)
  | [] =>
    .error (.markerMissing .interface (if start.isNone then helpersMarker else endMarker))
  | l :: ls =>
    let opens := l.text.trim == helpersMarker.toList
    match start with
    -- end markers before the stream operators close other things
    | none => helpersFrom (if opens then some l.offset else none) ls
    | some offset =>
      if opens then .error (.markerRepeated .interface helpersMarker)
      else if l.text.trim == endMarker.toList then .ok (offset, l.offset)
      else helpersFrom start ls

/-- The parts of a pair whose line ends are single line feeds. -/
def locate (c : Conventions) (interface implementation : Text) : Except Failure Layout := do
  let lines := implementation.placedLines
  let regions ← locateRegions c lines
  let scope ← locateScope lines ((regions.head?.map (·.start)).getD 0)
  let helpers ← helpersFrom none interface.placedLines
  pure ⟨scope, regions, helpers⟩

end Layout

end VectorFamily
