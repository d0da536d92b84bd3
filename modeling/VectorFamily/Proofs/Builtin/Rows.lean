import VectorFamily.Builtin.Implementation
import VectorFamily.Builtin.Interface
import VectorFamily.Proofs.Template.Checked

/-!
# The rows of the built-in pair

The rows are read character by character, and what a complete pair asks of them is checked part by
part.
-/

namespace VectorFamily.Builtin

open VectorFamily.Specialization

/-! ### Reading rows -/

section
variable {s s' : String} {ss : List String} {t t' : Text} {ts : List Text}

theorem toList_append_of (h : s.toList = t) (h' : s'.toList = t') : (s ++ s').toList = t ++ t' := by
  rw [String.toList_append, h, h']

theorem map_toList_cons (h : s.toList = t) (hs : ss.map String.toList = ts) :
    (s :: ss).map String.toList = t :: ts := by
  rw [List.map_cons, h, hs]

/-- What is found out about the characters of rows holds of the rows. -/
theorem check_of_rows {check : List Text → Bool} (hrows : ss.map String.toList = ts)
    (h : check ts = true) : check (ss.map String.toList) = true :=
  hrows ▸ h

end

/-! ### The parts of the pair -/

def classLines : Nat → List String
  | 2 => interface2
  | 3 => interface3
  | 4 => interface4
  | 5 => interface5
  | 6 => interface6
  | 7 => interface7
  | 8 => interface8
  | 9 => interface9
  | 10 => interface10
  | _ => []

def sectionLines : Nat → List String
  | 2 => implementation2
  | 3 => implementation3
  | 4 => implementation4
  | 5 => implementation5
  | 6 => implementation6
  | 7 => implementation7
  | 8 => implementation8
  | 9 => implementation9
  | 10 => implementation10
  | _ => []

/-- The lines of the stream operators, behind which the interface is closed. -/
def operatorCount : Nat := interfaceHelpers.length - 2

/-- The built-in pair, row by row. -/
def pairRows : PairRows where
  classes := interfaceStart.map String.toList ++
    arities.flatMap fun n => (classLines n).map String.toList
  operators := (interfaceHelpers.map String.toList).take operatorCount
  closing := (interfaceHelpers.map String.toList).drop operatorCount
  opening := implementationStart.map String.toList
  sections n := (sectionLines n).map String.toList
  ending := implementationEnd.map String.toList

theorem join_interface : Text.join pairRows.interface = interface.toList := by
  have hrows : pairRows.interface = interfaceLines.map String.toList := by
    simp [pairRows, PairRows.interface, interfaceLines, arities, classLines]
  rw [hrows, interface, String.toList_intercalate]
  rfl

theorem join_implementation : Text.join pairRows.implementation = implementation.toList := by
  have hrows : pairRows.implementation = implementationLines.map String.toList := by
    simp [pairRows, PairRows.implementation, implementationLines, arities, sectionLines]
  rw [hrows, implementation, String.toList_intercalate]
  rfl

/-! ### Checks of the parts -/

def isClass (ts : List Text) : Bool := ts.all fun t => isInterfaceRow t && isUnmarked t

/-- The rows of the interface up to its first class. -/
def isInterfaceStart (ts : List Text) : Bool :=
  isClass ts && hasSlots [.byteSize, .range] ts

/-- The stream operators and the rows behind them. -/
def isInterfaceEnd (ts : List Text) : Bool :=
  ts.all isInterfaceRow &&
    ((ts.take operatorCount).head?.map Text.trim == some helpersMarker.toList &&
      (ts.take operatorCount).tail.all isUnmarked &&
      (ts.drop operatorCount).head?.map Text.trim == some endMarker.toList) &&
    ((ts.take operatorCount).contains streamedRow && (ts.take operatorCount).contains operatorRow &&
      (ts.take operatorCount).getLast? == some ['\t', '\x7d'])

/-- The rows of the implementation up to its first section. -/
def isImplementationStart (ts : List Text) : Bool :=
  ts.all (fun t => isImplementationRow (standsIn .implementation) t && isUnmarked t) &&
    (ts.head? == some includeRow && ts.any (Layout.openedScope? · |>.isSome)) &&
    hasSlots [.includeLabel, .byteSize, .range] ts

/-- The section of an arity: its marker, the definition of a constructor, and further rows. -/
def isSection (n : Nat) : List Text → Bool
  | marker :: constructor :: ts =>
    (marker :: constructor :: ts).all (isImplementationRow (ofSection n)) &&
      (constructor :: ts).all isUnmarked &&
      (cells marker == around "\t// ".toList (.className n) [] &&
        (around "\tinline ".toList (.className n) "::".toList).isPrefixOf (cells constructor))
  | _ => false

/-- The rows have slots for the rules of every section, and what pruning and the casts look for. -/
def isComplete (ts : List Text) : Bool :=
  hasSlots [.symbol, .className 2] ts && [stepRow, divisionRow, compoundRow, mixedRow].all ts.contains

/-- The rows of the implementation behind its sections. -/
def isImplementationEnd (ts : List Text) : Bool :=
  ts.all (isImplementationRow (standsIn .implementation)) &&
    (ts.head?.map Text.trim == some endMarker.toList && ts.tail.all isUnmarked)

theorem interface_checked : isInterfaceStart (interfaceStart.map String.toList) = true ∧
    isInterfaceEnd (interfaceHelpers.map String.toList) = true ∧
    hasSlots [.symbol, .className 2, .literal] ((classLines 2).map String.toList) = true ∧
    ∀ n ∈ arities, isClass ((classLines n).map String.toList) = true := by
  simp only [arities, List.forall_mem_cons, List.not_mem_nil, false_imp_iff, implies_true, and_true]
  and_intros
  all_goals
    apply check_of_rows
    · -- a row is a literal, or put together from some; read so, no string is decoded by the check
      repeat first
        | with_reducible apply toList_append_of
        | with_reducible exact String.toList_ofList
        | apply map_toList_cons
      rfl
    · decide +kernel

theorem implementation_checked :
    isImplementationStart (implementationStart.map String.toList) = true ∧
    isImplementationEnd (implementationEnd.map String.toList) = true ∧
    isComplete ((sectionLines 2).map String.toList) = true ∧
    ∀ n ∈ arities, isSection n ((sectionLines n).map String.toList) = true := by
  simp only [arities, List.forall_mem_cons, List.not_mem_nil, false_imp_iff, implies_true, and_true]
  and_intros
  all_goals
    apply check_of_rows
    · repeat first
        | with_reducible apply toList_append_of
        | with_reducible exact String.toList_ofList
        | apply map_toList_cons
      rfl
    · decide +kernel

end VectorFamily.Builtin
