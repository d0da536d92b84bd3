import VectorFamily.Text.Basic

/-!
# Lines

A line keeps its terminator, so the lines of a text put together are the text. Every line but the
last ends with a line feed, which is its only one.
-/

namespace VectorFamily

/-- A line of a text and the number of bytes before it. -/
structure Line where
  offset : Nat
  text : Text
deriving DecidableEq, Repr

namespace Text

/-- Puts a character in front of a text that is already cut into lines. -/
def consLine (c : Char) : List Text → List Text
  | [] => [[c]]
  | l :: ls => if c = '\n' then [c] :: l :: ls else (c :: l) :: ls

/-- The lines of a text, terminators included. -/
def lines (t : Text) : List Text := t.foldr consLine []

@[simp] theorem lines_nil : lines [] = [] := rfl

@[simp] theorem lines_cons (c : Char) (t : Text) : lines (c :: t) = consLine c (lines t) := rfl

theorem flatten_consLine (c : Char) (ls : List Text) :
    (consLine c ls).flatten = c :: ls.flatten := by
  cases ls with
  | nil => rfl
  | cons l ls => by_cases h : c = '\n' <;> simp [consLine, h]

theorem flatten_lines (t : Text) : (lines t).flatten = t := by
  induction t with
  | nil => rfl
  | cons c t ih => rw [lines_cons, flatten_consLine, ih]

/-- A line without its terminator, which is a line feed or a carriage return and a line feed. -/
def lineContent (l : Text) : Text :=
  match l.reverse with
  | '\n' :: '\r' :: r => r.reverse
  | '\n' :: r => r.reverse
  | _ => l

/-- One step of `normalizeNewlines`, from the right: the text so far and its first character before
anything was dropped. -/
def normalizeStep (c : Char) (s : Text × Option Char) : Text × Option Char :=
  (if c = '\r' ∧ s.2 = some '\n' then s.1 else c :: s.1, some c)

/-- Drops each carriage return that stands right before a line feed. -/
def normalizeNewlines (t : Text) : Text := (t.foldr normalizeStep ([], none)).1

theorem foldr_normalizeStep_snd (t : Text) :
    (t.foldr normalizeStep ([], none)).2 = t.head? := by
  cases t <;> rfl

theorem normalizeNewlines_cons (c : Char) (t : Text) :
    normalizeNewlines (c :: t) =
      if c = '\r' ∧ t.head? = some '\n' then normalizeNewlines t else c :: normalizeNewlines t := by
  rw [← foldr_normalizeStep_snd]; rfl

/-- Gives each line the offset at which it starts, the first of them `start`. -/
def placeLines (start : Nat) : List Text → List Line
  | [] => []
  | l :: ls => ⟨start, l⟩ :: placeLines (start + byteSize l) ls

def placedLines (t : Text) : List Line := placeLines 0 (lines t)

/-- The text of the lines that start at `start` or later and before `stop`. -/
def between (ls : List Line) (start stop : Nat) : Text :=
  (ls.filter fun l => start ≤ l.offset && l.offset < stop).flatMap (·.text)

/-- Puts a tab before every line that is not blank and empties the blank ones. No terminator
follows the last line. -/
def indented (t : Text) : Text :=
  ['\n'].intercalate <| (lines t).map fun l =>
    let content := lineContent l
    if isAllBlank content then [] else '\t' :: content

end Text

end VectorFamily
