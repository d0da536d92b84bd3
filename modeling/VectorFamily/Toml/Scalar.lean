import VectorFamily.Toml.Value
import VectorFamily.Text.Basic

/-!
# Values without parts

Booleans, numbers, dates and times, none of them in quotes. An integer is held in 64 bits; a
positive number too large for a double is refused.
-/

namespace VectorFamily.Toml

/-- Digits in which an underscore stands only between two digits. -/
def isDigits (isDigit : Char → Bool) (t : Text) : Bool :=
  (t.splitOnP (· == '_')).all fun group => !group.isEmpty && group.all isDigit

/-- The number that digits of a base stand for, underscores apart. -/
def digitsValue (base : Nat) (t : Text) : Nat :=
  (t.filter (· != '_')).foldl (fun n c =>
    base * n + if c.isDigit then c.toNat - '0'.toNat else c.toLower.toNat - 'a'.toNat + 10) 0

/-- Splits off a sign; true is minus. -/
def sign : Text → Bool × Text
  | '-' :: t => (true, t)
  | '+' :: t => (false, t)
  | t => (false, t)

/-- Decimal digits that do not start with a zero, unless the zero stands alone. -/
def isDecimal (t : Text) : Bool := isDigits Char.isDigit t && (t.head? != some '0' || t.length == 1)

/-- The integer, if 64 bits hold it. -/
def int64? (n : Int) : Option Int :=
  if Int64.minValue.toInt ≤ n ∧ n ≤ Int64.maxValue.toInt then some n else none

/-- An integer in base ten, or in base sixteen, eight or two with a mark of the base. -/
def integer? (t : Text) : Option Int :=
  let inBase (base : Nat) (isDigit : Char → Bool) (digits : Text) : Option Int :=
    if isDigits isDigit digits then int64? (digitsValue base digits) else none
  match t with
  | '0' :: 'x' :: digits =>
    inBase 16 (fun c => c.isDigit || ('a' ≤ c && c ≤ 'f') || ('A' ≤ c && c ≤ 'F')) digits
  | '0' :: 'o' :: digits => inBase 8 (fun c => '0' ≤ c && c ≤ '7') digits
  | '0' :: 'b' :: digits => inBase 2 (fun c => c == '0' || c == '1') digits
  | _ =>
    let (negative, digits) := sign t
    if isDecimal digits then
      int64? (if negative then -(digitsValue 10 digits : Int) else digitsValue 10 digits)
    else none

/-- `digits` times the given power of ten is nearer to infinity than to the largest double. -/
def overflows (digits : Nat) (power : Int) : Bool :=
  -- halfway between the largest double and the power of two behind it
  let bound := Nat.pow 2 1024 - Nat.pow 2 970
  let places : Int := (Nat.toDigits 10 digits).length + power
  -- far from the bound the number of places decides, so that no huge power is worked out
  if digits = 0 || places < 300 then false
  else if 400 < places then true
  else if 0 ≤ power then bound ≤ digits * Nat.pow 10 power.toNat
  else bound * Nat.pow 10 (-power).toNat ≤ digits

/-- A number with a fraction, an exponent or both, or one of the two that are no numbers. -/
def float? (t : Text) : Option Value :=
  let (negative, body) := sign t
  if body = "inf".toList ∨ body = "nan".toList then some (.float t)
  else
    let whole := body.takeWhile fun c => c.isDigit || c == '_'
    let rest := body.drop whole.length
    let fraction? : Option Text :=
      match rest with
      | '.' :: r => some (r.takeWhile fun c => c.isDigit || c == '_')
      | _ => none
    let rest := rest.drop (fraction?.elim 0 fun f => f.length + 1)
    let exponent? : Option Text :=
      match rest with
      | 'e' :: r => some r
      | 'E' :: r => some r
      | _ => none
    let fraction := fraction?.getD []
    let (negativePower, power) := sign (exponent?.getD [])
    if isDecimal whole && fraction?.all (isDigits Char.isDigit) &&
        exponent?.all (fun _ => isDigits Char.isDigit power) &&
        (exponent?.isSome || (fraction?.isSome && rest.isEmpty)) then
      let digits := digitsValue 10 (whole ++ fraction)
      let exponent : Int := digitsValue 10 power
      let places : Int := (fraction.filter (· != '_')).length
      let power := if negativePower then -exponent else exponent
      if !negative && overflows digits (power - places) then none
      else some (.float t)
    else none

/-! ### Dates and times -/

/-- A number of exactly `count` digits, within bounds. -/
def field? (count low high : Nat) (t : Text) : Option (Nat × Text) :=
  let digits := t.take count
  if digits.length = count && digits.all Char.isDigit then
    let n := digitsValue 10 digits
    if low ≤ n && n ≤ high then some (n, t.drop count) else none
  else none

/-- What follows the given character. -/
def expect (c : Char) : Text → Option Text
  | d :: t => if d = c then some t else none
  | [] => none

/-- The days of a month in the Gregorian calendar. -/
def daysIn (year month : Nat) : Nat :=
  if month = 2 then if year % 4 = 0 ∧ (year % 100 ≠ 0 ∨ year % 400 = 0) then 29 else 28
  else if month = 4 ∨ month = 6 ∨ month = 9 ∨ month = 11 then 30
  else 31

/-- What follows a date. -/
def date? (t : Text) : Option Text := do
  let (year, t) ← field? 4 0 9999 t
  let (month, t) ← field? 2 1 12 (← expect '-' t)
  let (_, t) ← field? 2 1 (daysIn year month) (← expect '-' t)
  pure t

/-- What follows a time of day. -/
def timeOfDay? (t : Text) : Option Text := do
  let (_, t) ← field? 2 0 23 t
  let (_, t) ← field? 2 0 59 (← expect ':' t)
  -- a minute may have a leap second
  let (_, t) ← field? 2 0 60 (← expect ':' t)
  match t with
  | '.' :: r => if (r.takeWhile Char.isDigit).isEmpty then none else pure (r.dropWhile Char.isDigit)
  | _ => pure t

/-- What follows an offset from universal time, if one is there and is valid. -/
def offset? (t : Text) : Option Text :=
  match t with
  | 'Z' :: r => some r
  | 'z' :: r => some r
  | c :: r =>
    if c = '+' ∨ c = '-' then do
      let (_, r) ← field? 2 0 23 r
      let (_, r) ← field? 2 0 59 (← expect ':' r)
      pure r
    else some t
  | [] => some t

/-- What follows a date, a time, or a date with a time. -/
def afterTime? (t : Text) : Option Text :=
  match date? t with
  | none => timeOfDay? t
  | some rest =>
    match rest with
    | c :: r =>
      if c = 'T' ∨ c = 't' ∨ c = ' ' then
        match timeOfDay? r with
        | some r => offset? r
        -- the date stands alone, and what follows it is for another reader to refuse
        | none => some rest
      else some rest
    | [] => some rest

/-- A character that a value without quotes may hold. -/
def isScalarChar (c : Char) : Bool :=
  c.isAlphanum || c == '_' || c == '+' || c == '-' || c == '.' || c == ':'

/-- A value without quotes and brackets. -/
def scalar? (t : Text) : Option (Value × Text) :=
  match afterTime? t with
  | some rest => some (.time (t.take (t.length - rest.length)), rest)
  | none =>
    let word := t.takeWhile isScalarChar
    let rest := t.drop word.length
    if word = "true".toList then some (.boolean true, rest)
    else if word = "false".toList then some (.boolean false, rest)
    else
      match integer? word with
      | some n => some (.integer n, rest)
      | none => (float? word).map (·, rest)

end VectorFamily.Toml
