import TextQuery.Toml.Value

/-!
# Unquoted values

Booleans, integers, floating-point numbers, dates and times. Each is recognised from the whole run
of characters it is written with.
-/

namespace TextQuery.Toml

/-- The value of a hexadecimal digit of either case. -/
def hexValue? (c : Char) : Option Nat :=
  if '0' ≤ c ∧ c ≤ '9' then some (c.toNat - '0'.toNat)
  else if 'a' ≤ c ∧ c ≤ 'f' then some (c.toNat - 'a'.toNat + 10)
  else if 'A' ≤ c ∧ c ≤ 'F' then some (c.toNat - 'A'.toNat + 10)
  else none

/-- The value of a digit in a base up to sixteen. -/
def digitValue? (base : Nat) (c : Char) : Option Nat := (hexValue? c).filter (· < base)

/-- Continues a number: `value` is what the digits so far stand for, and `after` tells whether the
last character was a digit, which is what may stand before an underscore and at the end. -/
def continueDigits (base : Nat) (value : Nat) (after : Bool) : List Char → Option Nat
  | [] => if after then some value else none
  | c :: cs =>
    if c == '_' then if after then continueDigits base value false cs else none
    else
      match digitValue? base c with
      | some d => continueDigits base (base * value + d) true cs
      | none => none

/-- A number in a base. Single underscores may stand between digits. -/
def digits? (base : Nat) (cs : List Char) : Option Nat := continueDigits base 0 false cs

/-- A decimal number without superfluous leading zeros. -/
def decimal? : List Char → Option Nat
  | '0' :: _ :: _ => none
  | cs => digits? 10 cs

/-- Splits off a sign: whether it is a minus, and the rest. -/
def splitSign : List Char → Bool × List Char
  | '-' :: cs => (true, cs)
  | '+' :: cs => (false, cs)
  | cs => (false, cs)

/-- An integer with its sign. -/
def withSign (negative : Bool) (n : Nat) : Int := if negative then -(n : Int) else n

/-- The digits after a base. There need not be any, but then they have no value. -/
def based? (base : Nat) : List Char → Option Value
  | [] => some .digitless
  | cs => (digits? base cs).map fun n => .integer n

/-- An integer: decimal with an optional sign, or hexadecimal, octal or binary without one. -/
def integer? : List Char → Option Value
  | '0' :: 'x' :: cs => based? 16 cs
  | '0' :: 'o' :: cs => based? 8 cs
  | '0' :: 'b' :: cs => based? 2 cs
  | cs =>
    let (negative, rest) := splitSign cs
    (decimal? rest).map fun n => .integer (withSign negative n)

/-- Whether the character can stand in the digits of a number. -/
def isDigitMark (c : Char) : Bool := c.isDigit || c == '_'

/-- The fraction after a point: its digits as a number and how many there are. -/
def fraction? : List Char → Option ((Nat × Nat) × List Char)
  | '.' :: cs =>
    let part := cs.takeWhile isDigitMark
    (digits? 10 part).map fun n => ((n, (part.filter Char.isDigit).length), cs.dropWhile isDigitMark)
  | cs => some ((0, 0), cs)

/-- The exponent of a number, 0 if there is none. -/
def exponent? : List Char → Option Int
  | [] => some 0
  | e :: cs =>
    if e == 'e' || e == 'E' then
      let (negative, rest) := splitSign cs
      (digits? 10 rest).map (withSign negative)
    else none

/-- A floating-point number: an integer with a fraction, an exponent or both, or one of the special
values. -/
def float? (cs : List Char) : Option FloatLiteral :=
  let (negative, body) := splitSign cs
  if body == "inf".toList then some (.infinite negative)
  else if body == "nan".toList then some .nan
  else
    let whole := body.takeWhile isDigitMark
    let tail := body.dropWhile isDigitMark
    if tail.isEmpty then none
    else
      match decimal? whole, fraction? tail with
      | some n, some ((m, places), rest) =>
        (exponent? rest).map fun e => .finite negative (n * Nat.pow 10 places + m) (e - places)
      | _, _ => none

/-! ### Dates and times -/

/-- Two decimal digits as a number. -/
def twoDigits? (a b : Char) : Option Nat :=
  if a.isDigit && b.isDigit then some (10 * (a.toNat - 48) + (b.toNat - 48)) else none

/-- The number of days of a month. -/
def daysInMonth (year month : Nat) : Nat :=
  if month == 2 then
    if year % 4 == 0 && (year % 100 != 0 || year % 400 == 0) then 29 else 28
  else if month == 4 || month == 6 || month == 9 || month == 11 then 30
  else 31

/-- Splits off a date: what follows it. -/
def afterDate? : List Char → Option (List Char)
  | a :: b :: c :: d :: '-' :: e :: f :: '-' :: g :: h :: rest => do
    let century ← twoDigits? a b
    let years ← twoDigits? c d
    let month ← twoDigits? e f
    let day ← twoDigits? g h
    if 1 ≤ month ∧ month ≤ 12 ∧ 1 ≤ day ∧ day ≤ daysInMonth (100 * century + years) month then
      some rest
    else none
  | _ => none

/-- Splits off a fraction of a second: what follows it. -/
def afterFraction? : List Char → Option (List Char)
  | '.' :: c :: rest => if c.isDigit then some (rest.dropWhile Char.isDigit) else none
  | '.' :: [] => none
  | rest => some rest

/-- Splits off a time of day, whose seconds may be left out: what follows it. -/
def afterTime? : List Char → Option (List Char)
  | a :: b :: ':' :: c :: d :: rest => do
    let hour ← twoDigits? a b
    let minute ← twoDigits? c d
    if hour ≤ 23 ∧ minute ≤ 59 then
      match rest with
      | ':' :: e :: f :: rest => do
        let second ← twoDigits? e f
        if second ≤ 60 then afterFraction? rest else none
      | ':' :: _ => none
      | rest => some rest
    else none
  | _ => none

/-- Whether the characters are an offset from universal time, or nothing. -/
def isOffset : List Char → Bool
  | [] => true
  | ['Z'] | ['z'] => true
  | [sign, a, b, ':', c, d] =>
    (sign == '+' || sign == '-') && (twoDigits? a b).any (· ≤ 23) && (twoDigits? c d).any (· ≤ 59)
  | _ => false

/-- Whether the characters between date and time are as they should be. -/
def isTimeMark (c : Char) : Bool := c == 'T' || c == 't' || c == ' '

/-- Whether the characters are a date, a time, or both. -/
def isDatetime (cs : List Char) : Bool :=
  match afterDate? cs with
  | some [] => true
  | some (c :: rest) => isTimeMark c && (afterTime? rest).any isOffset
  | none => (afterTime? cs).any List.isEmpty

/-! ### Reading -/

/-- Whether the character can stand in an unquoted value. -/
def isAtomChar (c : Char) : Bool :=
  c.isAlphanum || c == '_' || c == '+' || c == '-' || c == '.' || c == ':'

/-- Splits off the run of characters of an unquoted value. A date may be followed by a blank and a
time. -/
def splitAtom (cs : List Char) : List Char × List Char :=
  let atom := cs.takeWhile isAtomChar
  match cs.dropWhile isAtomChar with
  | ' ' :: d :: rest =>
    if d.isDigit && (afterDate? atom).any List.isEmpty then
      (atom ++ ' ' :: (d :: rest).takeWhile isAtomChar, (d :: rest).dropWhile isAtomChar)
    else (atom, ' ' :: d :: rest)
  | rest => (atom, rest)

/-- The value that a run of characters stands for. -/
def scalar? (atom : List Char) : Option Value :=
  if atom == "true".toList then some (.boolean true)
  else if atom == "false".toList then some (.boolean false)
  else
    match integer? atom with
    | some v => some v
    | none =>
      match float? atom with
      | some f => some (.float f)
      | none => if isDatetime atom then some .datetime else none

end TextQuery.Toml
