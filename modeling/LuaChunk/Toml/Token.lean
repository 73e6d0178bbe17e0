import LuaChunk.Binary64.Literal
import LuaChunk.Toml.Value

/-!
# Toml/Token — numbers, truth values and dates

These values are single words.  Underscores may stand between two digits.  A whole number has 64
bits; a floating-point number must not be too large, unless it is negative.  Dates must exist in
the calendar.
-/

namespace LuaChunk.Toml

/-- The characters that words are made of. -/
def isTokenChar (c : Char) : Bool :=
  c.isAlphanum || c == '_' || c == '+' || c == '-' || c == '.' || c == ':'

/-- The digits of a group without the underscores between them. -/
def ungroup (ok : Char → Bool) : List Char → Option (List Char)
  | [] => none
  | [c] => if ok c then some [c] else none
  | c :: '_' :: rest => if ok c then (ungroup ok rest).map (c :: ·) else none
  | c :: rest => if ok c then (ungroup ok rest).map (c :: ·) else none

/-- A group of decimal digits without needless zeros in front. -/
def wholeDigits (cs : List Char) : Option (List Char) :=
  match ungroup Decimal.isDigit cs with
  | some ('0' :: _ :: _) => none
  | digits => digits

/-- A sign, if there is one. -/
def splitSign : List Char → Bool × List Char
  | '-' :: cs => (true, cs)
  | '+' :: cs => (false, cs)
  | cs => (false, cs)

/-! ## Whole numbers -/

/-- The largest whole number. -/
def maxInteger : Nat := 0x7FFFFFFFFFFFFFFF

/-- A whole number in a base that it names. -/
def radixInteger? (base : Nat) (cs : List Char) : Option Value := do
  let digits ← ungroup (fun c => (digitValue? c).any (· < base)) cs
  let n ← readDigits? base digits
  if n ≤ maxInteger then some (.integer n) else none

/-- A decimal whole number. -/
def decimalInteger? (cs : List Char) : Option Value := do
  let n ← readDigits? 10 (← wholeDigits (splitSign cs).2)
  if (splitSign cs).1 then if n ≤ maxInteger + 1 then some (.integer (-(n : Int))) else none
  else if n ≤ maxInteger then some (.integer n) else none

def integer? : List Char → Option Value
  | '0' :: 'x' :: cs => radixInteger? 16 cs
  | '0' :: 'o' :: cs => radixInteger? 8 cs
  | '0' :: 'b' :: cs => radixInteger? 2 cs
  | cs => decimalInteger? cs

/-! ## Floating-point numbers -/

def isGroupChar (c : Char) : Bool := Decimal.isDigit c || c == '_'

/-- The digits of an exponent after its mark, its sign kept. -/
def exponentDigits? : List Char → Option (List Char)
  | '-' :: cs => (ungroup Decimal.isDigit cs).map ('-' :: ·)
  | '+' :: cs => ungroup Decimal.isDigit cs
  | cs => ungroup Decimal.isDigit cs

/-- An exponent, or nothing. -/
def exponent? : List Char → Option (List Char)
  | [] => some []
  | 'e' :: cs | 'E' :: cs => (exponentDigits? cs).map ('e' :: ·)
  | _ => none

/-- The plain spelling of a number without a sign, underscores dropped.  It has places after the
point or an exponent. -/
def floatSpelling? (cs : List Char) : Option (List Char) := do
  let whole ← wholeDigits (cs.takeWhile isGroupChar)
  match cs.dropWhile isGroupChar with
  | [] => none
  | '.' :: rest =>
    let places ← ungroup Decimal.isDigit (rest.takeWhile isGroupChar)
    let exponent ← exponent? (rest.dropWhile isGroupChar)
    return whole ++ '.' :: places ++ exponent
  | rest => return whole ++ (← exponent? rest)

def float? (cs : List Char) : Option Value :=
  let (negative, rest) := splitSign cs
  if rest == ['i', 'n', 'f'] || rest == ['n', 'a', 'n'] then some .float
  else do
    let d ← Decimal.read? (← floatSpelling? rest)
    if negative || d.inRange then some .float else none

/-! ## Dates and times -/

/-- Two digits as a number up to `most`. -/
def twoDigits? (least most : Nat) (a b : Char) : Option Nat := do
  let n ← readDigits? 10 [a, b]
  if least ≤ n ∧ n ≤ most then some n else none

/-- The number of days of a month. -/
def monthLength (year month : Nat) : Nat :=
  if month = 2 then
    if year % 4 = 0 ∧ (year % 100 ≠ 0 ∨ year % 400 = 0) then 29 else 28
  else if month = 4 ∨ month = 6 ∨ month = 9 ∨ month = 11 then 30
  else 31

/-- What follows a date. -/
def date? : List Char → Option (List Char)
  | y₁ :: y₂ :: y₃ :: y₄ :: '-' :: m₁ :: m₂ :: '-' :: d₁ :: d₂ :: rest => do
    let year ← readDigits? 10 [y₁, y₂, y₃, y₄]
    let month ← twoDigits? 1 12 m₁ m₂
    let _ ← twoDigits? 1 (monthLength year month) d₁ d₂
    return rest
  | _ => none

/-- What follows a fraction of a second, if there is one. -/
def fraction? : List Char → Option (List Char)
  | '.' :: rest =>
    if (rest.takeWhile Decimal.isDigit).isEmpty then none else some (rest.dropWhile Decimal.isDigit)
  | rest => some rest

/-- What follows a time of day; a minute may have a leap second. -/
def time? : List Char → Option (List Char)
  | h₁ :: h₂ :: ':' :: m₁ :: m₂ :: ':' :: s₁ :: s₂ :: rest => do
    let _ ← twoDigits? 0 23 h₁ h₂
    let _ ← twoDigits? 0 59 m₁ m₂
    let _ ← twoDigits? 0 60 s₁ s₂
    fraction? rest
  | _ => none

/-- Nothing, or an offset from universal time. -/
def isOffset : List Char → Bool
  | [] | ['Z'] | ['z'] => true
  | ['+', h₁, h₂, ':', m₁, m₂] | ['-', h₁, h₂, ':', m₁, m₂] =>
    (twoDigits? 0 23 h₁ h₂).isSome && (twoDigits? 0 59 m₁ m₂).isSome
  | _ => false

/-- A time of day with or without an offset. -/
def isZonedTime (cs : List Char) : Bool := (time? cs).any isOffset

/-- A date, a time, or both joined by a letter. -/
def isDatetime (cs : List Char) : Bool :=
  time? cs == some [] || match date? cs with
    | some [] => true
    | some ('T' :: rest) | some ('t' :: rest) => isZonedTime rest
    | _ => false

/-- A date alone. -/
def isDate (cs : List Char) : Bool := date? cs == some []

/-! ## Words -/

/-- The value of a word. -/
def token? (cs : List Char) : Option Value :=
  if cs == ['t', 'r', 'u', 'e'] then some (.boolean true)
  else if cs == ['f', 'a', 'l', 's', 'e'] then some (.boolean false)
  else if isDatetime cs then some .datetime
  else (float? cs).or (integer? cs)

/-- Reads a word.  A date may be followed by a space and a time of day. -/
def readToken? (cs : List Char) : Option (Value × List Char) :=
  let word := cs.takeWhile isTokenChar
  match cs.dropWhile isTokenChar with
  | ' ' :: h₁ :: h₂ :: ':' :: rest =>
    if isDate word && Decimal.isDigit h₁ && Decimal.isDigit h₂ then
      let clock := h₁ :: h₂ :: ':' :: rest
      if isZonedTime (clock.takeWhile isTokenChar) then
        some (.datetime, clock.dropWhile isTokenChar)
      else none
    else (token? word).map fun v => (v, ' ' :: h₁ :: h₂ :: ':' :: rest)
  | rest => (token? word).map fun v => (v, rest)

end LuaChunk.Toml
