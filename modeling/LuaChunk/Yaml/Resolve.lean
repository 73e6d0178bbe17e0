import LuaChunk.Binary64.Literal

/-!
# Yaml/Resolve — plain words that are not strings

A reader of YAML takes some unquoted words for something other than a string: the empty word and
the words for null, the truth values, whole numbers in four bases, and floating-point numbers.  A
string that is spelled like one of them has to be quoted.
-/

namespace LuaChunk.Yaml

/-- Null and the truth values. -/
def isKeyword (s : String) : Bool :=
  ["", "~", "null", "Null", "NULL", "true", "True", "TRUE", "false", "False", "FALSE"].contains s

/-- Digits after a mark of their base, the number at most `limit`. -/
def isPrefixed (limit : Nat) : List Char → Bool
  | '0' :: 'x' :: cs => fits 16 cs
  | '0' :: 'o' :: cs => fits 8 cs
  | '0' :: 'b' :: cs => fits 2 cs
  | _ => false
where
  fits (base : Nat) (cs : List Char) : Bool :=
    match readDigits? base cs with
    | some n => n ≤ limit
    | none => false

/-- Whole numbers that name their base: 128 bits without a sign or after `+`, and the negative ones
of 128 bits after `-`. -/
def isRadixInteger : List Char → Bool
  | '-' :: cs => isPrefixed (1 <<< 127) cs
  | '+' :: cs => isPrefixed (1 <<< 128 - 1) cs
  | cs => isPrefixed (1 <<< 128 - 1) cs

/-- Finite decimals, with one sign at most.  Whole decimal numbers are among them, also those with
needless zeros in front. -/
def isDecimal : List Char → Bool
  | '-' :: cs => finite cs
  | '+' :: cs => finite cs
  | cs => finite cs
where
  finite (cs : List Char) : Bool :=
    match Decimal.read? cs with
    | some d => d.inRange
    | none => false

/-- Digits alone, the first of several a zero, with a sign or none. -/
def isZeroPadded : List Char → Bool
  | '-' :: cs => padded cs
  | '+' :: cs => padded cs
  | cs => padded cs
where
  padded : List Char → Bool
    | '0' :: c :: cs => (c :: cs).all Decimal.isDigit
    | _ => false

/-- The infinities and the NaN. -/
def isNonFinite (s : String) : Bool :=
  [".inf", ".Inf", ".INF", "+.inf", "+.Inf", "+.INF", "-.inf", "-.Inf", "-.INF",
   ".nan", ".NaN", ".NAN"].contains s

/-- Whether a string would be read back as something else. -/
def isAmbiguous (s : String) : Bool :=
  isKeyword s || isRadixInteger s.toList || isDecimal s.toList || isZeroPadded s.toList
    || isNonFinite s

end LuaChunk.Yaml
