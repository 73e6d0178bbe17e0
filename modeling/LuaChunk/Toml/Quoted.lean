import LuaChunk.Binary64.Literal

/-!
# Toml/Quoted — strings

Basic strings have escapes, literal strings have none; either may run over several lines between
tripled quotes.  Each reader starts behind the opening quotes and gives the text and what follows
the closing ones.  Where quotes close a text of several lines, up to two more belong to the text.
-/

namespace LuaChunk.Toml

/-- Characters that may stand for themselves on a line: no control character but the tab. -/
def isPrintable (c : Char) : Bool :=
  c == '\t' || (0x20 ≤ c.toNat && c.toNat ≤ 0x7E) || 0x80 ≤ c.toNat

/-- Puts a character in front of the text that was read. -/
def prepend (c : Char) (r : Option (List Char × List Char)) : Option (List Char × List Char) :=
  r.map fun p => (c :: p.1, p.2)

/-- The character of a code point, if there is one. -/
def scalarValue? (n : Nat) : Option Char :=
  if n < 0xD800 ∨ (0xDFFF < n ∧ n ≤ 0x10FFFF) then some (Char.ofNat n) else none

/-- Where a basic string is being read. -/
inductive State where
  | text
  /-- Behind a backslash. -/
  | escape
  /-- Inside an escape with `owed + 1` more hexadecimal digits. -/
  | code (owed value : Nat)
  /-- Behind a backslash and blanks, before the end of the line. -/
  | lineEnd
  /-- In the white space that a backslash at the end of a line skips. -/
  | skip

/-- The character of a one-letter escape. -/
def escapeChar? : Char → Option Char
  | 'b' => some '\x08'
  | 't' => some '\t'
  | 'n' => some '\n'
  | 'f' => some '\x0c'
  | 'r' => some '\r'
  | '"' => some '"'
  | '\\' => some '\\'
  | _ => none

/-- A basic string. -/
def basic : State → List Char → Option (List Char × List Char)
  | .text, '"' :: rest => some ([], rest)
  | .text, '\\' :: rest => basic .escape rest
  | .text, c :: rest => if isPrintable c then prepend c (basic .text rest) else none
  | .escape, 'u' :: rest => basic (.code 3 0) rest
  | .escape, 'U' :: rest => basic (.code 7 0) rest
  | .escape, c :: rest =>
    match escapeChar? c with
    | some d => prepend d (basic .text rest)
    | none => none
  | .code owed value, c :: rest =>
    match digitValue? c, owed with
    | none, _ => none
    | some d, 0 =>
      match scalarValue? (value * 16 + d) with
      | some ch => prepend ch (basic .text rest)
      | none => none
    | some d, owed + 1 => basic (.code owed (value * 16 + d)) rest
  | _, _ => none

/-- A basic string of several lines. -/
def basicLines : State → List Char → Option (List Char × List Char)
  | .text, '"' :: '"' :: '"' :: '"' :: '"' :: rest => some (['"', '"'], rest)
  | .text, '"' :: '"' :: '"' :: '"' :: rest => some (['"'], rest)
  | .text, '"' :: '"' :: '"' :: rest => some ([], rest)
  | .text, '\\' :: rest => basicLines .escape rest
  | .text, '\r' :: '\n' :: rest => prepend '\n' (basicLines .text rest)
  | .text, c :: rest =>
    if isPrintable c || c == '\n' then prepend c (basicLines .text rest) else none
  | .escape, 'u' :: rest => basicLines (.code 3 0) rest
  | .escape, 'U' :: rest => basicLines (.code 7 0) rest
  | .escape, '\n' :: rest => basicLines .skip rest
  | .escape, '\r' :: '\n' :: rest => basicLines .skip rest
  | .escape, ' ' :: rest => basicLines .lineEnd rest
  | .escape, '\t' :: rest => basicLines .lineEnd rest
  | .escape, c :: rest =>
    match escapeChar? c with
    | some d => prepend d (basicLines .text rest)
    | none => none
  | .code owed value, c :: rest =>
    match digitValue? c, owed with
    | none, _ => none
    | some d, 0 =>
      match scalarValue? (value * 16 + d) with
      | some ch => prepend ch (basicLines .text rest)
      | none => none
    | some d, owed + 1 => basicLines (.code owed (value * 16 + d)) rest
  | .lineEnd, '\n' :: rest => basicLines .skip rest
  | .lineEnd, '\r' :: '\n' :: rest => basicLines .skip rest
  | .lineEnd, c :: rest => if c == ' ' || c == '\t' then basicLines .lineEnd rest else none
  | .skip, '\r' :: '\n' :: rest => basicLines .skip rest
  | .skip, '\\' :: rest => basicLines .escape rest
  | .skip, '"' :: '"' :: '"' :: '"' :: '"' :: rest => some (['"', '"'], rest)
  | .skip, '"' :: '"' :: '"' :: '"' :: rest => some (['"'], rest)
  | .skip, '"' :: '"' :: '"' :: rest => some ([], rest)
  | .skip, c :: rest =>
    if c == ' ' || c == '\t' || c == '\n' then basicLines .skip rest
    else if isPrintable c then prepend c (basicLines .text rest) else none
  | _, [] => none

/-- A literal string. -/
def literal : List Char → Option (List Char × List Char)
  | [] => none
  | '\'' :: rest => some ([], rest)
  | c :: rest => if isPrintable c then prepend c (literal rest) else none

/-- A literal string of several lines. -/
def literalLines : List Char → Option (List Char × List Char)
  | [] => none
  | '\'' :: '\'' :: '\'' :: '\'' :: '\'' :: rest => some (['\'', '\''], rest)
  | '\'' :: '\'' :: '\'' :: '\'' :: rest => some (['\''], rest)
  | '\'' :: '\'' :: '\'' :: rest => some ([], rest)
  | '\r' :: '\n' :: rest => prepend '\n' (literalLines rest)
  | c :: rest => if isPrintable c || c == '\n' then prepend c (literalLines rest) else none

/-- A line break right behind opening quotes is no part of the text. -/
def dropBreak : List Char → List Char
  | '\n' :: rest => rest
  | '\r' :: '\n' :: rest => rest
  | rest => rest

/-- A string on one line, from its opening quote on. -/
def quoted? : List Char → Option (List Char × List Char)
  | '"' :: rest => basic .text rest
  | '\'' :: rest => literal rest
  | _ => none

/-- A string, from its opening quotes on. -/
def string? : List Char → Option (List Char × List Char)
  | '"' :: '"' :: '"' :: rest => basicLines .text (dropBreak rest)
  | '\'' :: '\'' :: '\'' :: rest => literalLines (dropBreak rest)
  | rest => quoted? rest

end LuaChunk.Toml
