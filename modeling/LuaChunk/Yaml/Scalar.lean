import LuaChunk.Numeral
import LuaChunk.Yaml.Resolve

/-!
# Yaml/Scalar — four ways to write a string

A string is written **plain** if nothing in it could be taken for punctuation, else in single
quotes, else in double quotes with escapes; a string with line feeds is written as a **literal**
block if it can be.  What can be is decided by a few facts about the text, collected in `Allowed`.
-/

namespace LuaChunk.Yaml

/-! ## Characters -/

/-- Characters that end a line. -/
def isBreak (c : Char) : Bool :=
  c == '\r' || c == '\n' || c.toNat == 0x85 || c.toNat == 0x2028 || c.toNat == 0x2029

/-- Characters that only an escape can show. -/
def isSpecial (c : Char) : Bool :=
  !(c == '\n' || (0x20 ≤ c.toNat && c.toNat ≤ 0x7E) || (0xA0 ≤ c.toNat && c.toNat ≤ 0xD7FF)
    || (0xE000 ≤ c.toNat && c.toNat ≤ 0xFFFD && c.toNat != 0xFEFF) || 0x10000 ≤ c.toNat)

/-- Blanks, breaks and NUL. -/
def isBlank (c : Char) : Bool := c == ' ' || c == '\t' || c.toNat == 0 || isBreak c

/-- Whether a text starts with a blank or is at its end. -/
def blankAhead : List Char → Bool
  | [] => true
  | c :: _ => isBlank c

/-- Punctuation that no plain string starts with. -/
def isIndicator (c : Char) : Bool :=
  ['#', ',', '[', ']', '\x7b', '\x7d', '&', '*', '!', '|', '>', '\'', '"', '%', '@', '`'].contains c

/-! ## What a text allows -/

/-- Some two neighbours in the text satisfy `p` and `q`. -/
def someNeighbours (p q : Char → Bool) : List Char → Bool
  | a :: b :: rest => (p a && q b) || someNeighbours p q (b :: rest)
  | _ => false

/-- A colon before a blank or the end, or a number sign after a blank. -/
def hasMark : List Char → Bool
  | [] => false
  | c :: rest =>
    (c == ':' && blankAhead rest) || (isBlank c && rest.head? == some '#') || hasMark rest

/-- A beginning that would be taken for punctuation. -/
def startsAsMark : List Char → Bool
  | [] => false
  | '-' :: '-' :: '-' :: _ => true
  | '.' :: '.' :: '.' :: _ => true
  | c :: rest => isIndicator c || ((c == '?' || c == ':' || c == '-') && blankAhead rest)

def isSpace (c : Char) : Bool := c == ' '

/-- Which ways of writing a text allows; double quotes always are. -/
structure Allowed where
  plain : Bool
  single : Bool
  literal : Bool
  deriving DecidableEq, Repr

/-- The ways of writing that a text allows. -/
def allowed (cs : List Char) : Allowed :=
  if cs.any isSpecial || someNeighbours isSpace isBreak cs then ⟨false, false, false⟩
  else
    let spaceAfterBreak := someNeighbours isBreak isSpace cs
    { plain := !(spaceAfterBreak || cs.any isBreak || (cs.head?.any isSpace)
        || (cs.getLast?.any isSpace) || startsAsMark cs || hasMark cs)
      single := !spaceAfterBreak
      literal := !(cs.getLast?.any isSpace) }

/-! ## Writing -/

/-- Spaces. -/
def spaces (n : Nat) : List Char := List.replicate n ' '

/-- A text of several lines, each indented unless it is empty. `fresh` says that a line has just
begun. -/
def indented (indent : Nat) : (fresh : Bool) → List Char → List Char
  | _, [] => []
  | fresh, c :: rest =>
    if isBreak c then c :: indented indent true rest
    else (if fresh then spaces indent else []) ++ c :: indented indent false rest

/-- Single quotes, those inside doubled.  A line after a break is indented, the closing quote's
too. -/
def singleQuoted (indent : Nat) (cs : List Char) : List Char :=
  '\'' :: quoted false cs
where
  quoted : Bool → List Char → List Char
    | fresh, [] => (if fresh then spaces indent else []) ++ ['\'']
    | fresh, c :: rest =>
      if isBreak c then c :: quoted true rest
      else (if fresh then spaces indent else [])
        ++ (if c = '\'' then ['\'', '\''] else [c]) ++ quoted false rest

/-- The letter of a character's own escape. -/
def escapeLetter? (c : Char) : Option Char :=
  match c.toNat with
  | 0x00 => some '0'
  | 0x07 => some 'a'
  | 0x08 => some 'b'
  | 0x09 => some 't'
  | 0x0A => some 'n'
  | 0x0B => some 'v'
  | 0x0C => some 'f'
  | 0x0D => some 'r'
  | 0x1B => some 'e'
  | 0x22 => some '"'
  | 0x5C => some '\\'
  | 0x85 => some 'N'
  | 0x2028 => some 'L'
  | 0x2029 => some 'P'
  | _ => none

/-- A character between double quotes. -/
def doubleQuotedChar (c : Char) : List Char :=
  match escapeLetter? c with
  | some letter => ['\\', letter]
  | none =>
    if isSpecial c then
      if c.toNat < 0x100 then '\\' :: 'x' :: (fill '0' 2 (hexadecimal c.toNat)).toList
      else if c.toNat < 0x10000 then '\\' :: 'u' :: (fill '0' 4 (hexadecimal c.toNat)).toList
      else '\\' :: 'U' :: (fill '0' 8 (hexadecimal c.toNat)).toList
    else [c]

/-- Double quotes, with escapes. -/
def doubleQuoted (cs : List Char) : List Char := '"' :: cs.flatMap doubleQuotedChar ++ ['"']

/-- How the breaks at the end of a literal block are marked: `-` for none, `+` for more than the one
that ends its last line. -/
def chomping (cs : List Char) : List Char :=
  match cs.reverse with
  | [] => ['-']
  | [c] => if isBreak c then ['+'] else ['-']
  | c :: d :: _ => if !isBreak c then ['-'] else if isBreak d then ['+'] else []

/-- A literal block, the end of its last line included.  Its indentation is written out if the
text itself begins with a space or a break. -/
def literal (indent : Nat) (cs : List Char) : List Char :=
  '|' :: (if cs.head?.any (fun c => isSpace c || isBreak c) then ['2'] else [])
    ++ chomping cs ++ '\n' :: indented indent true cs
    ++ (if cs.getLast?.any isBreak then [] else ['\n'])

/-- A string with the end of its line, its further lines indented. -/
def scalar (indent : Nat) (s : String) : List Char :=
  let cs := s.toList
  let can := allowed cs
  if cs.contains '\n' && can.literal then literal indent cs
  else
    (if cs.contains '\n' then doubleQuoted cs
     else if can.plain && !isAmbiguous s then cs
     else if can.single then singleQuoted indent cs
     else doubleQuoted cs) ++ ['\n']

end LuaChunk.Yaml
