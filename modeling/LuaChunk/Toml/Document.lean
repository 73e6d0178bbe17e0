import LuaChunk.Toml.Quoted
import LuaChunk.Toml.Token

/-!
# Toml/Document — from the text of a document to its table

A document is read line by line: assignments and headers, with comments and blank lines between.
Keys may have fewer than a hundred segments, and values may be nested less than a hundred deep; both
limits are what the recursions run on.  Lists run on the length of the text, of which each entry
takes at least one character.
-/

namespace LuaChunk.Toml

/-- The segments of a key, and the depth of a value, stay below this number. -/
def nestingLimit : Nat := 100

def isBlankChar (c : Char) : Bool := c == ' ' || c == '\t'

/-- What follows blanks. -/
def skipBlanks (cs : List Char) : List Char := cs.dropWhile isBlankChar

/-! ## Ends of lines -/

/-- What follows the end of a line, which the end of the text is too. -/
def lineBreak? : List Char → Option (List Char)
  | [] => some []
  | '\n' :: rest => some rest
  | '\r' :: '\n' :: rest => some rest
  | _ => none

/-- What follows the rest of a line that holds nothing but a comment. -/
def lineEnd? (cs : List Char) : Option (List Char) :=
  match skipBlanks cs with
  | '#' :: rest => lineBreak? (rest.dropWhile isPrintable)
  | rest => lineBreak? rest

/-- What follows blanks, line breaks and comments; `comment` says that one has begun. -/
def skipFiller (comment : Bool) : List Char → Option (List Char)
  | [] => some []
  | '\n' :: rest => skipFiller false rest
  | '\r' :: '\n' :: rest => skipFiller false rest
  | c :: rest =>
    if comment then if isPrintable c then skipFiller true rest else none
    else if isBlankChar c then skipFiller false rest
    else if c == '#' then skipFiller true rest
    else some (c :: rest)

/-! ## Keys -/

def isBareChar (c : Char) : Bool := c.isAlphanum || c == '-' || c == '_'

/-- A segment of a key: a bare word or a string on one line. -/
def segment? (cs : List Char) : Option (String × List Char) :=
  match quoted? cs with
  | some (s, rest) => some (String.ofList s, rest)
  | none =>
    if (cs.takeWhile isBareChar).isEmpty then none
    else some (String.ofList (cs.takeWhile isBareChar), cs.dropWhile isBareChar)

/-- A key of less than `limit` segments, and the blanks around it. -/
def key? : (limit : Nat) → List Char → Option (List String × List Char)
  | 0, _ => none
  | limit + 1, cs => do
    let (first, rest) ← segment? (skipBlanks cs)
    match skipBlanks rest with
    | '.' :: rest => do
      let (more, rest) ← key? limit rest
      return (first :: more, rest)
    | rest => return ([first], rest)

/-- A key, its last segment apart. -/
def splitKey? (cs : List Char) : Option ((List String × String) × List Char) := do
  let (segments, rest) ← key? (nestingLimit - 1) cs
  return ((segments.dropLast, segments.getLastD ""), rest)

/-! ## Values -/

/-- A key, an equals sign and a value. -/
def assignment? (value : List Char → Option (Value × List Char)) (cs : List Char) :
    Option (Assignment × List Char) := do
  let ((path, key), rest) ← splitKey? cs
  match rest with
  | '=' :: rest => do
    let (v, rest) ← value (skipBlanks rest)
    return (⟨path, key, v⟩, rest)
  | _ => none

/-- The items of an array up to its closing bracket; a comma may end them. -/
def items? (value : List Char → Option (Value × List Char)) :
    Nat → List Char → Option (List Value × List Char)
  | 0, _ => none
  | n + 1, cs => do
    match ← skipFiller false cs with
    | ']' :: rest => return ([], rest)
    | cs => do
      let (v, rest) ← value cs
      match ← skipFiller false rest with
      | ',' :: rest => do
        let (vs, rest) ← items? value n rest
        return (v :: vs, rest)
      | ']' :: rest => return ([v], rest)
      | _ => none

/-- The assignments of a table in braces after the first, up to the closing brace. -/
def fields? (value : List Char → Option (Value × List Char)) :
    Nat → List Char → Option (List Assignment × List Char)
  | 0, _ => none
  | n + 1, cs => do
    let (a, rest) ← assignment? value cs
    match skipBlanks rest with
    | ',' :: rest => do
      let (more, rest) ← fields? value n rest
      return (a :: more, rest)
    | '\x7d' :: rest => return ([a], rest)
    | _ => none

/-- A table in braces, behind the opening one. -/
def inlineTable? (value : List Char → Option (Value × List Char)) (cs : List Char) :
    Option (Value × List Char) :=
  match skipBlanks cs with
  | '\x7d' :: rest => some (.table (.inline false) [], rest)
  | cs => do
    let (body, rest) ← fields? value (cs.length + 1) cs
    let t ← body.foldlM Entries.assignInline []
    return (.table (.inline false) t, rest)

/-- A value nested less than `limit` deep. -/
def value? : (limit : Nat) → List Char → Option (Value × List Char)
  | 0, cs => simple? cs
  | limit + 1, '[' :: cs => do
    let (vs, rest) ← items? (value? limit) (cs.length + 1) cs
    return (.array vs, rest)
  | limit + 1, '\x7b' :: cs => inlineTable? (value? limit) cs
  | _ + 1, cs => simple? cs
where
  /-- A value that holds no others. -/
  simple? (cs : List Char) : Option (Value × List Char) :=
    match string? cs with
    | some (s, rest) => some (.string (String.ofList s), rest)
    | none => readToken? cs

/-! ## Lines -/

/-- A line that says something. -/
inductive Statement where
  | assign (a : Assignment)
  | header (path : List String) (key : String) (repeated : Bool)

/-- A header. -/
def header? : List Char → Option (Statement × List Char)
  | '[' :: '[' :: cs => do
    let ((path, key), rest) ← splitKey? cs
    match rest with
    | ']' :: ']' :: rest => return (.header path key true, rest)
    | _ => none
  | '[' :: cs => do
    let ((path, key), rest) ← splitKey? cs
    match rest with
    | ']' :: rest => return (.header path key false, rest)
    | _ => none
  | _ => none

/-- A statement. -/
def statement? : List Char → Option (Statement × List Char)
  | '[' :: cs => header? ('[' :: cs)
  | cs => do
    let (a, rest) ← assignment? (value? (nestingLimit - 1)) cs
    return (.assign a, rest)

/-- The statements of a text. -/
def statements? : Nat → List Char → Option (List Statement)
  | 0, _ => none
  | n + 1, cs =>
    match skipBlanks cs with
    | [] => some []
    | '#' :: rest => do statements? n (← lineEnd? ('#' :: rest))
    | '\n' :: rest => statements? n rest
    | '\r' :: '\n' :: rest => statements? n rest
    | cs => do
      let (s, rest) ← statement? cs
      return s :: (← statements? n (← lineEnd? rest))

/-- The assignments before the first header, and the sections. -/
def sections : List Statement → List Assignment × List Section
  | [] => ([], [])
  | .assign a :: rest =>
    let (body, more) := sections rest
    (a :: body, more)
  | .header path key repeated :: rest =>
    let (body, more) := sections rest
    ([], ⟨path, key, repeated, body⟩ :: more)

/-- A byte order mark at the start is no part of the text. -/
def dropMark : List Char → List Char
  | '\ufeff' :: cs => cs
  | cs => cs

/-- The table of a document, if its text is well formed and its definitions agree. -/
def parse? (text : String) : Option Entries := do
  let cs := dropMark text.toList
  let (top, more) := sections (← statements? (cs.length + 1) cs)
  Entries.ofSections top more

end LuaChunk.Toml
