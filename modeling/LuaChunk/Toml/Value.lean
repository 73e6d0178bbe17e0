/-!
# Toml/Value — values, and how definitions build up tables

A document defines its tables piece by piece: by headers, by dotted keys, by arrays of tables, and
as wholes in braces.  Which pieces may be added to a table depends on how it came about, so each
table carries its **origin**.  A definition either extends the document or contradicts it.
-/

namespace LuaChunk.Toml

/-- How a table came about. -/
inductive Origin where
  /-- Under its own header; the document itself counts as such. -/
  | header
  /-- As a table on the way to one under a header. -/
  | implied
  /-- As a table on the way along a dotted key. -/
  | dotted
  /-- Written in braces, or `onTheWay` along a dotted key inside them. -/
  | inline (onTheWay : Bool)
  deriving DecidableEq, Repr

/-- A value.  Of floating-point numbers and dates only their presence is kept. -/
inductive Value where
  | string (s : String)
  | integer (i : Int)
  | float
  | boolean (b : Bool)
  | datetime
  | array (items : List Value)
  | table (origin : Origin) (entries : List (String × Value))
  /-- Tables under repeated headers, in order. -/
  | tables (items : List Value)
  deriving Inhabited

/-- The entries of a table, in the order of their definition. -/
abbrev Entries := List (String × Value)

/-- A key and the value it is given; the key's segments but the last lead to a table. -/
structure Assignment where
  path : List String
  key : String
  value : Value

namespace Origin

/-- Tables on the way along a dotted key. -/
def isDotted : Origin → Bool
  | .dotted | .inline true => true
  | _ => false

/-- Tables in braces are complete. -/
def isInline : Origin → Bool
  | .inline _ => true
  | _ => false

end Origin

namespace Entries

/-- Puts a new value in the place of a key's old one. -/
def replace (t : Entries) (key : String) (v : Value) : Entries :=
  t.map fun e => if e.1 == key then (key, v) else e

/-- Drops a key. -/
def remove (t : Entries) (key : String) : Entries := t.filter fun e => e.1 != key

/-- Changes the table at the end of a path.  Tables that are missing on the way are made with the
origin `fresh`; present ones must satisfy `enter`, and of repeated tables the last is meant. -/
def changeAt (fresh : Origin) (enter : Origin → Bool) (change : Origin → Entries → Option Entries) :
    List String → Origin → Entries → Option Entries
  | [], origin, t => change origin t
  | key :: path, _, t =>
    match t.lookup key with
    | none => do
      let sub ← changeAt fresh enter change path fresh []
      return t ++ [(key, .table fresh sub)]
    | some (.table origin sub) =>
      if enter origin then do
        let sub ← changeAt fresh enter change path origin sub
        return replace t key (.table origin sub)
      else none
    | some (.tables items) =>
      match items.getLast? with
      | some (.table origin sub) => do
        let sub ← changeAt fresh enter change path origin sub
        return replace t key (.tables (items.dropLast ++ [.table origin sub]))
      | _ => none
    | some _ => none

/-- Gives a key its value.  The key must be new, and a dotted key may only reach tables that dotted
keys have made. -/
def assignIn (onTheWay : Bool) (key : String) (v : Value) (origin : Origin) (t : Entries) :
    Option Entries :=
  if origin.isDotted == onTheWay && (t.lookup key).isNone then some (t ++ [(key, v)]) else none

/-- An assignment under a header. -/
def assign (t : Entries) (a : Assignment) : Option Entries :=
  changeAt .dotted (fun o => o == .implied || o == .dotted)
    (assignIn (!a.path.isEmpty) a.key a.value) a.path .header t

/-- An assignment inside braces. -/
def assignInline (t : Entries) (a : Assignment) : Option Entries :=
  changeAt (.inline true) (· == .inline true)
    (assignIn (!a.path.isEmpty) a.key a.value) a.path (.inline false) t

/-- The table under a header, given its assignments.  It must be new, or so far only implied. -/
def defineIn (key : String) (body : List Assignment) (_ : Origin) (t : Entries) :
    Option Entries :=
  match t.lookup key with
  | none => do
    let sub ← body.foldlM assign []
    return t ++ [(key, .table .header sub)]
  | some (.table .implied sub) => do
    let sub ← body.foldlM assign sub
    return remove t key ++ [(key, .table .header sub)]
  | some _ => none

/-- One more table under a repeated header. -/
def appendIn (key : String) (body : List Assignment) (_ : Origin) (t : Entries) :
    Option Entries := do
  let sub ← body.foldlM assign []
  match t.lookup key with
  | none => return t ++ [(key, .tables [.table .header sub])]
  | some (.tables items) => return replace t key (.tables (items ++ [.table .header sub]))
  | some _ => none

end Entries

/-- What stands under a header: the path to the table, its key, whether the header is one of
several, and the assignments. -/
structure Section where
  path : List String
  key : String
  repeated : Bool
  body : List Assignment

namespace Entries

/-- Adds a section to a document. -/
def addSection (t : Entries) (s : Section) : Option Entries :=
  changeAt .implied (fun o => !o.isInline)
    (if s.repeated then appendIn s.key s.body else defineIn s.key s.body) s.path .header t

/-- The document of some assignments and sections, if none contradicts another. -/
def ofSections (top : List Assignment) (sections : List Section) : Option Entries := do
  let t ← top.foldlM assign []
  sections.foldlM addSection t

end Entries

end LuaChunk.Toml
