import LuaChunk.Binary64.Style
import LuaChunk.Yaml.Scalar

/-!
# Yaml/Node — documents and their text

A document is a tree of strings, numbers, truth values, sequences and mappings.  It is written in
block style, a level of mappings two columns further in; the dashes of a sequence stand in the
column of the key that holds it.
-/

namespace LuaChunk.Yaml

/-- A document. -/
inductive Node where
  | string (s : String)
  | integer (i : Int)
  | boolean (b : Bool)
  | number (x : Binary64)
  | sequence (items : List Node)
  | mapping (entries : List (String × Node))
  deriving Inhabited

/-- Numbers have an exponent from `10¹⁶` up and below `10⁻⁵`, and a place after the point
otherwise; of two decimals that are equally near, the even one stands. -/
def numberStyle : NumberStyle where
  tie := .even
  positional := fun point => -5 < point && point ≤ 16
  whole := ".0"
  nan := ".nan"
  infinity := ".inf"

/-- The text of a node that fits behind a key or a dash, with the end of its line; strings may run
over further lines, which stand in `column`. -/
def leaf? (column : Nat) : Node → Option String
  | .string s => some (String.ofList (scalar column s))
  | .integer i => some (LuaChunk.integer i ++ "\n")
  | .boolean b => some (truth b ++ "\n")
  | .number x => some (x.render numberStyle ++ "\n")
  | .sequence [] => some "[]\n"
  | .mapping [] => some "\x7b\x7d\n"
  | .sequence (_ :: _) | .mapping (_ :: _) => none

/-- As many spaces. -/
def margin (column : Nat) : String := String.ofList (spaces column)

mutual

/-- The lines of a key's node, the first one behind `lead`; the key stands in `column`. -/
def keyLines (lead : String) (column : Nat) : Node → List String
  | .sequence (item :: items) => (lead ++ "\n") :: itemsLines column (item :: items)
  | .mapping (entry :: entries) =>
    (lead ++ "\n") :: entriesLines (margin (column + 2)) (column + 2) (entry :: entries)
  | node => [lead ++ " " ++ (leaf? (column + 2) node).getD ""]

/-- The lines of a sequence whose dashes stand in `column`. -/
def itemsLines (column : Nat) : List Node → List String
  | [] => []
  | item :: items => itemLines (margin column ++ "- ") (column + 2) item ++ itemsLines column items

/-- The lines of an item, the first one behind `lead`, which ends in `column`. -/
def itemLines (lead : String) (column : Nat) : Node → List String
  | .sequence (item :: items) =>
    itemLines (lead ++ "- ") (column + 2) item ++ itemsLines column items
  | .mapping (entry :: entries) => entriesLines lead column (entry :: entries)
  | node => [lead ++ (leaf? column node).getD ""]

/-- The lines of a mapping whose keys stand in `column`; the first key stands behind `lead`. -/
def entriesLines (lead : String) (column : Nat) : List (String × Node) → List String
  | [] => []
  | (key, node) :: entries =>
    keyLines (lead ++ key ++ ":") column node ++ entriesLines (margin column) column entries

end

/-- The text of a document that is a mapping. -/
def document (entries : List (String × Node)) : String := String.join (entriesLines "" 0 entries)

end LuaChunk.Yaml
