import LuaChunk.Binary64.Basic
import LuaChunk.Code.Word

/-!
# File/Prototype — compiled functions

A function holds its instructions, the tables they index and the functions nested in it; the whole
script is such a function too.  A chunk file is thus one tree.  Functions of the tree are addressed
by the indices on the way down to them.
-/

namespace LuaChunk

/-- A local variable and the instructions over which it lives. -/
structure LocalVar where
  name : String
  /-- The first instruction where it is live. -/
  start : Int32
  /-- The first instruction where it is dead again. -/
  stop : Int32
  deriving DecidableEq, Repr

/-- A compiled function. -/
structure Prototype where
  source : String
  line : Int32
  parameters : Int32
  vararg : Bool
  stack : Int32
  locals : List LocalVar
  /-- Line numbers, in an encoding of the compiler's own. -/
  lines : List Int32
  strings : List String
  numbers : List Binary64
  /-- The nested functions, in the order of their definitions. -/
  functions : List Prototype
  code : List Word
  deriving Inhabited

namespace Prototype

mutual

/-- The number of functions in a tree, the root included. -/
def count : Prototype → Nat
  | ⟨_, _, _, _, _, _, _, _, _, functions, _⟩ => 1 + countAll functions

/-- The number of functions in a list of trees. -/
def countAll : List Prototype → Nat
  | [] => 0
  | p :: ps => p.count + countAll ps

end

mutual

/-- The number of levels below the root. -/
def height : Prototype → Nat
  | ⟨_, _, _, _, _, _, _, _, _, functions, _⟩ => heightAll functions

/-- One more than the greatest height of a list of trees. -/
def heightAll : List Prototype → Nat
  | [] => 0
  | p :: ps => max (p.height + 1) (heightAll ps)

end

mutual

/-- The functions of a tree with their depths, each before those nested in it. -/
def preorder (depth : Nat) : Prototype → List (Nat × Prototype)
  | p@⟨_, _, _, _, _, _, _, _, _, functions, _⟩ => (depth, p) :: preorderAll (depth + 1) functions

/-- The functions of a list of trees. -/
def preorderAll (depth : Nat) : List Prototype → List (Nat × Prototype)
  | [] => []
  | p :: ps => p.preorder depth ++ preorderAll depth ps

end

/-- The nested function that a list of indices leads to. -/
def descend? (p : Prototype) : List Nat → Option Prototype
  | [] => some p
  | i :: rest => p.functions[i]?.bind fun q => q.descend? rest

/-- The name of a local variable. -/
def localName? (p : Prototype) (i : Nat) : Option String := p.locals[i]?.map LocalVar.name

mutual

/-- Equality of trees, with numbers compared as numbers. -/
def equals : Prototype → Prototype → Bool
  | ⟨source, line, parameters, vararg, stack, locals, lines, strings, numbers, functions, code⟩,
    ⟨source', line', parameters', vararg', stack', locals', lines', strings', numbers', functions',
      code'⟩ =>
    source == source' && line == line' && parameters == parameters' && vararg == vararg'
      && stack == stack' && locals == locals' && lines == lines' && strings == strings'
      && (numbers.length == numbers'.length && (numbers.zip numbers').all fun n => n.1.equals n.2)
      && equalsAll functions functions' && code == code'

/-- Equality of lists of trees. -/
def equalsAll : List Prototype → List Prototype → Bool
  | [], [] => true
  | p :: ps, q :: qs => p.equals q && equalsAll ps qs
  | _, _ => false

end

end Prototype

end LuaChunk
