/-!
# Naming — names that a user gives for one of a few choices

A name is read without regard to the case of its ASCII letters.  A name that is none of the choices
is reported in lower case, together with what it was supposed to name.
-/

namespace LuaChunk

/-- A name that names nothing. -/
structure UnknownName where
  /-- What a name was asked for. -/
  kind : String
  /-- The name, in lower case. -/
  given : String
  deriving DecidableEq, Repr

namespace UnknownName

def message (e : UnknownName) : String := "unknown " ++ e.kind ++ " `" ++ e.given ++ "`"

end UnknownName

/-- Reads a name by its lower-case form. -/
def readName {α : Type} (kind : String) (choose : String → Option α) (given : String) :
    Except UnknownName α :=
  match choose given.toLower with
  | some a => .ok a
  | none => .error ⟨kind, given.toLower⟩

end LuaChunk
