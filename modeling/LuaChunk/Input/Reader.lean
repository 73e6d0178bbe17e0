import LuaChunk.Input.ByteOrder
import LuaChunk.Trace

/-!
# Input/Reader — reading forward through a file

A reader is handed a **cursor** and gives an outcome: a value or a fault, the cursor after it, and
the events on the way.  A fault does not undo anything, so what was read before it stays read, and
a caller may go on from there.  A cursor holds the bytes ahead of it; how many lie behind is its
position.
-/

namespace LuaChunk

/-- A place in a file, with the two settings that reading depends on. -/
structure Cursor where
  /-- The bytes ahead. -/
  rest : List UInt8
  /-- The number of bytes behind. -/
  position : Nat
  order : ByteOrder
  charset : Charset
  deriving DecidableEq, Repr

namespace Cursor

/-- The start of a file. -/
def start (bytes : List UInt8) (order : ByteOrder) (charset : Charset) : Cursor :=
  ⟨bytes, 0, order, charset⟩

/-- The number of bytes ahead. -/
def remaining (c : Cursor) : Nat := c.rest.length

/-- The cursor behind the next `n` bytes. -/
def advance (c : Cursor) (n : Nat) : Cursor :=
  { c with rest := c.rest.drop n, position := c.position + n }

end Cursor

/-- What reading comes to. -/
structure Outcome (α : Type) where
  result : Except Fault α
  cursor : Cursor
  events : List Event

/-- A reader of values of type `α`. -/
structure Reader (α : Type) where
  run : Cursor → Outcome α

namespace Outcome

variable {α β : Type}

/-- Goes on from an outcome unless it is a fault. -/
def andThen (o : Outcome α) (next : α → Reader β) : Outcome β :=
  match o with
  | ⟨.ok a, c, events⟩ =>
    let o := (next a).run c
    ⟨o.result, o.cursor, events ++ o.events⟩
  | ⟨.error e, c, events⟩ => ⟨.error e, c, events⟩

@[simp] theorem andThen_ok (a : α) (c : Cursor) (events : List Event) (next : α → Reader β) :
    (⟨.ok a, c, events⟩ : Outcome α).andThen next
      = ⟨((next a).run c).result, ((next a).run c).cursor, events ++ ((next a).run c).events⟩ := rfl

@[simp] theorem andThen_error (e : Fault) (c : Cursor) (events : List Event)
    (next : α → Reader β) :
    (⟨.error e, c, events⟩ : Outcome α).andThen next = ⟨.error e, c, events⟩ := rfl

end Outcome

namespace Reader

variable {α β : Type}

instance : Monad Reader where
  pure a := ⟨fun c => ⟨.ok a, c, []⟩⟩
  bind r next := ⟨fun c => (r.run c).andThen next⟩

@[simp] theorem run_pure (a : α) (c : Cursor) : (pure a : Reader α).run c = ⟨.ok a, c, []⟩ := rfl

@[simp] theorem run_bind (r : Reader α) (next : α → Reader β) (c : Cursor) :
    (r >>= next).run c = (r.run c).andThen next := rfl

@[ext] theorem ext {r r' : Reader α} (h : ∀ c, r.run c = r'.run c) : r = r' := by
  obtain ⟨run⟩ := r
  obtain ⟨run'⟩ := r'
  exact congrArg Reader.mk (funext h)

/-- Readers obey the laws of a monad: the events of three readers come out in the same order however
the readers are grouped. -/
instance : LawfulMonad Reader :=
  LawfulMonad.mk' Reader
    (fun r => by
      refine ext fun c => ?_
      change (r.run c).andThen (fun a => pure a) = r.run c
      obtain ⟨result, c', events⟩ := r.run c
      cases result <;> simp)
    (fun a next => rfl)
    (fun r next last => by
      refine ext fun c => ?_
      simp only [run_bind]
      obtain ⟨result, c', events⟩ := r.run c
      cases result with
      | error e => rfl
      | ok a =>
        simp only [Outcome.andThen_ok, run_bind]
        obtain ⟨result, c'', events'⟩ := (next a).run c'
        cases result <;> simp)

@[simp] theorem run_map (f : α → β) (r : Reader α) (c : Cursor) :
    (f <$> r).run c = (r.run c).andThen (fun a => pure (f a)) := rfl

/-- Stops with a fault. -/
def fail (fault : Fault) : Reader α := ⟨fun c => ⟨.error fault, c, []⟩⟩

/-- Reports an event. -/
def report (event : Event) : Reader Unit := ⟨fun c => ⟨.ok (), c, [event]⟩⟩

/-- Reports an event if a condition holds. -/
def reportIf (condition : Bool) (event : Event) : Reader Unit :=
  if condition then report event else pure ()

/-- The cursor itself. -/
def cursor : Reader Cursor := ⟨fun c => ⟨.ok c, c, []⟩⟩

/-- Settles the byte order of what follows. -/
def setOrder (order : ByteOrder) : Reader Unit := ⟨fun c => ⟨.ok (), { c with order }, []⟩⟩

/-- Puts a segment in front of the path of a fault. -/
def within (segment : String) (r : Reader α) : Reader α :=
  ⟨fun c =>
    let o := r.run c
    ⟨o.result.mapError (Fault.within segment), o.cursor, o.events⟩⟩

/-- The next `n` bytes.  If there are fewer, none of them is read. -/
def take (n : Nat) (field : String) : Reader (List UInt8) :=
  ⟨fun c =>
    if (c.rest.take n).length < n then
      ⟨.error (.truncated field c.position n c.remaining), c, []⟩
    else ⟨.ok (c.rest.take n), c.advance n, []⟩⟩

end Reader

end LuaChunk
