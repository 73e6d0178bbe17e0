import LuaChunk.Proofs.File.Calls
import LuaChunk.Proofs.Input.Room

/-!
# Proofs/File/Room — room for the tables of a function

    locals ≥ 13 · lines 4 · strings ≥ 5 · numbers 8 · instructions 4

Room is made for the entries of every table of a function but that of its nested functions.  How
long an entry is at least is written down beside the reader of entries, and `advances_entry` says
that it is true of the reader.
-/

namespace LuaChunk.Prototype

open Reader

/-- The tables of a function whose entries are no functions themselves. -/
inductive FlatTable where
  | locals
  | lines
  | strings
  | numbers
  | code
  deriving DecidableEq, Repr

namespace FlatTable

/-- What its entries are. -/
@[reducible] def Entry : FlatTable → Type
  | locals => LocalVar
  | lines => Int32
  | strings => String
  | numbers => Binary64
  | code => Word

def field : FlatTable → String
  | locals => "local_vars"
  | lines => "line_info"
  | strings => "strings"
  | numbers => "numbers"
  | code => "instructions"

/-- The least length of an entry. -/
def least : FlatTable → Nat
  | locals => 13
  | lines => 4
  | strings => 5
  | numbers => 8
  | code => 4

/-- Reads an entry. -/
def entry : (t : FlatTable) → Reader t.Entry
  | locals => LocalVar.read
  | lines => int32 "line"
  | strings => string "string"
  | numbers => binary64 "number"
  | code => Word.read

/-- Reads the table, and says for how many entries room was made. -/
def read (t : FlatTable) : Reader (Nat × List t.Entry) := roomyTable t.field t.least t.entry

theorem least_pos (t : FlatTable) : 0 < t.least := by
  cases t <;> decide

/-- **The lengths written down are true**: no entry takes less. -/
theorem advances_entry (t : FlatTable) : t.entry.Advances t.least := by
  cases t with
  | locals => exact advances_localVar
  | lines => exact advances_int32 _
  | strings => exact advances_string _
  | numbers => exact advances_binary64 _
  | code => exact advances_word

/-- Nor would any greater length be true. -/
theorem exists_entry_of_least (t : FlatTable) : ∃ c a, (t.entry.run c).result = .ok a
    ∧ (t.entry.run c).cursor.remaining + t.least = c.remaining := by
  refine ⟨.start (1 :: .replicate (t.least - 1) 0) .little .utf8, ?_⟩
  cases t <;> exact ⟨_, rfl, rfl⟩

theorem online_entry (t : FlatTable) : t.entry.Online := by
  cases t with
  | locals => exact online_localVar
  | lines => exact online_int32 _
  | strings => exact online_string _
  | numbers => exact online_binary64 _
  | code => exact online_word

end FlatTable

/-- Reads a function at a depth, making room for all of its tables but that of its nested functions:
those take far more room than the bytes they are read from. -/
def readWithRoom (limit : Nat) : (levels depth : Nat) → Reader Prototype
  | 0, _ => fail (.tooDeeplyNested "" limit)
  | levels + 1, depth => do
    let source ← string "source"
    let line ← int32 "line_number"
    let parameters ← int32 "num_params"
    let vararg ← byte "is_vararg"
    let stack ← int32 "max_stack_size"
    let locals ← Prod.snd <$> FlatTable.locals.read
    let lines ← Prod.snd <$> FlatTable.lines.read
    let strings ← Prod.snd <$> FlatTable.strings.read
    let numbers ← Prod.snd <$> FlatTable.numbers.read
    let functions ← table "functions" (readWithRoom limit levels (depth + 1))
    let code ← Prod.snd <$> FlatTable.code.read
    let p : Prototype :=
      { source, line, parameters, vararg := vararg != 0, stack, locals, lines, strings, numbers,
        functions, code }
    report (p.readEvent depth)
    return p

/-- **Making room changes nothing about what is read.** -/
theorem readWithRoom_eq (limit levels depth : Nat) :
    readWithRoom limit levels depth = read limit levels depth := by
  induction levels generalizing depth with
  | zero => rfl
  | succ levels ih =>
    simp only [readWithRoom, ih, FlatTable.read, snd_roomyTable]
    rfl

/-- **There is room for every entry, and never for more than the file can hold.**  The reader of
functions is one that makes room for the entries of its tables, in each of them as follows.  An
entry that is read takes its least length.  If the number of entries is no good, nor is the table,
and no room is made.  Otherwise the room, in entries of least length, is no more than there is
ahead.  Some entries are then read one behind the other, no more than the bytes ahead can hold; and
either these are all of them and there was room for exactly that many, or the next one is at
fault. -/
theorem tables_have_room :
    (∀ limit levels depth, read limit levels depth = readWithRoom limit levels depth)
    ∧ ∀ (t : FlatTable) (c : Cursor),
      (∀ a, (t.entry.run c).result = .ok a →
        (t.entry.run c).cursor.remaining + t.least ≤ c.remaining)
      ∧ (∀ e, ((Reader.count t.field).run c).result = .error e → (t.read.run c).result = .error e)
      ∧ ∀ n start, ((Reader.count t.field).run c).result = .ok n →
        ((Reader.count t.field).run c).cursor = start →
        room t.least n start.remaining * t.least ≤ start.remaining
        ∧ ∃ as stop, Repeats t.entry start as stop ∧ as.length ≤ start.remaining / t.least
          ∧ ((as.length = n ∧ room t.least n start.remaining = n
              ∧ (t.read.run c).result = .ok (room t.least n start.remaining, as)
              ∧ (t.read.run c).cursor = stop)
            ∨ (as.length < n ∧ ∃ e, (t.entry.run stop).result = .error e
              ∧ (t.read.run c).result
                = .error ((e.within (Path.index as.length)).within t.field)
              ∧ (t.read.run c).cursor = (t.entry.run stop).cursor)) := by
  refine ⟨fun limit levels depth => (readWithRoom_eq limit levels depth).symm, fun t c => ?_⟩
  refine ⟨fun a ha => t.advances_entry.remaining_add_le t.online_entry ha,
    fun e he => result_bind_of_error he, ?_⟩
  rintro n start hcount rfl
  refine ⟨room_mul_le _ _ _, ?_⟩
  exact run_roomyTable_cases t.advances_entry t.online_entry t.least_pos hcount

/-- A place where two billion strings are declared, and one is there. -/
def hostile : Cursor :=
  .start [0xFF, 0xFF, 0xFF, 0x7F, 2, 0, 0, 0, 0x78, 0, 9] .little .utf8

/-- There is room for one string, and no more than one is read. -/
theorem tables_have_room_hostile :
    ((Reader.count "strings").run hostile).result = .ok 2147483647
      ∧ room 5 2147483647 7 = 1
      ∧ ∃ as stop, Repeats (string "string") (hostile.advance 4) as stop ∧ as.length ≤ 1
        ∧ ∃ e, ((string "string").run stop).result = .error e
          ∧ (FlatTable.strings.read.run hostile).result
            = .error ((e.within (Path.index as.length)).within "strings") := by
  have hcount : ((Reader.count "strings").run hostile).result = .ok 2147483647 := rfl
  have hahead : (hostile.advance 4).remaining / FlatTable.strings.least = 1 := rfl
  obtain ⟨-, hread⟩ := tables_have_room
  obtain ⟨-, -, hroom⟩ := hread .strings hostile
  obtain ⟨-, as, stop, hrepeats, hfew, ⟨hall, -⟩ | ⟨-, e, he, hresult, -⟩⟩ :=
    hroom _ (hostile.advance 4) hcount rfl
  · rw [hahead, hall] at hfew
    exact absurd hfew (by decide)
  · exact ⟨hcount, by decide, as, stop, hrepeats, hahead ▸ hfew, e, he, hresult⟩

end LuaChunk.Prototype
