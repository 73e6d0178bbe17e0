import LuaChunk.Proofs.Input.Advance
import LuaChunk.Proofs.Input.Outcomes

/-!
# Proofs/Input/Room — room for the entries of a table

    n · ── room for them ── · entry · entry · entry · …

Once the number of entries is known, room is made for them all at once, but never for more than the
bytes ahead can hold if each takes its least length (`room`).  A number that is not true makes no
difference: if `n` entries can be read, there was room for `n` (`run_roomyTable_cases`), and the
bytes ahead say how many can be read at all (`Repeats.length_mul_le`).
-/

namespace LuaChunk.Reader

variable {α : Type} {least n ahead : Nat}

/-- How many entries room is made for, if there should be `n` of at least `least` bytes each and
there are `ahead` bytes. -/
def room (least n ahead : Nat) : Nat := min n (ahead / max least 1)

/-- **Room is never made for more than there can be.** -/
theorem room_mul_le (least n ahead : Nat) : room least n ahead * least ≤ ahead :=
  calc room least n ahead * least
      ≤ ahead / max least 1 * max least 1 :=
        Nat.mul_le_mul (Nat.min_le_right _ _) (Nat.le_max_left _ _)
    _ ≤ ahead := Nat.div_mul_le_self _ _

/-- Where all of them can be, there is room for all of them. -/
theorem room_eq_of_mul_le (hleast : 0 < least) (h : n * least ≤ ahead) :
    room least n ahead = n := by
  rw [room, Nat.max_eq_left hleast]
  exact Nat.min_eq_left ((Nat.le_div_iff_mul_le hleast).mpr h)

/-- A table, and the number of entries that room was made for. -/
def roomyTable (field : String) (least : Nat) (entry : Reader α) : Reader (Nat × List α) := do
  let n ← count field
  let ahead := (← cursor).remaining
  let as ← within field (entries entry 0 n)
  return (room least n ahead, as)

/-- Making room makes no difference to what is read. -/
theorem snd_roomyTable (field : String) (least : Nat) (entry : Reader α) :
    Prod.snd <$> roomyTable field least entry = table field entry := by
  have hcursor (r : Reader (List α)) : (cursor >>= fun _ => r) = r :=
    ext fun c => run_cursor_bind _ c
  simp only [roomyTable, table, map_bind, map_pure, bind_pure, hcursor]

/-! ## What is read is no longer ahead -/

theorem Advances.remaining_add_le {r : Reader α} {c : Cursor} {a : α} (hr : r.Advances n)
    (honline : r.Online) (h : (r.run c).result = .ok a) :
    (r.run c).cursor.remaining + n ≤ c.remaining := by
  have hposition := hr c a h
  have hsize := honline.size_cursor c
  simp only [Cursor.size] at hsize
  omega

/-- **As many entries as the bytes ahead can hold, and no more**, can be read one behind the
other. -/
theorem Repeats.length_mul_le {r : Reader α} {c stop : Cursor} {as : List α}
    (hr : r.Advances least) (honline : r.Online) (h : Repeats r c as stop) :
    as.length * least + stop.remaining ≤ c.remaining := by
  induction h with
  | nil c => simp
  | cons first _ ih =>
    have hfirst := hr.remaining_add_le honline first
    rw [List.length_cons, Nat.succ_mul]
    omega

/-- **How a table with room for its entries can turn out**, once their number is known. -/
theorem run_roomyTable_cases {r : Reader α} {field : String} {c : Cursor}
    (hr : r.Advances least) (honline : r.Online) (hleast : 0 < least)
    (hcount : ((count field).run c).result = .ok n) :
    ∃ as stop, Repeats r ((count field).run c).cursor as stop
      ∧ as.length ≤ ((count field).run c).cursor.remaining / least
      ∧ ((as.length = n ∧ room least n ((count field).run c).cursor.remaining = n
          ∧ ((roomyTable field least r).run c).result
            = .ok (room least n ((count field).run c).cursor.remaining, as)
          ∧ ((roomyTable field least r).run c).cursor = stop)
        ∨ (as.length < n ∧ ∃ e, (r.run stop).result = .error e
          ∧ ((roomyTable field least r).run c).result
            = .error ((e.within (Path.index as.length)).within field)
          ∧ ((roomyTable field least r).run c).cursor = (r.run stop).cursor)) := by
  generalize hstart : ((count field).run c).cursor = start
  have hbound {as : List α} {stop : Cursor} (h : Repeats r start as stop) :
      as.length * least ≤ start.remaining :=
    Nat.le_trans (Nat.le_add_right _ _) (h.length_mul_le hr honline)
  have hfit {as : List α} {stop : Cursor} (h : Repeats r start as stop) :
      as.length ≤ start.remaining / least := (Nat.le_div_iff_mul_le hleast).mpr (hbound h)
  rw [roomyTable, result_bind_of_ok hcount, cursor_bind_of_ok hcount, hstart, run_cursor_bind]
  rcases run_entries_cases r 0 n start with
    ⟨as, hlength, hresult, hrepeats⟩ | ⟨as, stop, e, hlt, hrepeats, he, hresult, hstop⟩
  · have hwithin : ((within field (entries r 0 n)).run start).result = .ok as :=
      result_within_eq_ok.mpr hresult
    have hroom : room least n start.remaining = n :=
      room_eq_of_mul_le hleast (hlength ▸ hbound hrepeats)
    refine ⟨as, _, hrepeats, hfit hrepeats, .inl ⟨hlength, hroom, ?_, ?_⟩⟩
    · rw [result_bind_of_ok hwithin]
      rfl
    · rw [cursor_bind_of_ok hwithin]
      rfl
  · have hwithin : ((within field (entries r 0 n)).run start).result
        = .error ((e.within (Path.index as.length)).within field) := by
      rw [run_within, hresult, Nat.zero_add]
      rfl
    refine ⟨as, stop, hrepeats, hfit hrepeats, .inr ⟨hlt, e, he, ?_, ?_⟩⟩
    · rw [result_bind_of_error hwithin]
    · rw [cursor_bind_of_error hwithin, run_within, hstop]

end LuaChunk.Reader
