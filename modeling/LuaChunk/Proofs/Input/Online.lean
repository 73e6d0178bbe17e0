import LuaChunk.Proofs.Input.Run

/-!
# Proofs/Input/Online — readers that look at a file only as far as they get

A reader is **online** if more bytes at the end of a file make no difference to it, unless it runs
out of bytes without them.  What it says then is a `truncated` fault that accounts for every byte
there is (`Fault.IsShort`).

Only `take` ever runs out.  The rules `bind`, `cursor_bind` and `within` carry the property through
the other readers; `cursor_bind` is the one with a condition, since a reader that is handed its own
cursor could look at the bytes ahead.
-/

namespace LuaChunk

namespace Cursor

/-- The same place in a file with more bytes at its end. -/
def extend (c : Cursor) (more : List UInt8) : Cursor := { c with rest := c.rest ++ more }

/-- The length of the whole file. -/
def size (c : Cursor) : Nat := c.position + c.remaining

@[simp] theorem position_extend (c : Cursor) (more : List UInt8) :
    (c.extend more).position = c.position := rfl

theorem remaining_extend (c : Cursor) (more : List UInt8) :
    (c.extend more).remaining = c.remaining + more.length := List.length_append

theorem extend_advance {c : Cursor} {n : Nat} (more : List UInt8) (h : n ≤ c.remaining) :
    (c.extend more).advance n = (c.advance n).extend more := by
  rw [remaining] at h
  simp only [extend, advance, List.drop_append_of_le_length h]

theorem size_advance {c : Cursor} {n : Nat} (h : n ≤ c.remaining) :
    (c.advance n).size = c.size := by
  simp only [size, remaining, position_advance, rest_advance, List.length_drop] at h ⊢
  omega

end Cursor

namespace Fault

/-- **A file of `size` bytes is too short**: more is needed at an offset than there is from it
on. -/
def IsShort (size : Nat) (e : Fault) : Prop :=
  ∃ field offset needed, e = .truncated field offset needed (size - offset)
    ∧ offset ≤ size ∧ size - offset < needed

theorem IsShort.within {size : Nat} {e : Fault} (h : e.IsShort size) (segment : String) :
    (e.within segment).IsShort size := by
  obtain ⟨field, offset, needed, rfl, hle, hlt⟩ := h
  exact ⟨Path.join segment field, offset, needed, rfl, hle, hlt⟩

end Fault

namespace Reader

variable {α β : Type}

/-- **A reader that looks at a file only as far as it gets.** -/
structure Online (r : Reader α) : Prop where
  size_cursor : ∀ c, (r.run c).cursor.size = c.size
  extend : ∀ c more, (∃ e, (r.run c).result = .error e ∧ e.IsShort c.size)
    ∨ ((r.run (c.extend more)).result = (r.run c).result
      ∧ (r.run (c.extend more)).cursor = (r.run c).cursor.extend more)

namespace Online

/-- A reader that reads nothing, and answers alike wherever it stands. -/
theorem of_still {r : Reader α} {result : Except Fault α}
    (h : ∀ c, (r.run c).result = result ∧ (r.run c).cursor = c) : r.Online where
  size_cursor c := by rw [(h c).2]
  extend c more := by
    refine .inr ⟨?_, ?_⟩
    · rw [(h _).1, (h c).1]
    · rw [(h _).2, (h c).2]

theorem pure (a : α) : (Pure.pure a : Reader α).Online := of_still fun _ => ⟨rfl, rfl⟩

theorem fail (e : Fault) : (Reader.fail e : Reader α).Online := of_still fun _ => ⟨rfl, rfl⟩

theorem report (e : Event) : (Reader.report e).Online := of_still fun _ => ⟨rfl, rfl⟩

theorem reportIf (b : Bool) (e : Event) : (Reader.reportIf b e).Online :=
  of_still fun c => by rw [run_reportIf]; exact ⟨rfl, rfl⟩

theorem setOrder (order : ByteOrder) : (Reader.setOrder order).Online where
  size_cursor _ := rfl
  extend _ _ := .inr ⟨rfl, rfl⟩

/-- **The one reader that runs out of bytes.** -/
theorem take (n : Nat) (field : String) : (Reader.take n field).Online where
  size_cursor c := by
    rw [run_take]
    split
    next => rfl
    next h => exact Cursor.size_advance (Nat.not_lt.mp h)
  extend c more := by
    rw [run_take, run_take]
    by_cases h : c.remaining < n
    · rw [if_pos h]
      refine .inl ⟨_, rfl, field, c.position, n, ?_, ?_⟩
      · rw [Cursor.size, Nat.add_sub_cancel_left]
      · rw [Cursor.size]
        omega
    · have h' : ¬ (c.extend more).remaining < n := by
        rw [Cursor.remaining_extend]
        omega
      have hle : n ≤ c.remaining := Nat.not_lt.mp h
      rw [if_neg h, if_neg h']
      refine .inr ⟨?_, Cursor.extend_advance more hle⟩
      rw [Cursor.remaining] at hle
      simp only [Cursor.extend, List.take_append_of_le_length hle]

theorem within {r : Reader α} (hr : r.Online) (segment : String) :
    (Reader.within segment r).Online where
  size_cursor c := hr.size_cursor c
  extend c more := by
    rw [run_within, run_within]
    rcases hr.extend c more with ⟨e, he, hshort⟩ | ⟨hresult, hcursor⟩
    · exact .inl ⟨e.within segment, by rw [he]; rfl, hshort.within segment⟩
    · exact .inr ⟨by rw [hresult], hcursor⟩

theorem bind {r : Reader α} {next : α → Reader β} (hr : r.Online) (hnext : ∀ a, (next a).Online) :
    (r >>= next).Online where
  size_cursor c := by
    have hsize := hr.size_cursor c
    rw [run_bind]
    generalize r.run c = o at hsize
    obtain ⟨result, c', events⟩ := o
    cases result with
    | error e => exact hsize
    | ok a => exact ((hnext a).size_cursor c').trans hsize
  extend c more := by
    have hsize := hr.size_cursor c
    have hextend := hr.extend c more
    rw [run_bind, run_bind]
    generalize r.run c = o, r.run (c.extend more) = o' at hsize hextend
    obtain ⟨result, c', events⟩ := o
    obtain ⟨result', c'', events'⟩ := o'
    dsimp only at hsize hextend
    rcases hextend with ⟨e, rfl, hshort⟩ | ⟨rfl, rfl⟩
    · exact .inl ⟨e, rfl, hshort⟩
    · cases result' with
      | error e => exact .inr ⟨rfl, rfl⟩
      | ok a =>
        rcases (hnext a).extend c' more with ⟨e, he, hshort⟩ | hsame
        · exact .inl ⟨e, he, hsize ▸ hshort⟩
        · exact .inr hsame

/-- A reader may look at its cursor, if it does not look at the bytes ahead. -/
theorem cursor_bind {next : Cursor → Reader β} (hnext : ∀ c, (next c).Online)
    (hextend : ∀ c more, next (c.extend more) = next c) : (cursor >>= next).Online where
  size_cursor c := (hnext c).size_cursor c
  extend c more := by
    rw [run_cursor_bind, run_cursor_bind, hextend]
    exact (hnext c).extend c more

end Online

/-! ## The fields -/

theorem online_byte (field : String) : (byte field).Online :=
  (Online.take 1 field).bind fun bytes => Online.pure (bytes.headD 0)

theorem online_natural (width : Nat) (field : String) : (natural width field).Online :=
  (Online.take width field).bind fun bytes =>
    Online.cursor_bind (fun c => Online.pure (c.order.value bytes)) fun _ _ => rfl

theorem online_uint32 (field : String) : (uint32 field).Online :=
  (online_natural 4 field).bind fun n => Online.pure (UInt32.ofNat n)

theorem online_int32 (field : String) : (int32 field).Online :=
  (online_uint32 field).bind fun n => Online.pure n.toInt32

theorem online_binary64 (field : String) : (binary64 field).Online :=
  (online_natural 8 field).bind fun n => Online.pure (Binary64.mk (UInt64.ofNat n))

theorem online_text (bytes : List UInt8) : (text bytes).Online :=
  Online.cursor_bind
    (fun c => (Online.reportIf _ _).bind fun _ => Online.pure (c.charset.decode bytes))
    fun _ _ => rfl

theorem online_string (field : String) : (string field).Online := by
  refine Online.cursor_bind (fun c => (online_int32 field).bind fun i => ?_) fun _ _ => rfl
  dsimp only
  split
  · exact Online.fail _
  · split
    · exact Online.fail _
    · refine (Online.take _ field).bind fun bytes => Online.cursor_bind (fun c => ?_) fun _ _ => rfl
      split
      · exact Online.fail _
      · exact online_text _

theorem online_count (field : String) : (count field).Online := by
  refine Online.cursor_bind (fun c => (online_int32 field).bind fun i => ?_) fun _ _ => rfl
  dsimp only
  split
  · exact Online.fail _
  · exact Online.pure _

theorem Online.entries {r : Reader α} (hr : r.Online) (i n : Nat) : (entries r i n).Online := by
  induction n generalizing i with
  | zero => exact Online.pure []
  | succ n ih =>
    exact (hr.within _).bind fun a => (ih (i + 1)).bind fun as => Online.pure (a :: as)

theorem Online.table {r : Reader α} (hr : r.Online) (field : String) : (table field r).Online :=
  (online_count field).bind fun n => (hr.entries 0 n).within field

end Reader

end LuaChunk
