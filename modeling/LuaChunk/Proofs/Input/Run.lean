import LuaChunk.Input.Field

/-!
# Proofs/Input/Run — what the basic readers do to a cursor

Each basic reader is given by one equation for `run`, and a reader in two steps by what its result
says about the two.  Later modules know the basic readers only through these equations.
-/

namespace LuaChunk

namespace Cursor

@[simp] theorem rest_advance (c : Cursor) (n : Nat) : (c.advance n).rest = c.rest.drop n := rfl

@[simp] theorem position_advance (c : Cursor) (n : Nat) :
    (c.advance n).position = c.position + n := rfl

@[simp] theorem order_advance (c : Cursor) (n : Nat) : (c.advance n).order = c.order := rfl

@[simp] theorem charset_advance (c : Cursor) (n : Nat) : (c.advance n).charset = c.charset := rfl

@[simp] theorem advance_zero (c : Cursor) : c.advance 0 = c := rfl

theorem advance_advance (c : Cursor) (m n : Nat) : (c.advance m).advance n = c.advance (m + n) := by
  simp only [advance, List.drop_drop, Nat.add_assoc]

/-- Behind what it has read, a cursor sees what comes next. -/
theorem rest_advance_length {c : Cursor} {bytes tail : List UInt8} (h : c.rest = bytes ++ tail) :
    (c.advance bytes.length).rest = tail := by
  rw [rest_advance, h, List.drop_left]

theorem advance_length {c : Cursor} {bytes tail : List UInt8} (h : c.rest = bytes ++ tail) :
    c.advance bytes.length = ⟨tail, c.position + bytes.length, c.order, c.charset⟩ := by
  rw [advance, h, List.drop_left]

end Cursor

namespace Reader

variable {α β : Type}

@[simp] theorem run_fail (e : Fault) (c : Cursor) : (fail e : Reader α).run c = ⟨.error e, c, []⟩ :=
  rfl

@[simp] theorem run_report (e : Event) (c : Cursor) : (report e).run c = ⟨.ok (), c, [e]⟩ := rfl

@[simp] theorem run_reportIf (b : Bool) (e : Event) (c : Cursor) :
    (reportIf b e).run c = ⟨.ok (), c, if b then [e] else []⟩ := by
  cases b <;> rfl

@[simp] theorem run_cursor (c : Cursor) : cursor.run c = ⟨.ok c, c, []⟩ := rfl

theorem run_cursor_bind (next : Cursor → Reader β) (c : Cursor) :
    (cursor >>= next).run c = (next c).run c := rfl

@[simp] theorem run_setOrder (order : ByteOrder) (c : Cursor) :
    (setOrder order).run c = ⟨.ok (), { c with order }, []⟩ := rfl

@[simp] theorem run_within (segment : String) (r : Reader α) (c : Cursor) :
    (within segment r).run c
      = ⟨(r.run c).result.mapError (Fault.within segment), (r.run c).cursor, (r.run c).events⟩ :=
  rfl

/-- The test of `take` without the list that it cuts off. -/
theorem run_take (n : Nat) (field : String) (c : Cursor) :
    (take n field).run c
      = if c.remaining < n then ⟨.error (.truncated field c.position n c.remaining), c, []⟩
        else ⟨.ok (c.rest.take n), c.advance n, []⟩ := by
  have h : (c.rest.take n).length < n ↔ c.remaining < n := by
    rw [List.length_take, Cursor.remaining]
    omega
  simp only [take, h]

/-! ## Results -/

/-- A reader in two steps succeeds if both steps do. -/
theorem result_bind_eq_ok {r : Reader α} {next : α → Reader β} {c : Cursor} {b : β} :
    ((r >>= next).run c).result = .ok b
      ↔ ∃ a, (r.run c).result = .ok a ∧ ((next a).run (r.run c).cursor).result = .ok b := by
  rw [run_bind]
  obtain ⟨result, c', events⟩ := r.run c
  cases result <;> simp

/-- A reader in two steps fails, and stops, as its first step does. -/
theorem result_bind_of_error {r : Reader α} {next : α → Reader β} {c : Cursor} {e : Fault}
    (h : (r.run c).result = .error e) : ((r >>= next).run c).result = .error e := by
  rw [run_bind]
  generalize r.run c = o at h
  obtain ⟨result, c', events⟩ := o
  obtain rfl : result = .error e := h
  rfl

theorem cursor_bind_of_error {r : Reader α} {next : α → Reader β} {c : Cursor} {e : Fault}
    (h : (r.run c).result = .error e) : ((r >>= next).run c).cursor = (r.run c).cursor := by
  rw [run_bind]
  generalize r.run c = o at h
  obtain ⟨result, c', events⟩ := o
  obtain rfl : result = .error e := h
  rfl

/-- …and otherwise fares, and stops, as its second step does. -/
theorem result_bind_of_ok {r : Reader α} {next : α → Reader β} {c : Cursor} {a : α}
    (h : (r.run c).result = .ok a) :
    ((r >>= next).run c).result = ((next a).run (r.run c).cursor).result := by
  rw [run_bind]
  generalize r.run c = o at h
  obtain ⟨result, c', events⟩ := o
  obtain rfl : result = .ok a := h
  rfl

theorem cursor_bind_of_ok {r : Reader α} {next : α → Reader β} {c : Cursor} {a : α}
    (h : (r.run c).result = .ok a) :
    ((r >>= next).run c).cursor = ((next a).run (r.run c).cursor).cursor := by
  rw [run_bind]
  generalize r.run c = o at h
  obtain ⟨result, c', events⟩ := o
  obtain rfl : result = .ok a := h
  rfl

/-- The name of a field has no bearing on success. -/
theorem result_within_eq_ok {segment : String} {r : Reader α} {c : Cursor} {a : α} :
    ((within segment r).run c).result = .ok a ↔ (r.run c).result = .ok a := by
  rw [run_within]
  cases (r.run c).result with
  | ok x => exact Iff.rfl
  | error e => exact ⟨nofun, nofun⟩

theorem result_fail_ne_ok {e : Fault} {c : Cursor} {a : α} :
    ((fail e : Reader α).run c).result ≠ .ok a := by
  rw [run_fail]
  exact nofun

/-- A prefix of the given length was there to be read. -/
theorem result_take_eq_ok {n : Nat} {field : String} {c : Cursor} {bytes : List UInt8} :
    ((take n field).run c).result = .ok bytes
      ↔ bytes.length = n ∧ ∃ tail, c.rest = bytes ++ tail := by
  rw [run_take]
  split
  next h =>
    refine ⟨nofun, fun ⟨hlen, tail, htail⟩ => ?_⟩
    rw [Cursor.remaining, htail, List.length_append] at h
    omega
  next h =>
    rw [Cursor.remaining] at h
    constructor
    · intro heq
      obtain rfl : c.rest.take n = bytes := by simpa using heq
      exact ⟨by rw [List.length_take]; omega, c.rest.drop n, (List.take_append_drop n c.rest).symm⟩
    · rintro ⟨rfl, tail, htail⟩
      rw [htail, List.take_left]

end Reader

end LuaChunk
