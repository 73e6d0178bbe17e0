import LuaChunk.Proofs.Input.Field

/-!
# Proofs/Input/Outcomes — how each reader can turn out

    take, byte, int32, …    c ──▸ c            c ──▸ c + n
    count                   c ──▸ c            c ──▸ c + 4
    string                  c ──▸ c            c ──▸ c + 4           c ──▸ c + 4 + length
    table                   as its count       c + 4 ──▸ ·· ──▸ ··   entry for entry

A reader that fails may have read something before.  How far it has got is said here, with the
fault, in one lemma for each kind of field: `Fixed` for those of a fixed length, and
`run_string_cases`, `run_count_cases` and `run_table_cases` for the others.
-/

namespace LuaChunk

namespace Cursor

/-- **A cursor is at a place in a file**: it has the rest of the file ahead. -/
structure IsIn (file : List UInt8) (c : Cursor) : Prop where
  le : c.position ≤ file.length
  rest : c.rest = file.drop c.position

namespace IsIn

variable {file : List UInt8} {c : Cursor}

theorem start (file : List UInt8) (order : ByteOrder) (charset : Charset) :
    (Cursor.start file order charset).IsIn file := ⟨Nat.zero_le _, rfl⟩

theorem position_add_remaining (h : c.IsIn file) : c.position + c.remaining = file.length := by
  have hle := h.le
  rw [remaining, h.rest, List.length_drop]
  omega

theorem advance (h : c.IsIn file) {n : Nat} (hn : n ≤ c.remaining) : (c.advance n).IsIn file := by
  have hsum := h.position_add_remaining
  refine ⟨?_, ?_⟩
  · rw [position_advance]
    omega
  · rw [position_advance, rest_advance, h.rest, List.drop_drop]

end IsIn

end Cursor

namespace Reader

variable {α β : Type}

/-! ## Fields of a fixed length -/

/-- **A reader of `n` bytes**: it reads them, or none at all if there are fewer. -/
def Fixed (n : Nat) (field : String) (r : Reader α) : Prop :=
  ∀ c, (c.remaining < n ∧ r.run c = ⟨.error (.truncated field c.position n c.remaining), c, []⟩)
    ∨ (n ≤ c.remaining ∧ ∃ a, r.run c = ⟨.ok a, c.advance n, []⟩)

namespace Fixed

variable {n : Nat} {field : String}

theorem take (n : Nat) (field : String) : (Reader.take n field).Fixed n field := by
  intro c
  rw [run_take]
  split
  next h => exact .inl ⟨h, rfl⟩
  next h => exact .inr ⟨Nat.not_lt.mp h, _, rfl⟩

/-- What is made of the bytes where they were read. -/
theorem bind {r : Reader α} {next : α → Reader β} (hr : r.Fixed n field)
    (hnext : ∀ a c, ∃ b, (next a).run c = ⟨.ok b, c, []⟩) : (r >>= next).Fixed n field := by
  intro c
  rcases hr c with ⟨hlt, hrun⟩ | ⟨hle, a, hrun⟩
  · exact .inl ⟨hlt, by rw [run_bind, hrun, Outcome.andThen_error]⟩
  · obtain ⟨b, hb⟩ := hnext a (c.advance n)
    exact .inr ⟨hle, b, by rw [run_bind, hrun, Outcome.andThen_ok, hb]; rfl⟩

end Fixed

theorem fixed_byte (field : String) : (byte field).Fixed 1 field :=
  (Fixed.take 1 field).bind fun _ _ => ⟨_, rfl⟩

theorem fixed_natural (width : Nat) (field : String) : (natural width field).Fixed width field :=
  (Fixed.take width field).bind fun _ _ => ⟨_, rfl⟩

theorem fixed_uint32 (field : String) : (uint32 field).Fixed 4 field :=
  (fixed_natural 4 field).bind fun _ _ => ⟨_, rfl⟩

theorem fixed_int32 (field : String) : (int32 field).Fixed 4 field :=
  (fixed_uint32 field).bind fun _ _ => ⟨_, rfl⟩

theorem fixed_binary64 (field : String) : (binary64 field).Fixed 8 field :=
  (fixed_natural 8 field).bind fun _ _ => ⟨_, rfl⟩

/-! ## Fields behind a length -/

/-- **How the payload of a string can turn out.** -/
theorem run_terminated_cases (n : Nat) (field : String) (c : Cursor) :
    (c.remaining < n ∧ (terminated n field).run c
        = ⟨.error (.truncated field c.position n c.remaining), c, []⟩)
    ∨ (n ≤ c.remaining ∧ (c.rest.take n).getLastD 0 ≠ 0 ∧ (terminated n field).run c
        = ⟨.error (.malformedString field (c.position + n - 1) .noTerminator), c.advance n, []⟩)
    ∨ (n ≤ c.remaining ∧ ∃ a events, (terminated n field).run c
        = ⟨.ok a, c.advance n, events⟩) := by
  rw [terminated, run_bind, run_take]
  by_cases hshort : c.remaining < n
  · exact .inl ⟨hshort, by rw [if_pos hshort, Outcome.andThen_error]⟩
  have hroom : n ≤ c.remaining := Nat.not_lt.mp hshort
  rw [if_neg hshort, Outcome.andThen_ok, run_cursor_bind]
  by_cases hlast : (c.rest.take n).getLastD 0 = 0
  · have htext : ((c.rest.take n).getLastD 0 != 0) = false := by rw [hlast]; rfl
    rw [htext, if_neg Bool.false_ne_true, (reads_text _).complete (x := ()) trivial rfl]
    exact .inr (.inr ⟨hroom, _, _, rfl⟩)
  · simp only [bne_iff_ne.mpr hlast, if_true]
    exact .inr (.inl ⟨hroom, hlast, rfl⟩)

/-- **How a string can turn out.** -/
theorem run_string_cases (field : String) (c : Cursor) :
    (c.remaining < 4
      ∧ (string field).run c = ⟨.error (.truncated field c.position 4 c.remaining), c, []⟩)
    ∨ ∃ n : Int32, 4 ≤ c.remaining ∧ ((int32 field).run c).result = .ok n
      ∧ ((n.toInt < 0 ∧ (string field).run c
            = ⟨.error (.malformedLength field c.position n.toInt), c.advance 4, []⟩)
        ∨ (n.toInt = 0 ∧ (string field).run c
            = ⟨.error (.malformedString field c.position .noRoom), c.advance 4, []⟩)
        ∨ (0 < n.toInt ∧ c.remaining < 4 + n.toInt.toNat ∧ (string field).run c
            = ⟨.error (.truncated field (c.position + 4) n.toInt.toNat (c.remaining - 4)),
              c.advance 4, []⟩)
        ∨ (0 < n.toInt ∧ 4 + n.toInt.toNat ≤ c.remaining
          ∧ ((c.rest.drop 4).take n.toInt.toNat).getLastD 0 ≠ 0 ∧ (string field).run c
            = ⟨.error (.malformedString field (c.position + 4 + n.toInt.toNat - 1) .noTerminator),
              c.advance (4 + n.toInt.toNat), []⟩)
        ∨ (0 < n.toInt ∧ 4 + n.toInt.toNat ≤ c.remaining ∧ ∃ a events, (string field).run c
            = ⟨.ok a, c.advance (4 + n.toInt.toNat), events⟩)) := by
  rw [string_eq, run_cursor_bind, run_bind]
  rcases fixed_int32 field c with ⟨hlt, hrun⟩ | ⟨hle, n, hrun⟩
  · exact .inl ⟨hlt, by rw [hrun, Outcome.andThen_error]⟩
  refine .inr ⟨n, hle, by rw [hrun], ?_⟩
  rw [hrun, Outcome.andThen_ok]
  dsimp only
  by_cases hneg : n.toInt < 0
  · exact .inl ⟨hneg, by rw [if_pos hneg]; rfl⟩
  by_cases hzero : n.toInt = 0
  · exact .inr (.inl ⟨hzero, by rw [if_neg hneg, if_pos hzero]; rfl⟩)
  have hpos : 0 < n.toInt := by omega
  have hremaining : (c.advance 4).remaining = c.remaining - 4 := List.length_drop
  rw [if_neg hneg, if_neg hzero]
  rcases run_terminated_cases n.toInt.toNat field (c.advance 4) with
    ⟨hshort, hrun⟩ | ⟨hroom, hlast, hrun⟩ | ⟨hroom, a, events, hrun⟩ <;>
    rw [hremaining] at * <;> rw [hrun]
  · exact .inr (.inr (.inl ⟨hpos, by omega, rfl⟩))
  · rw [Cursor.advance_advance]
    exact .inr (.inr (.inr (.inl ⟨hpos, by omega, hlast, rfl⟩)))
  · rw [Cursor.advance_advance]
    exact .inr (.inr (.inr (.inr ⟨hpos, by omega, a, events, rfl⟩)))

/-- **How a number of entries can turn out.** -/
theorem run_count_cases (field : String) (c : Cursor) :
    (c.remaining < 4
      ∧ (count field).run c = ⟨.error (.truncated field c.position 4 c.remaining), c, []⟩)
    ∨ ∃ n : Int32, 4 ≤ c.remaining ∧ ((int32 field).run c).result = .ok n
      ∧ ((n.toInt < 0 ∧ (count field).run c
            = ⟨.error (.malformedLength field c.position n.toInt), c.advance 4, []⟩)
        ∨ (0 ≤ n.toInt ∧ (count field).run c = ⟨.ok n.toInt.toNat, c.advance 4, []⟩)) := by
  rw [count, run_cursor_bind, run_bind]
  rcases fixed_int32 field c with ⟨hlt, hrun⟩ | ⟨hle, n, hrun⟩
  · exact .inl ⟨hlt, by rw [hrun, Outcome.andThen_error]⟩
  refine .inr ⟨n, hle, by rw [hrun], ?_⟩
  rw [hrun, Outcome.andThen_ok]
  dsimp only
  by_cases hneg : n.toInt < 0
  · exact .inl ⟨hneg, by rw [if_pos hneg]; rfl⟩
  · exact .inr ⟨by omega, by rw [if_neg hneg]; rfl⟩

/-! ## Tables -/

/-- **A reader succeeds again and again**, each time from where it stopped. -/
inductive Repeats (r : Reader α) : Cursor → List α → Cursor → Prop
  | nil (c : Cursor) : Repeats r c [] c
  | cons {c c' : Cursor} {a : α} {as : List α} (first : (r.run c).result = .ok a)
    (rest : Repeats r (r.run c).cursor as c') : Repeats r c (a :: as) c'

/-- Entries succeed one behind the other, or up to the first that fails. -/
theorem run_entries_cases (r : Reader α) (i n : Nat) (c : Cursor) :
    (∃ as, as.length = n ∧ ((entries r i n).run c).result = .ok as
      ∧ Repeats r c as ((entries r i n).run c).cursor)
    ∨ ∃ as middle e, as.length < n ∧ Repeats r c as middle ∧ (r.run middle).result = .error e
      ∧ ((entries r i n).run c).result = .error (e.within (Path.index (i + as.length)))
      ∧ ((entries r i n).run c).cursor = (r.run middle).cursor := by
  induction n generalizing i c with
  | zero => exact .inl ⟨[], rfl, rfl, .nil c⟩
  | succ n ih =>
    rw [entries]
    cases hfirst : (r.run c).result with
    | error e =>
      refine .inr ⟨[], c, e, Nat.succ_pos n, .nil c, hfirst, ?_, ?_⟩
      · exact result_bind_of_error (by rw [run_within, hfirst]; rfl)
      · rw [run_bind, run_within, hfirst]
        rfl
    | ok a =>
      have hwithin : ((within (Path.index i) r).run c).result = .ok a :=
        result_within_eq_ok.mpr hfirst
      rw [result_bind_of_ok hwithin, cursor_bind_of_ok hwithin]
      have hcursor : ((within (Path.index i) r).run c).cursor = (r.run c).cursor := rfl
      rw [hcursor]
      rcases ih (i + 1) (r.run c).cursor with
        ⟨as, hlength, hresult, hrepeats⟩ | ⟨as, middle, e, hlt, hrepeats, he, hresult, hstop⟩
      · rw [result_bind_of_ok hresult, cursor_bind_of_ok hresult]
        exact .inl ⟨a :: as, congrArg (· + 1) hlength, rfl, .cons hfirst hrepeats⟩
      · refine .inr ⟨a :: as, middle, e, Nat.succ_lt_succ hlt, .cons hfirst hrepeats, he, ?_, ?_⟩
        · rw [result_bind_of_error hresult, List.length_cons, Nat.add_right_comm, Nat.add_assoc]
        · rw [cursor_bind_of_error hresult, hstop]

/-- **How a table can turn out.** -/
theorem run_table_cases (field : String) (r : Reader α) (c : Cursor) :
    (∃ e, ((count field).run c).result = .error e ∧ ((table field r).run c).result = .error e
      ∧ ((table field r).run c).cursor = ((count field).run c).cursor)
    ∨ ∃ n, ((count field).run c).result = .ok n
      ∧ ((∃ as, as.length = n ∧ ((table field r).run c).result = .ok as
          ∧ Repeats r (c.advance 4) as ((table field r).run c).cursor)
        ∨ ∃ as middle e, as.length < n ∧ Repeats r (c.advance 4) as middle
          ∧ (r.run middle).result = .error e
          ∧ ((table field r).run c).result
            = .error ((e.within (Path.index as.length)).within field)
          ∧ ((table field r).run c).cursor = (r.run middle).cursor) := by
  rw [table]
  cases hcount : ((count field).run c).result with
  | error e => exact .inl ⟨e, rfl, result_bind_of_error hcount, cursor_bind_of_error hcount⟩
  | ok n =>
    refine .inr ⟨n, rfl, ?_⟩
    have hcursor : ((count field).run c).cursor = c.advance 4 := by
      rcases run_count_cases field c with ⟨-, hrun⟩ | ⟨i, -, -, ⟨-, hrun⟩ | ⟨-, hrun⟩⟩ <;>
        rw [hrun] at hcount ⊢
      cases hcount
    rw [result_bind_of_ok hcount, cursor_bind_of_ok hcount, hcursor, run_within]
    rcases run_entries_cases r 0 n (c.advance 4) with
      ⟨as, hlength, hresult, hrepeats⟩ | ⟨as, middle, e, hlt, hrepeats, he, hresult, hstop⟩
    · exact .inl ⟨as, hlength, by rw [hresult]; rfl, hrepeats⟩
    · refine .inr ⟨as, middle, e, hlt, hrepeats, he, ?_, hstop⟩
      rw [hresult, Nat.zero_add]
      rfl

end Reader

end LuaChunk
