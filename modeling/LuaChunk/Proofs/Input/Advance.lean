import LuaChunk.Proofs.Input.Online

/-!
# Proofs/Input/Advance — how far a reader gets at least

A reader that succeeds has read a least number of bytes, whatever the file says: `Advances n r`.
Two readers in a row add up (`bind`), and a table of `n` entries has read `n` times what one of them
takes (`entries`).  A reader that fails promises nothing, and keeps any promise.
-/

namespace LuaChunk.Reader

variable {α β : Type}

/-- **A reader that succeeds has read at least `n` bytes.** -/
def Advances (n : Nat) (r : Reader α) : Prop :=
  ∀ c a, (r.run c).result = .ok a → c.position + n ≤ (r.run c).cursor.position

namespace Advances

theorem of_still {r : Reader α} (h : ∀ c, (r.run c).cursor = c) : r.Advances 0 :=
  fun c _ _ => by rw [h]; exact Nat.le_refl _

theorem pure (a : α) : (Pure.pure a : Reader α).Advances 0 := of_still fun _ => rfl

theorem report (e : Event) : (Reader.report e).Advances 0 := of_still fun _ => rfl

theorem reportIf (b : Bool) (e : Event) : (Reader.reportIf b e).Advances 0 :=
  of_still fun c => by rw [run_reportIf]

theorem setOrder (order : ByteOrder) : (Reader.setOrder order).Advances 0 :=
  fun _ _ _ => Nat.le_refl _

theorem fail (n : Nat) (e : Fault) : (Reader.fail e : Reader α).Advances n :=
  fun _ _ h => absurd h result_fail_ne_ok

theorem take (n : Nat) (field : String) : (Reader.take n field).Advances n := by
  intro c bytes h
  rw [run_take] at h ⊢
  split at h
  next => cases h
  next hroom =>
    rw [if_neg hroom]
    exact Nat.le_refl _

theorem mono {m n : Nat} {r : Reader α} (hr : r.Advances n) (h : m ≤ n) : r.Advances m :=
  fun c a ha => Nat.le_trans (Nat.add_le_add_left h _) (hr c a ha)

/-- Two readers in a row have read what both of them have. -/
theorem bind {m n : Nat} {r : Reader α} {next : α → Reader β} (hr : r.Advances m)
    (hnext : ∀ a, (next a).Advances n) : (r >>= next).Advances (m + n) := by
  intro c b hb
  obtain ⟨a, ha, hb⟩ := result_bind_eq_ok.mp hb
  have hfirst := hr c a ha
  have hsecond := hnext a _ b hb
  rw [cursor_bind_of_ok ha]
  omega

/-- What follows may read nothing. -/
theorem bind_still {n : Nat} {r : Reader α} {next : α → Reader β} (hr : r.Advances n)
    (hnext : ∀ a, (next a).Advances 0) : (r >>= next).Advances n := hr.bind hnext

theorem cursor_bind {n : Nat} {next : Cursor → Reader β} (hnext : ∀ c, (next c).Advances n) :
    (Reader.cursor >>= next).Advances n := fun c => hnext c c

theorem within {n : Nat} {r : Reader α} (hr : r.Advances n) (segment : String) :
    (Reader.within segment r).Advances n :=
  fun c a ha => hr c a (result_within_eq_ok.mp ha)

theorem entries {m : Nat} {r : Reader α} (hr : r.Advances m) (i n : Nat) :
    (Reader.entries r i n).Advances (n * m) := by
  induction n generalizing i with
  | zero => exact (pure []).mono (Nat.le_of_eq (Nat.zero_mul m))
  | succ n ih =>
    refine ((hr.within _).bind fun a => (ih (i + 1)).bind_still fun as => pure (a :: as)).mono ?_
    rw [Nat.succ_mul]
    omega

end Advances

/-! ## The fields -/

theorem advances_byte (field : String) : (byte field).Advances 1 :=
  (Advances.take 1 field).bind_still fun _ => Advances.pure _

theorem advances_natural (width : Nat) (field : String) : (natural width field).Advances width :=
  (Advances.take width field).bind_still fun _ => Advances.cursor_bind fun _ => Advances.pure _

theorem advances_uint32 (field : String) : (uint32 field).Advances 4 :=
  (advances_natural 4 field).bind_still fun _ => Advances.pure _

theorem advances_int32 (field : String) : (int32 field).Advances 4 :=
  (advances_uint32 field).bind_still fun _ => Advances.pure _

theorem advances_binary64 (field : String) : (binary64 field).Advances 8 :=
  (advances_natural 8 field).bind_still fun _ => Advances.pure _

theorem advances_text (bytes : List UInt8) : (text bytes).Advances 0 :=
  Advances.cursor_bind fun _ => (Advances.reportIf _ _).bind_still fun _ => Advances.pure _

/-- A string has at least a terminator behind its length. -/
theorem advances_string (field : String) : (string field).Advances 5 := by
  refine Advances.cursor_bind fun c => (advances_int32 field).bind (n := 1) fun i => ?_
  dsimp only
  split
  · exact Advances.fail _ _
  · split
    · exact Advances.fail _ _
    next hneg hzero =>
      have hlength : 1 ≤ i.toInt.toNat := by omega
      refine ((Advances.take _ field).mono hlength).bind_still fun bytes =>
        Advances.cursor_bind fun c => ?_
      split
      · exact Advances.fail _ _
      · exact advances_text _

theorem advances_count (field : String) : (count field).Advances 4 := by
  refine Advances.cursor_bind fun c => (advances_int32 field).bind_still fun i => ?_
  dsimp only
  split
  · exact Advances.fail _ _
  · exact Advances.pure _

theorem Advances.table {r : Reader α} (hr : r.Advances 0) (field : String) :
    (table field r).Advances 4 :=
  (advances_count field).bind_still fun n => (hr.entries 0 n).within field

end LuaChunk.Reader
