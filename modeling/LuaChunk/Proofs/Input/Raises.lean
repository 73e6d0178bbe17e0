import LuaChunk.Proofs.Input.Paths

/-!
# Proofs/Input/Raises — which faults the readers of fields raise

A field can be cut off, or be a string or a table of an impossible length; each of these faults
names the field (`Fault.NamesField`).  No reader of fields raises any other, and the readers made of
them do not either, because `bind` raises what its two steps raise and `within` only lengthens the
name.
-/

namespace LuaChunk

namespace Fault

/-- Whether a fault names the field that it is about. -/
def NamesField (e : Fault) : Prop := e.field?.isSome = true

theorem NamesField.within {e : Fault} (h : e.NamesField) (segment : String) :
    (e.within segment).NamesField := by
  rw [NamesField, field?_within, Option.isSome_map]
  exact h

end Fault

namespace Reader

variable {α β : Type} {P : Fault → Prop}

/-- **A reader raises only faults of a kind**, whatever it reads. -/
def Raises (P : Fault → Prop) (r : Reader α) : Prop :=
  ∀ c e, (r.run c).result = .error e → P e

namespace Raises

/-- A reader that always succeeds. -/
theorem of_ok {r : Reader α} (h : ∀ c, ∃ a, (r.run c).result = .ok a) : r.Raises P := by
  intro c e he
  obtain ⟨a, ha⟩ := h c
  rw [ha] at he
  cases he

theorem pure (a : α) : (Pure.pure a : Reader α).Raises P := of_ok fun _ => ⟨a, rfl⟩

theorem report (e : Event) : (Reader.report e).Raises P := of_ok fun _ => ⟨(), rfl⟩

theorem reportIf (b : Bool) (e : Event) : (Reader.reportIf b e).Raises P :=
  of_ok fun c => ⟨(), by rw [run_reportIf]⟩

theorem setOrder (order : ByteOrder) : (Reader.setOrder order).Raises P :=
  of_ok fun _ => ⟨(), rfl⟩

theorem cursor : Reader.cursor.Raises P := of_ok fun c => ⟨c, rfl⟩

theorem fail {e : Fault} (h : P e) : (Reader.fail e : Reader α).Raises P := by
  intro c e' he'
  obtain rfl : e = e' := Except.error.inj he'
  exact h

/-- Two steps raise what either of them raises. -/
theorem bind {r : Reader α} {next : α → Reader β} (hr : r.Raises P)
    (hnext : ∀ a, (next a).Raises P) : (r >>= next).Raises P := by
  intro c e he
  have hfirst := hr c
  rw [run_bind] at he
  generalize r.run c = o at he hfirst
  obtain ⟨result, c', events⟩ := o
  cases result with
  | error e' =>
    obtain rfl : e' = e := Except.error.inj he
    exact hfirst e' rfl
  | ok a => exact hnext a c' e he

theorem within {r : Reader α} (hr : r.Raises Fault.NamesField) (segment : String) :
    (Reader.within segment r).Raises Fault.NamesField := by
  intro c e he
  rw [run_within] at he
  cases hresult : (r.run c).result with
  | ok a =>
    rw [hresult] at he
    cases he
  | error e' =>
    rw [hresult] at he
    obtain rfl : e'.within segment = e := Except.error.inj he
    exact (hr c e' hresult).within segment

theorem mono {Q : Fault → Prop} {r : Reader α} (hr : r.Raises P) (h : ∀ e, P e → Q e) :
    r.Raises Q :=
  fun c e he => h e (hr c e he)

end Raises

/-! ## The fields -/

theorem raises_take (n : Nat) (field : String) : (take n field).Raises Fault.NamesField := by
  intro c e he
  rw [run_take] at he
  split at he
  · obtain rfl := Except.error.inj he
    rfl
  · cases he

theorem raises_byte (field : String) : (byte field).Raises Fault.NamesField :=
  (raises_take 1 field).bind fun bytes => Raises.pure (bytes.headD 0)

theorem raises_natural (width : Nat) (field : String) :
    (natural width field).Raises Fault.NamesField :=
  (raises_take width field).bind fun _ => Raises.cursor.bind fun _ => Raises.pure _

theorem raises_uint32 (field : String) : (uint32 field).Raises Fault.NamesField :=
  (raises_natural 4 field).bind fun _ => Raises.pure _

theorem raises_int32 (field : String) : (int32 field).Raises Fault.NamesField :=
  (raises_uint32 field).bind fun _ => Raises.pure _

theorem raises_binary64 (field : String) : (binary64 field).Raises Fault.NamesField :=
  (raises_natural 8 field).bind fun _ => Raises.pure _

theorem raises_text (bytes : List UInt8) : (text bytes).Raises P :=
  Raises.cursor.bind fun _ => (Raises.reportIf _ _).bind fun _ => Raises.pure _

theorem raises_string (field : String) : (string field).Raises Fault.NamesField := by
  refine Raises.cursor.bind fun c => (raises_int32 field).bind fun i => ?_
  dsimp only
  split
  · exact Raises.fail rfl
  · split
    · exact Raises.fail rfl
    · refine (raises_take _ field).bind fun bytes => Raises.cursor.bind fun c => ?_
      split
      · exact Raises.fail rfl
      · exact raises_text _

theorem raises_count (field : String) : (count field).Raises Fault.NamesField := by
  refine Raises.cursor.bind fun c => (raises_int32 field).bind fun i => ?_
  dsimp only
  split
  · exact Raises.fail rfl
  · exact Raises.pure _

theorem Raises.entries {r : Reader α} (hr : r.Raises Fault.NamesField) (i n : Nat) :
    (entries r i n).Raises Fault.NamesField := by
  induction n generalizing i with
  | zero => exact Raises.pure []
  | succ n ih => exact (hr.within _).bind fun a => (ih (i + 1)).bind fun as => Raises.pure (a :: as)

theorem Raises.table {r : Reader α} (hr : r.Raises Fault.NamesField) (field : String) :
    (table field r).Raises Fault.NamesField :=
  (raises_count field).bind fun n => (hr.entries 0 n).within field

end Reader

end LuaChunk
