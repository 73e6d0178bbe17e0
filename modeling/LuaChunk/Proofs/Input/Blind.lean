import LuaChunk.Proofs.Input.Run

/-!
# Proofs/Input/Blind — reading under two character sets

A character set decides what the texts of a file are, and nothing else.  Two runs of a reader, from
the same place but under two sets, are compared through a **view** of its values, which leaves out
what the set may change: `Blind view r r'` says that both come to the same fault, or to values with
the same view, and stop at the same place.

The rule `bind` is where texts are told from the rest.  What follows a step is compared on all pairs
of values with the same view, so a reader that decided by a text how to go on would not be blind.
-/

namespace LuaChunk

namespace Cursor

/-- The same place under another character set. -/
def under (c : Cursor) (charset : Charset) : Cursor := { c with charset }

end Cursor

namespace Reader

variable {α β γ δ : Type} {view : α → γ} {view' : β → δ}

/-- **Two readers, under two character sets, that differ at most behind a view.** -/
def Blind (view : α → γ) (r r' : Reader α) : Prop :=
  ∀ c charset,
    (r'.run (c.under charset)).result.map view = (r.run c).result.map view
      ∧ (r'.run (c.under charset)).cursor = (r.run c).cursor.under charset

namespace Blind

theorem pure {a a' : α} (h : view a = view a') :
    Blind view (Pure.pure a : Reader α) (Pure.pure a') :=
  fun _ _ => ⟨congrArg Except.ok h.symm, rfl⟩

theorem fail (e : Fault) : Blind view (Reader.fail e : Reader α) (Reader.fail e) :=
  fun _ _ => ⟨rfl, rfl⟩

theorem report (e e' : Event) : Blind id (Reader.report e) (Reader.report e') :=
  fun _ _ => ⟨rfl, rfl⟩

theorem reportIf (b b' : Bool) (e e' : Event) :
    Blind id (Reader.reportIf b e) (Reader.reportIf b' e') := by
  intro c charset
  rw [run_reportIf, run_reportIf]
  exact ⟨rfl, rfl⟩

theorem setOrder (order : ByteOrder) : Blind id (Reader.setOrder order) (Reader.setOrder order) :=
  fun _ _ => ⟨rfl, rfl⟩

theorem take (n : Nat) (field : String) : Blind id (Reader.take n field) (Reader.take n field) := by
  intro c charset
  have hremaining : (c.under charset).remaining = c.remaining := rfl
  rw [run_take, run_take, hremaining]
  split <;> exact ⟨rfl, rfl⟩

/-- **What follows values with the same view has to be blind itself.** -/
theorem bind {r r' : Reader α} {next next' : α → Reader β} (hr : Blind view r r')
    (hnext : ∀ a a', view a = view a' → Blind view' (next a) (next' a')) :
    Blind view' (r >>= next) (r' >>= next') := by
  intro c charset
  have hfirst := hr c charset
  rw [run_bind, run_bind]
  generalize r.run c = o at hfirst
  generalize r'.run (c.under charset) = o' at hfirst
  obtain ⟨result, c₁, events⟩ := o
  obtain ⟨result', c₂, events'⟩ := o'
  obtain ⟨hresult, hcursor⟩ := hfirst
  dsimp only at hresult hcursor
  subst hcursor
  cases result with
  | error e =>
    cases result' with
    | error e' =>
      obtain rfl : e' = e := Except.error.inj hresult
      exact ⟨rfl, rfl⟩
    | ok a' => cases hresult
  | ok a =>
    cases result' with
    | error e' => cases hresult
    | ok a' =>
      have hview : view a = view a' := (Except.ok.inj hresult).symm
      exact hnext a a' hview c₁ charset

/-- What is read alike under both sets comes first. -/
theorem bind_same {r r' : Reader α} {next next' : α → Reader β} (hr : Blind id r r')
    (hnext : ∀ a, Blind view' (next a) (next' a)) : Blind view' (r >>= next) (r' >>= next') :=
  hr.bind fun a a' h => by
    obtain rfl : a = a' := h
    exact hnext a

/-- A reader that is handed its own cursor must not ask it for the character set. -/
theorem cursor_bind {next next' : Cursor → Reader β}
    (hnext : ∀ c charset, Blind view' (next c) (next' (c.under charset))) :
    Blind view' (Reader.cursor >>= next) (Reader.cursor >>= next') :=
  fun c charset => hnext c charset c charset

theorem within {r r' : Reader α} (hr : Blind view r r') (segment : String) :
    Blind view (Reader.within segment r) (Reader.within segment r') := by
  intro c charset
  obtain ⟨hresult, hcursor⟩ := hr c charset
  rw [run_within, run_within]
  refine ⟨?_, hcursor⟩
  have hmap (x : Except Fault α) : (x.mapError (Fault.within segment)).map view
      = (x.map view).mapError (Fault.within segment) := by
    cases x <;> rfl
  rw [hmap, hmap, hresult]

theorem entries {r : Reader α} (hr : Blind view r r) (i n : Nat) :
    Blind (List.map view) (Reader.entries r i n) (Reader.entries r i n) := by
  induction n generalizing i with
  | zero => exact Blind.pure rfl
  | succ n ih =>
    refine (hr.within _).bind fun a a' ha => (ih (i + 1)).bind fun as as' has => Blind.pure ?_
    rw [List.map_cons, List.map_cons, ha, has]

end Blind

/-! ## The fields -/

theorem blind_byte (field : String) : Blind id (byte field) (byte field) :=
  (Blind.take 1 field).bind_same fun _ => Blind.pure rfl

theorem blind_natural (width : Nat) (field : String) :
    Blind id (natural width field) (natural width field) :=
  (Blind.take width field).bind_same fun _ => Blind.cursor_bind fun _ _ => Blind.pure rfl

theorem blind_uint32 (field : String) : Blind id (uint32 field) (uint32 field) :=
  (blind_natural 4 field).bind_same fun _ => Blind.pure rfl

theorem blind_int32 (field : String) : Blind id (int32 field) (int32 field) :=
  (blind_uint32 field).bind_same fun _ => Blind.pure rfl

theorem blind_binary64 (field : String) : Blind id (binary64 field) (binary64 field) :=
  (blind_natural 8 field).bind_same fun _ => Blind.pure rfl

theorem blind_count (field : String) : Blind id (count field) (count field) := by
  refine Blind.cursor_bind fun c charset => (blind_int32 field).bind_same fun i => ?_
  dsimp only
  split
  · exact Blind.fail _
  · exact Blind.pure rfl

/-- The view of a text: nothing of it. -/
def hidden (_ : String) : String := ""

theorem blind_text (bytes : List UInt8) : Blind hidden (text bytes) (text bytes) :=
  Blind.cursor_bind fun _ _ => (Blind.reportIf _ _ _ _).bind_same fun _ => Blind.pure rfl

/-- **A string is measured, cut off and faulted without being understood.** -/
theorem blind_string (field : String) : Blind hidden (string field) (string field) := by
  refine Blind.cursor_bind fun c charset => (blind_int32 field).bind_same fun i => ?_
  dsimp only
  split
  · exact Blind.fail _
  · split
    · exact Blind.fail _
    · refine (Blind.take _ field).bind_same fun bytes => Blind.cursor_bind fun c charset => ?_
      split
      · exact Blind.fail _
      · exact blind_text _

theorem Blind.table {r : Reader α} (hr : Blind view r r) (field : String) :
    Blind (List.map view) (table field r) (table field r) :=
  (blind_count field).bind_same fun n => (hr.entries 0 n).within field

end Reader

end LuaChunk
