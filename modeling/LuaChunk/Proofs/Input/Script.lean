import Mathlib.Data.List.Chain
import LuaChunk.Proofs.Input.Outcomes

/-!
# Proofs/Input/Script — what any sequence of reads does to a cursor

    script  =  operation · operation · …        each run where the one before it stopped,
                                                whether or not that one failed

An **operation** reads a field, sets the byte order, reads a table of operations, or is several
operations of which the first to fail is the last.  Its **stops** are the places that it comes to,
one for each field that it tries and each order that it sets.

From one stop to the next a cursor moves in one of two ways (`Move`): over some of the bytes ahead,
or to another byte order where it is.  What a script does to a cursor is a row of such moves
(`Script.trail_stops`), from which the rest follows.  That a value depends on nothing but the bytes
read for it goes by the rules for `Local`.
-/

namespace LuaChunk

namespace Reader

/-! ## Operations -/

/-- The fields that are read in one go. -/
inductive Primitive : Type → Type
  | byte (field : String) : Primitive UInt8
  | int32 (field : String) : Primitive Int32
  | uint32 (field : String) : Primitive UInt32
  | binary64 (field : String) : Primitive Binary64
  | take (n : Nat) (field : String) : Primitive (List UInt8)
  | string (field : String) : Primitive String
  | count (field : String) : Primitive Nat

/-- **What a reader can be asked for.** -/
inductive Operation : Type → Type 1
  | one {α : Type} (p : Primitive α) : Operation α
  | setOrder (order : ByteOrder) : Operation Unit
  | table {α : Type} (field : String) (entry : Operation α) : Operation (List α)
  | value {α : Type} (a : α) : Operation α
  | andThen {α β : Type} (first : Operation α) (next : α → Operation β) : Operation β

/-- Operations in a row, whatever becomes of each. -/
abbrev Script : Type 1 := List (Sigma Operation)

/-- A place that a script comes to, and the byte order if it was set there. -/
structure Stop where
  set? : Option ByteOrder
  cursor : Cursor

variable {α : Type}

namespace Primitive

def read : Primitive α → Reader α
  | byte field => Reader.byte field
  | int32 field => Reader.int32 field
  | uint32 field => Reader.uint32 field
  | binary64 field => Reader.binary64 field
  | take n field => Reader.take n field
  | string field => Reader.string field
  | count field => Reader.count field

def field : Primitive α → String
  | byte field | int32 field | uint32 field | binary64 field | take _ field | string field
  | count field => field

/-- The length of a field that has a fixed one. -/
def width? : Primitive α → Option Nat
  | byte _ => some 1
  | int32 _ | uint32 _ => some 4
  | binary64 _ => some 8
  | take n _ => some n
  | string _ | count _ => none

end Primitive

/-- The stops of a reader that is run `n` times, or until it fails. -/
def stopsOfEntries (r : Reader α) (stops : Cursor → List Stop) : Nat → Cursor → List Stop
  | 0, _ => []
  | n + 1, c =>
    stops c ++
      match (r.run c).result with
      | .ok _ => stopsOfEntries r stops n (r.run c).cursor
      | .error _ => []

namespace Operation

def read {α : Type} : Operation α → Reader α
  | one p => p.read
  | setOrder order => Reader.setOrder order
  | table field entry => Reader.table field entry.read
  | value a => pure a
  | andThen first next => first.read >>= fun a => (next a).read

def stops {α : Type} : Operation α → Cursor → List Stop
  | one p, c => [⟨none, (p.read.run c).cursor⟩]
  | setOrder order, c => [⟨some order, { c with order }⟩]
  | table field entry, c =>
    let o := (Reader.count field).run c
    ⟨none, o.cursor⟩ ::
      match o.result with
      | .ok n => stopsOfEntries entry.read (fun c => entry.stops c) n o.cursor
      | .error _ => []
  | value _, _ => []
  | andThen first next, c =>
    first.stops c ++
      match (first.read.run c).result with
      | .ok a => (next a).stops (first.read.run c).cursor
      | .error _ => []

end Operation

namespace Script

/-- Where a script ends. -/
def run : Script → Cursor → Cursor
  | [], c => c
  | ⟨_, operation⟩ :: script, c => run script (operation.read.run c).cursor

def stops : Script → Cursor → List Stop
  | [], _ => []
  | ⟨_, operation⟩ :: script, c =>
    operation.stops c ++ stops script (operation.read.run c).cursor

end Script

/-! ## Trails -/

/-- **How a cursor gets to a stop**: over some of the bytes ahead, or to another byte order. -/
def Move (c : Cursor) (s : Stop) : Prop :=
  match s.set? with
  | none => ∃ n ≤ c.remaining, s.cursor = c.advance n
  | some order => s.cursor = { c with order }

/-- Moves one behind the other, by their stops. -/
inductive Trail : Cursor → List Stop → Cursor → Prop
  | nil (c : Cursor) : Trail c [] c
  | cons {c c' : Cursor} {s : Stop} {ss : List Stop} (first : Move c s)
    (rest : Trail s.cursor ss c') : Trail c (s :: ss) c'

namespace Trail

variable {c c' c'' : Cursor} {ss ts : List Stop}

theorem single {s : Stop} (h : Move c s) : Trail c [s] s.cursor := .cons h (.nil _)

theorem append (h : Trail c ss c') (h' : Trail c' ts c'') : Trail c (ss ++ ts) c'' := by
  induction h with
  | nil c => exact h'
  | cons first rest ih => exact .cons first (ih h')

theorem getLastD_eq (h : Trail c ss c') (set? : Option ByteOrder) :
    (ss.getLastD ⟨set?, c⟩).cursor = c' := by
  induction h generalizing set? with
  | nil c => rfl
  | @cons c c' s ss first rest ih =>
    rw [List.getLastD_cons]
    exact ih s.set?

/-- **Stop by stop, a cursor goes forward**, and the byte order is the one that was last set. -/
theorem isChain (h : Trail c ss c') (set? : Option ByteOrder) :
    List.IsChain (fun s t => s.cursor.position ≤ t.cursor.position
      ∧ t.cursor.order = t.set?.getD s.cursor.order) (⟨set?, c⟩ :: ss) := by
  induction h generalizing set? with
  | nil c => exact List.isChain_singleton _
  | @cons c c' s ss first rest ih =>
    refine List.isChain_cons_cons.mpr ⟨?_, ih s.set?⟩
    obtain ⟨_ | order, cursor⟩ := s
    · obtain ⟨n, -, rfl⟩ := first
      exact ⟨Nat.le_add_right _ n, rfl⟩
    · obtain rfl : cursor = { c with order } := first
      exact ⟨Nat.le_refl _, rfl⟩

/-- What no move changes: the file and the character set. -/
theorem forall_stops {file : List UInt8} (h : Trail c ss c') (hc : c.IsIn file) :
    ∀ s ∈ ss, s.cursor.IsIn file ∧ s.cursor.charset = c.charset := by
  induction h with
  | nil c => exact fun _ hs => absurd hs List.not_mem_nil
  | @cons c c' s ss first rest ih =>
    have hs : s.cursor.IsIn file ∧ s.cursor.charset = c.charset := by
      obtain ⟨_ | order, cursor⟩ := s
      · obtain ⟨n, hn, rfl⟩ := first
        exact ⟨hc.advance hn, rfl⟩
      · obtain rfl : cursor = { c with order } := first
        exact ⟨⟨hc.le, hc.rest⟩, rfl⟩
    intro t ht
    rcases List.mem_cons.mp ht with rfl | ht
    · exact hs
    · obtain ⟨hin, hcharset⟩ := ih hs.1 t ht
      exact ⟨hin, hcharset.trans hs.2⟩

end Trail

theorem Fixed.exists_advance {n : Nat} {field : String} {r : Reader α} (hr : r.Fixed n field)
    (c : Cursor) : ∃ m ≤ c.remaining, (r.run c).cursor = c.advance m := by
  rcases hr c with ⟨-, hrun⟩ | ⟨hle, a, hrun⟩
  · exact ⟨0, Nat.zero_le _, by rw [hrun]; rfl⟩
  · exact ⟨n, hle, by rw [hrun]⟩

theorem Primitive.fixed {p : Primitive α} {n : Nat} (h : p.width? = some n) :
    p.read.Fixed n p.field := by
  cases p <;> cases h
  · exact fixed_byte _
  · exact fixed_int32 _
  · exact fixed_uint32 _
  · exact fixed_binary64 _
  · exact Fixed.take _ _

theorem exists_advance_count (field : String) (c : Cursor) :
    ∃ n ≤ c.remaining, ((count field).run c).cursor = c.advance n := by
  rcases run_count_cases field c with ⟨-, hrun⟩ | ⟨n, hle, -, ⟨-, hrun⟩ | ⟨-, hrun⟩⟩ <;> rw [hrun]
  · exact ⟨0, Nat.zero_le _, rfl⟩
  · exact ⟨4, hle, rfl⟩
  · exact ⟨4, hle, rfl⟩

theorem exists_advance_string (field : String) (c : Cursor) :
    ∃ n ≤ c.remaining, ((string field).run c).cursor = c.advance n := by
  rcases run_string_cases field c with ⟨-, hrun⟩ | ⟨n, hle, -, ⟨-, hrun⟩ | ⟨-, hrun⟩ |
    ⟨-, -, hrun⟩ | ⟨-, hroom, -, hrun⟩ | ⟨-, hroom, a, events, hrun⟩⟩ <;> rw [hrun]
  · exact ⟨0, Nat.zero_le _, rfl⟩
  · exact ⟨4, hle, rfl⟩
  · exact ⟨4, hle, rfl⟩
  · exact ⟨4, hle, rfl⟩
  · exact ⟨_, hroom, rfl⟩
  · exact ⟨_, hroom, rfl⟩

theorem Primitive.exists_advance (p : Primitive α) (c : Cursor) :
    ∃ n ≤ c.remaining, (p.read.run c).cursor = c.advance n := by
  cases p with
  | string field => exact exists_advance_string field c
  | count field => exact exists_advance_count field c
  | _ => exact (Primitive.fixed rfl).exists_advance c

theorem trail_entries {r : Reader α} {stops : Cursor → List Stop}
    (h : ∀ c, Trail c (stops c) (r.run c).cursor) (i n : Nat) (c : Cursor) :
    Trail c (stopsOfEntries r stops n c) ((entries r i n).run c).cursor := by
  induction n generalizing i c with
  | zero => exact .nil c
  | succ n ih =>
    rw [entries, stopsOfEntries]
    refine (h c).append ?_
    cases hfirst : (r.run c).result with
    | error e =>
      have hwithin : ((within (Path.index i) r).run c).result
          = .error (e.within (Path.index i)) := by rw [run_within, hfirst]; rfl
      rw [cursor_bind_of_error hwithin]
      exact .nil _
    | ok a =>
      have hwithin : ((within (Path.index i) r).run c).result = .ok a :=
        result_within_eq_ok.mpr hfirst
      rw [cursor_bind_of_ok hwithin]
      have hrest := ih (i + 1) (r.run c).cursor
      cases hresult : ((entries r (i + 1) n).run (r.run c).cursor).result with
      | error e => exact (cursor_bind_of_error hresult).symm ▸ hrest
      | ok as => exact (cursor_bind_of_ok hresult).symm ▸ hrest

/-- **An operation is a row of moves.**  By induction on the operation; a table's entries take their
moves from the one operation that each of them is. -/
theorem Operation.trail_stops (operation : Operation α) (c : Cursor) :
    Trail c (operation.stops c) (operation.read.run c).cursor := by
  induction operation generalizing c with
  | one p => exact .single (p.exists_advance c)
  | setOrder order => exact .single rfl
  | value a => exact .nil c
  | table field entry ih =>
    refine .cons (exists_advance_count field c) ?_
    rw [read, Reader.table]
    cases hcount : ((count field).run c).result with
    | error e =>
      rw [cursor_bind_of_error hcount]
      exact .nil _
    | ok n =>
      rw [cursor_bind_of_ok hcount]
      exact trail_entries ih 0 n _
  | andThen first next ih ihnext =>
    rw [stops, read]
    refine (ih c).append ?_
    cases hfirst : (first.read.run c).result with
    | error e =>
      rw [cursor_bind_of_error hfirst]
      exact .nil _
    | ok a =>
      rw [cursor_bind_of_ok hfirst]
      exact ihnext a _

/-- **So is a script.** -/
theorem Script.trail_stops (script : Script) (c : Cursor) :
    Trail c (script.stops c) (script.run c) := by
  induction script generalizing c with
  | nil => exact .nil c
  | cons operation script ih => exact (operation.2.trail_stops c).append (ih _)

/-! ## What a value depends on -/

/-- **A value depends on nothing but the bytes that were read for it**, and the two settings. -/
def Local (r : Reader α) : Prop :=
  ∀ c a, (r.run c).result = .ok a →
    ∃ read rest order, c.rest = read ++ rest ∧ ∀ c' rest', c'.rest = read ++ rest' →
      c'.order = c.order → c'.charset = c.charset →
        (r.run c').result = .ok a
          ∧ (r.run c').cursor = ⟨rest', c'.position + read.length, order, c.charset⟩

namespace Local

variable {β : Type}

theorem of_reads {ρ : Type} {r : Reader α} {L : Layout ρ α} (hr : r.Reads L) : r.Local := by
  intro c a ha
  obtain ⟨x, tail, hx, hrest, rfl⟩ := hr.exists_raw ha
  refine ⟨_, tail, c.order, hrest, fun c' rest' hrest' horder hcharset => ?_⟩
  rw [← horder] at hrest' ⊢
  rw [hr.run_eq hx hrest', hcharset]
  exact ⟨rfl, rfl⟩

theorem setOrder (order : ByteOrder) : (Reader.setOrder order).Local :=
  fun c _ _ => ⟨[], c.rest, order, rfl, fun c' rest' hrest _ hcharset =>
    ⟨rfl, by rw [run_setOrder, ← hcharset, ← List.nil_append rest', ← hrest]; rfl⟩⟩

theorem within {r : Reader α} (hr : r.Local) (segment : String) :
    (Reader.within segment r).Local := by
  intro c a ha
  obtain ⟨read, rest, order, hrest, h⟩ := hr c a (result_within_eq_ok.mp ha)
  refine ⟨read, rest, order, hrest, fun c' rest' hrest' horder hcharset => ?_⟩
  obtain ⟨hresult, hcursor⟩ := h c' rest' hrest' horder hcharset
  exact ⟨result_within_eq_ok.mpr hresult, hcursor⟩

/-- Two readers in a row read the bytes of the one and then those of the other. -/
theorem bind {r : Reader α} {next : α → Reader β} (hr : r.Local) (hnext : ∀ a, (next a).Local) :
    (r >>= next).Local := by
  intro c b hb
  obtain ⟨a, ha, hb⟩ := result_bind_eq_ok.mp hb
  obtain ⟨read, rest, order, hrest, h⟩ := hr c a ha
  rw [(h c rest hrest rfl rfl).2] at hb
  obtain ⟨read', rest', order', hrest', h'⟩ := hnext a _ b hb
  obtain rfl : rest = read' ++ rest' := hrest'
  refine ⟨read ++ read', rest', order', by rw [hrest, List.append_assoc],
    fun c' tail htail horder hcharset => ?_⟩
  rw [List.append_assoc] at htail
  obtain ⟨hresult, hcursor⟩ := h c' _ htail horder hcharset
  rw [result_bind_of_ok hresult, cursor_bind_of_ok hresult, hcursor, List.length_append,
    ← Nat.add_assoc]
  exact h' _ tail rfl rfl rfl

theorem entries {r : Reader α} (hr : r.Local) (i n : Nat) : (Reader.entries r i n).Local := by
  induction n generalizing i with
  | zero => exact of_reads (Reads.pure [])
  | succ n ih =>
    exact (hr.within _).bind fun a => (ih (i + 1)).bind fun as => of_reads (Reads.pure (a :: as))

theorem table {r : Reader α} (hr : r.Local) (field : String) : (Reader.table field r).Local :=
  (of_reads (reads_count field)).bind fun n => (hr.entries 0 n).within field

end Local

theorem Primitive.isLocal (p : Primitive α) : p.read.Local := by
  cases p with
  | byte field => exact .of_reads (reads_byte field)
  | int32 field => exact .of_reads (reads_int32 field)
  | uint32 field => exact .of_reads (reads_uint32 field)
  | binary64 field => exact .of_reads (reads_binary64 field)
  | take n field => exact .of_reads (reads_take n field)
  | string field => exact .of_reads (reads_string field)
  | count field => exact .of_reads (reads_count field)

theorem Operation.isLocal (operation : Operation α) : operation.read.Local := by
  induction operation with
  | one p => exact p.isLocal
  | setOrder order => exact .setOrder order
  | value a => exact .of_reads (Reads.pure a)
  | table field entry ih => exact ih.table field
  | andThen first next ih ihnext => exact ih.bind ihnext

/-- The bytes read are those between the two positions. -/
theorem Local.run_eq {r : Reader α} (hr : r.Local) {c c' : Cursor} {a : α} {n : Nat}
    (ha : (r.run c).result = .ok a) (hn : (r.run c).cursor.position - c.position = n)
    (hbytes : c'.rest.take n = c.rest.take n) (horder : c'.order = c.order)
    (hcharset : c'.charset = c.charset) :
    (r.run c').result = .ok a ∧ (r.run c').cursor.position = c'.position + n
      ∧ (r.run c').cursor.order = (r.run c).cursor.order := by
  obtain ⟨read, rest, order, hrest, h⟩ := hr c a ha
  rw [(h c rest hrest rfl rfl).2] at hn ⊢
  obtain rfl : read.length = n := (Nat.add_sub_cancel_left _ _).symm.trans hn
  rw [hrest, List.take_left] at hbytes
  have hrest' : c'.rest = read ++ c'.rest.drop read.length := by
    conv_lhs => rw [← List.take_append_drop read.length c'.rest, hbytes]
  obtain ⟨hresult, hcursor⟩ := h c' _ hrest' horder hcharset
  rw [hcursor]
  exact ⟨hresult, rfl, rfl⟩

/-! ## Failures -/

theorem Fixed.of_error {n : Nat} {field : String} {r : Reader α} (hr : r.Fixed n field) {c : Cursor}
    {e : Fault} (h : (r.run c).result = .error e) :
    c.remaining < n ∧ (r.run c).cursor = c := by
  rcases hr c with ⟨hlt, hrun⟩ | ⟨-, a, hrun⟩ <;> rw [hrun] at h ⊢
  · exact ⟨hlt, rfl⟩
  · cases h

theorem string_of_error {field : String} {c : Cursor} {e : Fault}
    (h : ((string field).run c).result = .error e) :
    (c.remaining < 4 ∧ ((string field).run c).cursor = c)
    ∨ ∃ n : Int32, 4 ≤ c.remaining ∧ ((int32 field).run c).result = .ok n
      ∧ (((n.toInt ≤ 0 ∨ c.remaining < 4 + n.toInt.toNat)
          ∧ ((string field).run c).cursor = c.advance 4)
        ∨ (0 < n.toInt ∧ 4 + n.toInt.toNat ≤ c.remaining
          ∧ ((c.rest.drop 4).take n.toInt.toNat).getLastD 0 ≠ 0
          ∧ ((string field).run c).cursor = c.advance (4 + n.toInt.toNat))) := by
  rcases run_string_cases field c with ⟨hlt, hrun⟩ | ⟨n, hle, hn, ⟨hneg, hrun⟩ | ⟨hzero, hrun⟩ |
    ⟨hpos, hshort, hrun⟩ | ⟨hpos, hroom, hlast, hrun⟩ | ⟨-, -, a, events, hrun⟩⟩ <;>
    rw [hrun] at h ⊢
  · exact .inl ⟨hlt, rfl⟩
  · exact .inr ⟨n, hle, hn, .inl ⟨.inl (Int.le_of_lt hneg), rfl⟩⟩
  · exact .inr ⟨n, hle, hn, .inl ⟨.inl (Int.le_of_eq hzero), rfl⟩⟩
  · exact .inr ⟨n, hle, hn, .inl ⟨.inr hshort, rfl⟩⟩
  · exact .inr ⟨n, hle, hn, .inr ⟨hpos, hroom, hlast, rfl⟩⟩
  · cases h

theorem count_of_error {field : String} {c : Cursor} {e : Fault}
    (h : ((count field).run c).result = .error e) :
    (c.remaining < 4 ∧ ((count field).run c).cursor = c)
    ∨ ∃ n : Int32, 4 ≤ c.remaining ∧ ((int32 field).run c).result = .ok n ∧ n.toInt < 0
      ∧ ((count field).run c).cursor = c.advance 4 := by
  rcases run_count_cases field c with ⟨hlt, hrun⟩ | ⟨n, hle, hn, ⟨hneg, hrun⟩ | ⟨-, hrun⟩⟩ <;>
    rw [hrun] at h ⊢
  · exact .inl ⟨hlt, rfl⟩
  · exact .inr ⟨n, hle, hn, hneg, rfl⟩
  · cases h

theorem table_of_error {field : String} {r : Reader α} {c : Cursor} {e : Fault}
    (h : ((table field r).run c).result = .error e) :
    (((count field).run c).result = .error e
      ∧ ((table field r).run c).cursor = ((count field).run c).cursor)
    ∨ ∃ n as middle e', ((count field).run c).result = .ok n ∧ as.length < n
      ∧ Repeats r (c.advance 4) as middle ∧ (r.run middle).result = .error e'
      ∧ e = (e'.within (Path.index as.length)).within field
      ∧ ((table field r).run c).cursor = (r.run middle).cursor := by
  rcases run_table_cases field r c with ⟨e', hcount, hresult, hcursor⟩ | ⟨n, hcount,
    ⟨as, -, hresult, -⟩ | ⟨as, middle, e', hlt, hrepeats, he, hresult, hcursor⟩⟩ <;>
    rw [h] at hresult <;> cases hresult
  · exact .inl ⟨hcount, hcursor⟩
  · exact .inr ⟨n, as, middle, e', hcount, hlt, hrepeats, he, rfl, hcursor⟩

/-! ## The discipline -/

/-- **What any sequence of reads does to a cursor**, whichever of them fail. -/
theorem cursor_discipline :
    -- At every stop of a script the cursor is in the file, between what it has read and the rest.
    (∀ bytes order charset (script : Script), ∀ s ∈ script.stops (.start bytes order charset),
      s.cursor.position ≤ bytes.length
      ∧ s.cursor.position + s.cursor.remaining = bytes.length
      ∧ s.cursor.rest = bytes.drop s.cursor.position
      ∧ s.cursor.charset = charset)
    -- From stop to stop it goes forward, and only `setOrder` changes the byte order.
    ∧ (∀ bytes order charset (script : Script),
      let start : Stop := ⟨none, .start bytes order charset⟩
      List.IsChain (fun s t => s.cursor.position ≤ t.cursor.position
        ∧ t.cursor.order = t.set?.getD s.cursor.order) (start :: script.stops start.cursor)
      ∧ ((script.stops start.cursor).getLastD start).cursor = script.run start.cursor)
    -- A field of a fixed length that fails has read nothing.
    ∧ (∀ (α : Type) (p : Primitive α) (n : Nat) c e, p.width? = some n →
      (p.read.run c).result = .error e → c.remaining < n ∧ (p.read.run c).cursor = c)
    -- A string that fails has read nothing, its length, or all of it.
    ∧ (∀ field c e, ((string field).run c).result = .error e →
      (c.remaining < 4 ∧ ((string field).run c).cursor = c)
      ∨ ∃ n : Int32, 4 ≤ c.remaining ∧ ((int32 field).run c).result = .ok n
        ∧ (((n.toInt ≤ 0 ∨ c.remaining < 4 + n.toInt.toNat)
            ∧ ((string field).run c).cursor = c.advance 4)
          ∨ (0 < n.toInt ∧ 4 + n.toInt.toNat ≤ c.remaining
            ∧ ((c.rest.drop 4).take n.toInt.toNat).getLastD 0 ≠ 0
            ∧ ((string field).run c).cursor = c.advance (4 + n.toInt.toNat))))
    -- A number of entries that fails has read nothing, or was negative.
    ∧ (∀ field c e, ((count field).run c).result = .error e →
      (c.remaining < 4 ∧ ((count field).run c).cursor = c)
      ∨ ∃ n : Int32, 4 ≤ c.remaining ∧ ((int32 field).run c).result = .ok n ∧ n.toInt < 0
        ∧ ((count field).run c).cursor = c.advance 4)
    -- A table that fails stops where its number of entries does, or its first entry that fails.
    ∧ (∀ (α : Type) field (r : Reader α) c e, ((table field r).run c).result = .error e →
      (((count field).run c).result = .error e
        ∧ ((table field r).run c).cursor = ((count field).run c).cursor)
      ∨ ∃ n as middle e', ((count field).run c).result = .ok n ∧ as.length < n
        ∧ Repeats r (c.advance 4) as middle ∧ (r.run middle).result = .error e'
        ∧ e = (e'.within (Path.index as.length)).within field
        ∧ ((table field r).run c).cursor = (r.run middle).cursor)
    -- What is read depends on the bytes between the two positions and on the two settings.
    ∧ (∀ (α : Type) (operation : Operation α) c c' a (n : Nat),
      (operation.read.run c).result = .ok a →
      (operation.read.run c).cursor.position - c.position = n →
      c'.rest.take n = c.rest.take n → c'.order = c.order → c'.charset = c.charset →
        (operation.read.run c').result = .ok a
        ∧ (operation.read.run c').cursor.position = c'.position + n
        ∧ (operation.read.run c').cursor.order = (operation.read.run c).cursor.order) := by
  refine ⟨fun bytes order charset script s hs => ?_, fun bytes order charset script => ?_,
    fun α p n c e hp he => (Primitive.fixed hp).of_error he, fun field c e he => string_of_error he,
    fun field c e he => count_of_error he, fun α field r c e he => table_of_error he,
    fun α operation c c' a n ha hn hbytes horder hcharset =>
      operation.isLocal.run_eq ha hn hbytes horder hcharset⟩
  · have htrail := script.trail_stops (.start bytes order charset)
    obtain ⟨hin, hcharset⟩ := htrail.forall_stops (.start bytes order charset) s hs
    exact ⟨hin.le, hin.position_add_remaining, hin.rest, hcharset⟩
  · have htrail := script.trail_stops (.start bytes order charset)
    exact ⟨htrail.isChain none, htrail.getLastD_eq none⟩

/-- A string of a negative length, then two strings in the other byte order, of which the second is
cut off, then what is left of the file: every kind of failure, and reading goes on behind each. -/
theorem cursor_discipline_failures :
    let bytes : List UInt8 := [255, 255, 255, 255, 0, 0, 0, 2, 0, 0, 0, 2, 97, 0, 0, 7]
    let script : Script :=
      [⟨_, .one (.string "name")⟩, ⟨_, .setOrder .big⟩,
        ⟨_, .table "texts" (.one (.string "text"))⟩, ⟨_, .one (.byte "flag")⟩,
        ⟨_, .one (.binary64 "number")⟩]
    let start : Stop := ⟨none, .start bytes .little .utf8⟩
    let behind : Cursor := ⟨[7], 15, .big, .utf8⟩
    (script.stops start.cursor).map (·.cursor.position) = [4, 4, 8, 14, 14, 15, 15]
    ∧ script.run start.cursor = behind
    ∧ (∀ s ∈ script.stops start.cursor, s.cursor.position ≤ bytes.length
      ∧ s.cursor.position + s.cursor.remaining = bytes.length
      ∧ s.cursor.rest = bytes.drop s.cursor.position ∧ s.cursor.charset = .utf8)
    ∧ (behind.remaining < 8 ∧ ((binary64 "number").run behind).cursor = behind)
    ∧ ((int32 "flags").run start.cursor).result = .ok (-1) := by
  refine ⟨by decide +kernel, by decide +kernel, cursor_discipline.1 _ .little .utf8 _,
    cursor_discipline.2.2.1 _ (.binary64 "number") 8 _ (.truncated "number" 15 8 1) rfl rfl, ?_⟩
  exact (cursor_discipline.2.2.2.2.2.2 _ (.one (.int32 "flags"))
    (.start [255, 255, 255, 255] .little .utf8) _ (-1) 4 rfl rfl rfl rfl rfl).1

end Reader

end LuaChunk
