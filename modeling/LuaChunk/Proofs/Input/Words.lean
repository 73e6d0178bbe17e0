import LuaChunk.Overrun
import LuaChunk.Proofs.Input.Advance
import LuaChunk.Proofs.Input.Outcomes

/-!
# Proofs/Input/Words — reading in machine words

    Cursor     the bytes ahead, the number of those behind       Reader
    Place      the whole file, and a position of 64 bits         WordReader

A machine reads a file with words.  It has no numbers but those of 64 bits and no bytes but those of
the file, and each sum, difference, quotient and access is **checked**: one that is not exact is a
**trap**, and ends everything.

A word reader is **exact** from a position on if it never traps and does what a reader does
(`Exact`).  The position matters for one step only, the depth of a nested function: it is never
ahead of the position, and a position is always a word.
-/

namespace LuaChunk

/-- What a machine cannot do. -/
inductive Trap where
  | sum
  | difference
  | product
  | quotient
  /-- An access outside of a list. -/
  | access
  /-- A call for a function that no number of levels has been set aside for. -/
  | levels
  deriving DecidableEq, Repr

/-! ## Checked steps -/

namespace Checked

def add (a b : UInt64) : Except Trap UInt64 :=
  if a.toNat + b.toNat < wordCount then .ok (a + b) else .error .sum

def sub (a b : UInt64) : Except Trap UInt64 := if b ≤ a then .ok (a - b) else .error .difference

def mul (a b : UInt64) : Except Trap UInt64 :=
  if a.toNat * b.toNat < wordCount then .ok (a * b) else .error .product

def div (a b : UInt64) : Except Trap UInt64 := if b = 0 then .error .quotient else .ok (a / b)

/-- The bytes from one index up to another. -/
def slice (bytes : List UInt8) (start stop : UInt64) : Except Trap (List UInt8) :=
  if start ≤ stop ∧ stop.toNat ≤ bytes.length then
    .ok ((bytes.drop start.toNat).take (stop.toNat - start.toNat))
  else .error .access

/-- The byte at an index. -/
def get (bytes : List UInt8) (i : UInt64) : Except Trap UInt8 :=
  match bytes[i.toNat]? with
  | some b => .ok b
  | none => .error .access

theorem toNat_ofNat {n : Nat} (h : n < wordCount) : (UInt64.ofNat n).toNat = n :=
  UInt64.toNat_ofNat_of_lt' h

/-- Every word is a number. -/
theorem exists_eq_ofNat (n : UInt64) : ∃ k, k < wordCount ∧ n = .ofNat k :=
  ⟨n.toNat, n.toNat_lt, UInt64.ofNat_toNat.symm⟩

theorem add_ofNat {m n : Nat} (h : m + n < wordCount) :
    add (.ofNat m) (.ofNat n) = .ok (.ofNat (m + n)) := by
  have hm : m < wordCount := by omega
  have hn : n < wordCount := by omega
  rw [add, toNat_ofNat hm, toNat_ofNat hn, if_pos h, UInt64.ofNat_add]

theorem sub_ofNat {m n : Nat} (hm : m < wordCount) (h : n ≤ m) :
    sub (.ofNat m) (.ofNat n) = .ok (.ofNat (m - n)) := by
  have hn : n < wordCount := by omega
  have hle : UInt64.ofNat n ≤ UInt64.ofNat m := by
    rw [UInt64.le_iff_toNat_le, toNat_ofNat hm, toNat_ofNat hn]
    exact h
  have hmn : m - n < wordCount := by omega
  rw [sub, if_pos hle]
  refine congrArg Except.ok (UInt64.toNat_inj.mp ?_)
  rw [UInt64.toNat_sub_of_le _ _ hle, toNat_ofNat hm, toNat_ofNat hn, toNat_ofNat hmn]

theorem mul_ofNat {m n : Nat} (hm : m < wordCount) (hn : n < wordCount) (h : m * n < wordCount) :
    mul (.ofNat m) (.ofNat n) = .ok (.ofNat (m * n)) := by
  rw [mul, toNat_ofNat hm, toNat_ofNat hn, if_pos h, UInt64.ofNat_mul]

theorem slice_ofNat {bytes : List UInt8} {i j : Nat} (hij : i ≤ j) (hj : j ≤ bytes.length)
    (h : bytes.length < wordCount) :
    slice bytes (.ofNat i) (.ofNat j) = .ok ((bytes.drop i).take (j - i)) := by
  have hj' : j < wordCount := by omega
  have hi' : i < wordCount := by omega
  have hle : UInt64.ofNat i ≤ UInt64.ofNat j := by
    rw [UInt64.le_iff_toNat_le, toNat_ofNat hi', toNat_ofNat hj']
    exact hij
  rw [slice, toNat_ofNat hi', toNat_ofNat hj', if_pos ⟨hle, hj⟩]

end Checked

/-! ## Readers in words -/

/-- A place in a file. -/
structure Place where
  file : List UInt8
  position : UInt64
  order : ByteOrder
  charset : Charset

namespace Place

/-- The place of a cursor. -/
def of (file : List UInt8) (c : Cursor) : Place := ⟨file, .ofNat c.position, c.order, c.charset⟩

/-- The cursor at a place. -/
def cursor (p : Place) : Cursor :=
  ⟨p.file.drop p.position.toNat, p.position.toNat, p.order, p.charset⟩

/-- The length of the file. -/
def size (p : Place) : UInt64 := .ofNat p.file.length

theorem cursor_of {file : List UInt8} {c : Cursor} (hc : c.IsIn file)
    (hfile : file.length < signedCount) : (of file c).cursor = c := by
  have hle := hc.le
  have hposition : c.position < wordCount := by
    simp only [signedCount, wordCount] at hfile ⊢
    omega
  simp only [cursor, of, Checked.toNat_ofNat hposition, ← hc.rest]

end Place

/-- What reading comes to. -/
structure Arrival (α : Type) where
  result : Except Fault α
  place : Place
  events : List Event

/-- A reader on a machine. -/
structure WordReader (α : Type) where
  run : Place → Except Trap (Arrival α)

variable {α β : Type}

/-- Goes on from where a reader has arrived, unless that is a fault. -/
def Arrival.andThen (o : Arrival α) (next : α → WordReader β) : Except Trap (Arrival β) :=
  match o with
  | ⟨.ok a, p, events⟩ =>
    ((next a).run p).map fun o => ⟨o.result, o.place, events ++ o.events⟩
  | ⟨.error e, p, events⟩ => .ok ⟨.error e, p, events⟩

namespace WordReader

instance : Monad WordReader where
  pure a := ⟨fun p => .ok ⟨.ok a, p, []⟩⟩
  bind r next := ⟨fun p => (r.run p).bind fun o => o.andThen next⟩

/-- The value of a checked step. -/
def checked (x : Except Trap α) : WordReader α := ⟨fun p => x.map fun a => ⟨.ok a, p, []⟩⟩

/-- The place itself. -/
def place : WordReader Place := ⟨fun p => .ok ⟨.ok p, p, []⟩⟩

def moveTo (position : UInt64) : WordReader Unit := ⟨fun p => .ok ⟨.ok (), { p with position }, []⟩⟩

/-- What a reader does that stays where it is. -/
def still (r : Reader α) : WordReader α :=
  ⟨fun p =>
    let o := r.run p.cursor
    .ok ⟨o.result, { p with order := o.cursor.order }, o.events⟩⟩

def fail (fault : Fault) : WordReader α := still (Reader.fail fault)

/-- Puts a segment in front of the path of a fault. -/
def within (segment : String) (r : WordReader α) : WordReader α :=
  ⟨fun p => (r.run p).map fun o => { o with result := o.result.mapError (Fault.within segment) }⟩

/-- The number of bytes ahead. -/
def remaining : WordReader UInt64 := do
  let p ← place
  checked (Checked.sub p.size p.position)

/-- The next `n` bytes. -/
def take (n : UInt64) (field : String) : WordReader (List UInt8) := do
  let available ← remaining
  let p ← place
  if available < n then
    fail (.truncated field p.position.toNat n.toNat available.toNat)
  else do
    let stop ← checked (Checked.add p.position n)
    let bytes ← checked (Checked.slice p.file p.position stop)
    moveTo stop
    return bytes

def byte (field : String) : WordReader UInt8 := do
  let bytes ← take 1 field
  checked (Checked.get bytes 0)

/-- A number of `width` bytes, which have to be there. -/
def natural (width : UInt64) (field : String) : WordReader Nat := do
  let bytes ← take width field
  let digits ← checked (Checked.slice bytes 0 width)
  return (← place).order.value digits

def uint32 (field : String) : WordReader UInt32 := do
  return UInt32.ofNat (← natural 4 field)

def int32 (field : String) : WordReader Int32 := do
  return (← uint32 field).toInt32

def binary64 (field : String) : WordReader Binary64 := do
  return ⟨UInt64.ofNat (← natural 8 field)⟩

/-- The index of the last byte that is not NUL. -/
def lastText? (bytes : List UInt8) : Option Nat :=
  (bytes.reverse.findIdx? (· != 0)).map (bytes.length - 1 - ·)

/-- What follows the length of a string. -/
def terminated (n : UInt64) (field : String) : WordReader String := do
  let bytes ← take n field
  let last ← checked (Checked.sub (.ofNat bytes.length) 1)
  let payload ← checked (Checked.slice bytes 0 last)
  let ending ← checked (Checked.slice bytes last (.ofNat bytes.length))
  let terminator ← checked (Checked.get ending 0)
  if terminator != 0 then do
    let offset ← checked (Checked.sub (← place).position 1)
    fail (.malformedString field offset.toNat .noTerminator)
  else do
    let stop ← checked (match lastText? payload with
      | some i => Checked.add (.ofNat i) 1
      | none => .ok 0)
    let text ← checked (Checked.slice payload 0 stop)
    still (Reader.text text)

def string (field : String) : WordReader String := do
  let offset := (← place).position
  let length := (← int32 field).toInt
  if length < 0 then fail (.malformedLength field offset.toNat length)
  else if length = 0 then fail (.malformedString field offset.toNat .noRoom)
  else terminated (.ofNat length.toNat) field

def count (field : String) : WordReader Nat := do
  let offset := (← place).position
  let n := (← int32 field).toInt
  if n < 0 then fail (.malformedLength field offset.toNat n) else pure n.toNat

/-- The number of entries that room is made for, if an entry has at least some length. -/
def reserve (n least : UInt64) : WordReader UInt64 := do
  let room ← checked (Checked.div (← remaining) (max least 1))
  return min n room

def entries (entry : WordReader α) (i : Nat) : Nat → WordReader (List α)
  | 0 => pure []
  | n + 1 => do
    let a ← within (Path.index i) entry
    return a :: (← entries entry (i + 1) n)

/-- A table, with room made for its entries if a least length is given. -/
def table (field : String) (least? : Option UInt64) (entry : WordReader α) :
    WordReader (List α) := do
  let n ← count field
  match least? with
  | some least =>
    let _ ← reserve (.ofNat n) least
    within field (entries entry 0 n)
  | none => within field (entries entry 0 n)

end WordReader

/-! ## Exact readers -/

/-- A step that is done changes nothing about the rest. -/
theorem WordReader.run_bind_of_done {first : WordReader α} {p : Place} {a : α}
    (h : first.run p = .ok ⟨.ok a, p, []⟩) (next : α → WordReader β) :
    (first >>= next).run p = (next a).run p := by
  change (first.run p).bind _ = _
  rw [h]
  change ((next a).run p).map (fun o => Arrival.mk o.result o.place ([] ++ o.events)) = _
  cases (next a).run p <;> rfl

theorem WordReader.run_checked {x : Except Trap α} {a : α} (h : x = .ok a) (p : Place) :
    (checked x).run p = .ok ⟨.ok a, p, []⟩ := by
  subst h
  rfl

/-- Where an outcome leaves a machine. -/
def Outcome.arrival (file : List UInt8) (o : Outcome α) : Arrival α :=
  ⟨o.result, .of file o.cursor, o.events⟩

namespace Reader

variable {file : List UInt8} {c : Cursor} {n : Nat}

/-- **A machine does what a reader does**, from a place in a file. -/
structure ExactAt (file : List UInt8) (c : Cursor) (m : WordReader α) (r : Reader α) : Prop where
  run : m.run (.of file c) = .ok ((r.run c).arrival file)
  isIn : (r.run c).cursor.IsIn file

namespace ExactAt

variable {m : WordReader α} {r : Reader α}

theorem pure (hc : c.IsIn file) (a : α) :
    ExactAt file c (Pure.pure a) (Pure.pure a : Reader α) := ⟨rfl, hc⟩

theorem of_run {r' : Reader α} (h : r.run c = r'.run c) (hr : ExactAt file c m r') :
    ExactAt file c m r := ⟨by rw [h, hr.run], by rw [h]; exact hr.isIn⟩

theorem bind {next : α → WordReader β} {next' : α → Reader β} (hr : ExactAt file c m r)
    (hnext : ∀ a, (r.run c).result = .ok a → (r.run c).cursor.IsIn file →
      ExactAt file (r.run c).cursor (next a) (next' a)) :
    ExactAt file c (m >>= next) (r >>= next') := by
  obtain ⟨hrun, hin⟩ := hr
  have hbind : (m >>= next).run (.of file c) = ((r.run c).arrival file).andThen next := by
    change (m.run (.of file c)).bind _ = _
    rw [hrun]
    rfl
  refine ⟨?_, ?_⟩
  · rw [hbind, run_bind]
    generalize r.run c = o at hin hnext
    obtain ⟨_ | a, c', events⟩ := o
    · rfl
    · change ((next a).run (.of file c')).map _ = _
      rw [(hnext a rfl hin).run]
      rfl
  · rw [run_bind]
    generalize r.run c = o at hin hnext
    obtain ⟨_ | a, c', events⟩ := o
    · exact hin
    · exact (hnext a rfl hin).isIn

/-- A step of the machine alone goes without saying, if it is done. -/
theorem step {first : WordReader β} {b : β} {next : β → WordReader α}
    (h : first.run (.of file c) = .ok ⟨.ok b, .of file c, []⟩)
    (hnext : ExactAt file c (next b) r) : ExactAt file c (first >>= next) r :=
  ⟨(WordReader.run_bind_of_done h next).trans hnext.run, hnext.isIn⟩

theorem checked {x : Except Trap β} {b : β} {next : β → WordReader α} (hx : x = .ok b)
    (hnext : ExactAt file c (next b) r) : ExactAt file c (WordReader.checked x >>= next) r :=
  step (WordReader.run_checked hx _) hnext

theorem result {x : Except Trap α} {a : α} (hc : c.IsIn file) (hx : x = .ok a) :
    ExactAt file c (WordReader.checked x) (Pure.pure a) := ⟨WordReader.run_checked hx _, hc⟩

theorem place {next : Place → WordReader α} (hnext : ExactAt file c (next (.of file c)) r) :
    ExactAt file c (WordReader.place >>= next) r := step rfl hnext

/-- So does a look of the reader alone. -/
theorem cursor {next : Cursor → Reader α} (hnext : ExactAt file c m (next c)) :
    ExactAt file c m (Reader.cursor >>= next) := ⟨hnext.run, hnext.isIn⟩

theorem still (hfile : file.length < signedCount) (hc : c.IsIn file)
    (h : (r.run c).cursor = { c with order := (r.run c).cursor.order }) :
    ExactAt file c (WordReader.still r) r := by
  refine ⟨?_, ?_⟩
  · change Except.ok _ = _
    rw [Place.cursor_of hc hfile, Outcome.arrival, h]
    rfl
  · rw [h]
    exact ⟨hc.le, hc.rest⟩

theorem fail (hfile : file.length < signedCount) (hc : c.IsIn file) (e : Fault) :
    ExactAt file c (WordReader.fail e) (Reader.fail e : Reader α) := still hfile hc rfl

end ExactAt

/-- **A machine does what a reader does**, from position `n` of any file on that a machine can
hold. -/
def Exact (n : Nat) (m : WordReader α) (r : Reader α) : Prop :=
  ∀ file c, file.length < signedCount → c.IsIn file → n ≤ c.position → ExactAt file c m r

namespace Exact

variable {m : WordReader α} {r : Reader α}

theorem mono {k : Nat} (hr : Exact n m r) (h : n ≤ k) : Exact k m r :=
  fun file c hfile hc hk => hr file c hfile hc (Nat.le_trans h hk)

theorem pure (a : α) : Exact n (Pure.pure a) (Pure.pure a : Reader α) :=
  fun _ _ _ hc _ => .pure hc a

theorem fail (e : Fault) : Exact n (WordReader.fail e) (Reader.fail e : Reader α) :=
  fun _ _ hfile hc _ => .fail hfile hc e

theorem still (h : ∀ c, (r.run c).cursor = { c with order := (r.run c).cursor.order }) :
    Exact n (WordReader.still r) r := fun _ c hfile hc _ => .still hfile hc (h c)

theorem checked {x : Except Trap β} {b : β} {next : β → WordReader α} (hx : x = .ok b)
    (hnext : Exact n (next b) r) : Exact n (WordReader.checked x >>= next) r :=
  fun file c hfile hc hn => .checked hx (hnext file c hfile hc hn)

/-- What was read by the first is behind the second. -/
theorem bind {k : Nat} {next : α → WordReader β} {next' : α → Reader β} (hr : Exact n m r)
    (hadvance : r.Advances k) (hnext : ∀ a, Exact (n + k) (next a) (next' a)) :
    Exact n (m >>= next) (r >>= next') := by
  intro file c hfile hc hn
  refine (hr file c hfile hc hn).bind fun a ha hin => hnext a file _ hfile hin ?_
  have hposition := hadvance c a ha
  omega

/-- A field, from any position on. -/
theorem field {k : Nat} {next : α → WordReader β} {next' : α → Reader β} (hr : Exact 0 m r)
    (hadvance : r.Advances k) (hnext : ∀ a, Exact n (next a) (next' a)) :
    Exact n (m >>= next) (r >>= next') :=
  (hr.mono (Nat.zero_le n)).bind (hadvance.mono (Nat.zero_le k)) hnext

theorem within (hr : Exact n m r) (segment : String) :
    Exact n (WordReader.within segment m) (Reader.within segment r) := by
  intro file c hfile hc hn
  obtain ⟨hrun, hin⟩ := hr file c hfile hc hn
  refine ⟨?_, hin⟩
  change (m.run (.of file c)).map _ = _
  rw [hrun]
  rfl

theorem entries (hr : Exact n m r) (hadvance : r.Advances 0) (i k : Nat) :
    Exact n (WordReader.entries m i k) (Reader.entries r i k) := by
  induction k generalizing i with
  | zero => exact .pure []
  | succ k ih =>
    exact (hr.within _).bind (hadvance.within _) fun a =>
      (ih (i + 1)).bind ((hadvance.entries _ _).mono (Nat.zero_le _)) fun as => .pure (a :: as)

end Exact

/-! ## The fields -/

theorem lt_wordCount (hfile : file.length < signedCount) : file.length < wordCount :=
  Nat.lt_trans hfile (by decide)

theorem run_remaining (hfile : file.length < signedCount) (hc : c.IsIn file) :
    WordReader.remaining.run (.of file c) = .ok ⟨.ok (.ofNat c.remaining), .of file c, []⟩ := by
  have hsub : Checked.sub (Place.of file c).size (Place.of file c).position
      = .ok (.ofNat c.remaining) := by
    rw [Place.size, Place.of, Checked.sub_ofNat (lt_wordCount hfile) hc.le,
      ← hc.position_add_remaining, Nat.add_sub_cancel_left]
  exact (WordReader.run_bind_of_done rfl _).trans (WordReader.run_checked hsub _)

/-- The bytes ahead are those of the file from the position on. -/
theorem exactAt_take (hfile : file.length < signedCount) (hc : c.IsIn file) (n : UInt64)
    (field : String) : ExactAt file c (WordReader.take n field) (take n.toNat field) := by
  obtain ⟨k, hk, rfl⟩ := Checked.exists_eq_ofNat n
  have hlength := lt_wordCount hfile
  have hsum := hc.position_add_remaining
  have hremaining : (UInt64.ofNat c.remaining).toNat = c.remaining :=
    Checked.toNat_ofNat (by omega)
  have hposition : (Place.of file c).position.toNat = c.position :=
    Checked.toNat_ofNat (by omega)
  refine .step (run_remaining hfile hc) (.place ?_)
  rw [Checked.toNat_ofNat hk]
  by_cases hshort : c.remaining < k
  · have hlt : UInt64.ofNat c.remaining < .ofNat k := by
      rwa [UInt64.lt_iff_toNat_lt, hremaining, Checked.toNat_ofNat hk]
    rw [if_pos hlt, hposition, hremaining]
    exact .of_run (by rw [run_take, if_pos hshort, run_fail]) (.fail hfile hc _)
  · have hge : ¬ UInt64.ofNat c.remaining < .ofNat k := by
      rwa [UInt64.lt_iff_toNat_lt, hremaining, Checked.toNat_ofNat hk]
    have hroom : c.position + k ≤ file.length := by omega
    rw [if_neg hge]
    refine .checked (Checked.add_ofNat (Nat.lt_of_le_of_lt hroom hlength)) <|
      .checked (Checked.slice_ofNat (Nat.le_add_right _ _) hroom hlength) ?_
    have hrest : (Place.of file c).file.drop c.position = c.rest := hc.rest.symm
    rw [hrest, Nat.add_sub_cancel_left]
    have hrun := (run_take k field c).trans (if_neg hshort)
    refine ⟨?_, ?_⟩
    · rw [hrun]
      rfl
    · rw [hrun]
      exact hc.advance (Nat.not_lt.mp hshort)

theorem exact_take (n : UInt64) (field : String) :
    Exact 0 (WordReader.take n field) (take n.toNat field) :=
  fun _ _ hfile hc _ => exactAt_take hfile hc n field

theorem exact_byte (field : String) : Exact 0 (WordReader.byte field) (byte field) := by
  intro file c hfile hc _
  refine (exactAt_take hfile hc 1 field).bind fun bytes hbytes hin => ?_
  obtain ⟨b, rfl⟩ := List.length_eq_one_iff.mp (result_take_eq_ok.mp hbytes).1
  exact .result hin rfl

/-- A slice from the start is a prefix. -/
theorem slice_zero {bytes : List UInt8} {k : Nat} (hk : k ≤ bytes.length)
    (h : bytes.length < wordCount) : Checked.slice bytes 0 (.ofNat k) = .ok (bytes.take k) :=
  Checked.slice_ofNat (Nat.zero_le k) hk h

theorem exact_natural (width : UInt64) (field : String) :
    Exact 0 (WordReader.natural width field) (natural width.toNat field) := by
  intro file c hfile hc _
  refine (exactAt_take hfile hc width field).bind fun bytes hbytes hin => ?_
  obtain ⟨hlength, -⟩ := result_take_eq_ok.mp hbytes
  have hslice : Checked.slice bytes 0 width = .ok bytes := by
    obtain ⟨k, hk, rfl⟩ := Checked.exists_eq_ofNat width
    rw [Checked.toNat_ofNat hk] at hlength
    rw [slice_zero (Nat.le_of_eq hlength.symm) (hlength ▸ hk), ← hlength, List.take_length]
  exact .checked hslice <| .place <| .cursor (.pure hin _)

theorem exact_uint32 (field : String) : Exact 0 (WordReader.uint32 field) (uint32 field) :=
  (exact_natural 4 field).bind (advances_natural 4 field) fun _ => .pure _

theorem exact_int32 (field : String) : Exact 0 (WordReader.int32 field) (int32 field) :=
  (exact_uint32 field).bind (advances_uint32 field) fun _ => .pure _

theorem exact_binary64 (field : String) : Exact 0 (WordReader.binary64 field) (binary64 field) :=
  (exact_natural 8 field).bind (advances_natural 8 field) fun _ => .pure _

/-! ## Strings -/

theorem still_text (bytes : List UInt8) (c : Cursor) : ((text bytes).run c).cursor = c := by
  rw [(reads_text bytes).complete (x := ()) trivial rfl]
  rfl

/-- A text goes up to the last byte that is not NUL. -/
theorem lastText?_cases (bytes : List UInt8) :
    (WordReader.lastText? bytes = none ∧ trimNul bytes = [])
    ∨ ∃ i, WordReader.lastText? bytes = some i ∧ i < bytes.length
      ∧ trimNul bytes = bytes.take (i + 1) := by
  have htrim : trimNul bytes
      = bytes.take (bytes.length - bytes.reverse.findIdx (fun b => !b == 0)) := by
    rw [trimNul, List.dropWhile_eq_drop_findIdx_not, List.reverse_drop, List.reverse_reverse,
      List.length_reverse]
  rw [WordReader.lastText?]
  cases hfind : bytes.reverse.findIdx? (· != 0) with
  | none =>
    rw [List.findIdx?_eq_none_iff_findIdx_eq, List.length_reverse] at hfind
    exact .inl ⟨rfl, by rw [htrim, show bytes.reverse.findIdx (fun b => !b == 0) = _ from hfind,
      Nat.sub_self, List.take_zero]⟩
  | some k =>
    rw [List.findIdx?_eq_some_iff_findIdx_eq, List.length_reverse] at hfind
    obtain ⟨hk, hfind⟩ := hfind
    refine .inr ⟨bytes.length - 1 - k, rfl, by omega, ?_⟩
    rw [htrim, show bytes.reverse.findIdx (fun b => !b == 0) = _ from hfind]
    congr 1
    omega

theorem exactAt_terminated (hfile : file.length < signedCount) (hc : c.IsIn file) {k : Nat}
    (hpos : 0 < k) (hk : k < wordCount) (field : String) :
    ExactAt file c (WordReader.terminated (.ofNat k) field) (terminated k field) := by
  have htake := exactAt_take hfile hc (.ofNat k) field
  rw [Checked.toNat_ofNat hk] at htake
  refine htake.bind fun bytes hbytes hin => ?_
  obtain ⟨hlength, tail, htail⟩ := result_take_eq_ok.mp hbytes
  have hposition : k ≤ ((take k field).run c).cursor.position :=
    Nat.le_trans (Nat.le_add_left k c.position) (Advances.take k field c bytes hbytes)
  generalize ((take k field).run c).cursor = c' at hin hposition
  have hplace : c'.position < wordCount := Nat.lt_of_le_of_lt hin.le (lt_wordCount hfile)
  obtain ⟨payload, last, rfl⟩ : ∃ payload last, bytes = payload ++ [last] :=
    ⟨bytes.dropLast, _, (List.dropLast_concat_getLast (List.ne_nil_of_length_pos (by omega))).symm⟩
  have hconcat : (payload ++ [last]).length = payload.length + 1 := List.length_append
  obtain rfl : payload.length + 1 = k := hconcat.symm.trans hlength
  have hending : Checked.slice (payload ++ [last]) (.ofNat payload.length)
      (.ofNat (payload ++ [last]).length) = .ok [last] := by
    rw [Checked.slice_ofNat (by omega) (Nat.le_refl _) (by omega), List.drop_left, hconcat,
      Nat.add_sub_cancel_left, List.take_of_length_le (Nat.le_refl 1)]
  have hpayload : payload.length < wordCount := by omega
  refine .checked (b := .ofNat payload.length) ?_ <| .checked (b := payload) ?_ <|
    .checked hending <| .checked (b := last) rfl <| .cursor ?_
  · exact (Checked.sub_ofNat (n := 1) (by omega) (by omega)).trans (by rw [hconcat]; rfl)
  · rw [slice_zero (by omega) (by omega), List.take_left]
  rw [List.getLastD_concat, List.dropLast_concat]
  by_cases hnul : last = 0
  · have htext : ¬ (last != 0) = true := by simpa using hnul
    rw [if_neg htext, if_neg htext]
    rcases lastText?_cases payload with ⟨hnone, htrim⟩ | ⟨i, hsome, hi, htrim⟩
    · rw [hnone]
      refine .checked rfl <| .checked (slice_zero (k := 0) (Nat.zero_le _) hpayload) ?_
      rw [List.take_zero, ← htrim]
      exact .still hfile hin (by rw [still_text])
    · rw [hsome]
      refine .checked (Checked.add_ofNat (n := 1) (by omega)) <|
        .checked (slice_zero (k := i + 1) hi hpayload) ?_
      rw [← htrim]
      exact .still hfile hin (by rw [still_text])
  · have hfail : (last != 0) = true := bne_iff_ne.mpr hnul
    rw [if_pos hfail, if_pos hfail]
    refine .place <| .checked (Checked.sub_ofNat (n := 1) hplace (by omega)) ?_
    rw [Checked.toNat_ofNat (by omega)]
    exact .fail hfile hin _

/-- **A string is read without a trap**: its length is positive where one is taken from it. -/
theorem exact_string (field : String) : Exact 0 (WordReader.string field) (string field) := by
  intro file c hfile hc _
  have hoffset : (Place.of file c).position.toNat = c.position :=
    Checked.toNat_ofNat (Nat.lt_of_le_of_lt hc.le (lt_wordCount hfile))
  rw [string_eq]
  refine .place <| .cursor <| (exact_int32 field file c hfile hc (Nat.zero_le _)).bind
    fun i _ hin => ?_
  rw [hoffset]
  dsimp only
  by_cases hneg : i.toInt < 0
  · rw [if_pos hneg, if_pos hneg]
    exact .fail hfile hin _
  rw [if_neg hneg, if_neg hneg]
  by_cases hzero : i.toInt = 0
  · rw [if_pos hzero, if_pos hzero]
    exact .fail hfile hin _
  rw [if_neg hzero, if_neg hzero]
  have hlt := i.toInt_lt
  exact exactAt_terminated hfile hin (by omega) (by rw [wordCount]; omega) field

/-! ## Tables -/

theorem exact_count (field : String) : Exact 0 (WordReader.count field) (count field) := by
  intro file c hfile hc _
  have hoffset : (Place.of file c).position.toNat = c.position :=
    Checked.toNat_ofNat (Nat.lt_of_le_of_lt hc.le (lt_wordCount hfile))
  refine .place <| .cursor <| (exact_int32 field file c hfile hc (Nat.zero_le _)).bind
    fun i _ hin => ?_
  rw [hoffset]
  dsimp only
  split
  · exact .fail hfile hin _
  · exact .pure hin _

/-- Room is never divided by zero. -/
theorem run_reserve (hfile : file.length < signedCount) (hc : c.IsIn file) (n least : UInt64) :
    ∃ room, (WordReader.reserve n least).run (.of file c) = .ok ⟨.ok room, .of file c, []⟩ := by
  have hleast : (if least ≤ 1 then 1 else least) ≠ 0 := by
    split
    next => decide
    next h => exact fun hzero => h (hzero ▸ by decide)
  have hdiv : Checked.div (.ofNat c.remaining) (max least 1)
      = .ok (.ofNat c.remaining / max least 1) := if_neg hleast
  exact ⟨_, (WordReader.run_bind_of_done (run_remaining hfile hc) _).trans
    (WordReader.run_bind_of_done (WordReader.run_checked hdiv _) _)⟩

theorem Exact.table {m : WordReader α} {r : Reader α} (hr : Exact n m r) (hadvance : r.Advances 0)
    (field : String) (least? : Option UInt64) :
    Exact n (WordReader.table field least? m) (Reader.table field r) := by
  refine ((exact_count field).mono (Nat.zero_le n)).bind
    ((advances_count field).mono (Nat.zero_le 4)) fun k => ?_
  have hentries : Exact n (WordReader.within field (WordReader.entries m 0 k))
      (Reader.within field (Reader.entries r 0 k)) := (hr.entries hadvance 0 k).within field
  cases least? with
  | none => exact hentries
  | some least =>
    intro file c hfile hc hn
    obtain ⟨room, hroom⟩ := run_reserve hfile hc (.ofNat k) least
    exact .step hroom (hentries file c hfile hc hn)

/-- A table as a field. -/
theorem Exact.tableField {k : Nat} {m : WordReader α} {r : Reader α}
    {next : List α → WordReader β} {next' : List α → Reader β} {field : String}
    {least? : Option UInt64} (hr : Exact 0 m r) (hadvance : r.Advances k)
    (hnext : ∀ as, Exact n (next as) (next' as)) :
    Exact n (WordReader.table field least? m >>= next) (Reader.table field r >>= next') :=
  have hzero : r.Advances 0 := hadvance.mono (Nat.zero_le k)
  (hr.table hzero field least?).field (hzero.table field) hnext

end Reader

end LuaChunk
