import LuaChunk.File.Image
import LuaChunk.Proofs.Input.Layout

/-!
# Proofs/Input/Field — the layouts of fields

The writers of `File/Image` and the readers of `Input/Field` are the two sides of one layout each:
bytes, numbers, strings, and tables of anything that has a layout itself.
-/

namespace LuaChunk

/-! ## Numbers of several bytes -/

namespace ByteOrder

/-- How many numbers can be told apart by a number of bytes. -/
def capacity : Nat → Nat
  | 0 => 1
  | width + 1 => 256 * capacity width

theorem ascending_digits (width n : Nat) (h : n < capacity width) :
    ascending (digits width n) = n := by
  induction width generalizing n with
  | zero =>
    rw [capacity] at h
    rw [digits, ascending]
    omega
  | succ width ih =>
    rw [capacity] at h
    have hhigh : n / 256 < capacity width := by omega
    rw [digits, ascending, ih _ hhigh, UInt8.toNat_ofNat']
    omega

theorem ascending_lt_capacity (bs : List UInt8) : ascending bs < capacity bs.length := by
  induction bs with
  | nil => decide
  | cons b bs ih =>
    have hb : b.toNat < 256 := b.toNat_lt
    rw [ascending, List.length_cons, capacity]
    omega

/-- **Numbers that were written in an order are read back in it.** -/
theorem value_bytes (order : ByteOrder) {width n : Nat} (h : n < capacity width) :
    order.value (order.bytes width n) = n := by
  cases order with
  | little => exact ascending_digits width n h
  | big => rw [bytes, value, List.reverse_reverse, ascending_digits width n h]

theorem value_lt_capacity (order : ByteOrder) (bs : List UInt8) :
    order.value bs < capacity bs.length := by
  cases order with
  | little => exact ascending_lt_capacity bs
  | big =>
    have h := ascending_lt_capacity bs.reverse
    rwa [List.length_reverse] at h

end ByteOrder

/-! ## Lengths as signed words -/

namespace Image

/-- Lengths and numbers of entries are below this, since they are written as signed words. -/
def lengthBound : Nat := 2147483648

theorem toInt_ofNat {n : Nat} (h : n < lengthBound) : (Int32.ofNat n).toInt = n := by
  rw [lengthBound] at h
  exact Int32.toInt_ofNat_of_lt h

theorem toNat_toUInt32_ofNat {n : Nat} (h : n < lengthBound) :
    (Int32.ofNat n).toUInt32.toNat = n := by
  rw [lengthBound] at h
  rw [Int32.toUInt32_ofNat', UInt32.toNat_ofNat']
  omega

/-- A signed word that is not negative is a length. -/
theorem exists_eq_ofNat {i : Int32} (h : 0 ≤ i.toInt) :
    ∃ n, n < lengthBound ∧ i = Int32.ofNat n := by
  have hlt := i.toInt_lt
  have hn : i.toInt.toNat < lengthBound := by
    rw [lengthBound]
    omega
  refine ⟨i.toInt.toNat, hn, Int32.toInt_inj.mp ?_⟩
  rw [toInt_ofNat hn, Int.toNat_of_nonneg h]

/-- A length is written as the signed word that it is. -/
theorem int32_ofNat (order : ByteOrder) {n : Nat} (h : n < lengthBound) :
    int32 order (Int32.ofNat n) = length order n := by
  rw [int32, toNat_toUInt32_ofNat h, length]

/-! ## The lengths of fields -/

theorem length_int32 (order : ByteOrder) (i : Int32) : (int32 order i).length = 4 :=
  order.length_bytes 4 _

theorem length_uint32 (order : ByteOrder) (n : UInt32) : (uint32 order n).length = 4 :=
  order.length_bytes 4 _

theorem length_binary64 (order : ByteOrder) (x : Binary64) : (binary64 order x).length = 8 :=
  order.length_bytes 8 _

theorem length_length (order : ByteOrder) (n : Nat) : (length order n).length = 4 :=
  order.length_bytes 4 _

theorem length_string (order : ByteOrder) (payload : List UInt8) :
    (string order payload).length = 5 + payload.length := by
  simp only [string, List.length_append, length_length, List.length_singleton]
  omega

end Image

/-! ## The layouts -/

namespace Layout

variable {α ρ : Type}

/-- A number of bytes as they are. -/
def raw (n : Nat) : Layout (List UInt8) (List UInt8) :=
  ⟨fun _ bytes => bytes, fun _ bytes => bytes, fun _ _ => [], fun bytes => bytes.length = n⟩

def byte : Layout UInt8 UInt8 := ⟨fun _ b => [b], fun _ b => b, fun _ _ => [], fun _ => True⟩

/-- A natural number in a number of bytes. -/
def natural (width : Nat) : Layout Nat Nat :=
  ⟨fun order n => order.bytes width n, fun _ n => n, fun _ _ => [],
    fun n => n < ByteOrder.capacity width⟩

def uint32 : Layout UInt32 UInt32 :=
  ⟨Image.uint32, fun _ n => n, fun _ _ => [], fun _ => True⟩

def int32 : Layout Int32 Int32 := ⟨Image.int32, fun _ i => i, fun _ _ => [], fun _ => True⟩

def binary64 : Layout Binary64 Binary64 :=
  ⟨Image.binary64, fun _ x => x, fun _ _ => [], fun _ => True⟩

/-- A length or a number of entries. -/
def length : Layout Nat Nat :=
  ⟨Image.length, fun _ n => n, fun _ _ => [], fun n => n < Image.lengthBound⟩

/-- A string, of which the payload is the raw value. -/
def string : Layout (List UInt8) String :=
  ⟨Image.string, Image.text,
    fun charset payload =>
      if charset.malformed (Reader.trimNul payload) then
        [.undecodable charset (Reader.trimNul payload)]
      else [],
    fun payload => payload.length + 1 < Image.lengthBound⟩

/-- A table of entries of one layout. -/
def table (L : Layout ρ α) : Layout (List ρ) (List α) :=
  ⟨fun order xs => Image.table order (L.bytes order) xs, fun charset xs => xs.map (L.value charset),
    fun charset xs => xs.flatMap (L.events charset),
    fun xs => xs.length < Image.lengthBound ∧ ∀ x ∈ xs, L.fits x⟩

end Layout

/-! ## The readers -/

namespace Reader

variable {α ρ : Type}

theorem reads_take (n : Nat) (field : String) : (take n field).Reads (Layout.raw n) where
  complete := by
    intro c bytes tail hn hrest
    obtain rfl : bytes.length = n := hn
    have hrest' : c.rest = bytes ++ tail := hrest
    have hroom : ¬ c.remaining < bytes.length := by
      rw [Cursor.remaining, hrest', List.length_append]
      omega
    rw [run_take, if_neg hroom, hrest', List.take_left]
    rfl
  sound hok := by
    obtain ⟨hlen, tail, hrest⟩ := result_take_eq_ok.mp hok
    exact ⟨_, tail, hlen, hrest⟩
  prefixFree _ _ _ _ _ hx hy heq := List.append_inj heq (Eq.trans hx hy.symm)

theorem reads_byte (field : String) : (byte field).Reads Layout.byte := by
  refine ((reads_take 1 field).bind fun bytes => Reads.pure (bytes.headD 0)).reshape
    (fun p => p.1.headD 0) ?_ ?_ ?_ ?_ ?_
  · exact fun _ _ => trivial
  · exact fun b _ => ⟨([b], ()), ⟨rfl, trivial⟩, rfl⟩
  · rintro order ⟨bytes, _⟩ ⟨hlen, _⟩
    obtain ⟨b, rfl⟩ := List.length_eq_one_iff.mp hlen
    rfl
  · exact fun _ _ _ => rfl
  · exact fun _ _ _ => rfl

/-- **Numbers are read in the order in which they are written.** -/
theorem reads_natural (width : Nat) (field : String) :
    (natural width field).Reads (Layout.natural width) where
  complete := by
    intro c n tail hn hrest
    have hlen := ByteOrder.length_bytes c.order width n
    rw [natural, run_bind, (reads_take width field).complete hlen hrest]
    simp [Layout.natural, Layout.raw, ByteOrder.value_bytes c.order hn]
  sound := by
    intro c n hok
    obtain ⟨bytes, hbytes, -⟩ := result_bind_eq_ok.mp hok
    obtain ⟨rfl, tail, hrest⟩ := result_take_eq_ok.mp hbytes
    refine ⟨c.order.value bytes, tail, c.order.value_lt_capacity bytes, ?_⟩
    rw [hrest]
    exact congrArg (· ++ tail) (c.order.bytes_value bytes).symm
  prefixFree := by
    intro order m n s t hm hn heq
    obtain ⟨hmn, hst⟩ := List.append_inj heq
      ((order.length_bytes width m).trans (order.length_bytes width n).symm)
    have hvalue : order.value (order.bytes width m) = order.value (order.bytes width n) :=
      congrArg order.value hmn
    rw [order.value_bytes hm, order.value_bytes hn] at hvalue
    exact ⟨hvalue, hst⟩

theorem reads_uint32 (field : String) : (uint32 field).Reads Layout.uint32 := by
  refine ((reads_natural 4 field).bind fun n => Reads.pure (UInt32.ofNat n)).reshape
    (fun p => UInt32.ofNat p.1) ?_ ?_ ?_ ?_ ?_
  · exact fun _ _ => trivial
  · exact fun w _ => ⟨(w.toNat, ()), ⟨w.toNat_lt, trivial⟩, UInt32.ofNat_toNat⟩
  · rintro order ⟨n, _⟩ ⟨hn, _⟩
    have hn' : (UInt32.ofNat n).toNat = n := UInt32.toNat_ofNat_of_lt' hn
    simp [Layout.uint32, Layout.natural, Image.uint32, hn']
  · exact fun _ _ _ => rfl
  · exact fun _ _ _ => rfl

theorem reads_int32 (field : String) : (int32 field).Reads Layout.int32 := by
  refine ((reads_uint32 field).bind fun n => Reads.pure n.toInt32).reshape
    (fun p => p.1.toInt32) ?_ ?_ ?_ ?_ ?_
  · exact fun _ _ => trivial
  · exact fun i _ => ⟨(i.toUInt32, ()), ⟨trivial, trivial⟩, rfl⟩
  · exact fun _ _ _ => (List.append_nil _).symm
  · exact fun _ _ _ => rfl
  · exact fun _ _ _ => rfl

theorem reads_binary64 (field : String) : (binary64 field).Reads Layout.binary64 := by
  refine ((reads_natural 8 field).bind fun n => Reads.pure (Binary64.mk (UInt64.ofNat n))).reshape
    (fun p => Binary64.mk (UInt64.ofNat p.1)) ?_ ?_ ?_ ?_ ?_
  · exact fun _ _ => trivial
  · exact fun x _ => ⟨(x.bits.toNat, ()), ⟨x.bits.toNat_lt, trivial⟩,
      congrArg Binary64.mk UInt64.ofNat_toNat⟩
  · rintro order ⟨n, _⟩ ⟨hn, _⟩
    have hn' : (UInt64.ofNat n).toNat = n := UInt64.toNat_ofNat_of_lt' hn
    simp [Layout.binary64, Layout.natural, Image.binary64, hn']
  · exact fun _ _ _ => rfl
  · exact fun _ _ _ => rfl

/-! ## Strings and tables

Their length is a signed word; what it may be decides how reading goes on, so these two are run by
hand up to there. -/

theorem run_int32_length {c : Cursor} {n : Nat} {tail : List UInt8} (field : String)
    (hn : n < Image.lengthBound) (hrest : c.rest = Image.length c.order n ++ tail) :
    (int32 field).run c = ⟨.ok (Int32.ofNat n), c.advance (Image.length c.order n).length, []⟩ := by
  rw [← Image.int32_ofNat c.order hn] at hrest ⊢
  exact (reads_int32 field).complete trivial hrest

theorem rest_of_int32 {c : Cursor} {i : Int32} {field : String}
    (h : ((int32 field).run c).result = .ok i) :
    ∃ tail, c.rest = Image.int32 c.order i ++ tail := by
  obtain ⟨j, tail, -, hrest, hj⟩ := (reads_int32 field).exists_raw h
  obtain rfl : j = i := hj
  exact ⟨tail, hrest⟩

theorem reads_count (field : String) : (count field).Reads Layout.length where
  complete := by
    intro c n tail hn hrest
    have hint : ¬ (n : Int) < 0 := Int.not_lt.mpr (Int.natCast_nonneg n)
    rw [count, run_cursor_bind, run_bind, run_int32_length field hn hrest, Outcome.andThen_ok]
    simp only [Image.toInt_ofNat hn, Int.toNat_natCast, if_neg hint, run_pure]
    rfl
  sound := by
    intro c n hok
    rw [count, run_cursor_bind] at hok
    obtain ⟨i, hi, hok⟩ := result_bind_eq_ok.mp hok
    obtain ⟨tail, hrest⟩ := rest_of_int32 hi
    by_cases hneg : i.toInt < 0
    · simp only [if_pos hneg] at hok
      exact absurd hok result_fail_ne_ok
    · obtain ⟨m, hm, rfl⟩ := Image.exists_eq_ofNat (Int.not_lt.mp hneg)
      exact ⟨m, tail, hm, by rw [hrest, Image.int32_ofNat _ hm]; rfl⟩
  prefixFree := by
    intro order m n s t hm hn heq
    have h4 : Image.lengthBound < ByteOrder.capacity 4 := by decide
    exact (reads_natural 4 field).prefixFree order (Nat.lt_trans hm h4) (Nat.lt_trans hn h4) heq

/-- A table is its number of entries, and then that many of them. -/
theorem reads_table {r : Reader α} {L : Layout ρ α} (hr : r.Reads L) (field : String) :
    (table field r).Reads L.table where
  complete := by
    intro c xs tail ⟨hlen, hxs⟩ hrest
    simp only [Layout.table, Image.table, List.append_assoc] at hrest
    have hmid := Cursor.rest_advance_length hrest
    have hcount : (count field).run c
        = ⟨.ok xs.length, c.advance (Image.length c.order xs.length).length, []⟩ :=
      (reads_count field).complete hlen hrest
    rw [table, run_bind, hcount, Outcome.andThen_ok,
      ((hr.entries 0 xs.length).within field).complete ⟨rfl, hxs⟩ hmid]
    simp [Layout.table, Image.table, Cursor.advance_advance]
  sound := by
    intro c as hok
    obtain ⟨n, hn, hok⟩ := result_bind_eq_ok.mp hok
    obtain ⟨m, mid, hm, hrest, hmn⟩ := (reads_count field).exists_raw hn
    obtain rfl : m = n := hmn
    rw [(reads_count field).complete hm hrest] at hok
    obtain ⟨xs, tail, ⟨rfl, hxs⟩, hmid⟩ := ((hr.entries 0 m).within field).sound hok
    rw [Cursor.rest_advance_length hrest] at hmid
    exact ⟨xs, tail, ⟨hm, hxs⟩, by rw [hrest, hmid, ← List.append_assoc]; rfl⟩
  prefixFree := by
    intro order xs ys s t ⟨hlen, hxs⟩ ⟨hlen', hys⟩ heq
    simp only [Layout.table, Image.table, List.append_assoc] at heq
    obtain ⟨hn, heq⟩ := (reads_count field).prefixFree order hlen hlen' heq
    exact (hr.entries 0 ys.length).prefixFree order ⟨hn, hxs⟩ ⟨rfl, hys⟩ heq

theorem reads_text (bytes : List UInt8) :
    (text bytes).Reads
      ⟨fun _ (_ : Unit) => [], fun charset _ => charset.decode bytes,
        fun charset _ =>
          if charset.malformed bytes then [.undecodable charset bytes] else [],
        fun _ => True⟩ where
  complete := by
    intro c _ tail _ _
    rw [text, run_cursor_bind]
    simp
  sound {c} _ _ := ⟨(), c.rest, trivial, rfl⟩
  prefixFree _ _ _ _ _ _ _ heq := ⟨rfl, heq⟩

/-- What follows the length of a string: its payload and the terminator. -/
def terminated (n : Nat) (field : String) : Reader String := do
  let bytes ← take n field
  let last := (← cursor).position - 1
  if bytes.getLastD 0 != 0 then fail (.malformedString field last .noTerminator)
  else text (trimNul bytes.dropLast)

theorem string_eq (field : String) :
    string field = (do
      let offset := (← cursor).position
      let length := (← int32 field).toInt
      if length < 0 then fail (.malformedLength field offset length)
      else if length = 0 then fail (.malformedString field offset .noRoom)
      else terminated length.toNat field) := rfl

theorem reads_terminated (n : Nat) (field : String) :
    (terminated (n + 1) field).Reads
      ⟨fun _ payload => payload ++ [0], Layout.string.value, Layout.string.events,
        fun payload => payload.length = n⟩ where
  complete := by
    intro c payload tail hlen hrest
    obtain rfl : payload.length = n := hlen
    have hlast : (payload ++ [(0 : UInt8)]).getLastD 0 = 0 := by simp
    have hlen : (payload ++ [(0 : UInt8)]).length = payload.length + 1 := List.length_append
    rw [terminated, run_bind, (reads_take _ field).complete hlen hrest, Outcome.andThen_ok,
      run_cursor_bind]
    simp only [Layout.raw, hlast, List.dropLast_concat]
    rw [if_neg (by simp), (reads_text _).complete (x := ()) trivial rfl]
    rfl
  sound := by
    intro c a hok
    obtain ⟨bytes, hbytes, hok⟩ := result_bind_eq_ok.mp hok
    obtain ⟨hlen, tail, hrest⟩ := result_take_eq_ok.mp hbytes
    have hne : bytes ≠ [] := List.ne_nil_of_length_eq_add_one hlen
    have hsplit := List.dropLast_concat_getLast hne
    rw [run_cursor_bind] at hok
    by_cases hlast : bytes.getLast hne = 0
    · rw [hlast] at hsplit
      exact ⟨bytes.dropLast, tail, by simp [hlen], by rw [hrest, ← hsplit]; simp⟩
    · have hlast' : (bytes.getLastD 0 != 0) = true := by
        simpa [List.getLastD_eq_getLast?, List.getLast?_eq_some_getLast hne] using hlast
      simp only [if_pos hlast'] at hok
      exact absurd hok result_fail_ne_ok
  prefixFree := by
    intro order x y s t hx hy heq
    have hlen : x.length = y.length := Eq.trans hx hy.symm
    obtain ⟨hxy, hst⟩ := List.append_inj heq (by simpa using hlen)
    exact ⟨List.append_cancel_right hxy, hst⟩

/-- **A string is its length, its payload and a terminator.** -/
theorem reads_string (field : String) : (string field).Reads Layout.string where
  complete := by
    intro c payload tail hlen hrest
    simp only [Layout.string, Image.string, List.append_assoc] at hrest
    have hmid := Cursor.rest_advance_length hrest
    rw [← List.append_assoc] at hmid
    have hneg : ¬ ((payload.length + 1 : Nat) : Int) < 0 := by omega
    have hzero : ¬ ((payload.length + 1 : Nat) : Int) = 0 := by omega
    rw [string_eq, run_cursor_bind, run_bind, run_int32_length field hlen hrest,
      Outcome.andThen_ok]
    simp only [Image.toInt_ofNat hlen, if_neg hneg, if_neg hzero, Int.toNat_natCast]
    rw [(reads_terminated _ field).complete rfl hmid]
    simp [Layout.string, Image.string, Cursor.advance_advance]
  sound := by
    intro c a hok
    rw [string_eq, run_cursor_bind] at hok
    obtain ⟨i, hi, hok⟩ := result_bind_eq_ok.mp hok
    obtain ⟨mid, hrest⟩ := rest_of_int32 hi
    by_cases hneg : i.toInt < 0
    · simp only [if_pos hneg] at hok
      exact absurd hok result_fail_ne_ok
    · obtain ⟨n, hn, rfl⟩ := Image.exists_eq_ofNat (Int.not_lt.mp hneg)
      rw [Image.int32_ofNat _ hn] at hrest
      rw [run_int32_length field hn hrest] at hok
      simp only [Image.toInt_ofNat hn, Int.toNat_natCast] at hneg hok
      cases n with
      | zero =>
        exact absurd hok result_fail_ne_ok
      | succ n =>
        obtain ⟨payload, tail, rfl, hmid⟩ := (reads_terminated n field).sound hok
        rw [Cursor.rest_advance_length hrest] at hmid
        exact ⟨payload, tail, hn, by rw [hrest, hmid]; simp [Layout.string, Image.string]⟩
  prefixFree := by
    intro order x y s t hx hy heq
    simp only [Layout.string, Image.string, List.append_assoc] at heq
    obtain ⟨hn, heq⟩ := (reads_count field).prefixFree order hx hy heq
    rw [← List.append_assoc, ← List.append_assoc] at heq
    exact (reads_terminated y.length field).prefixFree order (Nat.succ.inj hn) rfl heq

end Reader

end LuaChunk
