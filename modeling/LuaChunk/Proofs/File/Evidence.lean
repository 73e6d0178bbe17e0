import LuaChunk.Proofs.File.Depth
import LuaChunk.Proofs.File.Raises
import LuaChunk.Proofs.Input.Outcomes

/-!
# Proofs/File/Evidence — the file bears out what is said of it

A fault of reading says where in the file it was found, and what.  `Fault.Truthful` spells out, kind
by kind, what the bytes at that place are then; faults that have nothing to do with reading are not
truthful at all.

A reader is **honest** about a file if, from any place in it, it raises truthful faults only and
ends at a place in it (`Reader.Honest`).  Readers are honest if their steps are, so only the fields
have to be looked at, in each of the ways that they can turn out.  The order of bytes is the one
that the file declares as soon as the header has been read, and no sooner; the header has no need of
it.
-/

namespace LuaChunk

/-- The byte order that a file declares. -/
def declaredOrder? (file : List UInt8) : Option ByteOrder := file[5]?.bind Header.order?

/-- **A file stores a signed word** at an offset, in the byte order that it declares. -/
def Stores (file : List UInt8) (offset : Nat) (n : Int32) : Prop :=
  ∃ order, declaredOrder? file = some order ∧ (file.drop offset).take 4 = Image.int32 order n

/-- **A fault is borne out by the file** that was read with some options. -/
def Fault.Truthful (options : LoadOptions) (file : List UInt8) : Fault → Prop
  | .truncated _ offset needed available =>
    offset ≤ file.length ∧ available = file.length - offset ∧ available < needed
      ∧ (needed ∈ [1, 3, 4, 8]
        ∨ ∃ start n, start + 4 = offset ∧ Stores file start n ∧ 0 < n.toInt ∧ needed = n.toInt)
  | .malformedLength _ offset length =>
    length < 0 ∧ ∃ n, Stores file offset n ∧ n.toInt = length
  | .malformedString _ offset .noRoom => (file.drop offset).take 4 = [0, 0, 0, 0]
  | .malformedString _ offset .noTerminator =>
    (∃ b, file[offset]? = some b ∧ b ≠ 0)
      ∧ ∃ start n, Stores file start n ∧ 0 < n.toInt ∧ (offset : Int) + 1 = start + 4 + n.toInt
        ∧ start + 4 + n.toInt ≤ file.length
  | .malformedString _ _ (.other _) => False
  | .tooDeeplyNested path limit =>
    limit = options.maxDepth
      ∧ ∃ address, address.length = options.maxDepth + 1 ∧ path = Path.nested "main" address
  | .inputTooLarge length limit =>
    length = file.length ∧ limit = options.maxLength ∧ limit < length
  -- what these two say is about the preamble alone
  | .invalidHeader _ | .selfCheckMismatch _ => True
  | .unknownOpcode .. | .operandIndexOutOfRange .. | .formatting | .overrun _ => False

/-- A length below zero is blamed truthfully. -/
theorem Stores.truthful_length {options : LoadOptions} {file : List UInt8} {offset : Nat}
    {n : Int32} (h : Stores file offset n) (hneg : n.toInt < 0) (field : String) :
    (Fault.malformedLength field offset n.toInt).Truthful options file :=
  ⟨hneg, n, h, rfl⟩

/-- The length that leaves no room is zero in either order. -/
theorem Stores.zero {file : List UInt8} {offset : Nat} {n : Int32} (h : Stores file offset n)
    (hn : n.toInt = 0) : (file.drop offset).take 4 = [0, 0, 0, 0] := by
  obtain ⟨order, -, hbytes⟩ := h
  obtain rfl : n = 0 := Int32.toInt_inj.mp hn
  rw [hbytes]
  cases order <;> rfl

theorem Path.nested_concat (path : String) (address : List Nat) (i : Nat) :
    nested path (address ++ [i]) = function (nested path address) i := by
  rw [nested, List.foldl_append]
  rfl

/-! ## Places in a file -/

/-- **A cursor is at a place in a file**, and reads numbers in an order. -/
structure Cursor.Inside (file : List UInt8) (order : ByteOrder) (c : Cursor) : Prop
    extends Cursor.IsIn file c where
  order : c.order = order

namespace Cursor

variable {options : LoadOptions} {file : List UInt8} {order : ByteOrder} {c : Cursor} {n : Nat}

theorem Inside.advance (h : c.Inside file order) (hn : n ≤ c.remaining) :
    (c.advance n).Inside file order := ⟨h.toIsIn.advance hn, h.order⟩

/-- Bytes that are not there are missed truthfully, if there is a reason to ask for so many. -/
theorem IsIn.truthful_truncated (h : c.IsIn file) (hlt : c.remaining < n)
    (hn : n ∈ [1, 3, 4, 8]
      ∨ ∃ start m, start + 4 = c.position ∧ Stores file start m ∧ 0 < m.toInt ∧ n = m.toInt)
    (field : String) :
    (Fault.truncated field c.position n c.remaining).Truthful options file := by
  have hsum := h.position_add_remaining
  exact ⟨h.le, by omega, hlt, hn⟩

/-- The last of the next bytes, where it stands in the file. -/
theorem IsIn.getElem?_last (h : c.IsIn file) (hn : 0 < n) (hroom : n ≤ c.remaining) :
    file[c.position + n - 1]? = some ((c.rest.take n).getLastD 0) := by
  have hindex : c.position + n - 1 = c.position + (n - 1) := by omega
  have hlast : n - 1 < c.rest.length := Nat.lt_of_lt_of_le (Nat.sub_one_lt_of_lt hn) hroom
  rw [hindex, ← List.getElem?_drop, ← h.rest, List.getLastD_eq_getLast?, List.getLast?_take,
    if_neg (Nat.ne_of_gt hn), List.getElem?_eq_getElem hlast, Option.some_or, Option.getD_some]

end Cursor

namespace Reader

variable {α β : Type} {options : LoadOptions} {file : List UInt8} {order : ByteOrder} {c : Cursor}

/-- From a place in a file, a reader raises truthful faults only, and ends at a place in it. -/
structure HonestAt (options : LoadOptions) (file : List UInt8) (order : ByteOrder) (r : Reader α)
    (c : Cursor) : Prop where
  truthful : ∀ e, (r.run c).result = .error e → e.Truthful options file
  inside : ∀ a, (r.run c).result = .ok a → (r.run c).cursor.Inside file order

/-- **A reader is honest about a file**, from any place in it. -/
def Honest (options : LoadOptions) (file : List UInt8) (order : ByteOrder) (r : Reader α) : Prop :=
  ∀ c, c.Inside file order → r.HonestAt options file order c

/-- A fault that is raised decides. -/
theorem HonestAt.of_error {r : Reader α} {e : Fault} {stop : Cursor} {events : List Event}
    (hrun : r.run c = ⟨.error e, stop, events⟩) (he : e.Truthful options file) :
    r.HonestAt options file order c := by
  refine ⟨fun e' he' => ?_, fun a ha => ?_⟩
  · rw [hrun] at he'
    obtain rfl := Except.error.inj he'
    exact he
  · rw [hrun] at ha
    cases ha

/-- …and otherwise the place where the reader stops. -/
theorem HonestAt.of_ok {r : Reader α} {a : α} {stop : Cursor} {events : List Event}
    (hrun : r.run c = ⟨.ok a, stop, events⟩) (hstop : stop.Inside file order) :
    r.HonestAt options file order c := by
  refine ⟨fun e he => ?_, fun _ _ => ?_⟩
  · rw [hrun] at he
    cases he
  · rw [hrun]
    exact hstop

namespace Honest

theorem pure (a : α) : (Pure.pure a : Reader α).Honest options file order :=
  fun _ hc => .of_ok rfl hc

theorem report (e : Event) : (Reader.report e).Honest options file order :=
  fun _ hc => .of_ok rfl hc

theorem reportIf (b : Bool) (e : Event) : (Reader.reportIf b e).Honest options file order :=
  fun _ hc => .of_ok (run_reportIf b e _) hc

theorem fail {e : Fault} (h : e.Truthful options file) :
    (Reader.fail e : Reader α).Honest options file order := fun _ _ => .of_error rfl h

theorem bind {r : Reader α} {next : α → Reader β} (hr : r.Honest options file order)
    (hnext : ∀ a, (next a).Honest options file order) :
    (r >>= next).Honest options file order := by
  intro c hc
  cases hresult : (r.run c).result with
  | error e =>
    have hbind : ((r >>= next).run c).result = .error e := result_bind_of_error hresult
    refine ⟨fun e' he' => ?_, fun b hb => ?_⟩
    · rw [hbind] at he'
      obtain rfl := Except.error.inj he'
      exact (hr c hc).truthful e hresult
    · rw [hbind] at hb
      cases hb
  | ok a =>
    have hrest := hnext a _ ((hr c hc).inside a hresult)
    refine ⟨fun e he => ?_, fun b hb => ?_⟩
    · rw [result_bind_of_ok hresult] at he
      exact hrest.truthful e he
    · rw [result_bind_of_ok hresult] at hb
      rw [cursor_bind_of_ok hresult]
      exact hrest.inside b hb

theorem cursor_bind {next : Cursor → Reader β} (hnext : ∀ c, (next c).Honest options file order) :
    (Reader.cursor >>= next).Honest options file order :=
  fun c hc => ⟨(hnext c c hc).truthful, (hnext c c hc).inside⟩

end Honest

/-! ## Fields -/

/-- **A field of a fixed length is read honestly.** -/
theorem Fixed.honest {n : Nat} {field : String} {r : Reader α} (hr : r.Fixed n field)
    (hn : n ∈ [1, 3, 4, 8]) : r.Honest options file order := by
  intro c hc
  rcases hr c with ⟨hlt, hrun⟩ | ⟨hle, a, hrun⟩
  · exact .of_error hrun (hc.truthful_truncated hlt (.inl hn) field)
  · exact .of_ok hrun (hc.advance hle)

theorem honest_byte (field : String) : (byte field).Honest options file order :=
  (fixed_byte field).honest (by decide)

theorem honest_uint32 (field : String) : (uint32 field).Honest options file order :=
  (fixed_uint32 field).honest (by decide)

theorem honest_int32 (field : String) : (int32 field).Honest options file order :=
  (fixed_int32 field).honest (by decide)

theorem honest_binary64 (field : String) : (binary64 field).Honest options file order :=
  (fixed_binary64 field).honest (by decide)

/-- A signed word that was read stands where the cursor was. -/
theorem stores_of_int32 {field : String} {n : Int32} (hdeclared : declaredOrder? file = some order)
    (hc : c.Inside file order) (hn : ((int32 field).run c).result = .ok n) :
    Stores file c.position n := by
  obtain ⟨tail, hrest⟩ := rest_of_int32 hn
  refine ⟨order, hdeclared, ?_⟩
  rw [← hc.rest, hrest, ← Image.length_int32 c.order n, List.take_left, hc.order]

theorem honest_count (field : String) (hdeclared : declaredOrder? file = some order) :
    (count field).Honest options file order := by
  intro c hc
  rcases run_count_cases field c with ⟨hlt, hrun⟩ | ⟨n, hle, hn, ⟨hneg, hrun⟩ | ⟨-, hrun⟩⟩
  · exact .of_error hrun (hc.truthful_truncated hlt (.inl (by decide)) field)
  · exact .of_error hrun ((stores_of_int32 hdeclared hc hn).truthful_length hneg field)
  · exact .of_ok hrun (hc.advance hle)

/-- **A string is read honestly.** -/
theorem honest_string (field : String) (hdeclared : declaredOrder? file = some order) :
    (string field).Honest options file order := by
  intro c hc
  rcases run_string_cases field c with ⟨hlt, hrun⟩ | ⟨n, hle, hn, hcases⟩
  · exact .of_error hrun (hc.truthful_truncated hlt (.inl (by decide)) field)
  have hstores := stores_of_int32 hdeclared hc hn
  have hpayload : (c.advance 4).Inside file order := hc.advance hle
  have hremaining : (c.advance 4).remaining = c.remaining - 4 := List.length_drop
  have hsum := hc.position_add_remaining
  rcases hcases with ⟨hneg, hrun⟩ | ⟨hzero, hrun⟩ | ⟨hpos, hshort, hrun⟩ |
    ⟨hpos, hroom, hlast, hrun⟩ | ⟨-, hroom, a, events, hrun⟩
  · exact .of_error hrun (hstores.truthful_length hneg field)
  · exact .of_error hrun (hstores.zero hzero)
  · have hneeded : (n.toInt.toNat : Int) = n.toInt := Int.toNat_of_nonneg (Int.le_of_lt hpos)
    have htruthful : (Fault.truncated field (c.position + 4) n.toInt.toNat
        (c.advance 4).remaining).Truthful options file :=
      hpayload.truthful_truncated (by omega)
        (.inr ⟨c.position, n, rfl, hstores, hpos, hneeded⟩) field
    rw [hremaining] at htruthful
    exact .of_error hrun htruthful
  · have hpositive : 0 < n.toInt.toNat := by omega
    have hbyte := hpayload.getElem?_last hpositive (by omega)
    refine .of_error hrun ⟨⟨_, hbyte, hlast⟩, c.position, n, hstores, hpos, ?_, ?_⟩
    · omega
    · omega
  · exact .of_ok hrun (hc.advance hroom)

/-- Entries are read honestly if each of them is. -/
theorem honest_entries {entry : String → Reader α} {path : String}
    (h : ∀ i, (entry (path ++ Path.index i)).Honest options file order) (i n : Nat) :
    (Qualified.entries entry path i n).Honest options file order := by
  induction n generalizing i with
  | zero => exact Honest.pure []
  | succ n ih => exact (h i).bind fun a => (ih (i + 1)).bind fun as => Honest.pure (a :: as)

theorem honest_table {entry : String → Reader α} {path : String}
    (hdeclared : declaredOrder? file = some order)
    (h : ∀ i, (entry (path ++ Path.index i)).Honest options file order) :
    (Qualified.table entry path).Honest options file order :=
  (honest_count path hdeclared).bind fun n => honest_entries h 0 n

/-! ## Functions -/

theorem honest_localVar (path : String) (hdeclared : declaredOrder? file = some order) :
    (Qualified.localVar path).Honest options file order :=
  (honest_string _ hdeclared).bind fun _ => (honest_int32 _).bind fun _ =>
    (honest_int32 _).bind fun _ => Honest.pure _

theorem honest_word (path : String) : (Qualified.word path).Honest options file order :=
  (honest_uint32 _).bind fun _ => Honest.pure _

/-- **A function is read honestly**, and where there are too many levels its path has one index for
each of them. -/
theorem honest_prototype {levels : Nat} (hdeclared : declaredOrder? file = some order) (depth : Nat)
    {address : List Nat} (hlevels : address.length + levels = options.maxDepth + 1) :
    (Qualified.prototype options.maxDepth levels depth (Path.nested "main" address)).Honest options
      file order := by
  induction levels generalizing depth address with
  | zero => exact Honest.fail ⟨rfl, address, hlevels, rfl⟩
  | succ levels ih =>
    have hlines (path : String) : (Qualified.table (fun p => int32 (Path.field p "line"))
        path).Honest options file order := honest_table hdeclared fun _ => honest_int32 _
    have hstrings (path : String) : (Qualified.table (fun p => string (Path.field p "string"))
        path).Honest options file order := honest_table hdeclared fun _ => honest_string _ hdeclared
    have hnumbers (path : String) : (Qualified.table (fun p => binary64 (Path.field p "number"))
        path).Honest options file order := honest_table hdeclared fun _ => honest_binary64 _
    have hfunction (i : Nat) : (Qualified.prototype options.maxDepth levels (depth + 1)
        (Path.field (Path.nested "main" address) "functions" ++ Path.index i)).Honest options file
          order := by
      have hlength : (address ++ [i]).length + levels = options.maxDepth + 1 := by
        rw [List.length_append, List.length_singleton]
        omega
      rw [Limited.entry_path, ← Path.nested_concat]
      exact ih (depth + 1) hlength
    exact (honest_string _ hdeclared).bind fun _ => (honest_int32 _).bind fun _ =>
      (honest_int32 _).bind fun _ => (honest_byte _).bind fun _ => (honest_int32 _).bind fun _ =>
      (honest_table hdeclared fun _ => honest_localVar _ hdeclared).bind fun _ =>
      (hlines _).bind fun _ => (hstrings _).bind fun _ => (hnumbers _).bind fun _ =>
      (honest_table hdeclared hfunction).bind fun _ =>
      (honest_table hdeclared fun _ => honest_word _).bind fun _ =>
      (Honest.report _).bind fun _ => Honest.pure _

/-! ## The preamble -/

theorem honest_header : Header.read.Honest options file order := by
  refine (honest_byte "marker").bind fun first => ?_
  split
  · exact Honest.fail trivial
  · refine ((Fixed.take 3 "magic").honest (by decide)).bind fun letters => ?_
    split
    · exact Honest.fail trivial
    · refine (honest_byte "version").bind fun version => (Honest.reportIf _ _).bind fun _ =>
        (honest_byte "little_endian").bind fun flag => ?_
      split
      · exact Honest.pure _
      · exact Honest.fail trivial

theorem honest_selfCheck : SelfCheck.read.Honest options file order :=
  (honest_byte _).bind fun _ => (honest_byte _).bind fun _ => (honest_byte _).bind fun _ =>
    (honest_byte _).bind fun _ => (honest_byte _).bind fun _ => (honest_byte _).bind fun _ =>
    (honest_byte _).bind fun _ => (honest_binary64 _).bind fun _ => Honest.pure _

theorem honest_judge (strictness : Strictness) (record : SelfCheck) :
    (ChunkFile.judge strictness record).Honest options file order := by
  unfold ChunkFile.judge
  split
  · exact Honest.pure _
  · exact Honest.fail trivial
  · exact Honest.report _

/-- The header of a file has the order that the file declares. -/
theorem declaredOrder?_of_header {charset : Charset} {header : Header}
    (h : (Header.read.run (Cursor.start file .little charset)).result = .ok header) :
    declaredOrder? file = some header.order := by
  obtain ⟨header', tail, -, hrest, hheader⟩ := reads_header.exists_raw h
  obtain rfl : header' = header := hheader
  have hfile : file = Layout.header.bytes .little header' ++ tail := hrest
  rw [declaredOrder?, hfile]
  exact order?_flag header'.order

end Reader

namespace ChunkFile

open Reader

/-- What follows the header is read honestly in the order that the file declares. -/
theorem honest_content {options : LoadOptions} {file : List UInt8} {header : Header}
    (hdeclared : declaredOrder? file = some header.order) :
    (do
      let selfCheck ← SelfCheck.read
      judge options.strictness selfCheck
      let main ← Qualified.prototype options.maxDepth (options.maxDepth + 1) 0 "main"
      let c ← cursor
      reportIf (!c.rest.isEmpty) (.trailing c.remaining c.position)
      return { header, selfCheck, main } : Reader ChunkFile).Honest options file header.order := by
  have hmain : (Qualified.prototype options.maxDepth (options.maxDepth + 1) 0
      (Path.nested "main" [])).Honest options file header.order :=
    honest_prototype hdeclared 0 (Nat.zero_add _)
  exact honest_selfCheck.bind fun selfCheck => (honest_judge _ selfCheck).bind fun _ =>
    hmain.bind fun main => Honest.cursor_bind fun _ => (Honest.reportIf _ _).bind fun _ =>
    Honest.pure _

/-- **What is said of a file of allowed size is true of it.** -/
theorem truthful_of_read {options : LoadOptions} {file : List UInt8} {e : Fault}
    (h : ((read options).run (Cursor.start file .little options.charset)).result = .error e) :
    e.Truthful options file := by
  have hstart : (Cursor.start file .little options.charset).Inside file .little :=
    ⟨.start file .little options.charset, rfl⟩
  have hhonest : Header.read.HonestAt options file .little _ := honest_header _ hstart
  rw [read_eq_qualified, Qualified.file] at h
  cases hheader : (Header.read.run (Cursor.start file .little options.charset)).result with
  | error e' =>
    rw [result_bind_of_error hheader] at h
    obtain rfl := Except.error.inj h
    exact hhonest.truthful e' hheader
  | ok header =>
    have hinside := hhonest.inside header hheader
    rw [result_bind_of_ok hheader, run_bind, run_setOrder, Outcome.andThen_ok] at h
    generalize (Header.read.run (Cursor.start file .little options.charset)).cursor = c at h hinside
    have hc : Cursor.Inside file header.order { c with order := header.order } :=
      ⟨⟨hinside.le, hinside.rest⟩, rfl⟩
    exact (honest_content (declaredOrder?_of_header hheader) _ hc).truthful e h

/-- **Faults are borne out by the file.**  Whatever the bytes and the options, a file that is
refused is refused for something that is true of it.  It is refused for its size if it is larger
than allowed, and only then; nothing is read of it in that case. -/
theorem ofBytes_truthful (options : LoadOptions) (bytes : List UInt8) :
    (∀ e, ofBytes options bytes = .error e → e.Truthful options bytes)
    ∧ ((∃ length limit, ofBytes options bytes = .error (.inputTooLarge length limit))
      ↔ options.maxLength < bytes.length)
    ∧ (options.maxLength < bytes.length →
      load options bytes = (.error (.inputTooLarge bytes.length options.maxLength), [])) := by
  refine ⟨fun e he => ?_, ⟨?_, fun hlt => ⟨_, _, ofBytes_of_lt hlt⟩⟩, fun hlt => if_pos hlt⟩
  · by_cases hlen : bytes.length ≤ options.maxLength
    · rw [ofBytes_of_le hlen] at he
      exact truthful_of_read he
    · have hlt := Nat.not_le.mp hlen
      rw [ofBytes_of_lt hlt] at he
      obtain rfl := Except.error.inj he
      exact ⟨rfl, rfl, hlt⟩
  · rintro ⟨length, limit, h⟩
    exact (ofBytes_eq_inputTooLarge_iff.mp h).1

/-- A file that begins as it should, with the most significant bytes first. -/
def begun (rest : List UInt8) : List UInt8 :=
  Image.preamble ⟨Header.currentVersion, .big⟩ SelfCheck.expected ++ rest

/-- A length below zero, a string without its end, and a string longer than the file. -/
theorem ofBytes_truthful_begun :
    (ofBytes .default (begun [0x80, 0, 0, 1])
        = .error (.malformedLength "main.source" 21 (-0x7FFFFFFF))
      ∧ ∃ n, Stores (begun [0x80, 0, 0, 1]) 21 n ∧ n.toInt = -0x7FFFFFFF)
    ∧ (ofBytes .default (begun [0, 0, 0, 2, 97, 98])
        = .error (.malformedString "main.source" 26 .noTerminator)
      ∧ ∃ b, (begun [0, 0, 0, 2, 97, 98])[26]? = some b ∧ b ≠ 0)
    ∧ (ofBytes .default (begun [0, 0, 1, 0, 97]) = .error (.truncated "main.source" 25 256 1)
      ∧ 1 = (begun [0, 0, 1, 0, 97]).length - 25) := by
  have hlength : ofBytes .default (begun [0x80, 0, 0, 1])
      = .error (.malformedLength "main.source" 21 (-0x7FFFFFFF)) := by rfl
  have hend : ofBytes .default (begun [0, 0, 0, 2, 97, 98])
      = .error (.malformedString "main.source" 26 .noTerminator) := by rfl
  have hshort : ofBytes .default (begun [0, 0, 1, 0, 97])
      = .error (.truncated "main.source" 25 256 1) := by rfl
  exact ⟨⟨hlength, ((ofBytes_truthful _ _).1 _ hlength).2⟩,
    ⟨hend, ((ofBytes_truthful _ _).1 _ hend).1⟩,
    ⟨hshort, ((ofBytes_truthful _ _).1 _ hshort).2.1⟩⟩

end ChunkFile

end LuaChunk
