import Mathlib.Algebra.GroupWithZero.Nat
import LuaChunk.Proofs.File.Address
import LuaChunk.Proofs.File.Calls
import LuaChunk.Proofs.File.Texts

/-!
# Proofs/File/Budget — every byte of a file is spoken for

What is read of an accepted file is its preamble, a fixed amount for each function and for each
entry of its tables (`Prototype.bulk`), and the payloads of its strings: nothing else, and nothing
twice (`length_bytes`).  So the bytes of a file bound the functions and tables in it, whatever
numbers it declares.

A file that is not accepted is bounded by its calls (`Proofs/File/Calls`).  That these come to an
end by themselves is said by `load_of_le`: beyond what the file has room for, the limit on nesting
makes no difference.
-/

namespace LuaChunk

namespace Prototype

/-- **What a function takes by itself**, without the payloads of its strings and without its nested
functions. -/
def bulk (p : Prototype) : Nat :=
  42 + 13 * p.locals.length + 4 * p.lines.length + 5 * p.strings.length + 8 * p.numbers.length
    + 4 * p.code.length

/-- What the functions of a list take. -/
def totalBulk (ms : List (Nat × Prototype)) : Nat := (ms.map fun m => m.2.bulk).sum

@[simp] theorem totalBulk_cons (m : Nat × Prototype) (ms : List (Nat × Prototype)) :
    totalBulk (m :: ms) = m.2.bulk + totalBulk ms := List.sum_cons

@[simp] theorem totalBulk_append (ms ns : List (Nat × Prototype)) :
    totalBulk (ms ++ ns) = totalBulk ms + totalBulk ns := by
  simp only [totalBulk, List.map_append, List.sum_append_nat]

end Prototype

/-! ## The length of what is written -/

namespace Image

theorem length_local (order : ByteOrder) (v : Local) :
    (v.bytes order).length = 13 + v.name.length := by
  simp only [Local.bytes, List.length_append, length_string, length_int32]
  omega

/-- A table has a fixed amount for each entry, and what else the entry has. -/
theorem length_table {α : Type} (order : ByteOrder) {entry : α → List UInt8} {n : Nat}
    (more : α → Nat) (h : ∀ x, (entry x).length = n + more x) (xs : List α) :
    (table order entry xs).length = 4 + n * xs.length + (xs.map more).sum := by
  have hentries : (xs.flatMap entry).length = n * xs.length + (xs.map more).sum := by
    induction xs with
    | nil => rfl
    | cons x xs ih =>
      rw [List.flatMap_cons, List.length_append, ih, h, List.length_cons, Nat.mul_succ,
        List.map_cons, List.sum_cons]
      omega
  rw [table, List.length_append, length_length, hentries, Nat.add_assoc]

/-- A table whose entries all have the same length. -/
theorem length_table_of_fixed {α : Type} (order : ByteOrder) {entry : α → List UInt8} {n : Nat}
    (h : ∀ x, (entry x).length = n) (xs : List α) :
    (table order entry xs).length = 4 + n * xs.length := by
  have hnone : (xs.map fun _ => 0).sum = 0 := by
    rw [List.map_const', List.sum_replicate_nat, Nat.mul_zero]
  rw [length_table order (fun _ => 0) h, hnone, Nat.add_zero]

/-- What payloads take. -/
def weight (payloads : List (List UInt8)) : Nat := (payloads.map List.length).sum

@[simp] theorem weight_cons (payload : List UInt8) (payloads : List (List UInt8)) :
    weight (payload :: payloads) = payload.length + weight payloads := List.sum_cons

@[simp] theorem weight_append (xs ys : List (List UInt8)) :
    weight (xs ++ ys) = weight xs + weight ys := by
  simp only [weight, List.map_append, List.sum_append_nat]

namespace Function

mutual

/-- **The bytes of a tree are the bulk of its functions and the payloads of its strings.** -/
theorem length_bytes (order : ByteOrder) (charset : Charset) (depth : Nat) :
    ∀ p : Function, (p.bytes order).length
      = Prototype.totalBulk ((p.interpret charset).preorder depth) + weight p.payloads
  | ⟨_, _, _, _, _, locals, _, strings, _, functions, _⟩ => by
    have hlocals : (table order (Local.bytes order) locals).length
        = 4 + 13 * locals.length + weight (locals.map Local.name) := by
      rw [length_table order (fun v => v.name.length) (length_local order), weight, List.map_map]
      rfl
    have hstrings : (table order (string order) strings).length
        = 4 + 5 * strings.length + weight strings :=
      length_table order List.length (length_string order) strings
    have hnested := length_bytesAll order charset (depth + 1) functions
    rw [bytes, interpret, Prototype.preorder, payloads, Prototype.totalBulk_cons, weight_cons,
      weight_append, weight_append]
    simp only [List.length_append, length_string, length_int32, length_length, hlocals, hstrings,
      length_table_of_fixed order (length_int32 order),
      length_table_of_fixed order (length_binary64 order),
      length_table_of_fixed order (fun w : Word => length_uint32 order w.bits), hnested,
      List.length_singleton, Prototype.bulk, List.length_map]
    omega

theorem length_bytesAll (order : ByteOrder) (charset : Charset) (depth : Nat) :
    ∀ ps : List Function, (bytesAll order ps).length
      = Prototype.totalBulk (Prototype.preorderAll depth (interpretAll charset ps))
        + weight (payloadsAll ps)
  | [] => rfl
  | p :: ps => by
    rw [bytesAll, interpretAll, Prototype.preorderAll, payloadsAll, List.length_append,
      length_bytes order charset depth p, length_bytesAll order charset depth ps,
      Prototype.totalBulk_append, weight_append]
    omega

end

end Function

theorem length_preamble (header : Header) (c : SelfCheck) :
    (preamble header c).length = preambleLength := by
  simp [preamble, Header.magic, SelfCheck.sizes, length_binary64, preambleLength]

/-- **The bytes of a file**, all accounted for. -/
theorem File.length_bytes (i : File) (charset : Charset) :
    i.bytes.length = preambleLength
      + Prototype.totalBulk ((i.interpret charset).main.preorder 0) + weight i.main.payloads := by
  rw [bytes, List.length_append, length_preamble, Function.length_bytes _ charset 0, Nat.add_assoc]
  rfl

end Image

namespace Prototype

theorem le_totalBulk (ms : List (Nat × Prototype)) : 42 * ms.length ≤ totalBulk ms := by
  induction ms with
  | nil => exact Nat.le_refl 0
  | cons m ms ih =>
    rw [List.length_cons, totalBulk_cons, bulk]
    omega

/-- The roots of a list of trees are among its functions. -/
theorem length_le_length_preorderAll (depth : Nat) (ps : List Prototype) :
    ps.length ≤ (preorderAll depth ps).length := by
  induction ps with
  | nil => exact Nat.le_refl 0
  | cons p ps ih =>
    have hroot : 0 < (p.preorder depth).length := by
      cases p
      exact Nat.succ_pos _
    rw [preorderAll, List.length_append, List.length_cons]
    omega

mutual

/-- **A tree takes what each of its functions takes**, the least for its nested functions
included. -/
theorem bulk_le_totalBulk (depth : Nat) :
    ∀ p : Prototype, ∀ m ∈ p.preorder depth,
      m.2.bulk + 42 * m.2.functions.length ≤ totalBulk (p.preorder depth)
  | p@⟨_, _, _, _, _, _, _, _, _, functions, _⟩, m, hm => by
    rw [preorder] at hm ⊢
    rw [totalBulk_cons]
    rcases List.mem_cons.mp hm with rfl | hm
    · have hroots := length_le_length_preorderAll (depth + 1) functions
      have hnested := le_totalBulk (preorderAll (depth + 1) functions)
      dsimp only
      omega
    · have hnested := bulk_le_totalBulkAll (depth + 1) functions m hm
      omega

theorem bulk_le_totalBulkAll (depth : Nat) :
    ∀ ps : List Prototype, ∀ m ∈ preorderAll depth ps,
      m.2.bulk + 42 * m.2.functions.length ≤ totalBulk (preorderAll depth ps)
  | [], m, hm => absurd hm List.not_mem_nil
  | p :: ps, m, hm => by
    rw [preorderAll] at hm ⊢
    rw [totalBulk_append]
    rcases List.mem_append.mp hm with hm | hm
    · have hfirst := bulk_le_totalBulk depth p m hm
      omega
    · have hrest := bulk_le_totalBulkAll depth ps m hm
      omega

end

end Prototype

/-! ## Levels that a file cannot reach -/

namespace Reader

variable {α β : Type}

/-- **Readers that cannot be told apart** where fewer than `n` bytes are ahead. -/
def Alike (n : Nat) (r r' : Reader α) : Prop := ∀ c, c.remaining < n → r.run c = r'.run c

namespace Alike

variable {m n : Nat} {r r' : Reader α} {next next' : α → Reader β}

theorem refl (n : Nat) (r : Reader α) : Alike n r r := fun _ _ => rfl

theorem mono (hr : Alike n r r') (h : m ≤ n) : Alike m r r' :=
  fun c hc => hr c (Nat.lt_of_lt_of_le hc h)

theorem within (hr : Alike n r r') (segment : String) :
    Alike n (Reader.within segment r) (Reader.within segment r') :=
  fun c hc => by rw [run_within, run_within, hr c hc]

/-- What a first step has read is not ahead of the second any more. -/
theorem bind (hr : Alike n r r') (honline : r'.Online) (hadvance : r'.Advances m)
    (hnext : ∀ a, Alike (n - m) (next a) (next' a)) : Alike n (r >>= next) (r' >>= next') := by
  intro c hc
  have hsize := honline.size_cursor c
  have hread := hadvance c
  rw [run_bind, run_bind, hr c hc]
  generalize r'.run c = o at hsize hread
  obtain ⟨result, c', events⟩ := o
  cases result with
  | error e => rfl
  | ok a =>
    have hread : c.position + m ≤ c'.position := hread a rfl
    have hrest : c'.remaining < n - m := by
      simp only [Cursor.size] at hsize
      omega
    rw [Outcome.andThen_ok, Outcome.andThen_ok, hnext a c' hrest]

/-- The step that both have in common. -/
theorem step {r : Reader α} (honline : r.Online) (hadvance : r.Advances m)
    (hnext : ∀ a, Alike (n - m) (next a) (next' a)) : Alike n (r >>= next) (r >>= next') :=
  (refl n r).bind honline hadvance hnext

theorem entries (hr : Alike n r r') (honline : r'.Online) (hadvance : r'.Advances 0)
    (i count : Nat) : Alike n (Reader.entries r i count) (Reader.entries r' i count) := by
  induction count generalizing i with
  | zero => exact refl n _
  | succ count ih =>
    refine (hr.within _).bind (honline.within _) (hadvance.within _) fun a => ?_
    have hrest := (hadvance.entries (i + 1) count).mono (Nat.zero_le _)
    exact (ih (i + 1)).bind (honline.entries _ _) hrest fun as => refl n _

end Alike

theorem advances_prototype (limit levels depth : Nat) :
    (Prototype.read limit levels depth).Advances 0 := by
  intro c p hp
  rw [← Traced.reader_prototype] at hp ⊢
  have hread := (Traced.paced_prototype limit levels depth).advance c p hp
  omega

/-- **Levels that the bytes ahead have no room for make no difference**, nor does the limit that
they are counted against. -/
theorem alike_prototype {k levels levels' : Nat} (limit limit' depth : Nat) (h : k ≤ levels)
    (h' : k ≤ levels') : Alike (Prototype.frontLength * k) (Prototype.read limit levels depth)
      (Prototype.read limit' levels' depth) := by
  induction k generalizing levels levels' depth with
  | zero => exact fun c hc => absurd hc (Nat.not_lt_zero _)
  | succ k ih =>
    obtain ⟨levels, rfl⟩ : ∃ n, levels = n + 1 := Nat.exists_eq_add_one.mpr (by omega)
    obtain ⟨levels', rfl⟩ : ∃ n, levels' = n + 1 := Nat.exists_eq_add_one.mpr (by omega)
    rw [Prototype.read_succ, Prototype.read_succ]
    refine Alike.step online_front advances_front fun f => ?_
    -- a front is gone from the bytes ahead, and a level from those allowed
    rw [Nat.mul_succ, Nat.add_sub_cancel]
    have hnested := ih (depth + 1) (Nat.le_of_succ_le_succ h) (Nat.le_of_succ_le_succ h')
    have honline := online_prototype limit' levels' (depth + 1)
    have hadvance := advances_prototype limit' levels' (depth + 1)
    refine ((hnested.entries honline hadvance 0 f.nested).within _).bind
      ((honline.entries _ _).within _) (((hadvance.entries _ _).mono (Nat.zero_le _)).within _)
      fun functions => ?_
    exact Alike.refl _ _

end Reader

namespace ChunkFile

open Reader

/-- The deepest nesting that a file of some length has room for. -/
def deepest (length : Nat) : Nat := (length - Image.preambleLength) / Prototype.frontLength

theorem alike_read (options : LoadOptions) {k limit limit' : Nat} (h : k ≤ limit + 1)
    (h' : k ≤ limit' + 1) :
    Alike (Image.preambleLength + Prototype.frontLength * k)
      (read { options with maxDepth := limit }) (read { options with maxDepth := limit' }) := by
  have hmain := alike_prototype limit limit' 0 h h'
  unfold read
  refine Alike.step online_header advances_header fun header => ?_
  refine Alike.step (Online.setOrder _) (Advances.setOrder _) fun _ => ?_
  refine Alike.step online_selfCheck advances_selfCheck fun record => ?_
  refine Alike.step (online_judge _ _) (advances_judge _ _) fun _ => ?_
  refine ((hmain.mono ?_).within _).bind ((online_prototype _ _ _).within _)
    ((advances_prototype _ _ _).within _) fun main => Alike.refl _ _
  rw [Image.preambleLength]
  omega

/-- **A limit that a file cannot reach is no limit.** -/
theorem load_of_le {options : LoadOptions} {bytes : List UInt8} {limit limit' : Nat}
    (h : deepest bytes.length ≤ limit) (h' : deepest bytes.length ≤ limit') :
    load { options with maxDepth := limit } bytes
      = load { options with maxDepth := limit' } bytes := by
  have hroom : bytes.length
      < Image.preambleLength + Prototype.frontLength * (deepest bytes.length + 1) := by
    have hmod := Nat.lt_mul_div_succ (bytes.length - Image.preambleLength)
      (show 0 < Prototype.frontLength by decide)
    rw [deepest]
    omega
  have halike := alike_read options (Nat.succ_le_succ h) (Nat.succ_le_succ h')
  simp only [load, halike (Cursor.start bytes .little options.charset) hroom]

/-- The calls of a run are in a file that has room for them. -/
theorem room_of_call {options : LoadOptions} {bytes : List UInt8} {call : Call}
    (h : call ∈ calls options bytes) :
    Image.preambleLength + Prototype.frontLength * call.depth ≤ call.position
      ∧ call.position ≤ bytes.length := by
  obtain ⟨k, hk⟩ := List.mem_iff_getElem?.mp h
  obtain ⟨hdepth, hposition, hend⟩ := calls_paced options bytes hk
  have hpace := Nat.mul_le_mul_left Prototype.frontLength hdepth
  exact ⟨by omega, hend⟩

theorem le_deepest {bytes : List UInt8} {k : Nat}
    (h : Image.preambleLength + Prototype.frontLength * k ≤ bytes.length) :
    k ≤ deepest bytes.length := by
  rw [deepest, Nat.le_div_iff_mul_le (show 0 < Prototype.frontLength by decide), Nat.mul_comm]
  omega

theorem length_calls_le (options : LoadOptions) (bytes : List UInt8) :
    (calls options bytes).length ≤ deepest bytes.length + 1 := by
  cases hlast : (calls options bytes).length with
  | zero => exact Nat.zero_le _
  | succ k =>
    have hk : k < (calls options bytes).length := by omega
    obtain ⟨-, hposition, hend⟩ := calls_paced options bytes (List.getElem?_eq_getElem hk)
    exact Nat.succ_le_succ (le_deepest (Nat.le_trans hposition hend))

/-- **Every byte is spoken for, and every call.**  What is read of an accepted file is its preamble,
the bulk of each of its functions and the payloads of its strings; so its functions and tables are
no larger than the file.  Accepted or not, a call for a function at some depth has that many fronts
before it in the file, and there are no more calls than fronts; a file that cannot reach the limit
on nesting is read as if there were none. -/
theorem ofBytes_budget (options : LoadOptions) (bytes : List UInt8)
    (hlength : bytes.length < signedCount) :
    (∀ f, ofBytes options bytes = .ok f →
      (∃ (i : Image.File) (tail : List UInt8),
        bytes = i.bytes ++ tail ∧ i.main.Fits ∧ f = i.interpret options.charset
          ∧ (∀ (j : Image.File) (rest : List UInt8), j.main.Fits → bytes = j.bytes ++ rest → j = i)
          ∧ consumed options bytes
            = 21 + Prototype.totalBulk (f.main.preorder 0) + Image.weight i.main.payloads)
        ∧ 21 + 42 * f.main.count ≤ bytes.length
        ∧ (∀ m ∈ f.main.preorder 0, m.2.bulk + 42 * m.2.functions.length ≤ bytes.length)
        ∧ (calls options bytes).map Call.depth = (f.main.preorder 0).map Prod.fst)
    ∧ (Traced.file options).reader = read options
    ∧ (∀ call ∈ calls options bytes, 21 + 38 * call.depth ≤ call.position
        ∧ call.position ≤ bytes.length ∧ call.depth ≤ (bytes.length - 21) / 38
        ∧ call.depth + 1 < wordCount)
    ∧ (calls options bytes).length ≤ (bytes.length - 21) / 38 + 1
    ∧ ∀ limit limit', (bytes.length - 21) / 38 ≤ limit → (bytes.length - 21) / 38 ≤ limit' →
      load { options with maxDepth := limit } bytes
        = load { options with maxDepth := limit' } bytes := by
  refine ⟨fun f h => ?_, Traced.reader_file options, fun call hcall => ?_,
    length_calls_le options bytes, fun limit limit' => load_of_le⟩
  · have hcalls := depths_calls h
    have hmax := length_le_of_ok h
    obtain ⟨i, tail, hi, rfl⟩ := exists_image_of_ok h
    rw [ofBytes_bytes_append hi hmax] at h
    obtain rfl := Except.ok.inj h
    have hbytes := i.length_bytes options.charset
    have hle : i.bytes.length ≤ (i.bytes ++ tail).length := by
      rw [List.length_append]
      exact Nat.le_add_right _ _
    rw [Image.preambleLength] at hbytes
    refine ⟨⟨i, tail, rfl, hi.fits, rfl, ?_, ?_⟩, ?_, ?_, hcalls⟩
    · exact fun j rest hj heq => (Image.File.bytes_append_inj hj hi.fits heq.symm).1
    · rw [consumed_bytes_append hi, hbytes]
    · have hcount := Prototype.le_totalBulk ((i.interpret options.charset).main.preorder 0)
      rw [Prototype.length_preorder] at hcount
      omega
    · intro m hm
      have hbulk := Prototype.bulk_le_totalBulk 0 _ m hm
      omega
  · obtain ⟨hposition, hend⟩ := room_of_call hcall
    have hdeepest := le_deepest (Nat.le_trans hposition hend)
    rw [Image.preambleLength, Prototype.frontLength] at hposition
    refine ⟨hposition, hend, hdeepest, ?_⟩
    simp only [signedCount, wordCount] at hlength ⊢
    omega

open Image.File in
theorem ofBytes_budget_of_specimen :
    (specimen.bytes ++ [1, 2]).length < signedCount
      ∧ ofBytes .default (specimen.bytes ++ [1, 2]) = .ok (specimen.interpret .utf8)
      ∧ (∃ (i : Image.File) (tail : List UInt8),
        specimen.bytes ++ [1, 2] = i.bytes ++ tail ∧ i.main.Fits
          ∧ specimen.interpret .utf8 = i.interpret .utf8
          ∧ (∀ (j : Image.File) (rest : List UInt8), j.main.Fits →
            specimen.bytes ++ [1, 2] = j.bytes ++ rest → j = i)
          ∧ consumed .default (specimen.bytes ++ [1, 2])
            = 21 + Prototype.totalBulk ((specimen.interpret .utf8).main.preorder 0)
              + Image.weight i.main.payloads)
      ∧ (calls .default (specimen.bytes ++ [1, 2])).map Call.depth = [0, 1]
      ∧ load { LoadOptions.default with maxDepth := 3 } (specimen.bytes ++ [1, 2])
        = load { LoadOptions.default with maxDepth := wordCount - 1 }
          (specimen.bytes ++ [1, 2]) := by
  have hlength : (specimen.bytes ++ [1, 2]).length < signedCount := by decide +kernel
  have hok := ofBytes_bytes_append specimen_admissible length_specimen_le
  obtain ⟨haccepted, -, -, -, hlimit⟩ := ofBytes_budget .default _ hlength
  obtain ⟨hbudget, -, -, hcalls⟩ := haccepted _ hok
  exact ⟨hlength, hok, hbudget, hcalls.trans (by decide +kernel),
    hlimit 3 (wordCount - 1) (by decide +kernel) (by decide +kernel)⟩

end ChunkFile

end LuaChunk
