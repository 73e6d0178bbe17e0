import LuaChunk.Proofs.Input.Field

/-!
# Proofs/File/Layout — the layouts of functions and of what stands before them

`Prototype.read` and `Image.Function.bytes` are the two sides of one layout, at every depth and for
every number of levels allowed (`reads_prototype`).  What can be written is said on images alone:
all lengths are signed words (`Fits`), and the nesting is not too deep (`height`).
-/

namespace LuaChunk

namespace Image.Function

mutual

/-- The number of levels below the root. -/
def height : Function → Nat
  | ⟨_, _, _, _, _, _, _, _, _, functions, _⟩ => heightAll functions

/-- One more than the greatest height of a list of functions. -/
def heightAll : List Function → Nat
  | [] => 0
  | p :: ps => max (p.height + 1) (heightAll ps)

end

mutual

/-- Whether all lengths and numbers of entries of a tree can be written as signed words. -/
def Fits : Function → Prop
  | ⟨source, _, _, _, _, locals, lines, strings, numbers, functions, code⟩ =>
    source.length + 1 < lengthBound
      ∧ (locals.length < lengthBound ∧ ∀ v ∈ locals, v.name.length + 1 < lengthBound)
      ∧ lines.length < lengthBound
      ∧ (strings.length < lengthBound ∧ ∀ s ∈ strings, s.length + 1 < lengthBound)
      ∧ numbers.length < lengthBound
      ∧ (functions.length < lengthBound ∧ FitsAll functions)
      ∧ code.length < lengthBound

def FitsAll : List Function → Prop
  | [] => True
  | p :: ps => p.Fits ∧ FitsAll ps

end

mutual

/-- What reading a function at a depth reports: its malformed strings as they come, then whatever
its nested functions report, and at last that it has been read. -/
def trace (charset : Charset) (depth : Nat) : Function → List Event
  | p@⟨source, _, _, _, _, locals, _, strings, _, functions, _⟩ =>
    Layout.string.events charset source
      ++ locals.flatMap (fun v => Layout.string.events charset v.name)
      ++ strings.flatMap (Layout.string.events charset)
      ++ traceAll charset (depth + 1) functions
      ++ [(p.interpret charset).readEvent depth]

def traceAll (charset : Charset) (depth : Nat) : List Function → List Event
  | [] => []
  | p :: ps => p.trace charset depth ++ traceAll charset depth ps

end

/-! ## Lists of functions -/

theorem heightAll_le_iff {ps : List Function} {n : Nat} :
    heightAll ps ≤ n ↔ ∀ p ∈ ps, p.height < n := by
  induction ps with
  | nil => simp [heightAll]
  | cons p ps ih =>
    rw [heightAll, Nat.max_le, ih, List.forall_mem_cons]
    exact Iff.rfl

theorem fitsAll_iff {ps : List Function} : FitsAll ps ↔ ∀ p ∈ ps, p.Fits := by
  induction ps with
  | nil => simp [FitsAll]
  | cons p ps ih => rw [FitsAll, ih, List.forall_mem_cons]

theorem bytesAll_eq (order : ByteOrder) (ps : List Function) :
    bytesAll order ps = ps.flatMap (bytes order) := by
  induction ps with
  | nil => rfl
  | cons p ps ih => rw [bytesAll, ih, List.flatMap_cons]

theorem interpretAll_eq (charset : Charset) (ps : List Function) :
    interpretAll charset ps = ps.map (interpret charset) := by
  induction ps with
  | nil => rfl
  | cons p ps ih => rw [interpretAll, ih, List.map_cons]

theorem traceAll_eq (charset : Charset) (depth : Nat) (ps : List Function) :
    traceAll charset depth ps = ps.flatMap (trace charset depth) := by
  induction ps with
  | nil => rfl
  | cons p ps ih => rw [traceAll, ih, List.flatMap_cons]

end Image.Function

namespace Layout

def header : Layout Header Header :=
  ⟨fun _ h => Header.marker :: Header.magic ++ [h.version, Image.flag h.order], fun _ h => h,
    fun _ h =>
      if h.version != Header.currentVersion then [.version h.version Header.currentVersion] else [],
    fun _ => True⟩

def selfCheck : Layout SelfCheck SelfCheck :=
  ⟨fun order c => c.sizes.map (fun s => s.2) ++ Image.binary64 order c.sample, fun _ c => c,
    fun _ _ => [], fun _ => True⟩

def localVar : Layout Image.Local LocalVar :=
  ⟨Image.Local.bytes, Image.Local.interpret, fun charset v => string.events charset v.name,
    fun v => v.name.length + 1 < Image.lengthBound⟩

def word : Layout Word Word :=
  ⟨fun order w => Image.uint32 order w.bits, fun _ w => w, fun _ _ => [], fun _ => True⟩

/-- A function at a depth, with a number of levels allowed for it and those nested in it. -/
def function (levels depth : Nat) : Layout Image.Function Prototype :=
  ⟨Image.Function.bytes, Image.Function.interpret,
    fun charset p => p.trace charset depth, fun p => p.Fits ∧ p.height < levels⟩

end Layout

namespace Reader

/-! ## The header and the self-check record -/

theorem order?_flag (order : ByteOrder) : Header.order? (Image.flag order) = some order := by
  cases order <;> rfl

theorem eq_flag_of_order? {b : UInt8} {order : ByteOrder} (h : Header.order? b = some order) :
    b = Image.flag order := by
  unfold Header.order? at h
  split at h <;> cases h <;> rfl

/-- What follows the version: the flag of the byte order. -/
def flagged (version : UInt8) : Reader Header := do
  let flag ← byte "little_endian"
  match Header.order? flag with
  | some order => return ⟨version, order⟩
  | none => fail (.invalidHeader ⟨"endianness flag", decimal flag.toNat, "0 or 1"⟩)

theorem reads_flagged (version : UInt8) :
    (flagged version).Reads
      ⟨fun _ order => [Image.flag order], fun _ order => ⟨version, order⟩, fun _ _ => [],
        fun _ => True⟩ where
  complete := by
    intro c order tail _ hrest
    have hflag : (byte "little_endian").run c = ⟨.ok (Image.flag order), c.advance 1, []⟩ :=
      (reads_byte "little_endian").complete trivial hrest
    rw [flagged, run_bind, hflag, Outcome.andThen_ok, order?_flag]
    rfl
  sound := by
    intro c h hok
    obtain ⟨b, hb, hok⟩ := result_bind_eq_ok.mp hok
    obtain ⟨b', tail, -, hrest, hbb⟩ := (reads_byte "little_endian").exists_raw hb
    obtain rfl : b' = b := hbb
    cases horder : Header.order? b' with
    | none =>
      rw [horder] at hok
      exact absurd hok result_fail_ne_ok
    | some order =>
      obtain rfl := eq_flag_of_order? horder
      exact ⟨order, tail, trivial, hrest⟩
  prefixFree := by
    intro _ order order' s t _ _ heq
    obtain ⟨hflag, hst⟩ := List.cons.inj heq
    have horder : some order = some order' := by rw [← order?_flag, ← order?_flag, hflag]
    exact ⟨Option.some.inj horder, hst⟩

theorem reads_header : Header.read.Reads Layout.header := by
  have hread := (reads_byte "marker").expect
    (fun first => .invalidHeader
      ⟨"marker", hexWord 2 first.toNat, hexWord 2 Header.marker.toNat⟩)
    ((reads_take 3 "magic").expect
      (fun letters => .invalidHeader ⟨"magic", hexBytes letters, "\"Lua\""⟩)
      ((reads_byte "version").bind fun version =>
        (reads_flagged version).reportIf (version != Header.currentVersion)
          (.version version Header.currentVersion))
      (b := Header.magic) rfl (fun _ _ => rfl) (fun _ _ => rfl))
    (b := Header.marker) trivial (fun _ _ => rfl) (fun _ _ => rfl)
  refine hread.reshape (fun p => ⟨p.1, p.2⟩) ?_ ?_ ?_ ?_ ?_
  · exact fun _ _ => trivial
  · exact fun h _ => ⟨(h.version, h.order), ⟨trivial, trivial⟩, rfl⟩
  · exact fun _ _ _ => rfl
  · exact fun _ _ _ => rfl
  · exact fun _ _ _ => (List.append_nil _).symm

theorem reads_selfCheck : SelfCheck.read.Reads Layout.selfCheck := by
  have hread := (reads_byte "size_int").bind fun sizeInt =>
    (reads_byte "size_size_t").bind fun sizeSizeT =>
    (reads_byte "size_instruction").bind fun sizeInstruction =>
    (reads_byte "test_size_instruction").bind fun instructionBits =>
    (reads_byte "test_size_op").bind fun codeBits => (reads_byte "test_size_b").bind fun bBits =>
    (reads_byte "size_number").bind fun sizeNumber =>
    (reads_binary64 "test_number").bind fun sample =>
    Reads.pure (SelfCheck.mk sizeInt sizeSizeT sizeInstruction instructionBits codeBits bBits
      sizeNumber sample)
  refine hread.reshape
    (fun ⟨sizeInt, sizeSizeT, sizeInstruction, instructionBits, codeBits, bBits, sizeNumber, sample,
      _⟩ =>
      ⟨sizeInt, sizeSizeT, sizeInstruction, instructionBits, codeBits, bBits, sizeNumber, sample⟩)
    ?_ ?_ ?_ ?_ ?_
  · exact fun _ _ => trivial
  · exact fun c _ => ⟨(c.sizeInt, c.sizeSizeT, c.sizeInstruction, c.instructionBits, c.codeBits,
      c.bBits, c.sizeNumber, c.sample, ()), by simp [Layout.byte, Layout.binary64], rfl⟩
  · rintro order p -
    simp [Layout.selfCheck, Layout.byte, Layout.binary64, SelfCheck.sizes]
  · exact fun _ _ _ => rfl
  · exact fun _ _ _ => rfl

/-! ## Functions -/

theorem reads_word : Word.read.Reads Layout.word := by
  refine ((reads_uint32 "instruction").bind fun n => Reads.pure (Word.mk n)).reshape
    (fun p => Word.mk p.1) ?_ ?_ ?_ ?_ ?_
  · exact fun _ _ => trivial
  · exact fun w _ => ⟨(w.bits, ()), ⟨trivial, trivial⟩, rfl⟩
  · exact fun _ _ _ => (List.append_nil _).symm
  · exact fun _ _ _ => rfl
  · exact fun _ _ _ => rfl

theorem reads_localVar : LocalVar.read.Reads Layout.localVar := by
  refine ((reads_string "name").bind fun name => (reads_int32 "start_pc").bind fun start =>
    (reads_int32 "end_pc").bind fun stop => Reads.pure (LocalVar.mk name start stop)).reshape
    (fun p => Image.Local.mk p.1 p.2.1 p.2.2.1) ?_ ?_ ?_ ?_ ?_
  · exact fun _ hp => hp.1
  · exact fun v hv => ⟨(v.name, v.start, v.stop, ()), ⟨hv, trivial, trivial, trivial⟩, rfl⟩
  · intro order p _
    simp [Layout.localVar, Layout.string, Layout.int32, Image.Local.bytes]
  · exact fun _ _ _ => rfl
  · intro charset p _
    simp [Layout.localVar, Layout.int32]

theorem flatMap_silent {β : Type} (xs : List β) : xs.flatMap (fun _ => ([] : List Event)) = [] :=
  List.flatMap_eq_nil_iff.mpr fun _ _ => rfl

/-- **Functions are read as they are written, at every depth.**  The recursion is on the levels
still allowed; a function that needs more is not in the layout, and is refused. -/
theorem reads_prototype (limit levels depth : Nat) :
    (Prototype.read limit levels depth).Reads (Layout.function levels depth) := by
  induction levels generalizing depth with
  | zero => exact Reads.fail _ _ fun p hp => Nat.not_lt_zero _ hp.2
  | succ levels ih =>
    have hread := (reads_string "source").bind fun source =>
      (reads_int32 "line_number").bind fun line => (reads_int32 "num_params").bind fun parameters =>
      (reads_byte "is_vararg").bind fun vararg => (reads_int32 "max_stack_size").bind fun stack =>
      (reads_table reads_localVar "local_vars").bind fun locals =>
      (reads_table (reads_int32 "line") "line_info").bind fun lines =>
      (reads_table (reads_string "string") "strings").bind fun strings =>
      (reads_table (reads_binary64 "number") "numbers").bind fun numbers =>
      (reads_table (ih (depth + 1)) "functions").bind fun functions =>
      (reads_table reads_word "instructions").bind fun code =>
      let p := Prototype.mk source line parameters (vararg != 0) stack locals lines strings numbers
        functions code
      Reads.report (p.readEvent depth) p
    refine hread.reshape
      (fun ⟨source, line, parameters, vararg, stack, locals, lines, strings, numbers, functions,
        code, _⟩ =>
        ⟨source, line, parameters, vararg, stack, locals, lines, strings, numbers, functions, code⟩)
      ?_ ?_ ?_ ?_ ?_
    · rintro ⟨source, line, parameters, vararg, stack, locals, lines, strings, numbers, functions,
        code, _⟩ ⟨hsource, -, -, -, -, hlocals, hlines, hstrings, hnumbers, hfunctions, hcode, -⟩
      refine ⟨⟨hsource, hlocals, hlines.1, hstrings, hnumbers.1, ⟨hfunctions.1, ?_⟩, hcode.1⟩, ?_⟩
      · exact Image.Function.fitsAll_iff.mpr fun q hq => (hfunctions.2 q hq).1
      · exact Nat.lt_succ_of_le
          (Image.Function.heightAll_le_iff.mpr fun q hq => (hfunctions.2 q hq).2)
    · rintro ⟨source, line, parameters, vararg, stack, locals, lines, strings, numbers, functions,
        code⟩ ⟨⟨hsource, hlocals, hlines, hstrings, hnumbers, hfunctions, hcode⟩, hheight⟩
      refine ⟨(source, line, parameters, vararg, stack, locals, lines, strings, numbers, functions,
        code, ()), ⟨hsource, trivial, trivial, trivial, trivial, hlocals,
        ⟨hlines, fun _ _ => trivial⟩, hstrings, ⟨hnumbers, fun _ _ => trivial⟩,
        ⟨hfunctions.1, fun q hq => ⟨?_, ?_⟩⟩,
        ⟨hcode, fun _ _ => trivial⟩, trivial⟩, rfl⟩
      · exact Image.Function.fitsAll_iff.mp hfunctions.2 q hq
      · exact Image.Function.heightAll_le_iff.mp (Nat.le_of_lt_succ hheight) q hq
    · rintro order ⟨source, line, parameters, vararg, stack, locals, lines, strings, numbers,
        functions, code, _⟩ -
      simp [Layout.function, Layout.string, Layout.int32, Layout.byte, Layout.table,
        Layout.localVar, Layout.binary64, Layout.word, Image.Function.bytes,
        Image.Function.bytesAll_eq, Image.table]
    · rintro charset ⟨source, line, parameters, vararg, stack, locals, lines, strings, numbers,
        functions, code, _⟩ -
      simp [Layout.function, Layout.string, Layout.int32, Layout.byte, Layout.table,
        Layout.localVar, Layout.binary64, Layout.word, Image.Function.interpret,
        Image.Function.interpretAll_eq]
    · rintro charset ⟨source, line, parameters, vararg, stack, locals, lines, strings, numbers,
        functions, code, _⟩ -
      simp [Layout.function, Layout.string, Layout.int32, Layout.byte, Layout.table,
        Layout.localVar, Layout.binary64, Layout.word, Image.Function.trace,
        Image.Function.traceAll_eq, Image.Function.interpret, Image.Function.interpretAll_eq,
        flatMap_silent]

end Reader

end LuaChunk
