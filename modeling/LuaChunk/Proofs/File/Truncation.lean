import LuaChunk.Proofs.File.Prefix
import LuaChunk.Proofs.File.Qualified
import LuaChunk.Proofs.Input.Spans

/-!
# Proofs/File/Truncation — what is said of a file that is cut off

A file is a row of spans (`Image.File.spans`): the fields of its preamble, and then those of its
functions, each under its full path.  Its readers are itemized by them, down to the functions at
every depth (`itemized_prototype`), so a file that is cut off is reported with the one span that the
cut is in (`ofBytes_take_covers`).
-/

namespace LuaChunk

open Reader

/-! ## The spans of a file -/

namespace Image

namespace Local

def spans (path : String) (v : Local) : List Span :=
  stringSpans (Path.field path "name") v.name
    ++ ([Span.word (Path.field path "start_pc")] ++ [Span.word (Path.field path "end_pc")])

end Local

namespace Function

mutual

/-- The spans of the function at a path, in the order in which they are read. -/
def spans (path : String) : Function → List Span
  | ⟨source, _, _, _, _, locals, lines, strings, numbers, functions, code⟩ =>
    stringSpans (Path.field path "source") source
      ++ [Span.word (Path.field path "line_number"), Span.word (Path.field path "num_params"),
        Span.byte (Path.field path "is_vararg"), Span.word (Path.field path "max_stack_size")]
      ++ tableSpans Local.spans (Path.field path "local_vars") locals
      ++ tableSpans (fun p (_ : Int32) => [Span.word (Path.field p "line")])
        (Path.field path "line_info") lines
      ++ tableSpans (fun p s => stringSpans (Path.field p "string") s)
        (Path.field path "strings") strings
      ++ tableSpans (fun p (_ : Binary64) => [Span.number (Path.field p "number")])
        (Path.field path "numbers") numbers
      ++ ([Span.word (Path.field path "functions")]
        ++ spansFrom (Path.field path "functions") 0 functions)
      ++ tableSpans (fun p (_ : Word) => [Span.word (Path.field p "instruction")])
        (Path.field path "instructions") code

/-- The spans of the functions from index `i` on of the table at a path. -/
def spansFrom (path : String) (i : Nat) : List Function → List Span
  | [] => []
  | p :: ps => p.spans (path ++ Path.index i) ++ spansFrom path (i + 1) ps

end

theorem spansFrom_eq (path : String) (i : Nat) (ps : List Function) :
    spansFrom path i ps = entrySpans spans path i ps := by
  induction ps generalizing i with
  | nil => rfl
  | cons p ps ih => rw [spansFrom, entrySpans, ih]

end Function

/-- The spans of a header. -/
def headerSpans : List Span :=
  [Span.byte "marker", ⟨"magic", 3, by decide⟩, Span.byte "version", Span.byte "little_endian"]

/-- The spans of a self-check record. -/
def selfCheckSpans : List Span :=
  [Span.byte "size_int", Span.byte "size_size_t", Span.byte "size_instruction",
   Span.byte "test_size_instruction", Span.byte "test_size_op", Span.byte "test_size_b",
   Span.byte "size_number", Span.number "test_number"]

namespace File

/-- The spans of a file. -/
def spans (f : File) : List Span := headerSpans ++ (selfCheckSpans ++ f.main.spans "main")

/-- **The reads of a file**: its spans at their places. -/
def extents (f : File) : List Extent := Span.place 0 f.spans

end File

end Image

/-! ## Its readers -/

namespace Reader

theorem itemized_localVar (path : String) :
    (Qualified.localVar path).Itemized Layout.localVar (Image.Local.spans path) := by
  have hreads := reads_localVar.within path
  rw [within_localVar] at hreads
  have hread := (itemized_string (Path.field path "name")).bind fun name =>
    (itemized_int32 (Path.field path "start_pc")).bind fun start =>
    (itemized_int32 (Path.field path "end_pc")).bind fun stop =>
    Itemized.of_reads (Reads.pure (LocalVar.mk name start stop)) fun _ _ _ => rfl
  refine hread.carry hreads (fun _ _ h => h) fun v hv => ?_
  refine ⟨(v.name, v.start, v.stop, ()), ⟨hv, trivial, trivial, trivial⟩, fun order => ?_, ?_⟩
  · simp [Layout.localVar, Layout.string, Layout.int32, Image.Local.bytes]
  · simp [Image.Local.spans]

theorem itemized_word (path : String) :
    (Qualified.word path).Itemized Layout.word
      fun _ => [Span.word (Path.field path "instruction")] := by
  have hreads := reads_word.within path
  rw [within_word] at hreads
  exact (itemized_uint32 (Path.field path "instruction")).carry hreads
    (fun _ _ => result_bind_of_error) fun w _ => ⟨w.bits, trivial, fun _ => rfl, rfl⟩

/-- **Functions run out of bytes in one of their spans, at every depth.** -/
theorem itemized_prototype (limit levels depth : Nat) (path : String) :
    (Qualified.prototype limit levels depth path).Itemized (Layout.function levels depth)
      (Image.Function.spans path) := by
  have hreads (levels depth : Nat) (path : String) :=
    (reads_prototype limit levels depth).within path
  simp only [within_prototype] at hreads
  induction levels generalizing depth path with
  | zero =>
    exact ⟨hreads 0 depth path, fun _ _ hp => absurd hp.2 (Nat.not_lt_zero _),
      fun hp => absurd hp.2 (Nat.not_lt_zero _)⟩
  | succ levels ih =>
    have hread := (itemized_string (Path.field path "source")).bind fun source =>
      (itemized_int32 (Path.field path "line_number")).bind fun line =>
      (itemized_int32 (Path.field path "num_params")).bind fun parameters =>
      (itemized_byte (Path.field path "is_vararg")).bind fun vararg =>
      (itemized_int32 (Path.field path "max_stack_size")).bind fun stack =>
      (itemized_table reads_localVar within_localVar itemized_localVar
        (show Path.separator "local_vars" = "." by decide) path).bind fun locals =>
      (itemized_table (reads_int32 "line") within_line (fun p => itemized_int32 _)
        (show Path.separator "line_info" = "." by decide) path).bind fun lines =>
      (itemized_table (reads_string "string") within_constant (fun p => itemized_string _)
        (show Path.separator "strings" = "." by decide) path).bind fun strings =>
      (itemized_table (reads_binary64 "number") within_number (fun p => itemized_binary64 _)
        (show Path.separator "numbers" = "." by decide) path).bind fun numbers =>
      (itemized_table (reads_prototype limit levels (depth + 1))
        (within_prototype limit levels (depth + 1)) (ih (depth + 1))
        (show Path.separator "functions" = "." by decide) path).bind fun functions =>
      (itemized_table reads_word within_word itemized_word
        (show Path.separator "instructions" = "." by decide) path).bind fun code =>
      let p := Prototype.mk source line parameters (vararg != 0) stack locals lines strings numbers
        functions code
      Itemized.of_reads (Reads.report (p.readEvent depth) p) fun _ _ _ => rfl
    refine hread.carry (hreads (levels + 1) depth path) (fun _ _ h => h) ?_
    rintro ⟨source, line, parameters, vararg, stack, locals, lines, strings, numbers, functions,
      code⟩ ⟨⟨hsource, hlocals, hlines, hstrings, hnumbers, hfunctions, hcode⟩, hheight⟩
    refine ⟨(source, line, parameters, vararg, stack, locals, lines, strings, numbers, functions,
      code, ()), ⟨hsource, trivial, trivial, trivial, trivial, hlocals,
      ⟨hlines, fun _ _ => trivial⟩, hstrings, ⟨hnumbers, fun _ _ => trivial⟩,
      ⟨hfunctions.1, fun q hq => ⟨?_, ?_⟩⟩, ⟨hcode, fun _ _ => trivial⟩, trivial⟩,
      fun order => ?_, ?_⟩
    · exact Image.Function.fitsAll_iff.mp hfunctions.2 q hq
    · exact Image.Function.heightAll_le_iff.mp (Nat.le_of_lt_succ hheight) q hq
    · simp [Layout.function, Layout.string, Layout.int32, Layout.byte, Layout.table,
        Layout.localVar, Layout.binary64, Layout.word, Image.Function.bytes,
        Image.Function.bytesAll_eq, Image.table]
    · simp [Image.Function.spans, Image.Function.spansFrom_eq, tableSpans]

theorem itemized_flagged (version : UInt8) :
    (flagged version).Itemized
      ⟨fun _ order => [Image.flag order], fun _ order => ⟨version, order⟩, fun _ _ => [],
        fun _ => True⟩ fun _ => [Span.byte "little_endian"] :=
  (itemized_byte "little_endian").carry (reads_flagged version) (fun _ _ => result_bind_of_error)
    fun order _ => ⟨Image.flag order, trivial, fun _ => rfl, rfl⟩

theorem itemized_header : Header.read.Itemized Layout.header fun _ => Image.headerSpans := by
  have hread := (itemized_byte "marker").expect
    (fun first => .invalidHeader
      ⟨"marker", hexWord 2 first.toNat, hexWord 2 Header.marker.toNat⟩)
    ((Itemized.take (by decide) "magic").expect
      (fun letters => .invalidHeader ⟨"magic", hexBytes letters, "\"Lua\""⟩)
      ((itemized_byte "version").bind fun version =>
        (itemized_flagged version).reportIf (version != Header.currentVersion)
          (.version version Header.currentVersion))
      (b := Header.magic) rfl (fun _ _ => rfl) (fun _ _ => rfl))
    (b := Header.marker) trivial (fun _ _ => rfl) (fun _ _ => rfl)
  exact hread.carry reads_header (fun _ _ h => h)
    fun h _ => ⟨(h.version, h.order), ⟨trivial, trivial⟩, fun _ => rfl, rfl⟩

theorem itemized_selfCheck :
    SelfCheck.read.Itemized Layout.selfCheck fun _ => Image.selfCheckSpans := by
  have hread := (itemized_byte "size_int").bind fun sizeInt =>
    (itemized_byte "size_size_t").bind fun sizeSizeT =>
    (itemized_byte "size_instruction").bind fun sizeInstruction =>
    (itemized_byte "test_size_instruction").bind fun instructionBits =>
    (itemized_byte "test_size_op").bind fun codeBits =>
    (itemized_byte "test_size_b").bind fun bBits =>
    (itemized_byte "size_number").bind fun sizeNumber =>
    (itemized_binary64 "test_number").bind fun sample =>
    Itemized.of_reads (Reads.pure (SelfCheck.mk sizeInt sizeSizeT sizeInstruction instructionBits
      codeBits bBits sizeNumber sample)) fun _ _ _ => rfl
  refine hread.carry reads_selfCheck (fun _ _ h => h) fun c _ => ?_
  refine ⟨(c.sizeInt, c.sizeSizeT, c.sizeInstruction, c.instructionBits, c.codeBits, c.bBits,
    c.sizeNumber, c.sample, ()), by simp [Layout.byte, Layout.binary64], fun order => ?_, rfl⟩
  simp [Layout.selfCheck, Layout.byte, Layout.binary64, SelfCheck.sizes]

end Reader

namespace ChunkFile

theorem itemized_content (options : LoadOptions) (header : Header) :
    (content options header).Itemized
      ⟨fun order (p : SelfCheck × Image.Function) =>
          Layout.selfCheck.bytes order p.1 ++ p.2.bytes order,
        fun charset p => ⟨header, p.1, p.2.interpret charset⟩,
        fun charset p => (p.1.mismatch?.map Event.tolerated).toList ++ p.2.trace charset 0,
        fun p => (options.strictness = .strict → p.1.mismatch? = none)
          ∧ p.2.Fits ∧ p.2.height < options.maxDepth + 1⟩
      (fun p => Image.selfCheckSpans ++ p.2.spans "main") := by
  have hjudged := itemized_selfCheck.carry (reads_judged options.strictness)
    (fun _ _ => result_bind_of_error) fun s _ => ⟨s, trivial, fun _ => rfl, rfl⟩
  have hmain := itemized_prototype options.maxDepth (options.maxDepth + 1) 0 "main"
  rw [← within_prototype] at hmain
  have hread := hjudged.bind fun selfCheck => hmain.bind fun main =>
    Itemized.of_reads (Reads.pure (ChunkFile.mk header selfCheck main)) fun _ _ _ => rfl
  refine hread.carry (reads_content options header) (fun _ _ h => h) fun p hp => ?_
  refine ⟨(p.1, p.2, ()), ⟨hp.1, hp.2, trivial⟩, fun order => ?_, ?_⟩
  · simp [Layout.function]
  · simp

/-! ## Cuts -/

variable {options : LoadOptions} {f : Image.File}

theorem fits_content (hf : f.Admissible options) :
    (options.strictness = .strict → f.selfCheck.mismatch? = none)
      ∧ f.main.Fits ∧ f.main.height < options.maxDepth + 1 :=
  ⟨hf.agrees, hf.fits, Nat.lt_succ_of_le hf.height_le⟩

/-- **The reads of a file tile its bytes.** -/
theorem tiles_extents (hf : f.Admissible options) : Tiles 0 f.extents f.bytes.length := by
  have hheader := itemized_header.length_bytes .little (x := f.header) trivial
  have hcontent := (itemized_content options f.header).length_bytes f.header.order
    (x := (f.selfCheck, f.main)) (fits_content hf)
  have htotal : f.bytes.length = 0 + Span.total f.spans := by
    rw [f.bytes_eq .little, List.length_append, hheader, Image.File.spans, Span.total_append,
      Nat.zero_add]
    exact congrArg (_ + ·) hcontent
  rw [htotal]
  exact Span.tiles_place 0 f.spans

/-- **A file that ends within an extent is reported with it.** -/
theorem result_read_of_short {c : Cursor} {e : Extent} (hf : f.Admissible options)
    (hstarts : c.rest <+: f.bytes) (he : e ∈ Span.place c.position f.spans)
    (hcovers : e.Covers c.size) : ((read options).run c).result = .error (e.fault c.size) := by
  rw [f.bytes_eq c.order] at hstarts
  rw [read_eq]
  refine result_bind_of_short (itemized_header.length_bytes c.order (x := f.header) trivial)
    hstarts he hcovers
    (fun hshort he => itemized_header.short (x := f.header) trivial hshort he hcovers)
    (fun _ => itemized_header.read (x := f.header) trivial) ?_
  intro c' _ hshort he hcovers
  -- from here on the file is read in the order that it declares
  have hcontent := (itemized_content options f.header).short
    (c := { c' with order := f.header.order }) (x := (f.selfCheck, f.main)) (fits_content hf) hshort
    he hcovers
  exact (result_bind_of_ok (a := ()) rfl).trans (result_bind_of_error hcontent)

theorem ofBytes_take_of_covers {tail : List UInt8} {k : Nat} {e : Extent}
    (hf : f.Admissible options) (hlength : (f.bytes ++ tail).length ≤ options.maxLength)
    (hk : k < f.bytes.length) (he : e ∈ f.extents) (hcovers : e.Covers k) :
    ofBytes options ((f.bytes ++ tail).take k) = .error (e.fault k) := by
  rw [List.take_append_of_le_length (Nat.le_of_lt hk)]
  have hsize : (Cursor.start (f.bytes.take k) .little options.charset).size = k := by
    rw [Cursor.size, Cursor.remaining, Cursor.start, List.length_take_of_le (Nat.le_of_lt hk)]
    exact Nat.zero_add k
  have hle : (f.bytes.take k).length ≤ options.maxLength := by
    rw [List.length_append] at hlength
    rw [List.length_take]
    omega
  have hshort := result_read_of_short hf
    (c := Cursor.start (f.bytes.take k) .little options.charset) (List.take_prefix k f.bytes) he
    (hsize.symm ▸ hcovers)
  rw [ofBytes_of_le hle, hshort, hsize]

/-- **A file that is cut off names the read that is cut.**  The reads of an accepted file, in order
and each under its full path, tile what is read of it; and a prefix that ends within one of them is
too short, with the path, the place and the length of that one read, and with what there is of
it. -/
theorem ofBytes_take_covers (options : LoadOptions) (bytes : List UInt8) (g : ChunkFile)
    (h : ofBytes options bytes = .ok g) :
    ∃ (f : Image.File) (tail : List UInt8),
      bytes = f.bytes ++ tail ∧ f.main.Fits ∧ g = f.interpret options.charset
        ∧ (∀ (f' : Image.File) (tail' : List UInt8), f'.main.Fits → bytes = f'.bytes ++ tail' →
          f' = f)
        ∧ Tiles 0 f.extents (consumed options bytes)
        ∧ ∀ k < consumed options bytes, ∃ e ∈ f.extents, e.Covers k
          ∧ (∀ e' ∈ f.extents, e'.Covers k → e' = e)
          ∧ ofBytes options (bytes.take k)
            = .error (.truncated e.path e.start e.length (k - e.start)) := by
  have hlength := length_le_of_ok h
  obtain ⟨f, tail, hf, rfl⟩ := exists_image_of_ok h
  rw [ofBytes_bytes_append hf hlength] at h
  have htiles := tiles_extents hf
  rw [consumed_bytes_append hf]
  refine ⟨f, tail, rfl, hf.fits, (Except.ok.inj h).symm, ?_, htiles, fun k hk => ?_⟩
  · exact fun f' tail' hf' heq => (Image.File.bytes_append_inj hf' hf.fits heq.symm).1
  · obtain ⟨e, he, hcovers⟩ := htiles.exists_covers (Nat.zero_le k) hk
    refine ⟨e, he, hcovers, fun e' he' hcovers' => htiles.eq_of_covers he' he hcovers' hcovers, ?_⟩
    exact ofBytes_take_of_covers hf hlength hk he hcovers

open Image.File in
theorem ofBytes_take_covers_specimen :
    ofBytes .default (specimen.bytes ++ [1, 2]) = .ok (specimen.interpret .utf8)
      ∧ Tiles 0 specimen.extents (consumed .default (specimen.bytes ++ [1, 2]))
      ∧ 141 < consumed .default (specimen.bytes ++ [1, 2])
      ∧ ofBytes .default ((specimen.bytes ++ [1, 2]).take 141)
        = .error (.truncated "main.functions[0].instructions[0].instruction" 139 4 2) := by
  have hok := ofBytes_bytes_append specimen_admissible length_specimen_le
  have hconsumed : 141 < consumed .default (specimen.bytes ++ [1, 2]) := by
    rw [consumed_bytes_append specimen_admissible]
    decide +kernel
  obtain ⟨f, tail, -, -, -, hunique, htiles, hcut⟩ := ofBytes_take_covers .default _ _ hok
  obtain rfl := hunique specimen [1, 2] specimen_admissible.fits rfl
  obtain ⟨e, he, hcovers, honly, hshort⟩ := hcut 141 hconsumed
  obtain rfl := honly ⟨"main.functions[0].instructions[0].instruction", 139, 4⟩ (by decide +kernel)
    (by decide)
  exact ⟨hok, htiles, hconsumed, hshort⟩

end ChunkFile

end LuaChunk
