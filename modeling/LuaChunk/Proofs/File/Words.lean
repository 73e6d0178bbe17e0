import LuaChunk.Proofs.File.Budget
import LuaChunk.Proofs.Input.Words

/-!
# Proofs/File/Words — chunk files in machine words

The readers of a chunk file, on a machine.  They never trap, and do what the readers do that they
stand for (`wordLoad_eq`), for each file that a machine can hold and all limits that are words.
-/

namespace LuaChunk

/-! ## The readers of a machine -/

namespace LocalVar

def wordRead : WordReader LocalVar := do
  return {
    name := ← WordReader.string "name"
    start := ← WordReader.int32 "start_pc"
    stop := ← WordReader.int32 "end_pc" }

end LocalVar

namespace Word

def wordRead : WordReader Word := do
  return ⟨← WordReader.uint32 "instruction"⟩

end Word

namespace Header

/-- Reads a header.  The letters are accessed one by one. -/
def wordRead : WordReader Header := do
  let first ← WordReader.byte "marker"
  if first != marker then
    WordReader.fail (.invalidHeader ⟨"marker", hexWord 2 first.toNat, hexWord 2 marker.toNat⟩)
  else do
    let letters ← WordReader.take 3 "magic"
    if letters != magic then
      WordReader.fail (.invalidHeader ⟨"magic", hexBytes letters, "\"Lua\""⟩)
    else do
      let _ ← WordReader.checked (Checked.get letters 0)
      let _ ← WordReader.checked (Checked.get letters 1)
      let _ ← WordReader.checked (Checked.get letters 2)
      let version ← WordReader.byte "version"
      WordReader.still
        (Reader.reportIf (version != currentVersion) (.version version currentVersion))
      let flag ← WordReader.byte "little_endian"
      match order? flag with
      | some order => return ⟨version, order⟩
      | none =>
        WordReader.fail (.invalidHeader ⟨"endianness flag", decimal flag.toNat, "0 or 1"⟩)

end Header

namespace SelfCheck

def wordRead : WordReader SelfCheck := do
  return {
    sizeInt := ← WordReader.byte "size_int"
    sizeSizeT := ← WordReader.byte "size_size_t"
    sizeInstruction := ← WordReader.byte "size_instruction"
    instructionBits := ← WordReader.byte "test_size_instruction"
    codeBits := ← WordReader.byte "test_size_op"
    bBits := ← WordReader.byte "test_size_b"
    sizeNumber := ← WordReader.byte "size_number"
    sample := ← WordReader.binary64 "test_number" }

end SelfCheck

namespace Prototype

/-- Reads a function at a depth.  `levels` only bounds the recursion: the depth is compared with
the limit, and one more is added to it for the nested functions. -/
def wordRead (limit : UInt64) : (levels : Nat) → (depth : UInt64) → WordReader Prototype
  | 0, _ => WordReader.checked (.error .levels)
  | levels + 1, depth =>
    if limit < depth then WordReader.fail (.tooDeeplyNested "" limit.toNat)
    else do
      let source ← WordReader.string "source"
      let line ← WordReader.int32 "line_number"
      let parameters ← WordReader.int32 "num_params"
      let vararg ← WordReader.byte "is_vararg"
      let stack ← WordReader.int32 "max_stack_size"
      let locals ← WordReader.table "local_vars" (some 13) LocalVar.wordRead
      let lines ← WordReader.table "line_info" (some 4) (WordReader.int32 "line")
      let strings ← WordReader.table "strings" (some 5) (WordReader.string "string")
      let numbers ← WordReader.table "numbers" (some 8) (WordReader.binary64 "number")
      let functions ← WordReader.table "functions" none do
        let deeper ← WordReader.checked (Checked.add depth 1)
        wordRead limit levels deeper
      let code ← WordReader.table "instructions" (some 4) Word.wordRead
      let p : Prototype :=
        { source, line, parameters, vararg := vararg != 0, stack, locals, lines, strings, numbers,
          functions, code }
      WordReader.still (Reader.report (p.readEvent depth.toNat))
      return p

end Prototype

namespace ChunkFile

def wordRead (maxDepth : UInt64) (strictness : Strictness) : WordReader ChunkFile := do
  let header ← Header.wordRead
  WordReader.still (Reader.setOrder header.order)
  let selfCheck ← SelfCheck.wordRead
  WordReader.still (judge strictness selfCheck)
  let main ← WordReader.within "main" (Prototype.wordRead maxDepth (maxDepth.toNat + 2) 0)
  let ahead ← WordReader.remaining
  let p ← WordReader.place
  WordReader.still (Reader.reportIf (0 < ahead) (.trailing ahead.toNat p.position.toNat))
  return { header, selfCheck, main }

/-- What a machine makes of a file. -/
def wordLoad (maxDepth maxLength : UInt64) (strictness : Strictness) (charset : Charset)
    (bytes : List UInt8) : Except Trap (Except Fault ChunkFile × List Event) :=
  let size : UInt64 := .ofNat bytes.length
  if maxLength < size then .ok (.error (.inputTooLarge size.toNat maxLength.toNat), [])
  else
    ((wordRead maxDepth strictness).run ⟨bytes, 0, .little, charset⟩).map fun o =>
      (o.result, o.events)

end ChunkFile

/-! ## They are exact -/

namespace Reader

theorem exact_localVar : Exact 0 LocalVar.wordRead LocalVar.read :=
  (exact_string _).field (advances_string _) fun _ =>
    (exact_int32 _).field (advances_int32 _) fun _ =>
      (exact_int32 _).field (advances_int32 _) fun _ => .pure _

theorem exact_word : Exact 0 Word.wordRead Word.read :=
  (exact_uint32 _).field (advances_uint32 _) fun _ => .pure _

theorem exact_selfCheck : Exact 0 SelfCheck.wordRead SelfCheck.read :=
  (exact_byte _).field (advances_byte _) fun _ => (exact_byte _).field (advances_byte _) fun _ =>
    (exact_byte _).field (advances_byte _) fun _ => (exact_byte _).field (advances_byte _) fun _ =>
    (exact_byte _).field (advances_byte _) fun _ => (exact_byte _).field (advances_byte _) fun _ =>
    (exact_byte _).field (advances_byte _) fun _ =>
    (exact_binary64 _).field (advances_binary64 _) fun _ => .pure _

theorem exact_header : Exact 0 Header.wordRead Header.read := by
  refine (exact_byte _).field (advances_byte _) fun first => ?_
  split
  · exact .fail _
  refine (exact_take 3 _).field (Advances.take 3 _) fun letters => ?_
  by_cases hmagic : letters = Header.magic
  · subst hmagic
    rw [bne_self_eq_false, if_neg Bool.false_ne_true, if_neg Bool.false_ne_true]
    refine .checked rfl <| .checked rfl <| .checked rfl ?_
    refine (exact_byte _).field (advances_byte _) fun version => ?_
    refine (Exact.still fun c => by rw [run_reportIf]).field (Advances.reportIf _ _) fun _ => ?_
    refine (exact_byte _).field (advances_byte _) fun flag => ?_
    cases Header.order? flag with
    | some order => exact .pure _
    | none => exact .fail _
  · have hne : (letters != Header.magic) = true := bne_iff_ne.mpr hmagic
    rw [if_pos hne, if_pos hne]
    exact .fail _

/-- **A depth is never ahead of the position**, so the depth of a nested function is a word. -/
theorem exact_prototype (limit : UInt64) (levels : Nat) :
    ∀ depth : UInt64, depth.toNat + levels = limit.toNat + 1 →
      Exact depth.toNat (Prototype.wordRead limit (levels + 1) depth)
        (Prototype.read limit.toNat levels depth.toNat) := by
  -- on the levels that are left, which say how far the depth is from the limit
  induction levels with
  | zero =>
    intro depth hdepth
    have hlt : limit < depth := by
      rw [UInt64.lt_iff_toNat_lt]
      omega
    rw [Prototype.wordRead, if_pos hlt]
    exact .fail _
  | succ levels ih =>
    intro depth hdepth
    obtain ⟨k, hk, rfl⟩ := Checked.exists_eq_ofNat depth
    rw [Checked.toNat_ofNat hk] at hdepth
    have hle : ¬ limit < .ofNat k := by
      rw [UInt64.lt_iff_toNat_lt, Checked.toNat_ofNat hk]
      omega
    have hnested : Exact (k + 5)
        (WordReader.checked (Checked.add (.ofNat k) 1) >>= Prototype.wordRead limit (levels + 1))
        (Prototype.read limit.toNat levels (k + 1)) := by
      intro file c hfile hc hposition
      -- a byte and a count have been read since the function began: the position is ahead
      have hdeeper : k + 1 < wordCount := by
        have hle := hc.le
        have hlt := lt_wordCount hfile
        omega
      have hih := ih (.ofNat (k + 1)) (by rw [Checked.toNat_ofNat hdeeper]; omega)
      rw [Checked.toNat_ofNat hdeeper] at hih
      exact .checked (Checked.add_ofNat (n := 1) hdeeper) (hih file c hfile hc (by omega))
    rw [Prototype.wordRead, if_neg hle, Prototype.read, Checked.toNat_ofNat hk]
    refine ((exact_string _).mono (Nat.zero_le k)).bind (advances_string _) fun source => ?_
    refine (exact_int32 _).field (advances_int32 _) fun line => ?_
    refine (exact_int32 _).field (advances_int32 _) fun parameters => ?_
    refine (exact_byte _).field (advances_byte _) fun vararg => ?_
    refine (exact_int32 _).field (advances_int32 _) fun stack => ?_
    refine exact_localVar.tableField advances_localVar fun locals => ?_
    refine (exact_int32 _).tableField (advances_int32 _) fun lines => ?_
    refine (exact_string _).tableField (advances_string _) fun strings => ?_
    refine (exact_binary64 _).tableField (advances_binary64 _) fun numbers => ?_
    have hadvance := advances_prototype limit.toNat levels (k + 1)
    refine (hnested.table hadvance "functions" none).bind
      ((hadvance.table _).mono (Nat.zero_le 4)) fun functions => ?_
    refine exact_word.tableField advances_word fun code => ?_
    exact (Exact.still fun _ => rfl).field (Advances.report _) fun _ => .pure _

end Reader

namespace ChunkFile

open Reader

theorem exact_judge (strictness : Strictness) (s : SelfCheck) :
    Exact 0 (WordReader.still (judge strictness s)) (judge strictness s) := by
  refine .still fun c => ?_
  unfold judge
  split <;> rfl

theorem exact_read (maxDepth maxLength : UInt64) (strictness : Strictness) (charset : Charset) :
    Exact 0 (wordRead maxDepth strictness)
      (read ⟨maxDepth.toNat, maxLength.toNat, strictness, charset⟩) := by
  refine exact_header.field advances_header fun header => ?_
  refine (Exact.still fun _ => rfl).field (Advances.setOrder _) fun _ => ?_
  refine exact_selfCheck.field advances_selfCheck fun selfCheck => ?_
  refine (exact_judge strictness selfCheck).field (advances_judge strictness selfCheck) fun _ => ?_
  have hmain := (exact_prototype maxDepth (maxDepth.toNat + 1) 0 (Nat.zero_add _)).within "main"
  refine hmain.field ((advances_prototype _ _ _).within "main") fun main => ?_
  intro file c hfile hc hn
  refine .step (run_remaining hfile hc) <| .place <| .cursor ?_
  have hsum := hc.position_add_remaining
  have hlength := lt_wordCount hfile
  have hremaining : (UInt64.ofNat c.remaining).toNat = c.remaining :=
    Checked.toNat_ofNat (by omega)
  have hposition : (Place.of file c).position.toNat = c.position :=
    Checked.toNat_ofNat (by omega)
  have hpos : 0 < UInt64.ofNat c.remaining ↔ 0 < c.rest.length := by
    rw [UInt64.lt_iff_toNat_lt, hremaining]
    rfl
  have hahead : decide (0 < UInt64.ofNat c.remaining) = !c.rest.isEmpty := by
    rw [Bool.eq_iff_iff, decide_eq_true_iff, hpos, Bool.not_eq_true', List.isEmpty_eq_false_iff,
      List.length_pos_iff]
  rw [hahead, hremaining, hposition]
  exact (ExactAt.still hfile hc (by rw [run_reportIf])).bind fun _ _ hin => .pure hin _

/-- **On a machine a file is loaded without a trap, and as it is loaded at all.** -/
theorem wordLoad_eq (maxDepth maxLength : UInt64) (strictness : Strictness) (charset : Charset)
    {bytes : List UInt8} (hlength : bytes.length < signedCount) :
    wordLoad maxDepth maxLength strictness charset bytes
      = .ok (load ⟨maxDepth.toNat, maxLength.toNat, strictness, charset⟩ bytes) := by
  have hsize : (UInt64.ofNat bytes.length).toNat = bytes.length :=
    Checked.toNat_ofNat (lt_wordCount hlength)
  have hlt : maxLength < .ofNat bytes.length ↔ maxLength.toNat < bytes.length := by
    rw [UInt64.lt_iff_toNat_lt, hsize]
  have hrun := (exact_read maxDepth maxLength strictness charset bytes
    (.start bytes .little charset) hlength (.start bytes .little charset) (Nat.zero_le _)).run
  rw [wordLoad, load]
  by_cases hlarge : maxLength.toNat < bytes.length
  · rw [if_pos (hlt.mpr hlarge), if_pos hlarge, hsize]
  · rw [if_neg (mt hlt.mp hlarge), if_neg hlarge]
    change ((wordRead maxDepth strictness).run (.of bytes (.start bytes .little charset))).map _ = _
    rw [hrun]
    rfl

end ChunkFile

end LuaChunk
