import LuaChunk.Proofs.Code.Word
import LuaChunk.Proofs.File.Words
import LuaChunk.Proofs.Listing.Faults

/-!
# Proofs/Listing/Words — what is computed from a file fits in words

    targets of branches        pc + 1 + s        in [-2 ^ 25, 2 ^ 31 + 2 ^ 25]
    the number of functions    1 + ∑ ·           no more than bytes
    indentations               depth * width     wherever height * width is a word

The numbers of a file are bounded by what was read to get them: positions in a function by the
number of its instructions, which is a signed word of 32 bits, and functions by the bytes that they
take.  On a machine these sums and products are therefore the ones of numbers (`exact_in_words`).
-/

namespace LuaChunk

/-! ## Branches -/

namespace Checked

def addSigned (a b : Int64) : Except Trap Int64 :=
  if isSignedWord (a.toInt + b.toInt) then .ok (a + b) else .error .sum

def subSigned (a b : Int64) : Except Trap Int64 :=
  if isSignedWord (a.toInt - b.toInt) then .ok (a - b) else .error .difference

theorem isSignedWord_iff {i : Int} :
    isSignedWord i = true ↔ -0x8000000000000000 ≤ i ∧ i < 0x8000000000000000 := by
  rw [isSignedWord, Bool.and_eq_true]
  exact and_congr decide_eq_true_iff decide_eq_true_iff

theorem toInt_ofInt {i : Int} (h : isSignedWord i = true) : (Int64.ofInt i).toInt = i :=
  Int64.toInt_ofInt_of_le (isSignedWord_iff.mp h).1 (isSignedWord_iff.mp h).2

theorem addSigned_ofInt {i j : Int} (hi : isSignedWord i = true) (hj : isSignedWord j = true)
    (h : isSignedWord (i + j) = true) : addSigned (.ofInt i) (.ofInt j) = .ok (.ofInt (i + j)) := by
  rw [addSigned, toInt_ofInt hi, toInt_ofInt hj, if_pos h, Int64.ofInt_add]

theorem subSigned_ofInt {i j : Int} (hi : isSignedWord i = true) (hj : isSignedWord j = true)
    (h : isSignedWord (i - j) = true) : subSigned (.ofInt i) (.ofInt j) = .ok (.ofInt (i - j)) := by
  rw [subSigned, toInt_ofInt hi, toInt_ofInt hj, if_pos h, Int64.ofInt_sub]

/-- Small numbers are signed words. -/
theorem isSignedWord_of_lt {i : Int} (h : -0x400000000 < i) (h' : i < 0x400000000) :
    isSignedWord i = true := isSignedWord_iff.mpr ⟨by omega, by omega⟩

end Checked

namespace Word

/-- The signed operand, computed in 64 bits and handed on in 32. -/
def checkedS (w : Word) : Except Trap Int32 :=
  (Checked.subSigned (w.bits >>> 6).toUInt64.toInt64 (.ofNat Field.maxS)).map Int64.toInt32

/-- Where a branching word at `pc` leads, computed in 64 bits. -/
def checkedTarget? (w : Word) (pc : UInt64) : Except Trap (Option Int64) :=
  match w.opcode? with
  | some op =>
    if op.isBranch then do
      let next ← Checked.addSigned pc.toInt64 1
      let s ← w.checkedS
      return some (← Checked.addSigned next s.toInt64)
    else .ok none
  | none => .ok none

theorem checkedS_eq (w : Word) : w.checkedS = .ok (.ofInt w.s) := by
  have hu : (w.bits >>> 6).toUInt64.toInt64 = .ofInt w.u := by
    have hword : (w.bits >>> 6).toUInt64 = .ofNat w.u := by
      refine UInt64.toNat_inj.mp ?_
      have hle := w.u_le
      rw [UInt32.toNat_toUInt64, UInt32.toNat_shiftRight,
        Checked.toNat_ofNat (by rw [wordCount]; omega)]
      exact Nat.shiftRight_eq_div_pow w.bits.toNat 6
    rw [hword, UInt64.toInt64_ofNat', ← Int64.ofInt_eq_ofNat]
  have hle := w.u_le
  have hs : (w.u : Int) - (Field.maxS : Nat) = w.s := rfl
  have hmax : ((Field.maxS : Nat) : Int) = 33554431 := rfl
  rw [checkedS, hu, ← Int64.ofInt_eq_ofNat, Checked.subSigned_ofInt, hs]
  · exact congrArg Except.ok Int64.toInt32_ofInt
  · exact Checked.isSignedWord_of_lt (by omega) (by omega)
  · exact Checked.isSignedWord_of_lt (by omega) (by omega)
  · exact Checked.isSignedWord_of_lt (by omega) (by omega)

theorem eq_of_target? {w : Word} {pc target : Int} (h : w.target? pc = some target) :
    target = pc + 1 + w.s := by
  obtain ⟨op, -, h⟩ := Option.bind_eq_some_iff.mp h
  split at h <;> cases h
  rfl

/-- **A branch leads as far on a machine**, from any position that a function can have. -/
theorem checkedTarget?_eq (w : Word) {pc : Nat} (h : pc < Image.lengthBound) :
    w.checkedTarget? (.ofNat pc) = .ok ((w.target? pc).map .ofInt) := by
  obtain ⟨hle, hge⟩ := w.s_bounds
  rw [Image.lengthBound] at h
  rw [checkedTarget?, target?]
  cases w.opcode? with
  | none => rfl
  | some op =>
    dsimp only [Option.bind_some]
    split
    · have hnext : Checked.addSigned (UInt64.ofNat pc).toInt64 1 = .ok (.ofInt (pc + 1)) := by
        rw [UInt64.toInt64_ofNat', ← Int64.ofInt_eq_ofNat]
        exact Checked.addSigned_ofInt (j := 1) (Checked.isSignedWord_of_lt (by omega) (by omega))
          rfl (Checked.isSignedWord_of_lt (by omega) (by omega))
      have hmin : Int32.minValue.toInt ≤ w.s := Int.le_trans (by decide) hle
      have hmax : w.s ≤ Int32.maxValue.toInt := Int.le_trans hge (by decide)
      have hsum : Checked.addSigned (.ofInt (pc + 1)) (.ofInt w.s) = .ok (.ofInt (pc + 1 + w.s)) :=
        Checked.addSigned_ofInt (Checked.isSignedWord_of_lt (by omega) (by omega))
          (Checked.isSignedWord_of_lt (by omega) (by omega))
          (Checked.isSignedWord_of_lt (by omega) (by omega))
      rw [hnext, w.checkedS_eq]
      change (Checked.addSigned _ _).map some = _
      rw [Int32.toInt64_ofInt hmin hmax, hsum]
      rfl
    · rfl

end Word

/-! ## The number of functions -/

namespace Prototype

mutual

/-- The number of functions of a tree, added up on a machine. -/
def checkedCount : Prototype → Except Trap UInt64
  | ⟨_, _, _, _, _, _, _, _, _, functions, _⟩ => do
    Checked.add 1 (← checkedCountFrom 0 functions)

/-- …and of a list of trees, on top of a sum. -/
def checkedCountFrom (sum : UInt64) : List Prototype → Except Trap UInt64
  | [] => .ok sum
  | p :: ps => do
    let n ← p.checkedCount
    checkedCountFrom (← Checked.add sum n) ps

end

mutual

theorem checkedCount_eq : ∀ p : Prototype, p.count < wordCount →
    p.checkedCount = .ok (.ofNat p.count)
  | ⟨_, _, _, _, _, _, _, _, _, functions, _⟩, h => by
    rw [count] at h ⊢
    have hsum := checkedCountFrom_eq 0 functions (by omega)
    rw [Nat.zero_add] at hsum
    have hadd : Checked.add 1 (.ofNat (countAll functions))
        = .ok (.ofNat (1 + countAll functions)) := Checked.add_ofNat h
    rw [checkedCount, ← hadd]
    exact congrArg (· >>= Checked.add 1) hsum

theorem checkedCountFrom_eq (sum : Nat) : ∀ ps : List Prototype, sum + countAll ps < wordCount →
    checkedCountFrom (.ofNat sum) ps = .ok (.ofNat (sum + countAll ps))
  | [], _ => rfl
  | p :: ps, h => by
    rw [countAll] at h ⊢
    have hp := checkedCount_eq p (by omega)
    have hps := checkedCountFrom_eq (sum + p.count) ps (by omega)
    have hadd : Checked.add (.ofNat sum) (.ofNat p.count) = .ok (.ofNat (sum + p.count)) :=
      Checked.add_ofNat (by omega)
    rw [checkedCountFrom, hp, ← Nat.add_assoc, ← hps]
    exact congrArg (· >>= fun sum => checkedCountFrom sum ps) hadd

end

mutual

theorem height_lt_count : ∀ p : Prototype, p.height < p.count
  | ⟨_, _, _, _, _, _, _, _, _, functions, _⟩ => by
    have hle := heightAll_le_countAll functions
    rw [height, count]
    omega

theorem heightAll_le_countAll : ∀ ps : List Prototype, heightAll ps ≤ countAll ps
  | [] => Nat.le_refl 0
  | p :: ps => by
    have hlt := height_lt_count p
    have hle := heightAll_le_countAll ps
    rw [heightAll, countAll]
    omega

end

theorem height_lt_of_mem {p q : Prototype} (hq : q ∈ p.functions) : q.height < p.height := by
  have hlt := heightAll_lt_iff.mpr ⟨q, hq, Nat.le_refl _⟩
  cases p
  exact hlt

end Prototype

namespace ChunkFile

/-- A file has no more functions than bytes. -/
theorem count_le_of_ok {options : LoadOptions} {bytes : List UInt8} {f : ChunkFile}
    (h : ofBytes options bytes = .ok f) : f.main.count ≤ bytes.length := by
  have hmax := length_le_of_ok h
  obtain ⟨i, tail, hi, rfl⟩ := exists_image_of_ok h
  rw [ofBytes_bytes_append hi hmax] at h
  obtain rfl := Except.ok.inj h
  have hbytes := i.length_bytes options.charset
  have hcount := Prototype.le_totalBulk ((i.interpret options.charset).main.preorder 0)
  rw [Prototype.length_preorder] at hcount
  rw [List.length_append]
  omega

end ChunkFile

/-! ## The number of instructions -/

namespace Image.Function

/-- The functions of an image that can be written have no more instructions than can be counted. -/
theorem length_code_lt (charset : Charset) {p : Function} (h : p.Fits) {address : List Nat}
    {q : Prototype} (hq : (p.interpret charset).descend? address = some q) :
    q.code.length < lengthBound := by
  induction address generalizing p with
  | nil =>
    obtain rfl := Option.some.inj hq
    cases p
    exact h.2.2.2.2.2.2
  | cons i address ih =>
    obtain ⟨r, hr, hq⟩ := Option.bind_eq_some_iff.mp hq
    have hfunctions : (p.interpret charset).functions = p.functions.map (interpret charset) := by
      cases p
      exact interpretAll_eq charset _
    have hfits : FitsAll p.functions := by
      cases p
      exact h.2.2.2.2.2.1.2
    rw [hfunctions, List.getElem?_map] at hr
    obtain ⟨p', hp', rfl⟩ := Option.map_eq_some_iff.mp hr
    exact ih (fitsAll_iff.mp hfits p' (List.mem_of_getElem? hp')) hq

end Image.Function

theorem ChunkFile.length_code_lt_of_ok {options : LoadOptions} {bytes : List UInt8} {f : ChunkFile}
    (h : ofBytes options bytes = .ok f) {address : List Nat} {q : Prototype}
    (hq : f.main.descend? address = some q) : q.code.length < Image.lengthBound := by
  have hmax := length_le_of_ok h
  obtain ⟨i, tail, hi, rfl⟩ := exists_image_of_ok h
  rw [ofBytes_bytes_append hi hmax] at h
  obtain rfl := Except.ok.inj h
  exact Image.Function.length_code_lt options.charset hi.fits hq

/-! ## Indentations -/

/-- What it is at a depth that does not fit. -/
def Overrun.At (width depth : Nat) : Overrun → Prop
  | .sum => wordCount ≤ depth
  | .product => wordCount ≤ depth * width
  | .room => signedCount ≤ depth * width

theorem at_of_roomFor {width depth : Nat} {o : Overrun} (h : roomFor depth width = .error o) :
    o.At width depth := by
  unfold roomFor at h
  split at h
  next hproduct =>
    cases h
    exact hproduct
  next =>
    split at h
    next hroom =>
      cases h
      exact hroom
    next => cases h

theorem eq_of_successor {n m : Nat} (h : successor n = .ok m) : m = n + 1 := by
  unfold successor at h
  split at h <;> cases h
  rfl

theorem at_of_successor {width depth : Nat} {o : Overrun} (h : successor depth = .error o) :
    o.At width (depth + 1) := by
  unfold successor at h
  split at h
  next => cases h
  next hsum =>
    cases h
    exact Nat.not_lt.mp hsum

namespace Plain

variable {α β : Type} {P : Overrun → Prop}

/-- If an outcome overruns, it is in some way. -/
def Overruns (P : Overrun → Prop) (x : Except Fault α) : Prop := ∀ o, x = .error (.overrun o) → P o

namespace Overruns

theorem ok (a : α) : Overruns P (.ok a : Except Fault α) := fun _ h => nomatch h

/-- A step that can only overrun. -/
theorem step {x : Except Overrun α} {next : α → Except Fault β} (h : ∀ o, x = .error o → P o)
    (hnext : ∀ a, x = .ok a → Overruns P (next a)) :
    Overruns P (x.mapError Fault.overrun >>= next) := by
  cases x with
  | ok a => exact hnext a rfl
  | error o => exact fun o' ho' => h o' (by cases ho'; rfl)

theorem bind {x : Except Fault α} {next : α → Except Fault β} (hx : Overruns P x)
    (hnext : ∀ a, Overruns P (next a)) : Overruns P (x >>= next) := by
  cases x with
  | ok a => exact hnext a
  | error e => exact fun o ho => hx o (by cases ho; rfl)

end Overruns

/-- No instruction is beyond the machine at its own position. -/
theorem overruns_instructions (p : Prototype) (path : String) :
    Overruns P (instructions p path) := by
  intro o ho
  have hfault := (faultOf_instructions p path).symm.trans (faultOf_eq_some_iff.mpr ho)
  obtain ⟨e, -, he⟩ := List.exists_of_findSome?_eq_some hfault
  rcases Word.fault?_eq_some he with ⟨-, heq⟩ | ⟨op, table, -, -, -, heq⟩ <;> cases heq

/-- **A listing is beyond the machine only at one of the levels that it has.** -/
theorem overruns_lines (width : Nat) (path : String) (depth : Nat) (p : Prototype) :
    Overruns (fun o => ∃ level ≤ p.height, o.At width (depth + level))
      (lines width path depth p) := by
  induction p using Prototype.nestedInduction generalizing path depth with
  | step p ih =>
    have hnested : ∀ i ps, (∀ q ∈ ps, q ∈ p.functions) →
        Overruns (fun o => ∃ level ≤ p.height, o.At width (depth + level))
          (nestedLines width path depth i ps) := by
      intro i ps hps
      induction ps generalizing i with
      | nil => exact .ok []
      | cons q ps ihps =>
        obtain ⟨hq, hps⟩ := List.forall_mem_cons.mp hps
        have hheight := Prototype.height_lt_of_mem hq
        rw [nestedLines]
        refine Overruns.step (fun o ho => ⟨1, by omega, at_of_successor ho⟩)
          fun deeper hdeeper => ?_
        obtain rfl := eq_of_successor hdeeper
        refine Overruns.bind (fun o ho => ?_) fun first => (ihps (i + 1) hps).bind fun rest => .ok _
        -- a level of the nested function is one of `p`, one deeper
        obtain ⟨level, hlevel, hat⟩ := ih q hq (Path.function path i) (depth + 1) o ho
        refine ⟨level + 1, by omega, ?_⟩
        rwa [Nat.add_assoc, Nat.add_comm 1] at hat
    rw [lines_eq]
    refine Overruns.step (fun o ho => ⟨0, Nat.zero_le _, at_of_roomFor ho⟩) fun _ _ => ?_
    refine (overruns_instructions p path).bind fun code => ?_
    exact (hnested 0 p.functions fun _ h => h).bind fun nested => .ok _

end Plain

/-! ## The main result -/

namespace ChunkFile

/-- **Reading a file and listing it takes no number beyond the words of a machine.**  Every file
that a machine can hold is loaded there without a trap, and as it is loaded at all; of an accepted
file every branch leads where it should, its functions can be counted, and its indentations are
words wherever the deepest one is. -/
theorem exact_in_words (maxDepth maxLength : UInt64) (strictness : Strictness) (charset : Charset)
    (bytes : List UInt8) (hlength : bytes.length < signedCount) :
    wordLoad maxDepth maxLength strictness charset bytes
        = .ok (load ⟨maxDepth.toNat, maxLength.toNat, strictness, charset⟩ bytes)
    ∧ ∀ f, ofBytes ⟨maxDepth.toNat, maxLength.toNat, strictness, charset⟩ bytes = .ok f →
      (∀ (address : List Nat) (q : Prototype) (pc : Nat) (w : Word),
        f.main.descend? address = some q → q.code[pc]? = some w →
        (∃ s, w.checkedS = .ok s ∧ s.toInt = w.s)
        ∧ (∃ target?, w.checkedTarget? (.ofNat pc) = .ok target?
          ∧ target?.map Int64.toInt = w.target? pc)
        ∧ (∀ target, w.target? pc = some target → target = pc + 1 + w.s)
        ∧ -0x2000000 ≤ (pc : Int) + 1 + w.s ∧ (pc : Int) + 1 + w.s ≤ 0x80000000 + 0x2000000)
      ∧ (∃ n, f.main.checkedCount = .ok n ∧ n.toNat = f.main.count)
      ∧ ∀ width : UInt64, f.main.height * width.toNat < wordCount →
        (∀ address q, f.main.descend? address = some q →
          ∃ indent, Checked.mul (.ofNat address.length) width = .ok indent
            ∧ indent.toNat = address.length * width.toNat)
        ∧ Plain.render width.toNat f ≠ .error (.overrun .product)
        ∧ Plain.render width.toNat f ≠ .error (.overrun .sum) := by
  refine ⟨wordLoad_eq maxDepth maxLength strictness charset hlength, fun f hf =>
    ⟨fun address q pc w hq hw => ?_, ?_, fun width hwidth => ?_⟩⟩
  · have hpc : pc < Image.lengthBound :=
      Nat.lt_trans (List.getElem?_eq_some_iff.mp hw).1 (length_code_lt_of_ok hf hq)
    have hbound : pc < 0x80000000 := hpc
    obtain ⟨hle, hge⟩ := w.s_bounds
    refine ⟨⟨_, w.checkedS_eq, Int32.toInt_ofInt_of_le (by omega) (by omega)⟩,
      ⟨_, w.checkedTarget?_eq hpc, ?_⟩, fun target => Word.eq_of_target?, by omega, by omega⟩
    cases htarget : w.target? pc with
    | none => rfl
    | some target =>
      have hsum := Word.eq_of_target? htarget
      exact congrArg some
        (Checked.toInt_ofInt (Checked.isSignedWord_of_lt (by omega) (by omega)))
  · have hcount : f.main.count < wordCount :=
      Nat.lt_of_le_of_lt (count_le_of_ok hf) (Reader.lt_wordCount hlength)
    exact ⟨_, f.main.checkedCount_eq hcount, Checked.toNat_ofNat hcount⟩
  · have hheight : f.main.height < wordCount :=
      Nat.lt_of_lt_of_le (Nat.lt_of_lt_of_le f.main.height_lt_count (count_le_of_ok hf))
        (Nat.le_of_lt (Reader.lt_wordCount hlength))
    have hproduct (level : Nat) (h : level ≤ f.main.height) : level * width.toNat < wordCount :=
      Nat.lt_of_le_of_lt (Nat.mul_le_mul_right _ h) hwidth
    have hoverrun (o : Overrun) (h : Plain.render width.toNat f = .error (.overrun o)) :
        ∃ level ≤ f.main.height, o.At width.toNat level := by
      have hlines := (Plain.overruns_lines width.toNat "main" 0 f.main).bind fun ls =>
        Plain.Overruns.ok (Plain.layout width.toNat ((Plain.preamble f).map (.text 0) ++ ls))
      obtain ⟨level, hlevel, hat⟩ := hlines o h
      exact ⟨level, hlevel, by rwa [Nat.zero_add] at hat⟩
    refine ⟨fun address q hq => ?_, fun h => ?_, fun h => ?_⟩
    · obtain ⟨k, hk, rfl⟩ := Checked.exists_eq_ofNat width
      rw [Checked.toNat_ofNat hk] at hproduct ⊢
      have hlevel := Prototype.exists_descend_iff_le_height.mp ⟨address, q, hq, rfl⟩
      exact ⟨_, Checked.mul_ofNat (Nat.lt_of_le_of_lt hlevel hheight) hk (hproduct _ hlevel),
        Checked.toNat_ofNat (hproduct _ hlevel)⟩
    · obtain ⟨level, hlevel, hat⟩ := hoverrun _ h
      exact Nat.not_le.mpr (hproduct level hlevel) hat
    · obtain ⟨level, hlevel, hat⟩ := hoverrun _ h
      exact Nat.not_le.mpr (Nat.lt_of_le_of_lt hlevel hheight) hat

open Image.File in
/-- A jump as far back as they go, and a width of half the words for two levels. -/
theorem exact_in_words_of_specimen :
    (specimen.bytes ++ [1, 2]).length < signedCount
      ∧ wordLoad 1000 67108864 .strict .utf8 (specimen.bytes ++ [1, 2])
        = .ok (load .default (specimen.bytes ++ [1, 2]))
      ∧ ofBytes .default (specimen.bytes ++ [1, 2]) = .ok (specimen.interpret .utf8)
      ∧ (∃ target?, Word.checkedTarget? ⟨42⟩ 0 = .ok target?
        ∧ target?.map Int64.toInt = some (-33554430))
      ∧ (∃ n, (specimen.interpret .utf8).main.checkedCount = .ok n ∧ n.toNat = 2)
      ∧ (∃ indent, Checked.mul 1 9223372036854775808 = .ok indent
        ∧ indent.toNat = 9223372036854775808)
      ∧ Plain.render 9223372036854775808 (specimen.interpret .utf8)
        ≠ .error (.overrun .product) := by
  have hlength : (specimen.bytes ++ [1, 2]).length < signedCount := by decide +kernel
  have hok := ofBytes_bytes_append specimen_admissible length_specimen_le
  obtain ⟨hload, haccepted⟩ := exact_in_words 1000 67108864 .strict .utf8 _ hlength
  obtain ⟨hcode, hcount, hwidth⟩ := haccepted _ hok
  obtain ⟨hindent, hproduct, -⟩ := hwidth 9223372036854775808 (by decide +kernel)
  exact ⟨hlength, hload, hok, (hcode [] _ 0 ⟨42⟩ rfl rfl).2.1, hcount, hindent [0] _ rfl, hproduct⟩

end ChunkFile

end LuaChunk
