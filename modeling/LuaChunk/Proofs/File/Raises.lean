import LuaChunk.Proofs.File.RoundTrip
import LuaChunk.Proofs.Input.Raises

/-!
# Proofs/File/Raises — which faults reading a file raises

Past the header and the self-check record, every fault names a field (`raises_prototype`).  So a
file that is not too large is refused for one of three reasons only (`raises_read`), and being too
large is never one of them (`ofBytes_eq_inputTooLarge_iff`).
-/

namespace LuaChunk

namespace Fault

/-- **What can be wrong with a file**: a field, the header or, if that matters, the self-check
record. -/
def OfFile (strictness : Strictness) (e : Fault) : Prop :=
  e.NamesField ∨ (∃ m, e = .invalidHeader m) ∨ strictness = .strict ∧ ∃ m, e = .selfCheckMismatch m

theorem OfFile.ne_inputTooLarge {strictness : Strictness} {e : Fault} (h : e.OfFile strictness)
    (length limit : Nat) : e ≠ .inputTooLarge length limit := by
  rintro rfl
  rcases h with hfield | ⟨m, hm⟩ | ⟨-, m, hm⟩
  · cases hfield
  · cases hm
  · cases hm

theorem OfFile.ne_selfCheckMismatch {e : Fault} (h : e.OfFile .lenient) (m : Mismatch) :
    e ≠ .selfCheckMismatch m := by
  rintro rfl
  rcases h with hfield | ⟨m, hm⟩ | ⟨hstrict, -⟩
  · cases hfield
  · cases hm
  · cases hstrict

end Fault

namespace Reader

theorem raises_localVar : LocalVar.read.Raises Fault.NamesField :=
  (raises_string _).bind fun _ => (raises_int32 _).bind fun _ => (raises_int32 _).bind fun _ =>
    Raises.pure _

theorem raises_word : Word.read.Raises Fault.NamesField :=
  (raises_uint32 _).bind fun _ => Raises.pure _

/-- **Whatever is wrong with a function, the field is named.** -/
theorem raises_prototype (limit levels depth : Nat) :
    (Prototype.read limit levels depth).Raises Fault.NamesField := by
  induction levels generalizing depth with
  | zero => exact Raises.fail rfl
  | succ levels ih =>
    exact (raises_string _).bind fun _ => (raises_int32 _).bind fun _ =>
      (raises_int32 _).bind fun _ => (raises_byte _).bind fun _ => (raises_int32 _).bind fun _ =>
      (raises_localVar.table _).bind fun _ => ((raises_int32 _).table _).bind fun _ =>
      ((raises_string _).table _).bind fun _ => ((raises_binary64 _).table _).bind fun _ =>
      ((ih (depth + 1)).table _).bind fun _ => (raises_word.table _).bind fun _ =>
      (Raises.report _).bind fun _ => Raises.pure _

theorem raises_selfCheck : SelfCheck.read.Raises Fault.NamesField :=
  (raises_byte _).bind fun _ => (raises_byte _).bind fun _ => (raises_byte _).bind fun _ =>
    (raises_byte _).bind fun _ => (raises_byte _).bind fun _ => (raises_byte _).bind fun _ =>
    (raises_byte _).bind fun _ => (raises_binary64 _).bind fun _ => Raises.pure _

variable {α : Type} {strictness : Strictness}

theorem Raises.ofFile {r : Reader α} (h : r.Raises Fault.NamesField) :
    r.Raises (Fault.OfFile strictness) :=
  h.mono fun _ => Or.inl

theorem raises_header : Header.read.Raises (Fault.OfFile strictness) := by
  refine (raises_byte "marker").ofFile.bind fun first => ?_
  split
  · exact Raises.fail (.inr (.inl ⟨_, rfl⟩))
  · refine (raises_take 3 "magic").ofFile.bind fun letters => ?_
    split
    · exact Raises.fail (.inr (.inl ⟨_, rfl⟩))
    · refine (raises_byte "version").ofFile.bind fun version => (Raises.reportIf _ _).bind fun _ =>
        (raises_byte "little_endian").ofFile.bind fun flag => ?_
      split
      · exact Raises.pure _
      · exact Raises.fail (.inr (.inl ⟨_, rfl⟩))

end Reader

namespace ChunkFile

open Reader

theorem raises_judge (strictness : Strictness) (record : SelfCheck) :
    (judge strictness record).Raises (Fault.OfFile strictness) := by
  unfold judge
  split
  · exact Raises.pure _
  · exact Raises.fail (.inr (.inr ⟨rfl, _, rfl⟩))
  · exact Raises.report _

theorem raises_read (options : LoadOptions) :
    (read options).Raises (Fault.OfFile options.strictness) :=
  raises_header.bind fun _ => (Raises.setOrder _).bind fun _ =>
    raises_selfCheck.ofFile.bind fun record => (raises_judge _ record).bind fun _ =>
    ((raises_prototype _ _ _).within _).ofFile.bind fun _ => Raises.cursor.bind fun _ =>
    (Raises.reportIf _ _).bind fun _ => Raises.pure _

/-- What is wrong with a file of allowed size is one of these things. -/
theorem ofFile_of_ofBytes {options : LoadOptions} {bytes : List UInt8} {e : Fault}
    (hlen : bytes.length ≤ options.maxLength) (h : ofBytes options bytes = .error e) :
    e.OfFile options.strictness := by
  rw [ofBytes_of_le hlen] at h
  exact raises_read options _ e h

/-- **Only a file that is too large is refused for its size.** -/
theorem ofBytes_eq_inputTooLarge_iff {options : LoadOptions} {bytes : List UInt8}
    {length limit : Nat} :
    ofBytes options bytes = .error (.inputTooLarge length limit)
      ↔ options.maxLength < bytes.length ∧ length = bytes.length ∧ limit = options.maxLength := by
  constructor
  · intro h
    by_cases hlen : bytes.length ≤ options.maxLength
    · exact absurd rfl ((ofFile_of_ofBytes hlen h).ne_inputTooLarge length limit)
    · rw [ofBytes_of_lt (Nat.not_le.mp hlen)] at h
      obtain ⟨hlength, hlimit⟩ := Fault.inputTooLarge.inj (Except.error.inj h)
      exact ⟨Nat.not_le.mp hlen, hlength.symm, hlimit.symm⟩
  · rintro ⟨hlen, rfl, rfl⟩
    exact ofBytes_of_lt hlen

end ChunkFile

end LuaChunk
