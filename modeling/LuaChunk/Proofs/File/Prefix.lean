import LuaChunk.Proofs.File.RoundTrip
import LuaChunk.Proofs.Input.Online

/-!
# Proofs/File/Prefix — a file and its beginnings

Reading a file is online but for the report of what is left, so a prefix of it either fares as the
whole does or is too short (`ofBytes_take`).
-/

namespace LuaChunk

namespace Reader

theorem online_localVar : LocalVar.read.Online :=
  (online_string _).bind fun _ => (online_int32 _).bind fun _ => (online_int32 _).bind fun _ =>
    Online.pure _

theorem online_word : Word.read.Online := (online_uint32 _).bind fun _ => Online.pure _

theorem online_prototype (limit levels depth : Nat) :
    (Prototype.read limit levels depth).Online := by
  induction levels generalizing depth with
  | zero => exact Online.fail _
  | succ levels ih =>
    exact (online_string _).bind fun _ => (online_int32 _).bind fun _ =>
      (online_int32 _).bind fun _ => (online_byte _).bind fun _ => (online_int32 _).bind fun _ =>
      (online_localVar.table _).bind fun _ => ((online_int32 _).table _).bind fun _ =>
      ((online_string _).table _).bind fun _ => ((online_binary64 _).table _).bind fun _ =>
      ((ih (depth + 1)).table _).bind fun _ => (online_word.table _).bind fun _ =>
      (Online.report _).bind fun _ => Online.pure _

theorem online_flagged (version : UInt8) : (flagged version).Online := by
  refine (online_byte _).bind fun flag => ?_
  split
  · exact Online.pure _
  · exact Online.fail _

theorem online_header : Header.read.Online := by
  refine (online_byte _).bind fun first => ?_
  split
  · exact Online.fail _
  · refine (Online.take _ _).bind fun letters => ?_
    split
    · exact Online.fail _
    · exact (online_byte _).bind fun version => (Online.reportIf _ _).bind fun _ =>
        online_flagged version

theorem online_selfCheck : SelfCheck.read.Online :=
  (online_byte _).bind fun _ => (online_byte _).bind fun _ => (online_byte _).bind fun _ =>
    (online_byte _).bind fun _ => (online_byte _).bind fun _ => (online_byte _).bind fun _ =>
    (online_byte _).bind fun _ => (online_binary64 _).bind fun _ => Online.pure _

end Reader

namespace ChunkFile

open Reader

theorem online_judge (strictness : Strictness) (s : SelfCheck) : (judge strictness s).Online := by
  unfold judge
  split
  · exact Online.pure ()
  · exact Online.fail _
  · exact Online.report _

theorem online_content (options : LoadOptions) (header : Header) :
    (content options header).Online :=
  (online_selfCheck.bind fun s => (online_judge _ s).bind fun _ => Online.pure s).bind fun _ =>
    ((online_prototype _ _ _).within _).bind fun _ => Online.pure _

theorem online_finish (f : ChunkFile) : (finish f).Online :=
  Online.of_still fun c => by rw [run_finish]; exact ⟨rfl, rfl⟩

theorem online_read (options : LoadOptions) : (read options).Online := by
  rw [read_eq]
  exact online_header.bind fun header => (Online.setOrder _).bind fun _ =>
    (online_content options header).bind fun f => online_finish f

/-! ## Prefixes -/

/-- What is read is part of the file. -/
theorem consumed_le (options : LoadOptions) (bytes : List UInt8) :
    consumed options bytes ≤ bytes.length := by
  have hsize := (online_read options).size_cursor (Cursor.start bytes .little options.charset)
  have hstart : (Cursor.start bytes .little options.charset).size = bytes.length := Nat.zero_add _
  rw [hstart, Cursor.size] at hsize
  rw [consumed]
  omega

/-- **More bytes make no difference**, unless there were too few. -/
theorem ofBytes_append {options : LoadOptions} {bytes more : List UInt8}
    (h : (bytes ++ more).length ≤ options.maxLength) :
    (∃ e, ofBytes options bytes = .error e ∧ e.IsShort bytes.length)
      ∨ (ofBytes options (bytes ++ more) = ofBytes options bytes
        ∧ consumed options (bytes ++ more) = consumed options bytes) := by
  have hbytes : bytes.length ≤ options.maxLength := by
    rw [List.length_append] at h
    omega
  have hsize : (Cursor.start bytes .little options.charset).size = bytes.length := Nat.zero_add _
  have hstart : (Cursor.start bytes .little options.charset).extend more
      = Cursor.start (bytes ++ more) .little options.charset := rfl
  have hextend := (online_read options).extend (Cursor.start bytes .little options.charset) more
  rw [hstart] at hextend
  rw [ofBytes_of_le hbytes, ofBytes_of_le h, consumed, consumed]
  rcases hextend with ⟨e, he, hshort⟩ | ⟨hresult, hcursor⟩
  · exact .inl ⟨e, he, hsize ▸ hshort⟩
  · exact .inr ⟨hresult, by rw [hcursor, Cursor.position_extend]⟩

/-- The same, seen from the longer file. -/
theorem ofBytes_take_cases {options : LoadOptions} {bytes : List UInt8} {k : Nat}
    (hlen : bytes.length ≤ options.maxLength) (hk : k ≤ bytes.length) :
    (∃ e, ofBytes options (bytes.take k) = .error e ∧ e.IsShort k)
      ∨ (ofBytes options bytes = ofBytes options (bytes.take k)
        ∧ consumed options bytes = consumed options (bytes.take k)) := by
  have hsplit := List.take_append_drop k bytes
  have hwhole : (bytes.take k ++ bytes.drop k).length ≤ options.maxLength := by
    rw [hsplit]
    exact hlen
  have hcases := ofBytes_append hwhole
  rwa [hsplit, List.length_take_of_le hk] at hcases

/-- **The first fault decides.**  A prefix of a file of allowed size fares as the whole does, or it
is too short, by what is missing at its end.  Hence a file that is accepted stays accepted with the
same tree when bytes are appended, a fault other than running out of bytes stays the same, and a
prefix shorter than what is read of an accepted file is too short. -/
theorem ofBytes_take (options : LoadOptions) (bytes : List UInt8)
    (hlen : bytes.length ≤ options.maxLength) :
    (∀ k ≤ bytes.length,
      ofBytes options (bytes.take k) = ofBytes options bytes
        ∨ ∃ e, ofBytes options (bytes.take k) = .error e ∧ e.IsShort k)
    ∧ (∀ more f, (bytes ++ more).length ≤ options.maxLength → ofBytes options bytes = .ok f →
      ofBytes options (bytes ++ more) = .ok f)
    ∧ (∀ more e, (bytes ++ more).length ≤ options.maxLength → ofBytes options bytes = .error e →
      (∀ field offset needed available, e ≠ .truncated field offset needed available) →
        ofBytes options (bytes ++ more) = .error e)
    ∧ (∀ k f, ofBytes options bytes = .ok f → k < consumed options bytes →
      ∃ e, ofBytes options (bytes.take k) = .error e ∧ e.IsShort k) := by
  refine ⟨fun k hk => ?_, fun more f hmore hf => ?_, fun more e hmore he hne => ?_,
    fun k f hf hk => ?_⟩
  · rcases ofBytes_take_cases hlen hk with hshort | ⟨hsame, -⟩
    · exact .inr hshort
    · exact .inl hsame.symm
  · rcases ofBytes_append hmore with ⟨e, he, -⟩ | ⟨hsame, -⟩
    · rw [hf] at he
      cases he
    · rw [hsame, hf]
  · rcases ofBytes_append hmore with ⟨e', he', field, offset, needed, heq, -⟩ | ⟨hsame, -⟩
    · rw [he] at he'
      obtain rfl := Except.error.inj he'
      exact absurd heq (hne _ _ _ _)
    · rw [hsame, he]
  · have hle := consumed_le options bytes
    rcases ofBytes_take_cases hlen (k := k) (by omega) with hshort | ⟨-, hconsumed⟩
    · exact hshort
    · -- otherwise the prefix would have been read beyond its end
      have hle' := consumed_le options (bytes.take k)
      rw [List.length_take] at hle'
      omega

theorem ofBytes_take_specimen :
    (Image.File.specimen.bytes ++ [1, 2]).length ≤ LoadOptions.default.maxLength
      ∧ ofBytes .default (Image.File.specimen.bytes ++ [1, 2])
        = .ok (Image.File.specimen.interpret .utf8)
      ∧ 100 < consumed .default (Image.File.specimen.bytes ++ [1, 2])
      ∧ ∃ e, ofBytes .default ((Image.File.specimen.bytes ++ [1, 2]).take 100) = .error e
        ∧ e.IsShort 100 :=
  have hlen := Image.File.length_specimen_le
  have hok := ofBytes_bytes_append Image.File.specimen_admissible hlen
  have hconsumed : 100 < consumed .default (Image.File.specimen.bytes ++ [1, 2]) := by
    rw [consumed_bytes_append Image.File.specimen_admissible]
    decide +kernel
  ⟨hlen, hok, hconsumed, (ofBytes_take .default _ hlen).2.2.2 100 _ hok hconsumed⟩

end ChunkFile

end LuaChunk
