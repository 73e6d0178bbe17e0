import LuaChunk.Proofs.Binary64
import LuaChunk.Proofs.File.RoundTrip
import LuaChunk.Proofs.File.Raises

/-!
# Proofs/File/SelfCheck — which self-check records are accepted, and what becomes of the others

    header · record ──judge──▸ main function · whatever is left

A file is read alike under both policies up to its record.  A record that is `Valid` is passed over
under both; any other stops the file under the one, for the first of its `checks` that fails, and is
reported under the other (`ofBytes_strictness`).  `mismatch?_eq_none_iff` says which records are
valid, in numbers rather than in bits.
-/

namespace LuaChunk

namespace SelfCheck

/-! ## Records -/

/-- Whether a number lies between the sample without its places and the next whole number. -/
def isSample (x : Binary64) : Bool := x.value?.any fun q => 314159265 ≤ q ∧ q < 314159266

/-- What comes of a size, given by name, beside the one assumed. -/
def sizeCheck (s : (String × UInt8) × UInt8) : Mismatch × Bool :=
  (⟨s.1.1, decimal s.1.2.toNat, decimal s.2.toNat⟩, s.1.2 == s.2)

/-- **What a record is checked for, in its order**: for each field what is found in it and what
should be there, and whether that will do. -/
def checks (c : SelfCheck) : List (Mismatch × Bool) :=
  (c.sizes.zip [4, 4, 4, 32, 6, 9, 8]).map sizeCheck
    ++ [(⟨"test_number", c.sample.render sampleStyle, "314159265.35897934"⟩, isSample c.sample)]

/-- The first check that fails. -/
def firstFailure? (c : SelfCheck) : Option Mismatch :=
  (c.checks.find? fun check => !check.2).map Prod.fst

/-- **A valid record**: the sizes are the ones assumed, and the sample denotes a number that is
right up to its point. -/
def Valid (c : SelfCheck) : Prop :=
  c.sizes.map Prod.snd = [4, 4, 4, 32, 6, 9, 8]
    ∧ ∃ q, c.sample.value? = some q ∧ 314159265 ≤ q ∧ q < 314159266

theorem isSample_eq_true_iff {x : Binary64} :
    isSample x = true ↔ ∃ q, x.value? = some q ∧ 314159265 ≤ q ∧ q < 314159266 := by
  simp [isSample, Option.any_eq_true]

/-- Of the sample only the part before the point is compared, as a signed word. -/
theorem isSample_eq (x : Binary64) :
    isSample x = (x.isFinite && x.toSignedWord == sampleNumber.toSignedWord) := by
  have hword : sampleNumber.toSignedWord = (314159265 : Nat) := by decide +kernel
  have hiff := Binary64.toSignedWord_eq_iff (x := x) (n := 314159265) (by decide) (by decide)
  rw [Bool.eq_iff_iff, isSample_eq_true_iff, Bool.and_eq_true, beq_iff_eq, hword, hiff]
  norm_num

/-- The first pair of sizes that differ is the first check of sizes that fails. -/
theorem sizeMismatch?_eq (xs ys : List (String × UInt8)) :
    sizeMismatch? xs ys
      = (((xs.zip (ys.map Prod.snd)).map sizeCheck).find? fun check => !check.2).map Prod.fst := by
  fun_induction sizeMismatch? xs ys with
  | case1 what found rest _ wanted rest' hne =>
    simp only [bne_iff_ne, ne_eq] at hne
    simp [sizeCheck, hne]
  | case2 what found rest _ wanted rest' heq ih =>
    have heq' : found = wanted := by simpa using heq
    simp [sizeCheck, heq', ih]
  | case3 xs ys hne =>
    cases xs with
    | nil => rfl
    | cons x xs =>
      cases ys with
      | nil => rfl
      | cons y ys => exact absurd rfl (hne x.1 x.2 xs y.1 y.2 ys rfl)

/-- **A record is faulted for the first of its checks that fails.** -/
theorem mismatch?_eq (c : SelfCheck) : c.mismatch? = c.firstFailure? := by
  have hexpected : expected.sizes.map Prod.snd = [4, 4, 4, 32, 6, 9, 8] := by decide
  have htext : sampleNumber.render sampleStyle = "314159265.35897934" := by decide +kernel
  rw [mismatch?, sizeMismatch?_eq, hexpected, ← isSample_eq, htext, firstFailure?, checks,
    List.find?_append]
  cases ((c.sizes.zip [4, 4, 4, 32, 6, 9, 8]).map sizeCheck).find? fun check => !check.2 with
  | some check => rfl
  | none => cases isSample c.sample <;> simp

/-- **The valid records are those that nothing is said of.** -/
theorem mismatch?_eq_none_iff {c : SelfCheck} : c.mismatch? = none ↔ c.Valid := by
  rw [mismatch?_eq, firstFailure?, Option.map_eq_none_iff, List.find?_eq_none, checks,
    List.forall_mem_append, Valid, ← isSample_eq_true_iff]
  refine and_congr ?_ (by simp)
  simp [sizes, sizeCheck]

end SelfCheck

namespace ChunkFile

open Reader

/-! ## Up to the record, and from there on -/

/-- What stands before the main function. -/
def opening : Reader (Header × SelfCheck) := do
  let header ← Header.read
  setOrder header.order
  let record ← SelfCheck.read
  return (header, record)

/-- What follows, once the record is judged. -/
def body (maxDepth : Nat) (header : Header) (record : SelfCheck) : Reader ChunkFile := do
  let main ← within "main" (Prototype.read maxDepth (maxDepth + 1) 0)
  finish ⟨header, record, main⟩

theorem read_eq_opening (options : LoadOptions) :
    read options = (do
      let (header, record) ← opening
      judge options.strictness record
      body options.maxDepth header record) := by
  simp only [read, opening, body, finish, bind_assoc, pure_bind]

theorem preamble_eq (header : Header) (record : SelfCheck) (order : ByteOrder) :
    Image.preamble header record
      = Layout.header.bytes order header ++ Layout.selfCheck.bytes header.order record := by
  simp [Image.preamble, Layout.header, Layout.selfCheck]

/-- **The opening of a file is read just when it is there.** -/
theorem result_opening_eq_ok {c : Cursor} {header : Header} {record : SelfCheck} :
    (opening.run c).result = .ok (header, record)
      ↔ ∃ tail, c.rest = Image.preamble header record ++ tail := by
  constructor
  · intro h
    obtain ⟨header', hheader, h⟩ := result_bind_eq_ok.mp h
    obtain ⟨_, mid, -, hrest, rfl⟩ := reads_header.exists_raw hheader
    rw [reads_header.run_eq trivial hrest] at h
    obtain ⟨_, -, h⟩ := result_bind_eq_ok.mp h
    obtain ⟨record', hrecord, h⟩ := result_bind_eq_ok.mp h
    obtain ⟨_, tail, -, hmid, rfl⟩ := reads_selfCheck.exists_raw hrecord
    obtain ⟨rfl, rfl⟩ := Prod.mk.inj (Except.ok.inj h)
    refine ⟨tail, ?_⟩
    rw [hrest, preamble_eq _ _ c.order, List.append_assoc]
    exact congrArg _ hmid
  · rintro ⟨tail, hrest⟩
    rw [preamble_eq _ _ c.order, List.append_assoc] at hrest
    have hheader : Header.read.run c = ⟨.ok header, ⟨_, _, c.order, c.charset⟩, _⟩ :=
      reads_header.run_eq trivial hrest
    have hrecord := reads_selfCheck.run_eq (x := record)
      (c := ⟨Layout.selfCheck.bytes header.order record ++ tail,
        c.position + (Layout.header.bytes c.order header).length, header.order, c.charset⟩)
      trivial rfl
    rw [opening, run_bind, hheader, Outcome.andThen_ok, run_bind, run_setOrder, Outcome.andThen_ok,
      run_bind]
    dsimp only
    rw [hrecord]
    rfl

/-- What is wrong before the record is judged is wrong under both policies. -/
theorem result_read_of_opening_error {options : LoadOptions} {c : Cursor} {e : Fault}
    (h : (opening.run c).result = .error e) : ((read options).run c).result = .error e := by
  rw [read_eq_opening]
  exact result_bind_of_error h

/-- After its opening, a file is what the judgement leaves of it. -/
theorem result_read_of_opening_ok {options : LoadOptions} {c : Cursor} {header : Header}
    {record : SelfCheck} (h : (opening.run c).result = .ok (header, record)) :
    ((read options).run c).result
      = ((judge options.strictness record >>= fun _ => body options.maxDepth header record).run
          (opening.run c).cursor).result := by
  rw [read_eq_opening, run_bind]
  generalize opening.run c = o at h
  obtain ⟨result, c', events⟩ := o
  obtain rfl : result = .ok (header, record) := h
  rfl

theorem judge_of_valid {record : SelfCheck} (h : record.Valid) (strictness : Strictness) :
    judge strictness record = pure () := by
  unfold judge
  rw [SelfCheck.mismatch?_eq_none_iff.mpr h]

theorem judge_strict {record : SelfCheck} {m : Mismatch} (h : record.mismatch? = some m) :
    judge .strict record = fail (.selfCheckMismatch m) := by
  unfold judge
  rw [h]

/-! ## The two policies -/

/-- **The policy decides about records that differ, and about nothing else.**  A tolerant reader
never refuses a file for its record.  A strict one refuses a file of allowed size for the first
check that its record fails, whatever follows the record; without such a record the two come to the
same.  Valid are the records with the sizes assumed and a sample that denotes a number from
314159265 up to, and without, 314159266. -/
theorem ofBytes_strictness (options : LoadOptions) (bytes : List UInt8) :
    (∀ m, ofBytes { options with strictness := .lenient } bytes ≠ .error (.selfCheckMismatch m))
    ∧ (∀ header record tail, bytes.length ≤ options.maxLength →
      bytes = Image.preamble header record ++ tail → ¬ record.Valid →
        ∃ m, record.firstFailure? = some m
          ∧ ofBytes { options with strictness := .strict } bytes = .error (.selfCheckMismatch m))
    ∧ ((¬ ∃ header record tail, bytes.length ≤ options.maxLength
          ∧ bytes = Image.preamble header record ++ tail ∧ ¬ record.Valid) →
      ofBytes { options with strictness := .strict } bytes
        = ofBytes { options with strictness := .lenient } bytes)
    ∧ ∀ record : SelfCheck, record.mismatch? = none ↔ record.Valid := by
  have hread (hlen : bytes.length ≤ options.maxLength) (s : Strictness) :
      ofBytes { options with strictness := s } bytes = _ := ofBytes_of_le hlen
  have hlarge (hlen : ¬ bytes.length ≤ options.maxLength) (s : Strictness) :
      ofBytes { options with strictness := s } bytes
        = .error (.inputTooLarge bytes.length options.maxLength) :=
    ofBytes_of_lt (Nat.not_le.mp hlen)
  refine ⟨fun m hm => ?_, fun header record tail hlen hbytes hinvalid => ?_, fun hnone => ?_,
    fun record => SelfCheck.mismatch?_eq_none_iff⟩
  · by_cases hlen : bytes.length ≤ options.maxLength
    · rw [hread hlen] at hm
      exact absurd rfl ((raises_read _ _ _ hm).ne_selfCheckMismatch m)
    · rw [hlarge hlen] at hm
      cases hm
  · obtain ⟨m, hm⟩ := Option.ne_none_iff_exists'.mp
      fun h => hinvalid (SelfCheck.mismatch?_eq_none_iff.mp h)
    refine ⟨m, by rw [← SelfCheck.mismatch?_eq, hm], ?_⟩
    have hopening := result_opening_eq_ok (c := Cursor.start bytes .little options.charset).mpr
      ⟨tail, hbytes⟩
    rw [hread hlen, result_read_of_opening_ok hopening, judge_strict hm]
    rfl
  · by_cases hlen : bytes.length ≤ options.maxLength
    · rw [hread hlen, hread hlen]
      cases hopening : (opening.run (Cursor.start bytes .little options.charset)).result with
      | error e =>
        rw [result_read_of_opening_error hopening, result_read_of_opening_error hopening]
      | ok p =>
        obtain ⟨header, record⟩ := p
        obtain ⟨tail, hbytes⟩ := result_opening_eq_ok.mp hopening
        have hvalid : record.Valid :=
          not_not.mp fun h => hnone ⟨header, record, tail, hlen, hbytes, h⟩
        rw [result_read_of_opening_ok hopening, result_read_of_opening_ok hopening,
          judge_of_valid hvalid, judge_of_valid hvalid]
    · rw [hlarge hlen, hlarge hlen]

/-- A record of another machine: its lengths take eight bytes, and its sample is not a number. -/
def foreignRecord : SelfCheck :=
  { SelfCheck.expected with sizeSizeT := 8, sample := ⟨0x7FF8000000000000⟩ }

theorem foreignRecord_not_valid : ¬ foreignRecord.Valid := fun h => absurd h.1 (by decide)

/-- Nothing that is shorter than an opening starts with one. -/
theorem marker_ne_preamble (header : Header) (record : SelfCheck) (tail : List UInt8) :
    [Header.marker] ≠ Image.preamble header record ++ tail := by
  intro h
  have hlength := congrArg List.length h
  simp [Image.preamble] at hlength

theorem ofBytes_strictness_foreignRecord :
    (Image.preamble ⟨0x41, .big⟩ foreignRecord ++ [7]).length ≤ LoadOptions.default.maxLength
      ∧ ¬ foreignRecord.Valid
      ∧ ofBytes { LoadOptions.default with strictness := .strict }
          (Image.preamble ⟨0x41, .big⟩ foreignRecord ++ [7])
        = .error (.selfCheckMismatch ⟨"size_size_t", "8", "4"⟩)
      ∧ ofBytes { LoadOptions.default with strictness := .strict } [Header.marker]
        = ofBytes { LoadOptions.default with strictness := .lenient } [Header.marker] := by
  have hlen : (Image.preamble ⟨0x41, .big⟩ foreignRecord ++ [7]).length
      ≤ LoadOptions.default.maxLength := by
    decide +kernel
  obtain ⟨m, hm, herror⟩ := (ofBytes_strictness .default _).2.1 _ _ _ hlen rfl
    foreignRecord_not_valid
  have hfirst : foreignRecord.firstFailure? = some ⟨"size_size_t", "8", "4"⟩ := by decide +kernel
  obtain rfl : ⟨"size_size_t", "8", "4"⟩ = m := Option.some.inj (hfirst.symm.trans hm)
  refine ⟨hlen, foreignRecord_not_valid, herror, ?_⟩
  refine (ofBytes_strictness .default [Header.marker]).2.2.1 ?_
  rintro ⟨header, record, tail, -, hbytes, -⟩
  exact marker_ne_preamble header record tail hbytes

end ChunkFile

end LuaChunk
