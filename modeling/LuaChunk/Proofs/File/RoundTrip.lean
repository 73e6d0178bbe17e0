import LuaChunk.Proofs.File.Layout

/-!
# Proofs/File/RoundTrip — a file is accepted exactly if it was written from an image

    bytes of an image · anything  ──read──▸  what the image stands for

`run_read` says what reading comes to on the bytes of an image that the options admit, and
`exists_image_of_ok` that every accepted file starts with such bytes.  `bytes_append_inj` says that
it does so in one way only: an image is found again in its bytes, whatever follows them.
-/

namespace LuaChunk

namespace Image.File

/-- **What the options admit**: lengths that can be written, nesting within the limit, and a
self-check record that agrees unless differences are tolerated. -/
structure Admissible (options : LoadOptions) (f : File) : Prop where
  fits : f.main.Fits
  height_le : f.main.height ≤ options.maxDepth
  agrees : options.strictness = .strict → f.selfCheck.mismatch? = none

/-- What reading an image reports, up to the end of its bytes. -/
def trace (charset : Charset) (f : File) : List Event :=
  Layout.header.events charset f.header
    ++ ((f.selfCheck.mismatch?.map Event.tolerated).toList ++ f.main.trace charset 0)

/-- A header is written alike in both orders, so it can be read before the order is known. -/
theorem bytes_eq (f : File) (order : ByteOrder) :
    f.bytes = Layout.header.bytes order f.header
      ++ (Layout.selfCheck.bytes f.header.order f.selfCheck ++ f.main.bytes f.header.order) := by
  simp [bytes, preamble, Layout.header, Layout.selfCheck]

end Image.File

namespace ChunkFile

open Reader

/-! ## The parts of a file -/

/-- The self-check record, if it is one to go on with. -/
def judged (strictness : Strictness) : Reader SelfCheck := do
  let c ← SelfCheck.read
  judge strictness c
  return c

/-- What follows the header. -/
def content (options : LoadOptions) (header : Header) : Reader ChunkFile := do
  let selfCheck ← judged options.strictness
  let main ← within "main" (Prototype.read options.maxDepth (options.maxDepth + 1) 0)
  return { header, selfCheck, main }

/-- What is left is reported. -/
def finish (f : ChunkFile) : Reader ChunkFile := do
  let c ← cursor
  reportIf (!c.rest.isEmpty) (.trailing c.remaining c.position)
  return f

theorem read_eq (options : LoadOptions) :
    read options = (do
      let header ← Header.read
      setOrder header.order
      let f ← content options header
      finish f) := by
  simp only [read, content, judged, finish, bind_assoc, pure_bind]

theorem run_judge {strictness : Strictness} {s : SelfCheck}
    (h : strictness = .strict → s.mismatch? = none) (c : Cursor) :
    (judge strictness s).run c = ⟨.ok (), c, (s.mismatch?.map Event.tolerated).toList⟩ := by
  unfold judge
  cases hm : s.mismatch? with
  | none => rfl
  | some m =>
    cases strictness with
    | strict => exact absurd (h rfl) (by simp [hm])
    | lenient => rfl

theorem agrees_of_judge {strictness : Strictness} {s : SelfCheck} {c : Cursor} {u : Unit}
    (h : ((judge strictness s).run c).result = .ok u) :
    strictness = .strict → s.mismatch? = none := by
  rintro rfl
  unfold judge at h
  cases hm : s.mismatch? with
  | none => rfl
  | some m =>
    rw [hm] at h
    exact absurd h result_fail_ne_ok

theorem reads_judged (strictness : Strictness) :
    (judged strictness).Reads
      ⟨Layout.selfCheck.bytes, fun _ s => s,
        fun _ s => (s.mismatch?.map Event.tolerated).toList,
        fun s => strictness = .strict → s.mismatch? = none⟩ where
  complete := by
    intro c s tail hs hrest
    rw [judged, run_bind, reads_selfCheck.complete trivial hrest, Outcome.andThen_ok, run_bind]
    simp [Layout.selfCheck, run_judge hs]
  sound := by
    intro c s hok
    obtain ⟨s', hs', hok⟩ := result_bind_eq_ok.mp hok
    obtain ⟨x, tail, -, hrest, hx⟩ := reads_selfCheck.exists_raw hs'
    obtain rfl : x = s' := hx
    obtain ⟨_, hjudge, -⟩ := result_bind_eq_ok.mp hok
    exact ⟨x, tail, agrees_of_judge hjudge, hrest⟩
  prefixFree order _ _ _ _ _ _ heq := reads_selfCheck.prefixFree order trivial trivial heq

theorem reads_content (options : LoadOptions) (header : Header) :
    (content options header).Reads
      ⟨fun order (p : SelfCheck × Image.Function) =>
          Layout.selfCheck.bytes order p.1 ++ p.2.bytes order,
        fun charset p => ⟨header, p.1, p.2.interpret charset⟩,
        fun charset p => (p.1.mismatch?.map Event.tolerated).toList ++ p.2.trace charset 0,
        fun p => (options.strictness = .strict → p.1.mismatch? = none)
          ∧ p.2.Fits ∧ p.2.height < options.maxDepth + 1⟩ := by
  have hmain := (reads_prototype options.maxDepth (options.maxDepth + 1) 0).within "main"
  have hread := (reads_judged options.strictness).bind fun selfCheck => hmain.bind fun main =>
    Reads.pure (ChunkFile.mk header selfCheck main)
  refine hread.reshape (fun p => (p.1, p.2.1)) ?_ ?_ ?_ ?_ ?_
  · exact fun _ hp => ⟨hp.1, hp.2.1⟩
  · exact fun p hp => ⟨(p.1, p.2, ()), ⟨hp.1, hp.2, trivial⟩, rfl⟩
  · intro order p _
    simp [Layout.function]
  · exact fun _ _ _ => rfl
  · intro charset p _
    simp [Layout.function]

theorem run_finish (f : ChunkFile) (c : Cursor) :
    (finish f).run c
      = ⟨.ok f, c, if !c.rest.isEmpty then [.trailing c.remaining c.position] else []⟩ := by
  rw [finish, run_cursor_bind]
  simp

/-! ## Whole files -/

/-- **Reading what was written**: the outcome on the bytes of an image, with anything behind. -/
theorem run_read {options : LoadOptions} {f : Image.File} {c : Cursor} {tail : List UInt8}
    (hf : f.Admissible options) (hrest : c.rest = f.bytes ++ tail) :
    (read options).run c
      = ⟨.ok (f.interpret c.charset),
        ⟨tail, c.position + f.bytes.length, f.header.order, c.charset⟩,
        f.trace c.charset ++ if !tail.isEmpty then
          [.trailing tail.length (c.position + f.bytes.length)] else []⟩ := by
  have hparts := hrest
  rw [f.bytes_eq c.order, List.append_assoc] at hparts
  have hheader : Header.read.run c = ⟨.ok f.header, ⟨_, _, c.order, c.charset⟩, _⟩ :=
    reads_header.run_eq trivial hparts
  have hcontent := (reads_content options f.header).run_eq
    (c := ⟨Layout.selfCheck.bytes f.header.order f.selfCheck ++ f.main.bytes f.header.order ++ tail,
      c.position + (Layout.header.bytes c.order f.header).length, f.header.order, c.charset⟩)
    (x := (f.selfCheck, f.main)) ⟨hf.agrees, hf.fits, Nat.lt_succ_of_le hf.height_le⟩ rfl
  rw [read_eq, run_bind, hheader, Outcome.andThen_ok, run_bind, run_setOrder, Outcome.andThen_ok,
    run_bind]
  dsimp only
  rw [hcontent, Outcome.andThen_ok, run_finish]
  simp [f.bytes_eq c.order, Image.File.trace, Image.File.interpret, Cursor.remaining, Nat.add_assoc]

/-- How many bytes of a file of allowed size are read, whether or not a fault stops it. -/
def consumed (options : LoadOptions) (bytes : List UInt8) : Nat :=
  ((read options).run (Cursor.start bytes .little options.charset)).cursor.position

theorem ofBytes_of_le {options : LoadOptions} {bytes : List UInt8}
    (h : bytes.length ≤ options.maxLength) :
    ofBytes options bytes
      = ((read options).run (Cursor.start bytes .little options.charset)).result := by
  rw [ofBytes, load, if_neg (Nat.not_lt.mpr h)]

theorem ofBytes_of_lt {options : LoadOptions} {bytes : List UInt8}
    (h : options.maxLength < bytes.length) :
    ofBytes options bytes = .error (.inputTooLarge bytes.length options.maxLength) := by
  rw [ofBytes, load, if_pos h]

theorem length_le_of_ok {options : LoadOptions} {bytes : List UInt8} {f : ChunkFile}
    (h : ofBytes options bytes = .ok f) : bytes.length ≤ options.maxLength := by
  refine Nat.not_lt.mp fun hlt => ?_
  rw [ofBytes, load, if_pos hlt] at h
  cases h

/-- **An accepted file starts with the bytes of an image.** -/
theorem exists_image_of_ok {options : LoadOptions} {bytes : List UInt8} {g : ChunkFile}
    (h : ofBytes options bytes = .ok g) :
    ∃ (f : Image.File) (tail : List UInt8), f.Admissible options ∧ bytes = f.bytes ++ tail := by
  rw [ofBytes_of_le (length_le_of_ok h), read_eq] at h
  obtain ⟨header, hheader, h⟩ := result_bind_eq_ok.mp h
  obtain ⟨header', mid, -, hrest, hh⟩ := reads_header.exists_raw hheader
  obtain rfl : header' = header := hh
  rw [reads_header.run_eq trivial hrest] at h
  obtain ⟨_, _, h⟩ := result_bind_eq_ok.mp h
  obtain ⟨_, hcontent, -⟩ := result_bind_eq_ok.mp h
  obtain ⟨⟨selfCheck, main⟩, tail, ⟨hagrees, hfits, hheight⟩, hmid⟩ :=
    (reads_content options header').sound hcontent
  have hmid' : mid = Layout.selfCheck.bytes header'.order selfCheck ++ main.bytes header'.order
      ++ tail := hmid
  have hbytes : bytes = Layout.header.bytes .little header' ++ mid := hrest
  refine ⟨⟨header', selfCheck, main⟩, tail, ⟨hfits, Nat.le_of_lt_succ hheight, hagrees⟩, ?_⟩
  simp only [hbytes, hmid', Image.File.bytes_eq _ .little, List.append_assoc]

end ChunkFile

namespace Image.File

/-- **Written files can be told apart**, whatever follows them. -/
theorem bytes_append_inj {f g : File} {s t : List UInt8} (hf : f.main.Fits) (hg : g.main.Fits)
    (heq : f.bytes ++ s = g.bytes ++ t) : f = g ∧ s = t := by
  obtain ⟨header, selfCheck, main⟩ := f
  obtain ⟨header', selfCheck', main'⟩ := g
  simp only [bytes_eq _ .little, List.append_assoc] at heq
  obtain ⟨rfl, hbody⟩ := Reader.reads_header.prefixFree .little trivial trivial heq
  obtain ⟨rfl, hmain⟩ := Reader.reads_selfCheck.prefixFree header.order trivial trivial hbody
  -- the levels only have to be enough for both
  have hreads := Reader.reads_prototype 0 (max main.height main'.height + 1) 0
  have hlevels := Nat.lt_succ_of_le (Nat.le_max_left main.height main'.height)
  have hlevels' := Nat.lt_succ_of_le (Nat.le_max_right main.height main'.height)
  obtain ⟨rfl, rfl⟩ := hreads.prefixFree header.order ⟨hf, hlevels⟩ ⟨hg, hlevels'⟩ hmain
  exact ⟨rfl, rfl⟩

/-! ## An image to try things on -/

/-- A script of one nested function with an entry in every table, written big end first; one of its
strings holds a NUL and ends in another. -/
def specimen : File where
  header := ⟨0x41, .big⟩
  selfCheck := SelfCheck.expected
  main := {
    source := [0x40, 0x61, 0, 0x62, 0]
    line := -1
    parameters := 0
    vararg := 7
    stack := 2
    locals := [⟨[0x78], 0, 1⟩]
    lines := [5]
    strings := [[0xFF, 0x61]]
    numbers := [⟨0x3FF8000000000000⟩]
    functions := [⟨[], 1, 0, 0, 1, [], [], [], [], [], [⟨0⟩]⟩]
    code := [⟨42⟩] }

theorem specimen_admissible : specimen.Admissible .default where
  fits := by simp [specimen, Function.Fits, Function.FitsAll, lengthBound]
  height_le := by decide
  agrees _ := by decide

theorem length_specimen_le :
    (specimen.bytes ++ [1, 2]).length ≤ LoadOptions.default.maxLength := by
  decide +kernel

end Image.File

namespace ChunkFile

open Image.File

/-! ## Both directions -/

theorem ofBytes_bytes_append {options : LoadOptions} {f : Image.File} {tail : List UInt8}
    (hf : f.Admissible options) (hlen : (f.bytes ++ tail).length ≤ options.maxLength) :
    ofBytes options (f.bytes ++ tail) = .ok (f.interpret options.charset) := by
  rw [ofBytes_of_le hlen, run_read hf rfl]
  rfl

theorem ofBytes_bytes {options : LoadOptions} {f : Image.File} (hf : f.Admissible options)
    (hlen : f.bytes.length ≤ options.maxLength) :
    ofBytes options f.bytes = .ok (f.interpret options.charset) := by
  rw [← List.append_nil f.bytes] at hlen ⊢
  exact ofBytes_bytes_append hf hlen

theorem ofBytes_specimen :
    ofBytes .default specimen.bytes = .ok (specimen.interpret .utf8) := by
  have hlen : specimen.bytes.length ≤ LoadOptions.default.maxLength := by decide +kernel
  exact ofBytes_bytes specimen_admissible hlen

theorem consumed_bytes_append {options : LoadOptions} {f : Image.File} {tail : List UInt8}
    (hf : f.Admissible options) : consumed options (f.bytes ++ tail) = f.bytes.length := by
  rw [consumed, run_read hf rfl]
  exact Nat.zero_add _

/-- **Decoding undoes encoding.**  An image that the options admit is read back from its bytes,
whatever follows them, as long as the whole is not too long; and not a byte of what follows is
touched. -/
theorem ofBytes_image_append (options : LoadOptions) (f : Image.File) (tail : List UInt8)
    (hf : f.Admissible options) (hlen : (f.bytes ++ tail).length ≤ options.maxLength) :
    ofBytes options (f.bytes ++ tail) = .ok (f.interpret options.charset)
      ∧ consumed options (f.bytes ++ tail) = f.bytes.length :=
  ⟨ofBytes_bytes_append hf hlen, consumed_bytes_append hf⟩

theorem ofBytes_specimen_append :
    specimen.Admissible .default
      ∧ (specimen.bytes ++ [1, 2]).length ≤ LoadOptions.default.maxLength
      ∧ ofBytes .default (specimen.bytes ++ [1, 2]) = .ok (specimen.interpret .utf8)
      ∧ consumed .default (specimen.bytes ++ [1, 2]) = specimen.bytes.length :=
  ⟨specimen_admissible, length_specimen_le,
    ofBytes_image_append .default specimen [1, 2] specimen_admissible length_specimen_le⟩

/-- **Nothing else is accepted, and in one way only.**  An accepted file is the bytes of one image
and a tail; the image is one that the options admit, the file read is what it stands for, and its
bytes are those that were read. -/
theorem exists_unique_image (options : LoadOptions) (bytes : List UInt8) (g : ChunkFile)
    (h : ofBytes options bytes = .ok g) :
    bytes.length ≤ options.maxLength ∧
      ∃ (f : Image.File) (tail : List UInt8),
        (bytes = f.bytes ++ tail ∧ f.Admissible options ∧ g = f.interpret options.charset
          ∧ f.bytes = bytes.take (consumed options bytes))
        ∧ ∀ (f' : Image.File) (tail' : List UInt8), f'.main.Fits → bytes = f'.bytes ++ tail' →
          f' = f ∧ tail' = tail := by
  have hlen := length_le_of_ok h
  refine ⟨hlen, ?_⟩
  obtain ⟨f, tail, hf, rfl⟩ := exists_image_of_ok h
  rw [ofBytes_bytes_append hf hlen] at h
  refine ⟨f, tail, ⟨rfl, hf, (Except.ok.inj h).symm, ?_⟩, ?_⟩
  · rw [consumed_bytes_append hf, List.take_left]
  · intro f' tail' hf' heq
    exact Image.File.bytes_append_inj hf' hf.fits heq.symm

theorem exists_unique_image_of_specimen :
    ofBytes .default (specimen.bytes ++ [1, 2]) = .ok (specimen.interpret .utf8)
      ∧ ∃ (f : Image.File) (tail : List UInt8),
        (specimen.bytes ++ [1, 2] = f.bytes ++ tail ∧ f.Admissible .default
          ∧ specimen.interpret .utf8 = f.interpret .utf8
          ∧ f.bytes = (specimen.bytes ++ [1, 2]).take
            (consumed .default (specimen.bytes ++ [1, 2])))
        ∧ ∀ (f' : Image.File) (tail' : List UInt8), f'.main.Fits →
          specimen.bytes ++ [1, 2] = f'.bytes ++ tail' → f' = f ∧ tail' = tail :=
  have hok := ofBytes_bytes_append specimen_admissible length_specimen_le
  ⟨hok, (exists_unique_image .default _ _ hok).2⟩

end ChunkFile

end LuaChunk
