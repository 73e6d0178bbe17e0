import Mathlib.Data.List.Count
import LuaChunk.Proofs.Charset.Assigned
import LuaChunk.Proofs.Charset.Utf8
import LuaChunk.Proofs.Input.Field

/-!
# Proofs/Charset/LowAscii — NULs, line breaks and quotes are neither lost nor made up

Below the digits stand NUL and the other controls of ASCII, the blank, the quotes and most
punctuation.  No byte there is part of a longer sequence in any of the four sets, and no sequence
stands for a character there; but a decoder that is within a sequence has to see that in time.
`Passes` says of one step that it does, whatever is owed, and `PassesLow` of a machine that all its
steps do.  What follows for whole strings is proved of any such machine (`lows_run`,
`getLast?_run_ne`), and all four are such machines (`exists_passesLow`).
-/

namespace LuaChunk

namespace Charset

/-- The numbers below those of the digits. -/
def lows (numbers : List Nat) : List Nat := numbers.filter (· < 0x30)

/-- The code points of symbols, with that of the replacement character for a malformed one. -/
def codePoints (symbols : List Symbol) : List Nat :=
  symbols.map fun s => (s.getD replacement).toNat

@[simp] theorem lows_append (ms ns : List Nat) : lows (ms ++ ns) = lows ms ++ lows ns :=
  List.filter_append ..

@[simp] theorem codePoints_append (ss ts : List Symbol) :
    codePoints (ss ++ ts) = codePoints ss ++ codePoints ts := List.map_append

theorem lows_cons (n : Nat) (ns : List Nat) : lows (n :: ns) = lows [n] ++ lows ns :=
  lows_append [n] ns

theorem lows_singleton_of_le {n : Nat} (h : 0x30 ≤ n) : lows [n] = [] := by
  have hnot : ¬ decide (n < 0x30) = true := fun hlt => Nat.not_lt.mpr h (of_decide_eq_true hlt)
  exact List.filter_cons_of_neg hnot

theorem codePoints_decode (cs : Charset) (bytes : List UInt8) :
    (cs.decode bytes).toList.map Char.toNat = codePoints (cs.symbols bytes) := by
  rw [decode, String.toList_ofList, List.map_map]
  rfl

theorem codePoints_ascii (b : UInt8) : codePoints [ascii b] = [b.toNat] := by
  have hb := b.toNat_lt
  have hvalid : b.toNat.isValidChar := .inl (by omega)
  exact congrArg (fun n => [n]) (toNat_ofNat hvalid)

/-- What is malformed comes out as the replacement character, which is no low one. -/
theorem lows_malformed : lows (codePoints [none]) = [] := rfl

/-! ## Machines -/

namespace Machine

variable {σ : Type}

/-- **A step that passes a low number on.**  What it gives out for a byte and where it goes: of low
numbers there is the byte, if it is one, and no other; and the byte is not left without an answer,
be it at the end of the bytes. -/
structure Passes (m : Machine σ) (Owed : σ → Prop) (b : UInt8) (o : List Symbol × σ) : Prop where
  owed : Owed o.2
  lows : lows (codePoints o.1) = lows [b.toNat]
  answered : o.1 ++ m.finish o.2 ≠ []

/-- **A machine that passes low numbers on**, as long as it owes no more than `Owed` says. -/
structure PassesLow (m : Machine σ) (Owed : σ → Prop) : Prop where
  start : Owed m.start
  step : ∀ {s} (b : UInt8), Owed s → m.Passes Owed b (m.step s b)
  finish : ∀ {s}, Owed s → lows (codePoints (m.finish s)) = []

variable {m : Machine σ} {Owed : σ → Prop} {s : σ} {b : UInt8}

namespace Passes

theorem ascii (hs : Owed s) (b : UInt8) : m.Passes Owed b ([ascii b], s) where
  owed := hs
  lows := by rw [codePoints_ascii]
  answered := List.cons_ne_nil _ _

/-- A byte above the low ones is the end of a character above them, or malformed. -/
theorem high (hs : Owed s) (hb : 0x30 ≤ b.toNat) {symbol : Symbol}
    (h : 0x30 ≤ (symbol.getD replacement).toNat) : m.Passes Owed b ([symbol], s) where
  owed := hs
  lows := (lows_singleton_of_le h).trans (lows_singleton_of_le hb).symm
  answered := List.cons_ne_nil _ _

theorem malformed (hs : Owed s) (hb : 0x30 ≤ b.toNat) : m.Passes Owed b ([none], s) :=
  high hs hb (by decide)

/-- …or it is owed from now on. -/
theorem owe (hs : Owed s) (hb : 0x30 ≤ b.toNat) (hfinish : m.finish s ≠ []) :
    m.Passes Owed b ([], s) where
  owed := hs
  lows := (lows_singleton_of_le hb).symm
  answered := hfinish

/-- What was owed before is settled first. -/
theorem after {o : List Symbol × σ} (h : m.Passes Owed b o) {front : List Symbol}
    (hfront : Charset.lows (codePoints front) = []) : m.Passes Owed b (front ++ o.1, o.2) where
  owed := h.owed
  lows := by rw [codePoints_append, lows_append, hfront, List.nil_append, h.lows]
  answered hnil := h.answered (by
    obtain ⟨hout, hfinish⟩ := List.append_eq_nil_iff.mp hnil
    rw [(List.append_eq_nil_iff.mp hout).2, hfinish, List.nil_append])

end Passes

namespace PassesLow

/-- **The low numbers of bytes come out as they went in.** -/
theorem lows_run (hm : m.PassesLow Owed) (hs : Owed s) (bytes : List UInt8) :
    lows (codePoints (m.run s bytes)) = lows (bytes.map UInt8.toNat) := by
  induction bytes generalizing s with
  | nil => exact hm.finish hs
  | cons b bytes ih =>
    have hstep := hm.step b hs
    rw [run, codePoints_append, lows_append, hstep.lows, ih hstep.owed, List.map_cons]
    exact (lows_cons _ _).symm

/-- All that bytes leave behind is a state. -/
theorem exists_run_append (hm : m.PassesLow Owed) (hs : Owed s) (front : List UInt8) :
    ∃ (out : List Symbol) (s' : σ), Owed s'
      ∧ ∀ rest, m.run s (front ++ rest) = out ++ m.run s' rest := by
  induction front generalizing s with
  | nil => exact ⟨[], s, hs, fun _ => rfl⟩
  | cons b front ih =>
    obtain ⟨out, s', hs', hrun⟩ := ih (hm.step b hs).owed
    refine ⟨(m.step s b).1 ++ out, s', hs', fun rest => ?_⟩
    rw [List.cons_append, run, hrun, List.append_assoc]

theorem mem_of_getLast? (hm : m.PassesLow Owed) (hs : Owed s) {bytes : List UInt8}
    (h : (codePoints (m.run s bytes)).getLast? = some 0) : 0 ∈ bytes := by
  have hmem : 0 ∈ lows (codePoints (m.run s bytes)) :=
    List.mem_filter.mpr ⟨List.mem_of_getLast? h, by decide⟩
  rw [hm.lows_run hs] at hmem
  obtain ⟨b, hb, hzero⟩ := List.mem_map.mp (List.mem_filter.mp hmem).1
  obtain rfl : b = 0 := UInt8.toNat_inj.mp hzero
  exact hb

/-- **Only a last byte of zero comes out as zero in the end**: another last byte is answered, and
there is no zero in the answer. -/
theorem getLast?_run_ne (hm : m.PassesLow Owed) (hs : Owed s) {bytes : List UInt8}
    (h : bytes.getLast? ≠ some 0) : (codePoints (m.run s bytes)).getLast? ≠ some 0 := by
  intro heq
  rcases List.eq_nil_or_concat bytes with rfl | ⟨front, b, rfl⟩
  · exact List.not_mem_nil (hm.mem_of_getLast? hs heq)
  · rw [List.concat_eq_append] at h heq
    rw [List.getLast?_concat] at h
    obtain ⟨out, s', hs', hrun⟩ := hm.exists_run_append hs front
    have hanswer : codePoints (m.run s' [b]) ≠ [] := fun hnil =>
      (hm.step b hs').answered (List.map_eq_nil_iff.mp hnil)
    have hlast := List.getLast?_eq_some_getLast hanswer
    rw [hrun, codePoints_append, List.getLast?_append, hlast, Option.some_or, ← hlast] at heq
    have hzero : 0 = b := List.mem_singleton.mp (hm.mem_of_getLast? hs' heq)
    exact h (congrArg some hzero.symm)

end PassesLow

end Machine

theorem high_of_not_lt {b bound : UInt8} (hbound : 0x30 ≤ bound.toNat) (h : ¬ b < bound) :
    0x30 ≤ b.toNat := by
  rw [UInt8.lt_iff_toNat_lt] at h
  omega

theorem high_of_not_le {b bound : UInt8} (hbound : 0x30 ≤ bound.toNat) (h : ¬ b ≤ bound) :
    0x30 ≤ b.toNat := by
  rw [UInt8.le_iff_toNat_le] at h
  omega

/-! ## Shift JIS -/

namespace ShiftJis

/-- A lead byte is owed whichever it is: what it says about the next byte is in the tables. -/
abbrev Passes (b : UInt8) (o : List Symbol × State) : Prop := machine.Passes (fun _ => True) b o

theorem passes_between (b : UInt8) : Passes b (step .between b) := by
  simp only [step]
  split
  · exact .ascii trivial b
  next hascii =>
    have hb : 0x30 ≤ b.toNat := high_of_not_le (by decide) hascii
    split
    next hkana =>
      have hbound : b.toNat < 256 := b.toNat_lt
      refine .high trivial hb (toNat_of_isHigh ?_)
      simp only [isHigh, Bool.and_eq_true, Bool.or_eq_true, Nat.ble_eq, Nat.blt_eq]
      omega
    split
    · exact .malformed trivial hb
    · exact .owe trivial hb (List.cons_ne_nil _ _)

theorem passes_after (first b : UInt8) : Passes b (step (.after first) b) := by
  simp only [step]
  split
  next c hc =>
    obtain ⟨hb, hhigh⟩ := high_of_character? hc
    exact .high trivial hb hhigh
  · split
    · exact (Machine.Passes.ascii trivial b).after lows_malformed
    next hascii => exact .malformed trivial (high_of_not_lt (by decide) hascii)

theorem passesLow : machine.PassesLow fun _ => True where
  start := trivial
  step {s} b _ := by
    cases s with
    | between => exact passes_between b
    | after first => exact passes_after first b
  finish {s} _ := by cases s <;> rfl

end ShiftJis

/-! ## GB 18030 -/

namespace Gb18030

/-- What is owed is above the low numbers, and begins as a character does. -/
def State.Owed : State → Prop
  | .between => True
  | .one first => IsFirst first
  | .two _ second => 0x30 ≤ second.toNat
  | .three _ second third => 0x30 ≤ second.toNat ∧ IsFirst third

abbrev Passes (b : UInt8) (o : List Symbol × State) : Prop := machine.Passes State.Owed b o

theorem passes_stepBetween (b : UInt8) : Passes b (stepBetween b) := by
  unfold stepBetween
  split
  · exact .ascii trivial b
  next hascii =>
    have hb : 0x30 ≤ b.toNat := high_of_not_lt (by decide) hascii
    split
    · exact .high trivial hb (by decide)
    next heuro =>
      split
      · exact .malformed trivial hb
      next hlast =>
        rw [UInt8.lt_iff_toNat_lt] at hascii
        rw [← UInt8.toNat_inj] at heuro hlast
        have hnumbers : (0x80 : UInt8).toNat = 0x80 ∧ (0xFF : UInt8).toNat = 0xFF := ⟨rfl, rfl⟩
        have hbound : b.toNat < 256 := b.toNat_lt
        have hfirst : IsFirst b := ⟨by omega, by omega⟩
        exact .owe hfirst hb (List.cons_ne_nil _ _)

theorem passes_stepOne {first : UInt8} (hfirst : IsFirst first) (b : UInt8) :
    Passes b (stepOne first b) := by
  unfold stepOne
  split
  next hdigit =>
    have hb : 0x30 ≤ b.toNat := UInt8.le_iff_toNat_le.mp hdigit.1
    exact .owe hb hb (List.cons_ne_nil _ _)
  split
  next c hc =>
    obtain ⟨hb, hhigh⟩ := high_of_pair? hfirst hc
    exact .high trivial hb hhigh
  split
  · exact (Machine.Passes.ascii trivial b).after lows_malformed
  next hascii => exact .malformed trivial (high_of_not_lt (by decide) hascii)

/-- Where a sequence of four breaks off, its second byte is given out, and is no low number. -/
theorem lows_broken {second : UInt8} (h : 0x30 ≤ second.toNat) :
    lows (codePoints [none, ascii second]) = [] := by
  have hsplit : codePoints [none, ascii second]
      = codePoints [none] ++ codePoints [ascii second] := rfl
  rw [hsplit, codePoints_ascii, lows_append, lows_singleton_of_le h]
  rfl

theorem passesLow : machine.PassesLow State.Owed where
  start := trivial
  step {s} b hs := by
    cases s with
    | between => exact passes_stepBetween b
    | one first => exact passes_stepOne hs b
    | two first second =>
      change Passes b (step (.two first second) b)
      simp only [step]
      split
      next hthird =>
        simp only [UInt8.le_iff_toNat_le] at hthird
        have hb : 0x30 ≤ b.toNat := Nat.le_trans (by decide) hthird.1
        have howed : (State.three first second b).Owed := ⟨hs, hthird⟩
        exact .owe howed hb (List.cons_ne_nil _ _)
      · exact (passes_stepBetween b).after (lows_broken hs)
    | three first second third =>
      change Passes b (step (.three first second third) b)
      simp only [step]
      split
      next hdigit =>
        exact .high trivial (UInt8.le_iff_toNat_le.mp hdigit.1) (high_quad? _)
      · exact (passes_stepOne hs.2 b).after (lows_broken hs.1)
  finish {s} _ := by cases s <;> rfl

end Gb18030

/-! ## Windows-1252 and UTF-8 -/

namespace Windows1252

theorem passesLow : machine.PassesLow fun _ => True where
  start := trivial
  step {s} b _ := by
    change machine.Passes _ b ([some (character b)], s)
    by_cases hrange : 0x80 ≤ b ∧ b < 0xA0
    · have hb := hrange
      rw [UInt8.le_iff_toNat_le, UInt8.lt_iff_toNat_lt] at hb
      have hnumbers : (0x80 : UInt8).toNat = 0x80 ∧ (0xA0 : UInt8).toNat = 0xA0 := ⟨rfl, rfl⟩
      rw [character, if_pos hrange]
      exact .high trivial (by omega) (toNat_of_isHigh (isHigh_high _ (by omega)))
    · rw [character, if_neg hrange]
      exact .ascii trivial b
  finish _ := rfl

end Windows1252

namespace Utf8

/-- What is owed can only be paid with continuation bytes, and comes to a character then. -/
def State.Owed (s : State) : Prop := s.Sound ∧ s.Confined

abbrev Passes (b : UInt8) (o : List Symbol × State) : Prop := machine.Passes State.Owed b o

theorem passes_lead (b : UInt8) : Passes b (lead b) where
  owed := ⟨sound_lead b, confined_lead b⟩
  lows := by
    by_cases hascii : b.toNat < 0x80
    · rw [lead_eq, if_pos hascii, codePoints_ascii]
    · -- any other byte is malformed, or gives out nothing yet
      rw [lead_eq, if_neg hascii, lows_singleton_of_le (by omega)]
      repeat' split
      all_goals rfl
  answered := by
    rw [lead_eq]
    repeat' split
    all_goals exact List.cons_ne_nil _ _

theorem passesLow : machine.PassesLow State.Owed where
  start := ⟨trivial, trivial⟩
  step {s} b hs := by
    cases s with
    | between => exact passes_lead b
    | inside owed low high value =>
      obtain ⟨hsound, hconfined⟩ := hs
      change Passes b (step (.inside owed low high value) b)
      by_cases hmem : low ≤ b ∧ b ≤ high
      · have hlow : low.toNat ≤ b.toNat := UInt8.le_iff_toNat_le.mp hmem.1
        have hb : 0x30 ≤ b.toNat := by
          have hcontinuation := hconfined.1
          omega
        cases owed with
        | zero =>
          obtain ⟨hvalid, hascii⟩ := hsound b hmem.1 hmem.2
          rw [step_inside_zero hmem]
          refine .high ⟨trivial, trivial⟩ hb ?_
          rw [Option.getD_some, toNat_ofNat hvalid]
          omega
        | succ owed =>
          have howed : (step (.inside (owed + 1) low high value) b).2.Owed :=
            ⟨sound_step hsound b, confined_step b⟩
          rw [step_inside_succ hmem] at howed ⊢
          exact .owe howed hb (List.cons_ne_nil _ _)
      · rw [step_inside_of_not hmem]
        exact (passes_lead b).after lows_malformed
  finish {s} _ := by cases s <;> rfl

end Utf8

/-! ## All of them -/

theorem exists_passesLow (cs : Charset) :
    ∃ (σ : Type) (m : Machine σ) (Owed : σ → Prop), m.PassesLow Owed ∧ cs.symbols = m.decode :=
  match cs with
  | .utf8 => ⟨_, _, _, Utf8.passesLow, rfl⟩
  | .sjis => ⟨_, _, _, ShiftJis.passesLow, rfl⟩
  | .gbk => ⟨_, _, _, Gb18030.passesLow, rfl⟩
  | .latin1 => ⟨_, _, _, Windows1252.passesLow, rfl⟩

theorem lows_decode (cs : Charset) (bytes : List UInt8) :
    lows ((cs.decode bytes).toList.map Char.toNat) = lows (bytes.map UInt8.toNat) := by
  obtain ⟨σ, m, Owed, hm, hsymbols⟩ := cs.exists_passesLow
  rw [codePoints_decode, hsymbols]
  exact hm.lows_run hm.start bytes

/-- **A text ends in `U+0000` only if its bytes end in zero.** -/
theorem getLast?_decode_ne_nul (cs : Charset) {bytes : List UInt8} (h : bytes.getLast? ≠ some 0) :
    (cs.decode bytes).toList.getLast? ≠ some '\x00' := by
  obtain ⟨σ, m, Owed, hm, hsymbols⟩ := cs.exists_passesLow
  have hrun := hm.getLast?_run_ne hm.start h
  intro heq
  rw [← Machine.decode, ← hsymbols, ← codePoints_decode, List.getLast?_map, heq] at hrun
  exact hrun rfl

/-- A text has as many `U+0000` as its bytes have zeros. -/
theorem count_nul_decode (cs : Charset) (bytes : List UInt8) :
    (cs.decode bytes).toList.count '\x00' = bytes.count 0 := by
  have hchars (text : List Char) : text.count '\x00' = (lows (text.map Char.toNat)).count 0 := by
    rw [lows, List.count_filter (by decide)]
    exact (List.count_map_of_injective text _ (fun _ _ => Char.toNat_inj.mp) _).symm
  have hbytes : bytes.count 0 = (lows (bytes.map UInt8.toNat)).count 0 := by
    rw [lows, List.count_filter (by decide)]
    exact (List.count_map_of_injective bytes _ (fun _ _ => UInt8.toNat_inj.mp) _).symm
  rw [hchars, hbytes, lows_decode]

end Charset

/-! ## Strings of a file -/

namespace Reader

theorem getLast?_trimNul_ne (bytes : List UInt8) : (trimNul bytes).getLast? ≠ some 0 := by
  rw [trimNul, List.getLast?_reverse]
  intro h
  have hhead := List.head?_dropWhile_not (· == 0) bytes.reverse
  rw [h] at hhead
  exact absurd hhead (by decide)

/-- Nothing but zeros is trimmed. -/
theorem exists_trimNul_append (bytes : List UInt8) :
    ∃ k, bytes = trimNul bytes ++ List.replicate k 0 := by
  have hzeros : ∀ b ∈ bytes.reverse.takeWhile (· == 0), b = 0 := fun b hb =>
    beq_iff_eq.mp (List.all_eq_true.mp List.all_takeWhile b hb)
  refine ⟨(bytes.reverse.takeWhile (· == 0)).length, ?_⟩
  calc bytes
      = (bytes.reverse.takeWhile (· == 0) ++ bytes.reverse.dropWhile (· == 0)).reverse := by
        rw [List.takeWhile_append_dropWhile, List.reverse_reverse]
    _ = trimNul bytes ++ (bytes.reverse.takeWhile (· == 0)).reverse := List.reverse_append
    _ = trimNul bytes ++ List.replicate (bytes.reverse.takeWhile (· == 0)).length 0 := by
        rw [List.eq_replicate_of_mem hzeros, List.reverse_replicate, List.length_replicate]

end Reader

/-- **No character set swallows or makes up a low ASCII character**, not even among malformed bytes:
the numbers below `0x30` are the same, in order, in bytes and in their text.  Thus a string that is
read has every zero of its payload but those at its end, and does not end in `U+0000`. -/
theorem low_ascii_kept :
    (∀ (cs : Charset) (bytes : List UInt8),
      ((cs.decode bytes).toList.map Char.toNat).filter (· < 0x30)
        = (bytes.map UInt8.toNat).filter (· < 0x30))
    ∧ ∀ (field : String) (c : Cursor) (s : String),
      ((Reader.string field).run c).result = .ok s →
        ∃ (payload tail : List UInt8) (padding : Nat),
          c.rest = Image.string c.order (payload ++ List.replicate padding 0) ++ tail
          ∧ payload.getLast? ≠ some 0
          ∧ s = c.charset.decode payload
          ∧ (s.toList.map Char.toNat).filter (· < 0x30)
            = (payload.map UInt8.toNat).filter (· < 0x30)
          ∧ s.toList.count '\x00' = payload.count 0
          ∧ s.toList.getLast? ≠ some '\x00' := by
  refine ⟨Charset.lows_decode, fun field c s hs => ?_⟩
  obtain ⟨raw, tail, -, hrest, rfl⟩ := (Reader.reads_string field).exists_raw hs
  obtain ⟨padding, hpadding⟩ := Reader.exists_trimNul_append raw
  have hlast := Reader.getLast?_trimNul_ne raw
  refine ⟨Reader.trimNul raw, tail, padding, ?_, hlast, rfl, Charset.lows_decode _ _,
    Charset.count_nul_decode _ _, Charset.getLast?_decode_ne_nul _ hlast⟩
  rw [← hpadding]
  exact hrest

/-- In GB 18030: a line break after a lead byte, a quote after two bytes of four and a zero after
three, and a lead byte at the end. -/
theorem low_ascii_kept_gbk :
    let payload : List UInt8 := [0x81, 0x0A, 0x81, 0x30, 0x22, 0x81, 0x30, 0x81, 0x00, 0x81]
    let text := Charset.gbk.decode payload
    let c : Cursor := ⟨Image.string .little (payload ++ [0, 0]) ++ [7], 0, .little, .gbk⟩
    ((Reader.string "name").run c).result = .ok text
    ∧ text.toList.map Char.toNat
      = [0xFFFD, 0x0A, 0xFFFD, 0x30, 0x22, 0xFFFD, 0x30, 0xFFFD, 0x00, 0xFFFD]
    ∧ (text.toList.map Char.toNat).filter (· < 0x30) = [0x0A, 0x22, 0x00]
    ∧ text.toList.getLast? ≠ some '\x00' := by
  intro payload text c
  have hread : ((Reader.string "name").run c).result = .ok text := by decide +kernel
  obtain ⟨_, _, _, -, -, -, -, -, hlast⟩ := low_ascii_kept.2 "name" c text hread
  have hlows : (payload.map UInt8.toNat).filter (· < 0x30) = [0x0A, 0x22, 0x00] := by decide
  exact ⟨hread, by decide +kernel, (low_ascii_kept.1 .gbk payload).trans hlows, hlast⟩

end LuaChunk
