import LuaChunk.Charset.Basic

/-!
# Proofs/Charset/Ascii — what all character sets agree on

Between characters, every one of the four decoders reads a byte below 128 as the character of that
number and is between characters again.  So bytes that are all below 128 are the same text in every
set (`decode_of_ascii`).
-/

namespace LuaChunk.Charset

namespace Machine

variable {σ : Type}

/-- Bytes that each settle a symbol at once, and leave nothing owed, are decoded one by one. -/
theorem decode_of_settled {m : Machine σ} {symbol : UInt8 → Symbol} {bytes : List UInt8}
    (hstep : ∀ b ∈ bytes, m.step m.start b = ([symbol b], m.start))
    (hfinish : m.finish m.start = []) :
    m.decode bytes = bytes.map symbol := by
  unfold decode
  induction bytes with
  | nil => exact hfinish
  | cons b bytes ih =>
    obtain ⟨hb, hbytes⟩ := List.forall_mem_cons.mp hstep
    rw [run, hb, ih hbytes]
    rfl

end Machine

theorem step_utf8_of_ascii {b : UInt8} (h : b < 0x80) :
    Utf8.machine.step .between b = ([ascii b], .between) := by
  simp only [Utf8.machine, Utf8.step, Utf8.lead, if_pos h]

theorem step_shiftJis_of_ascii {b : UInt8} (h : b < 0x80) :
    ShiftJis.machine.step .between b = ([ascii b], .between) := by
  have hle : b ≤ 0x80 := UInt8.le_of_lt h
  simp only [ShiftJis.machine, ShiftJis.step, if_pos hle]

theorem step_gb18030_of_ascii {b : UInt8} (h : b < 0x80) :
    Gb18030.machine.step .between b = ([ascii b], .between) := by
  simp only [Gb18030.machine, Gb18030.step, Gb18030.stepBetween, if_pos h]

theorem step_windows1252_of_ascii {b : UInt8} (h : b < 0x80) :
    Windows1252.machine.step () b = ([ascii b], ()) := by
  have hlow : ¬ (0x80 ≤ b ∧ b < 0xA0) := fun hb => absurd h (UInt8.not_lt.mpr hb.1)
  simp only [Windows1252.machine, Windows1252.character, if_neg hlow, ascii]

theorem symbols_of_ascii (cs : Charset) {bytes : List UInt8} (h : ∀ b ∈ bytes, b < 0x80) :
    cs.symbols bytes = bytes.map ascii := by
  cases cs with
  | utf8 => exact Machine.decode_of_settled (fun b hb => step_utf8_of_ascii (h b hb)) rfl
  | sjis => exact Machine.decode_of_settled (fun b hb => step_shiftJis_of_ascii (h b hb)) rfl
  | gbk => exact Machine.decode_of_settled (fun b hb => step_gb18030_of_ascii (h b hb)) rfl
  | latin1 => exact Machine.decode_of_settled (fun b hb => step_windows1252_of_ascii (h b hb)) rfl

/-- **ASCII is the same text in every character set.** -/
theorem decode_of_ascii (cs cs' : Charset) {bytes : List UInt8} (h : ∀ b ∈ bytes, b < 0x80) :
    cs.decode bytes = cs'.decode bytes := by
  rw [decode, decode, symbols_of_ascii cs h, symbols_of_ascii cs' h]

end LuaChunk.Charset
