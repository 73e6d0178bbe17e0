import LuaChunk.Charset.Basic

/-!
# Proofs/Charset/Assigned — the tables hold characters, none of them low

Every entry of the tables is the code point of a character at or above `0x30`, the first digit
(`isHigh`): none is a surrogate, and none stands for NUL, a line break or a quote.  So a pair of
bytes that is looked up is such a character, or it is none (`ShiftJis.high_of_character?`,
`Gb18030.high_of_pair?`), and so are four bytes (`Gb18030.high_quad?`).

Tables are checked row by row (`everyEntry`), and runs by their first numbers (`areHighRuns`).
-/

namespace LuaChunk.Charset

/-- The number of a character that has one. -/
theorem toNat_ofNat {n : Nat} (h : n.isValidChar) : (Char.ofNat n).toNat = n := by
  rw [Char.ofNat, dif_pos h]
  rfl

/-- A number of a character, and above the low ones. -/
def isHigh (n : Nat) : Bool :=
  Nat.ble 0x30 n && (Nat.blt n 0xD800 || (Nat.blt 0xDFFF n && Nat.blt n 0x110000))

theorem toNat_of_isHigh {n : Nat} (h : isHigh n = true) :
    0x30 ≤ ((some (Char.ofNat n)).getD replacement).toNat := by
  simp only [isHigh, Bool.and_eq_true, Bool.or_eq_true, Nat.ble_eq, Nat.blt_eq] at h
  have hvalid : n.isValidChar := h.2
  rw [Option.getD_some, toNat_ofNat hvalid]
  exact h.1

/-- Whether all code points of a table, with their pointers, meet a condition. -/
def everyEntry (table : Array Nat) (p : Nat → Nat → Bool) : Bool :=
  table.toList.zipIdx.all fun row => (List.range 16).all fun i =>
    p (16 * row.2 + i) (row.1 >>> (16 * (15 - i)) % 65536)

theorem codePointAt_of_everyEntry {table : Array Nat} {p : Nat → Nat → Bool}
    (h : everyEntry table p = true) {pointer : Nat} (hpointer : pointer / 16 < table.size) :
    p pointer (codePointAt table pointer) = true := by
  have hrow : (table[pointer / 16], pointer / 16) ∈ table.toList.zipIdx :=
    List.mem_zipIdx_iff_getElem?.mpr (by simp [hpointer])
  have hcolumn : pointer % 16 ∈ List.range 16 := List.mem_range.mpr (Nat.mod_lt _ (by decide))
  have hentry := List.all_eq_true.mp (List.all_eq_true.mp h _ hrow) _ hcolumn
  rw [Nat.div_add_mod] at hentry
  rwa [codePointAt, Array.getElem?_eq_getElem hpointer, Option.getD_some]

theorem codePointAt_of_size_le {table : Array Nat} {pointer : Nat}
    (hpointer : table.size ≤ pointer / 16) : codePointAt table pointer = 0 := by
  rw [codePointAt, Array.getElem?_eq_none hpointer, Option.getD_none, Nat.zero_shiftRight]

/-! ## Shift JIS -/

namespace ShiftJis

/-- An entry is the code point of a character, or none. -/
def isEntry (n : Nat) : Bool := n == 0 || isHigh n

theorem everyEntry_standard : everyEntry Jis0208.standard (fun _ => isEntry) = true := by
  decide +kernel

theorem everyEntry_extension : everyEntry Jis0208.extension (fun _ => isEntry) = true := by
  decide +kernel

theorem isEntry_codePointAt {table : Array Nat} (h : everyEntry table (fun _ => isEntry) = true)
    (pointer : Nat) : isEntry (codePointAt table pointer) = true := by
  by_cases hpointer : pointer / 16 < table.size
  · exact codePointAt_of_everyEntry h hpointer
  · rw [codePointAt_of_size_le (Nat.not_lt.mp hpointer)]
    rfl

theorem isEntry_codePoint (pointer : Nat) : isEntry (codePoint pointer) = true := by
  by_cases hstandard : pointer < 8836
  · rw [codePoint, if_pos hstandard]
    exact isEntry_codePointAt everyEntry_standard pointer
  rw [codePoint, if_neg hstandard]
  by_cases huser : pointer < 10716
  · rw [if_pos huser]
    have hhigh : isHigh (0xE000 + (pointer - 8836)) = true := by
      simp only [isHigh, Bool.and_eq_true, Bool.or_eq_true, Nat.ble_eq, Nat.blt_eq]
      omega
    rw [isEntry, hhigh, Bool.or_true]
  · rw [if_neg huser]
    exact isEntry_codePointAt everyEntry_extension _

/-- A pair that names a character has a second byte above the low ones, and so is the character. -/
theorem high_of_character? {first second : UInt8} {c : Char}
    (h : character? first second = some c) :
    0x30 ≤ second.toNat ∧ 0x30 ≤ ((some c).getD replacement).toNat := by
  unfold character? at h
  split at h
  · cases h
  next p hp =>
    split at h
    · cases h
    next hne =>
      cases h
      have hentry := isEntry_codePoint p
      rw [isEntry, beq_false_of_ne hne, Bool.false_or] at hentry
      refine ⟨?_, toNat_of_isHigh hentry⟩
      unfold pointer? at hp
      split at hp
      next hrange =>
        simp only [UInt8.le_iff_toNat_le] at hrange
        have h40 : (0x40 : UInt8).toNat = 0x40 := rfl
        have h80 : (0x80 : UInt8).toNat = 0x80 := rfl
        omega
      · cases hp

end ShiftJis

/-! ## GB 18030 -/

namespace Gb18030

/-- The two-byte characters fill the table, up to what is left of its last row. -/
theorem everyEntry_twoByte :
    everyEntry twoByte (fun pointer n => Nat.ble 23940 pointer || isHigh n) = true := by
  decide +kernel

theorem isHigh_twoByte {pointer : Nat} (h : pointer < 23940) :
    isHigh (codePointAt twoByte pointer) = true := by
  have hrow : pointer / 16 < twoByte.size := by
    have hsize : twoByte.size = 1497 := by decide +kernel
    omega
  have hentry := codePointAt_of_everyEntry everyEntry_twoByte hrow
  rw [Bool.or_eq_true, Nat.ble_eq] at hentry
  exact hentry.resolve_left (Nat.not_le.mpr h)

/-- The bytes that begin a character of more than one. -/
def IsFirst (b : UInt8) : Prop := 0x81 ≤ b.toNat ∧ b.toNat ≤ 0xFE

/-- **A pair of bytes ends above the low numbers, and stands for a character above them.** -/
theorem high_of_pair? {first second : UInt8} (hfirst : IsFirst first) {c : Char}
    (h : pair? first second = some c) :
    0x30 ≤ second.toNat ∧ 0x30 ≤ ((some c).getD replacement).toNat := by
  unfold pair? at h
  split at h
  next hrange =>
    have hnumbers : (0x40 : UInt8).toNat = 0x40 ∧ (0x7E : UInt8).toNat = 0x7E
      ∧ (0x80 : UInt8).toNat = 0x80 ∧ (0xFE : UInt8).toNat = 0xFE := ⟨rfl, rfl, rfl, rfl⟩
    simp only [UInt8.le_iff_toNat_le] at hrange
    obtain ⟨hlow, hhigh⟩ := hfirst
    refine ⟨by omega, ?_⟩
    rw [← h]
    refine toNat_of_isHigh (isHigh_twoByte ?_)
    have hcolumn : second.toNat - (if second < 0x7F then 0x40 else 0x41) < 190 := by
      have hdelete : (0x7F : UInt8).toNat = 0x7F := rfl
      simp only [UInt8.lt_iff_toNat_lt]
      split <;> omega
    omega
  · cases h

/-- Code points of `length` numbers in a row from one on. -/
def isHighSpan (start length : Nat) : Bool :=
  Nat.ble 0x30 start
    && (Nat.ble (start + length) 0xD800
      || (Nat.ble 0xE000 start && Nat.ble (start + length) 0x110000))

theorem isHigh_of_isHighSpan {start length i : Nat} (h : isHighSpan start length = true)
    (hi : i < length) : isHigh (start + i) = true := by
  simp only [isHighSpan, isHigh, Bool.and_eq_true, Bool.or_eq_true, Nat.ble_eq, Nat.blt_eq] at h ⊢
  omega

/-- Whether runs rise, the last of them up to `stop`, and none comes to a surrogate. -/
def areHighRuns (stop : Nat) (run : Nat × Nat) : List (Nat × Nat) → Bool
  | [] => isHighSpan run.2 (stop - run.1)
  | next :: runs =>
    Nat.ble run.1 next.1 && isHighSpan run.2 (next.1 - run.1) && areHighRuns stop next runs

/-- The run of a number is the last that starts at or below it. -/
def lastRun (pointer : Nat) (found : Nat × Nat) (runs : List (Nat × Nat)) : Nat × Nat :=
  runs.foldl (fun found run => if run.1 ≤ pointer then run else found) found

theorem lastRun_of_lt {stop pointer : Nat} {found run : Nat × Nat} {runs : List (Nat × Nat)}
    (h : areHighRuns stop run runs = true) (hpointer : pointer < run.1) :
    lastRun pointer found runs = found := by
  induction runs generalizing run with
  | nil => rfl
  | cons next runs ih =>
    simp only [areHighRuns, Bool.and_eq_true, Nat.ble_eq] at h
    obtain ⟨⟨hle, -⟩, hruns⟩ := h
    have hnext : ¬ next.1 ≤ pointer := by omega
    rw [lastRun, List.foldl_cons, if_neg hnext]
    exact ih hruns (by omega)

/-- Up to `stop`, a number has its code point in one of the runs. -/
theorem isHigh_lastRun {stop pointer : Nat} {run : Nat × Nat} {runs : List (Nat × Nat)}
    (h : areHighRuns stop run runs = true) (hle : run.1 ≤ pointer) (hlt : pointer < stop) :
    isHigh ((lastRun pointer run runs).2 + (pointer - (lastRun pointer run runs).1)) = true := by
  induction runs generalizing run with
  | nil =>
    have hspan : pointer - run.1 < stop - run.1 := by omega
    exact isHigh_of_isHighSpan h hspan
  | cons next runs ih =>
    simp only [areHighRuns, Bool.and_eq_true, Nat.ble_eq] at h
    obtain ⟨⟨-, hspan⟩, hruns⟩ := h
    rw [lastRun, List.foldl_cons]
    by_cases hnext : next.1 ≤ pointer
    · rw [if_pos hnext]
      exact ih hruns hnext
    · have hlast : lastRun pointer run runs = run := lastRun_of_lt hruns (by omega)
      rw [if_neg hnext, ← lastRun, hlast]
      exact isHigh_of_isHighSpan hspan (by omega)

theorem areHighRuns_ranges : areHighRuns 39420 (0, 0x80) ranges = true := by decide +kernel

/-- **Four bytes stand for a character above the low ones**, or for none. -/
theorem high_quad? (pointer : Nat) : 0x30 ≤ ((quad? pointer).getD replacement).toNat := by
  unfold quad?
  split
  next hle =>
    exact toNat_of_isHigh (isHigh_lastRun areHighRuns_ranges (Nat.zero_le _) (by omega))
  split
  next hrange =>
    refine toNat_of_isHigh ?_
    simp only [isHigh, Bool.and_eq_true, Bool.or_eq_true, Nat.ble_eq, Nat.blt_eq]
    omega
  · decide

end Gb18030

/-! ## Windows-1252 -/

namespace Windows1252

theorem isHigh_high : ∀ i < 32, isHigh (high[i]?.getD 0) = true := by decide

end Windows1252

end LuaChunk.Charset
