import LuaChunk.Charset.Basic

/-!
# Proofs/Charset/Utf8 — UTF-8 written and read

The decoder reads the encoding of a character as that character and is between characters again
(`run_encodeChar`), so encoded text is read back (`decode_encode`).  The other way there is less to
say, as malformed bytes are not found again; but what the decoder owes can only be paid with
continuation bytes (`State.Confined`), and once it is paid it is a character (`State.Sound`).
-/

namespace LuaChunk.Charset.Utf8

/-! ## One sequence -/

/-- The cases of a lead byte, told by its number. -/
theorem lead_eq (b : UInt8) :
    lead b =
      if b.toNat < 0x80 then ([ascii b], .between)
      else if b.toNat < 0xC2 then ([none], .between)
      else if b.toNat < 0xE0 then ([], .inside 0 0x80 0xBF (b.toNat - 0xC0))
      else if b.toNat < 0xF0 then
        ([], .inside 1 (if b.toNat = 0xE0 then 0xA0 else 0x80)
          (if b.toNat = 0xED then 0x9F else 0xBF) (b.toNat - 0xE0))
      else if b.toNat < 0xF5 then
        ([], .inside 2 (if b.toNat = 0xF0 then 0x90 else 0x80)
          (if b.toNat = 0xF4 then 0x8F else 0xBF) (b.toNat - 0xF0))
      else ([none], .between) := by
  simp only [lead, UInt8.lt_iff_toNat_lt, ← UInt8.toNat_inj]
  rfl

/-- The last byte of a sequence settles its character. -/
theorem step_inside_zero {low high b : UInt8} (h : low ≤ b ∧ b ≤ high) (value : Nat) :
    step (.inside 0 low high value) b
      = ([some (Char.ofNat (value * 64 + (b.toNat - 0x80)))], .between) := by
  rw [step, if_pos h]

/-- An earlier one adds its six bits. -/
theorem step_inside_succ {low high b : UInt8} (h : low ≤ b ∧ b ≤ high) (owed value : Nat) :
    step (.inside (owed + 1) low high value) b
      = ([], .inside owed 0x80 0xBF (value * 64 + (b.toNat - 0x80))) := by
  rw [step, if_pos h]

/-- Any other byte is read afresh. -/
theorem step_inside_of_not {low high b : UInt8} (h : ¬(low ≤ b ∧ b ≤ high)) (owed value : Nat) :
    step (.inside owed low high value) b = (none :: (lead b).1, (lead b).2) := by
  simp only [step, if_neg h]

theorem run_inside_zero {low high b : UInt8} (h : low ≤ b ∧ b ≤ high) (value : Nat)
    (bytes : List UInt8) :
    machine.run (.inside 0 low high value) (b :: bytes)
      = some (Char.ofNat (value * 64 + (b.toNat - 0x80))) :: machine.run .between bytes := by
  simp only [Machine.run, machine, step_inside_zero h]
  rfl

theorem run_inside_succ {low high b : UInt8} (h : low ≤ b ∧ b ≤ high) (owed value : Nat)
    (bytes : List UInt8) :
    machine.run (.inside (owed + 1) low high value) (b :: bytes)
      = machine.run (.inside owed 0x80 0xBF (value * 64 + (b.toNat - 0x80))) bytes := by
  simp only [Machine.run, machine, step_inside_succ h]
  rfl

theorem run_between (b : UInt8) (bytes : List UInt8) :
    machine.run .between (b :: bytes) = (lead b).1 ++ machine.run (lead b).2 bytes := rfl

/-- A byte that continues a sequence. -/
def IsContinuation (b : UInt8) : Prop := 0x80 ≤ b.toNat ∧ b.toNat ≤ 0xBF

theorem IsContinuation.mem {b : UInt8} (h : IsContinuation b) : 0x80 ≤ b ∧ b ≤ 0xBF :=
  ⟨UInt8.le_iff_toNat_le.mpr h.1, UInt8.le_iff_toNat_le.mpr h.2⟩

theorem run_one {a : UInt8} (ha : a.toNat < 0x80) (rest : List UInt8) :
    machine.run .between (a :: rest) = some (Char.ofNat a.toNat) :: machine.run .between rest := by
  rw [run_between, lead_eq, if_pos ha]
  rfl

theorem run_two {a b : UInt8} (ha : 0xC2 ≤ a.toNat) (ha' : a.toNat < 0xE0) (hb : IsContinuation b)
    (rest : List UInt8) :
    machine.run .between (a :: b :: rest)
      = some (Char.ofNat ((a.toNat - 0xC0) * 64 + (b.toNat - 0x80)))
        :: machine.run .between rest := by
  rw [run_between, lead_eq, if_neg (by omega), if_neg (by omega), if_pos ha', List.nil_append,
    run_inside_zero hb.mem]

/-- The range of a byte that follows a lead byte which may narrow it from below or above. -/
theorem mem_narrowed_iff {p q : Prop} [Decidable p] [Decidable q] {b : UInt8} (low high : UInt8)
    (hl : 0x80 ≤ low.toNat) (hh : high.toNat ≤ 0xBF) :
    ((if p then low else 0x80) ≤ b ∧ b ≤ if q then high else 0xBF)
      ↔ IsContinuation b ∧ (p → low.toNat ≤ b.toNat) ∧ (q → b.toNat ≤ high.toNat) := by
  have hmin : (0x80 : UInt8).toNat = 0x80 := rfl
  have hmax : (0xBF : UInt8).toNat = 0xBF := rfl
  simp only [UInt8.le_iff_toNat_le, IsContinuation]
  by_cases hp : p <;> by_cases hq : q <;>
    simp only [hp, hq, if_true, if_false, hmin, hmax, true_implies, false_implies, and_true,
      true_and] <;> omega

theorem run_three {a b c : UInt8} (ha : 0xE0 ≤ a.toNat) (ha' : a.toNat < 0xF0)
    (hb : IsContinuation b) (hlow : a.toNat = 0xE0 → 0xA0 ≤ b.toNat)
    (hhigh : a.toNat = 0xED → b.toNat ≤ 0x9F) (hc : IsContinuation c) (rest : List UInt8) :
    machine.run .between (a :: b :: c :: rest)
      = some (Char.ofNat (((a.toNat - 0xE0) * 64 + (b.toNat - 0x80)) * 64 + (c.toNat - 0x80)))
        :: machine.run .between rest := by
  have hmem := (mem_narrowed_iff 0xA0 0x9F (by decide) (by decide)).mpr
    ⟨hb, hlow, hhigh⟩
  rw [run_between, lead_eq, if_neg (by omega), if_neg (by omega), if_neg (by omega), if_pos ha',
    List.nil_append, run_inside_succ hmem, run_inside_zero hc.mem]

theorem run_four {a b c d : UInt8} (ha : 0xF0 ≤ a.toNat) (ha' : a.toNat < 0xF5)
    (hb : IsContinuation b) (hlow : a.toNat = 0xF0 → 0x90 ≤ b.toNat)
    (hhigh : a.toNat = 0xF4 → b.toNat ≤ 0x8F) (hc : IsContinuation c) (hd : IsContinuation d)
    (rest : List UInt8) :
    machine.run .between (a :: b :: c :: d :: rest)
      = some (Char.ofNat ((((a.toNat - 0xF0) * 64 + (b.toNat - 0x80)) * 64 + (c.toNat - 0x80)) * 64
          + (d.toNat - 0x80))) :: machine.run .between rest := by
  have hmem := (mem_narrowed_iff 0x90 0x8F (by decide) (by decide)).mpr
    ⟨hb, hlow, hhigh⟩
  rw [run_between, lead_eq, if_neg (by omega), if_neg (by omega), if_neg (by omega),
    if_neg (by omega), if_pos ha', List.nil_append, run_inside_succ hmem, run_inside_succ hc.mem,
    run_inside_zero hd.mem]

/-! ## Reading what was written -/

/-- The bytes of a text. -/
def encode (cs : List Char) : List UInt8 := cs.flatMap String.utf8EncodeChar

theorem toNat_byte {n : Nat} (h : n < 256) : (UInt8.ofNat n).toNat = n :=
  UInt8.toNat_ofNat_of_lt' h

theorem isContinuation_ofNat (n : Nat) : IsContinuation (UInt8.ofNat (n % 64 + 128)) := by
  rw [IsContinuation, toNat_byte (by omega)]
  omega

/-- **A written character is read back**, whatever follows it.  The four lengths of sequences are
the four ranges of code points; that no code point is a surrogate is what keeps a sequence of three
clear of the range that its lead byte forbids. -/
theorem run_encodeChar (c : Char) (rest : List UInt8) :
    machine.run .between (String.utf8EncodeChar c ++ rest)
      = some c :: machine.run .between rest := by
  have hc : Char.ofNat c.val.toNat = c := Char.ofNat_toNat c
  have hvalid : c.val.toNat < 0xD800 ∨ 0xDFFF < c.val.toNat ∧ c.val.toNat < 0x110000 := c.valid
  unfold String.utf8EncodeChar
  generalize c.val.toNat = v at hc hvalid
  -- the last three bytes, as far as there are any
  have hlast : (UInt8.ofNat (v % 64 + 128)).toNat = v % 64 + 128 := toNat_byte (by omega)
  have hmiddle : (UInt8.ofNat (v / 64 % 64 + 128)).toNat = v / 64 % 64 + 128 :=
    toNat_byte (by omega)
  have hupper : (UInt8.ofNat (v / 4096 % 64 + 128)).toNat = v / 4096 % 64 + 128 :=
    toNat_byte (by omega)
  dsimp only
  split
  · have hfirst : (UInt8.ofNat v).toNat = v := toNat_byte (by omega)
    rw [List.singleton_append, run_one (by omega), hfirst, hc]
  split
  · have hfirst : (UInt8.ofNat (v / 64 % 32 + 192)).toNat = v / 64 % 32 + 192 :=
      toNat_byte (by omega)
    have hv : (v / 64 % 32 + 192 - 0xC0) * 64 + (v % 64 + 128 - 0x80) = v := by omega
    simp only [List.cons_append, List.nil_append]
    rw [run_two (by omega) (by omega) (isContinuation_ofNat v), hfirst, hlast, hv, hc]
  split
  · have hfirst : (UInt8.ofNat (v / 4096 % 16 + 224)).toNat = v / 4096 % 16 + 224 :=
      toNat_byte (by omega)
    have hv : ((v / 4096 % 16 + 224 - 0xE0) * 64 + (v / 64 % 64 + 128 - 0x80)) * 64
        + (v % 64 + 128 - 0x80) = v := by omega
    simp only [List.cons_append, List.nil_append]
    rw [run_three (by omega) (by omega) (isContinuation_ofNat _) (by omega) (by omega)
      (isContinuation_ofNat v), hfirst, hmiddle, hlast, hv, hc]
  · have hfirst : (UInt8.ofNat (v / 262144 % 8 + 240)).toNat = v / 262144 % 8 + 240 :=
      toNat_byte (by omega)
    have hv : (((v / 262144 % 8 + 240 - 0xF0) * 64 + (v / 4096 % 64 + 128 - 0x80)) * 64
        + (v / 64 % 64 + 128 - 0x80)) * 64 + (v % 64 + 128 - 0x80) = v := by omega
    simp only [List.cons_append, List.nil_append]
    rw [run_four (by omega) (by omega) (isContinuation_ofNat _) (by omega) (by omega)
      (isContinuation_ofNat _) (isContinuation_ofNat v), hfirst, hupper, hmiddle, hlast, hv, hc]

theorem run_encode_append (cs : List Char) (rest : List UInt8) :
    machine.run .between (encode cs ++ rest) = cs.map some ++ machine.run .between rest := by
  induction cs with
  | nil => rfl
  | cons c cs ih =>
    rw [encode, List.flatMap_cons, List.append_assoc, run_encodeChar, ← encode, ih, List.map_cons,
      List.cons_append]

theorem run_encode (cs : List Char) : machine.run .between (encode cs) = cs.map some := by
  have hrun := run_encode_append cs []
  rwa [List.append_nil, show machine.run .between [] = [] from rfl, List.append_nil] at hrun

/-- **Written text is read back.** -/
theorem decode_encode (cs : List Char) : Charset.utf8.decode (encode cs) = String.ofList cs := by
  have hsymbols : Charset.utf8.symbols (encode cs) = cs.map some := run_encode cs
  rw [decode, hsymbols, List.map_map]
  exact congrArg String.ofList (List.map_id cs)

/-! ## Reading anything -/

/-- Whatever completes the sequence, it is a character, and not an ASCII one. -/
def Completes : Nat → UInt8 → UInt8 → Nat → Prop
  | 0, low, high, value => ∀ b : UInt8, low ≤ b → b ≤ high →
    (value * 64 + (b.toNat - 0x80)).isValidChar ∧ 0x80 ≤ value * 64 + (b.toNat - 0x80)
  | owed + 1, low, high, value => ∀ b : UInt8, low ≤ b → b ≤ high →
    Completes owed 0x80 0xBF (value * 64 + (b.toNat - 0x80))

/-- What is owed can only be paid with a character. -/
def State.Sound : State → Prop
  | .between => True
  | .inside owed low high value => Completes owed low high value

theorem completes_zero {value : Nat} (h : 2 ≤ value)
    (h' : value < 0x360 ∨ 0x37F < value ∧ value < 0x4400) : Completes 0 0x80 0xBF value := by
  intro b hlow hhigh
  have hlow : 0x80 ≤ b.toNat := UInt8.le_iff_toNat_le.mp hlow
  have hhigh : b.toNat ≤ 0xBF := UInt8.le_iff_toNat_le.mp hhigh
  unfold Nat.isValidChar
  omega

theorem completes_one {value : Nat} (h : 1 ≤ value) (h' : value < 13 ∨ 13 < value ∧ value < 0x110) :
    Completes 1 0x80 0xBF value := by
  intro b hlow hhigh
  have hlow : 0x80 ≤ b.toNat := UInt8.le_iff_toNat_le.mp hlow
  have hhigh : b.toNat ≤ 0xBF := UInt8.le_iff_toNat_le.mp hhigh
  exact completes_zero (by omega) (by omega)

theorem sound_lead (b : UInt8) : (lead b).2.Sound := by
  rw [lead_eq]
  split
  · trivial
  split
  · trivial
  split
  · exact completes_zero (by omega) (by omega)
  split
  · intro y hlow hhigh
    obtain ⟨⟨hmin, hmax⟩, hE0, hED⟩ :=
      (mem_narrowed_iff 0xA0 0x9F (by decide) (by decide)).mp ⟨hlow, hhigh⟩
    have hE0 : b.toNat = 0xE0 → 0xA0 ≤ y.toNat := hE0
    have hED : b.toNat = 0xED → y.toNat ≤ 0x9F := hED
    exact completes_zero (by omega) (by omega)
  split
  · intro y hlow hhigh
    obtain ⟨⟨hmin, hmax⟩, hF0, hF4⟩ :=
      (mem_narrowed_iff 0x90 0x8F (by decide) (by decide)).mp ⟨hlow, hhigh⟩
    have hF0 : b.toNat = 0xF0 → 0x90 ≤ y.toNat := hF0
    have hF4 : b.toNat = 0xF4 → y.toNat ≤ 0x8F := hF4
    exact completes_one (by omega) (by omega)
  · trivial

/-- **One byte keeps it so.** -/
theorem sound_step {s : State} (hs : s.Sound) (b : UInt8) : (step s b).2.Sound := by
  cases s with
  | between => exact sound_lead b
  | inside owed low high value =>
    by_cases hmem : low ≤ b ∧ b ≤ high
    · cases owed with
      | zero =>
        rw [step_inside_zero hmem]
        trivial
      | succ owed =>
        rw [step_inside_succ hmem]
        exact hs b hmem.1 hmem.2
    · rw [step_inside_of_not hmem]
      exact sound_lead b

/-- Only continuation bytes are waited for. -/
def State.Confined : State → Prop
  | .between => True
  | .inside _ low high _ => 0x80 ≤ low.toNat ∧ high.toNat ≤ 0xBF

theorem confined_lead (b : UInt8) : (lead b).2.Confined := by
  rw [lead_eq]
  -- the bounds are narrowed after four of the lead bytes, and never widened
  repeat' split
  all_goals trivial

theorem confined_step {s : State} (b : UInt8) : (step s b).2.Confined := by
  cases s with
  | between => exact confined_lead b
  | inside owed low high value =>
    by_cases hmem : low ≤ b ∧ b ≤ high
    · cases owed with
      | zero =>
        rw [step_inside_zero hmem]
        trivial
      | succ owed =>
        rw [step_inside_succ hmem]
        exact ⟨by decide, by decide⟩
    · rw [step_inside_of_not hmem]
      exact confined_lead b

end LuaChunk.Charset.Utf8
