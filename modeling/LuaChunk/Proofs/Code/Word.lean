import LuaChunk.Code.Word

/-!
# Proofs/Code/Word — a word is its operation and its operands

    operation, operands  ──assemble──▸  word  ──opcode?, operandsIn──▸  operation, operands

Whatever their shape, operands come down to one number of 26 bits (`Operands.number`).  `pack` puts
that number above the code, and every field of a word is read off it, so a word is known by its code
and its number (`eq_of_fields`).  `assemble_eq_ok_iff` then says that assembling and reading are
inverse, for all operands that fit and for no others.
-/

namespace LuaChunk

namespace Opcode

theorem nodup_all : all.Nodup := by decide

/-- An operation is found at its own code and nowhere else. -/
theorem ofCode?_eq_some_iff {n : Nat} {op : Opcode} : ofCode? n = some op ↔ n = op.code := by
  constructor
  · intro h
    have hn : n < all.length := (List.getElem?_eq_some_iff.mp h).1
    exact (List.getElem?_inj hn nodup_all).mp (Eq.trans h (ofCode?_code op).symm)
  · rintro rfl
    exact ofCode?_code op

end Opcode

namespace Operands

/-- The shape of operands. -/
def shape : Operands → Shape
  | .none => .none
  | .unsigned _ => .unsigned
  | .signed _ => .signed
  | .pair .. => .pair

/-- **Operands fit their fields**: of 26 bits; of 26 bits with a bias, which leaves room for one
more number above zero than below; of 17 and of 9 bits. -/
def Fits : Operands → Prop
  | .none => True
  | .unsigned u => u ≤ 0x3FFFFFF
  | .signed s => -0x1FFFFFF ≤ s ∧ s ≤ 0x2000000
  | .pair a b => a ≤ 0x1FFFF ∧ b ≤ 0x1FF

/-- The number that operands are stored as. -/
def number : Operands → Nat
  | .none => 0
  | .unsigned u => u
  | .signed s => (s + (Field.maxS : Int)).toNat
  | .pair a b => 512 * a + b

theorem number_le {x : Operands} (h : x.Fits) : x.number ≤ 0x3FFFFFF := by
  have hbias : Field.maxS = 0x1FFFFFF := rfl
  cases x <;> simp only [Fits, number] at h ⊢ <;> omega

end Operands

namespace Word

/-! ## Fields -/

theorem u_le (w : Word) : w.u ≤ 0x3FFFFFF := by
  have hbits := w.bits_lt
  rw [u]
  omega

theorem a_le (w : Word) : w.a ≤ 0x1FFFF := by
  have hbits := w.bits_lt
  rw [a]
  omega

theorem b_le (w : Word) : w.b ≤ 0x1FF := Nat.le_of_lt_succ (Nat.mod_lt _ (by decide))

theorem s_eq (w : Word) : w.s = w.u - 0x1FFFFFF := rfl

/-- **The signed operand has one more value above zero than below.** -/
theorem s_bounds (w : Word) : -0x1FFFFFF ≤ w.s ∧ w.s ≤ 0x2000000 := by
  have hu := w.u_le
  rw [s_eq]
  omega

/-- The fields are bit fields: the code below, `U` and `S` above it, and `A` above `B`. -/
theorem fields_eq_bits (w : Word) :
    w.code = (w.bits &&& 63).toNat ∧ w.u = (w.bits >>> 6).toNat ∧ w.a = (w.bits >>> 15).toNat
      ∧ w.b = (w.bits >>> 6 &&& 511).toNat := by
  have hu : w.u = (w.bits >>> 6).toNat := by
    rw [UInt32.toNat_shiftRight, Nat.shiftRight_eq_div_pow]
    rfl
  refine ⟨?_, hu, ?_, ?_⟩
  · rw [UInt32.toNat_and]
    exact (Nat.and_two_pow_sub_one_eq_mod w.bits.toNat 6).symm
  · rw [UInt32.toNat_shiftRight, Nat.shiftRight_eq_div_pow]
    rfl
  · rw [UInt32.toNat_and, ← hu]
    exact (Nat.and_two_pow_sub_one_eq_mod w.u 9).symm

/-- A word is known by its code and the number above it. -/
theorem eq_of_fields {w v : Word} (hcode : w.code = v.code) (hu : w.u = v.u) : w = v := by
  obtain ⟨bits⟩ := w
  obtain ⟨bits'⟩ := v
  refine congrArg Word.mk (UInt32.toNat_inj.mp ?_)
  rw [← code_add_u ⟨bits⟩, ← code_add_u ⟨bits'⟩, hcode, hu]

theorem opcode?_eq_some_iff {w : Word} {op : Opcode} : w.opcode? = some op ↔ w.code = op.code :=
  Opcode.ofCode?_eq_some_iff

/-! ## Packing -/

theorem toNat_pack (op : Opcode) {u : Nat} (h : u ≤ 0x3FFFFFF) :
    (pack op u).bits.toNat = op.code + 64 * u := by
  have hcode := op.code_lt
  rw [pack, UInt32.toNat_ofNat_of_lt']
  simp only [UInt32.size]
  omega

theorem code_pack (op : Opcode) {u : Nat} (h : u ≤ 0x3FFFFFF) :
    (pack op u).code = op.code := by
  have hcode := op.code_lt
  rw [code, toNat_pack op h]
  omega

theorem u_pack (op : Opcode) {u : Nat} (h : u ≤ 0x3FFFFFF) : (pack op u).u = u := by
  have hcode := op.code_lt
  rw [Word.u, toNat_pack op h]
  omega

/-- A word is packed again from its number. -/
theorem pack_u {w : Word} {op : Opcode} (h : w.opcode? = some op) : pack op w.u = w := by
  refine eq_of_fields ?_ (u_pack op w.u_le)
  rw [code_pack op w.u_le, opcode?_eq_some_iff.mp h]

/-! ## Operands -/

/-- What is read off a word fits. -/
theorem fits_operandsIn (w : Word) (shape : Shape) : (w.operandsIn shape).Fits := by
  cases shape with
  | none => trivial
  | unsigned => exact w.u_le
  | signed => exact w.s_bounds
  | pair => exact ⟨w.a_le, w.b_le⟩

/-- **In every shape but the empty one, the operands of a word come down to the same number.** -/
theorem number_operandsIn (w : Word) {shape : Shape} (h : shape ≠ .none) :
    (w.operandsIn shape).number = w.u := by
  cases shape with
  | none => exact absurd rfl h
  | unsigned => rfl
  | signed =>
    simp only [operandsIn, Operands.number, s]
    omega
  | pair => exact w.u_eq.symm

/-- **Operands are read off the number they come down to.** -/
theorem operandsIn_of_u {w : Word} {x : Operands} (hx : x.Fits) (hu : w.u = x.number) :
    w.operandsIn x.shape = x := by
  cases x with
  | none => rfl
  | unsigned u => exact congrArg Operands.unsigned hu
  | signed s =>
    have hbias : Field.maxS = 0x1FFFFFF := rfl
    simp only [Operands.Fits, Operands.number] at hx hu
    have hs : w.s = s := by
      rw [Word.s, hu]
      omega
    exact congrArg Operands.signed hs
  | pair a b =>
    have hpair := w.u_eq
    have hb := w.b_le
    simp only [Operands.Fits, Operands.number] at hx hu
    have hfields : w.a = a ∧ w.b = b := by omega
    rw [Operands.shape, operandsIn, hfields.1, hfields.2]

/-! ## Assembling -/

theorem assemble_of_fits (op : Opcode) {x : Operands} (h : x.Fits) :
    assemble op x = .ok (pack op x.number) := by
  cases x with
  | none => rfl
  | unsigned u => exact if_pos h
  | signed s =>
    have hbias : Field.maxS = 0x1FFFFFF := rfl
    have hmax : Field.maxU = 0x3FFFFFF := rfl
    refine if_pos ?_
    simp only [Operands.Fits] at h
    omega
  | pair a b =>
    exact (if_neg (Nat.not_lt.mpr h.1)).trans (if_neg (Nat.not_lt.mpr h.2))

theorem assemble_pair_of_lt_a (op : Opcode) {a : Nat} (b : Nat) (h : 0x1FFFF < a) :
    assemble op (.pair a b) = .error ⟨.a, a⟩ := if_pos h

theorem assemble_pair_of_lt_b (op : Opcode) {a b : Nat} (ha : a ≤ 0x1FFFF) (hb : 0x1FF < b) :
    assemble op (.pair a b) = .error ⟨.b, b⟩ :=
  (if_neg (Nat.not_lt.mpr ha)).trans (if_pos hb)

/-- **Operands are assembled just when they fit.** -/
theorem exists_assemble_iff {op : Opcode} {x : Operands} :
    (∃ w, assemble op x = .ok w) ↔ x.Fits := by
  refine ⟨fun ⟨w, hw⟩ => ?_, fun h => ⟨_, assemble_of_fits op h⟩⟩
  cases x with
  | none => trivial
  | unsigned u =>
    rw [assemble] at hw
    split at hw
    next h => exact h
    next => cases hw
  | signed s =>
    have hbias : Field.maxS = 0x1FFFFFF := rfl
    have hmax : Field.maxU = 0x3FFFFFF := rfl
    rw [assemble] at hw
    split at hw
    next h =>
      rw [Operands.Fits]
      omega
    next => cases hw
  | pair a b =>
    rw [assemble] at hw
    split at hw
    next => cases hw
    next ha =>
      split at hw
      next => cases hw
      next hb => exact ⟨Nat.not_lt.mp ha, Nat.not_lt.mp hb⟩

/-- **Assembling is the inverse of reading.**  Bits that no operand speaks of are zero. -/
theorem assemble_eq_ok_iff {op : Opcode} {x : Operands} {w : Word} :
    assemble op x = .ok w
      ↔ x.Fits ∧ w.opcode? = some op ∧ w.operandsIn x.shape = x ∧ (x = .none → w.u = 0) := by
  constructor
  · intro h
    have hfits : x.Fits := exists_assemble_iff.mp ⟨w, h⟩
    rw [assemble_of_fits op hfits] at h
    obtain rfl : pack op x.number = w := Except.ok.inj h
    have hle := Operands.number_le hfits
    have hu := u_pack op hle
    refine ⟨hfits, opcode?_eq_some_iff.mpr (code_pack op hle), operandsIn_of_u hfits hu, ?_⟩
    rintro rfl
    exact hu
  · rintro ⟨hfits, hop, hx, hzero⟩
    have hnumber : x.number = w.u := by
      by_cases hnone : x.shape = .none
      · obtain rfl : x = .none := by
          rw [hnone] at hx
          exact hx.symm
        exact (hzero rfl).symm
      · rw [← number_operandsIn w hnone, hx]
    rw [assemble_of_fits op hfits, hnumber, pack_u hop]

/-- **A word is assembled again from what is read off it**, in whatever shape; in the empty one,
nothing but its code is left. -/
theorem assemble_operandsIn {w : Word} {op : Opcode} (h : w.opcode? = some op) (shape : Shape) :
    assemble op (w.operandsIn shape)
      = .ok (if shape = .none then ⟨w.bits &&& 63⟩ else w) := by
  split
  next hshape =>
    subst hshape
    have hcode : op.code = (w.bits &&& 63).toNat :=
      (opcode?_eq_some_iff.mp h).symm.trans w.fields_eq_bits.1
    rw [operandsIn, assemble, pack, Nat.mul_zero, Nat.add_zero, hcode, UInt32.ofNat_toNat]
  next hshape =>
    rw [assemble_of_fits op (w.fits_operandsIn shape), number_operandsIn w hshape, pack_u h]

/-- **Words and operands are in bijection, shape by shape.**  A word whose code names an operation
is assembled again from its operands.  Operands are assembled just when they fit, the first of a
pair being looked at first, and are then found in the word, beside the operation.  In every word,
the unsigned operand is the pair taken together and the signed one lies a bias below it, still
within a signed word; the code names no operation just when it is above 48. -/
theorem codec_inverse :
    (∀ (w : Word) (op : Opcode), w.opcode? = some op → ∀ shape,
      assemble op (w.operandsIn shape) = .ok (if shape = .none then ⟨w.bits &&& 63⟩ else w))
    ∧ (∀ (op : Opcode) (u : Nat),
      ((∃ w, assemble op (.unsigned u) = .ok w) ↔ u ≤ 0x3FFFFFF)
      ∧ ∀ w, assemble op (.unsigned u) = .ok w → w.opcode? = some op ∧ w.u = u)
    ∧ (∀ (op : Opcode) (s : Int),
      ((∃ w, assemble op (.signed s) = .ok w) ↔ -0x1FFFFFF ≤ s ∧ s ≤ 0x2000000)
      ∧ ∀ w, assemble op (.signed s) = .ok w → w.opcode? = some op ∧ w.s = s)
    ∧ (∀ (op : Opcode) (a b : Nat),
      ((∃ w, assemble op (.pair a b) = .ok w) ↔ a ≤ 0x1FFFF ∧ b ≤ 0x1FF)
      ∧ (0x1FFFF < a → assemble op (.pair a b) = .error ⟨.a, a⟩)
      ∧ (a ≤ 0x1FFFF → 0x1FF < b → assemble op (.pair a b) = .error ⟨.b, b⟩)
      ∧ ∀ w, assemble op (.pair a b) = .ok w → w.opcode? = some op ∧ w.a = a ∧ w.b = b)
    ∧ ∀ w : Word,
      (w.u = (w.bits >>> 6).toNat ∧ w.a = (w.bits >>> 15).toNat
        ∧ w.b = (w.bits >>> 6 &&& 511).toNat)
      ∧ w.u = 512 * w.a + w.b
      ∧ (w.s = w.u - 0x1FFFFFF ∧ (Int32.ofInt w.s).toInt = w.s)
      ∧ (w.opcode? = none ↔ 48 < (w.bits &&& 63).toNat) := by
  refine ⟨fun w op h shape => assemble_operandsIn h shape, fun op u => ⟨exists_assemble_iff, ?_⟩,
    fun op s => ⟨exists_assemble_iff, ?_⟩,
    fun op a b => ⟨exists_assemble_iff, assemble_pair_of_lt_a op b, assemble_pair_of_lt_b op, ?_⟩,
    fun w => ⟨w.fields_eq_bits.2, w.u_eq, ⟨w.s_eq, ?_⟩, ?_⟩⟩
  · intro w hw
    obtain ⟨-, hop, hx, -⟩ := assemble_eq_ok_iff.mp hw
    exact ⟨hop, Operands.unsigned.inj hx⟩
  · intro w hw
    obtain ⟨-, hop, hx, -⟩ := assemble_eq_ok_iff.mp hw
    exact ⟨hop, Operands.signed.inj hx⟩
  · intro w hw
    obtain ⟨-, hop, hx, -⟩ := assemble_eq_ok_iff.mp hw
    exact ⟨hop, Operands.pair.inj hx⟩
  · have hs := w.s_bounds
    exact Int32.toInt_ofInt_of_le (by omega) (by omega)
  · rw [← w.fields_eq_bits.1]
    exact Opcode.ofCode?_eq_none_iff w.code

/-- The jump furthest ahead has all its operand bits set; one step further, or a pair with both
parts too large, is refused. -/
theorem codec_inverse_furthest :
    (⟨0xFFFFFFEA⟩ : Word).opcode? = some .jmp
      ∧ assemble .jmp (.signed 0x2000000) = .ok ⟨0xFFFFFFEA⟩
      ∧ (¬ ∃ w, assemble .jmp (.signed 0x2000001) = .ok w)
      ∧ assemble .call (.pair 0x20000 0x200) = .error ⟨.a, 0x20000⟩
      ∧ assemble .call (.pair 0x1FFFF 0x200) = .error ⟨.b, 0x200⟩ := by
  have hop : (⟨0xFFFFFFEA⟩ : Word).opcode? = some .jmp := by decide
  have hoperands : (⟨0xFFFFFFEA⟩ : Word).operandsIn .signed = .signed 0x2000000 := by decide
  obtain ⟨hread, -, hsigned, hpair, -⟩ := codec_inverse
  refine ⟨hop, ?_, fun h => ?_, (hpair _ _ _).2.1 (by decide),
    (hpair _ _ _).2.2.1 (by decide) (by decide)⟩
  · rw [← hoperands]
    exact hread _ _ hop .signed
  · exact absurd ((hsigned _ _).1.mp h).2 (by decide)

end Word

end LuaChunk
