import LuaChunk.Binary64.Literal
import LuaChunk.Numeral

/-!
# Proofs/Numeral — numerals can be read back

`readDigits?` reads what `decimal` and `hexadecimal` write, however many zeros stand in front, so no
two numbers have the same numeral.  A decimal numeral ends with its digits: a text can be taken
apart behind it, at any character that is no digit (`decimal_append_cons`), and the same goes for
integers with a sign (`integer_append_cons`).
-/

namespace LuaChunk

/-! ## Reading back -/

theorem continueDigits?_append (base n : Nat) (cs ds : List Char) :
    continueDigits? base n (cs ++ ds)
      = (continueDigits? base n cs).bind fun m => continueDigits? base m ds := by
  induction cs generalizing n with
  | nil => rfl
  | cons c cs ih =>
    rw [List.cons_append, continueDigits?, continueDigits?]
    cases digitValue? c with
    | none => rfl
    | some d =>
      dsimp only
      split
      · exact ih _
      · rfl

theorem continueDigits?_singleton {base n d : Nat} {c : Char} (hc : digitValue? c = some d)
    (hd : d < base) : continueDigits? base n [c] = some (n * base + d) := by
  rw [continueDigits?, hc]
  exact if_pos hd

/-- Zeros in front change nothing. -/
theorem continueDigits?_zeros {base : Nat} (hbase : 0 < base) (k : Nat) (cs : List Char) :
    continueDigits? base 0 (List.replicate k '0' ++ cs) = continueDigits? base 0 cs := by
  induction k with
  | zero => rfl
  | succ k ih =>
    have hzero : digitValue? '0' = some 0 := by decide
    rw [List.replicate_succ, List.cons_append, continueDigits?, hzero]
    dsimp only
    rw [if_pos hbase, Nat.zero_mul, ih]

/-- **Digits are read back**, in any spelling `f` that `digitValue?` knows. -/
theorem continueDigits?_toDigits {base : Nat} {f : Char → Char} (hbase : 1 < base)
    (hf : ∀ d < base, digitValue? (f d.digitChar) = some d) (n : Nat) :
    continueDigits? base 0 ((Nat.toDigits base n).map f) = some n := by
  induction n using Nat.strongRecOn with
  | ind n ih =>
    rw [Nat.toDigits_eq_if hbase]
    split
    next hlt =>
      rw [List.map_singleton, continueDigits?_singleton (hf n hlt) hlt, Nat.zero_mul, Nat.zero_add]
    next hle =>
      have hdiv : n / base < n := Nat.div_lt_self (by omega) hbase
      have hmod : n % base < base := Nat.mod_lt n (by omega)
      rw [List.map_append, continueDigits?_append, ih _ hdiv, Option.bind_some, List.map_singleton,
        continueDigits?_singleton (hf _ hmod) hmod, Nat.mul_comm, Nat.div_add_mod]

theorem toList_fill (c : Char) (width : Nat) (s : String) :
    (fill c width s).toList = List.replicate (width - s.length) c ++ s.toList := by
  rw [fill, String.toList_append, String.toList_ofList]

theorem toList_decimal (n : Nat) : (decimal n).toList = Nat.toDigits 10 n := String.toList_ofList

theorem toList_hexadecimal (n : Nat) :
    (hexadecimal n).toList = (Nat.toDigits 16 n).map Char.toUpper := String.toList_ofList

/-- **Decimal numerals are read back.** -/
theorem readDigits?_decimal (width n : Nat) :
    readDigits? 10 (fill '0' width (decimal n)).toList = some n := by
  have hdigit : ∀ d < 10, digitValue? (id d.digitChar) = some d := by decide
  have hread := continueDigits?_toDigits (by decide) hdigit n
  rw [List.map_id] at hread
  rw [toList_fill, toList_decimal, readDigits?, if_neg (by simp),
    continueDigits?_zeros (by decide), hread]

/-- **Hexadecimal numerals are read back.** -/
theorem readDigits?_hexadecimal (width n : Nat) :
    readDigits? 16 (fill '0' width (hexadecimal n)).toList = some n := by
  have hdigit : ∀ d < 16, digitValue? d.digitChar.toUpper = some d := by decide
  rw [toList_fill, toList_hexadecimal, readDigits?, if_neg (by simp),
    continueDigits?_zeros (by decide), continueDigits?_toDigits (by decide) hdigit]

theorem hexWord_injective (width : Nat) : Function.Injective (hexWord width) := by
  intro m n h
  have hfill : fill '0' width (hexadecimal m) = fill '0' width (hexadecimal n) :=
    (String.append_right_inj "0x").mp h
  have hread := readDigits?_hexadecimal width m
  rw [hfill, readDigits?_hexadecimal] at hread
  exact (Option.some.inj hread).symm

/-! ## Where a numeral ends -/

section Split

variable {α : Type} {c : α} {x y r s : List α}

/-- Lists are taken apart at the first of a kind. -/
theorem split_first (hx : c ∉ x) (hy : c ∉ y) (h : x ++ c :: r = y ++ c :: s) : x = y ∧ r = s := by
  induction x generalizing y with
  | nil =>
    cases y with
    | nil => exact ⟨rfl, (List.cons.inj h).2⟩
    | cons b y => exact absurd (List.mem_cons.mpr (.inl (List.cons.inj h).1)) hy
  | cons a x ih =>
    cases y with
    | nil => exact absurd (List.mem_cons.mpr (.inl (List.cons.inj h).1.symm)) hx
    | cons b y =>
      obtain ⟨rfl, htail⟩ := List.cons.inj h
      obtain ⟨rfl, hrest⟩ := ih (fun hc => hx (List.mem_cons_of_mem _ hc))
        (fun hc => hy (List.mem_cons_of_mem _ hc)) htail
      exact ⟨rfl, hrest⟩

/-- …and at the last. -/
theorem split_last (hr : c ∉ r) (hs : c ∉ s) (h : x ++ c :: r = y ++ c :: s) : x = y ∧ r = s := by
  have hreverse : r.reverse ++ c :: x.reverse = s.reverse ++ c :: y.reverse := by
    have := congrArg List.reverse h
    simpa using this
  obtain ⟨hback, hfront⟩ := split_first (by simpa using hr) (by simpa using hs) hreverse
  exact ⟨List.reverse_inj.mp hfront, List.reverse_inj.mp hback⟩

end Split

theorem isDigit_of_mem_decimal {c : Char} {n : Nat} (h : c ∈ (decimal n).toList) :
    c.isDigit = true := by
  rw [toList_decimal] at h
  exact Nat.isDigit_of_mem_toDigits (by decide) (by decide) h

/-- A decimal numeral ends at the first character that is no digit. -/
theorem decimal_append_cons {c : Char} (hc : c.isDigit = false) {m n : Nat} {r s : List Char}
    (h : (decimal m).toList ++ c :: r = (decimal n).toList ++ c :: s) : m = n ∧ r = s := by
  have hnot (k : Nat) : c ∉ (decimal k).toList := fun hmem => by
    rw [isDigit_of_mem_decimal hmem] at hc
    cases hc
  obtain ⟨hdigits, hrest⟩ := split_first (hnot m) (hnot n) h
  refine ⟨?_, hrest⟩
  rw [toList_decimal, toList_decimal] at hdigits
  rw [← Nat.ofDigitChars_ten_toDigits (n := m), hdigits, Nat.ofDigitChars_ten_toDigits]

/-- The characters of an integer. -/
theorem mem_integer {c : Char} {i : Int} (h : c ∈ (integer i).toList) :
    c = '-' ∨ c.isDigit = true := by
  rw [integer] at h
  split at h
  · rw [String.toList_append, List.mem_append] at h
    rcases h with hsign | hdigit
    · exact .inl (List.mem_singleton.mp hsign)
    · exact .inr (isDigit_of_mem_decimal hdigit)
  · exact .inr (isDigit_of_mem_decimal h)

/-- A numeral does not start with a sign. -/
theorem decimal_append_ne_minus (n : Nat) (r s : List Char) :
    (decimal n).toList ++ r ≠ '-' :: s := by
  intro h
  have hne : (decimal n).toList ≠ [] := by simp [toList_decimal]
  obtain ⟨d, ds, hd⟩ := List.exists_cons_of_ne_nil hne
  rw [hd] at h
  obtain rfl : d = '-' := (List.cons.inj h).1
  have hdigit : '-'.isDigit = true := isDigit_of_mem_decimal (n := n) (by simp [hd])
  exact absurd hdigit (by decide)

/-- An integer ends at the first character behind its sign that is no digit. -/
theorem integer_append_cons {c : Char} (hc : c.isDigit = false) {i j : Int} {r s : List Char}
    (h : (integer i).toList ++ c :: r = (integer j).toList ++ c :: s) : i = j ∧ r = s := by
  have hminus : "-".toList = ['-'] := rfl
  unfold integer at h
  split at h <;> split at h
  · simp only [String.toList_append, hminus, List.cons_append, List.nil_append, List.cons.injEq,
      true_and] at h
    obtain ⟨hnum, hrest⟩ := decimal_append_cons hc h
    exact ⟨by omega, hrest⟩
  · simp only [String.toList_append, hminus, List.cons_append, List.nil_append] at h
    exact absurd h.symm (decimal_append_ne_minus _ _ _)
  · simp only [String.toList_append, hminus, List.cons_append, List.nil_append] at h
    exact absurd h (decimal_append_ne_minus _ _ _)
  · obtain ⟨hnum, hrest⟩ := decimal_append_cons hc h
    exact ⟨by omega, hrest⟩

theorem integer_injective : Function.Injective integer := by
  intro i j h
  have hspace : (integer i).toList ++ [' '] = (integer j).toList ++ [' '] := by rw [h]
  exact (integer_append_cons (by decide) hspace).1

end LuaChunk
