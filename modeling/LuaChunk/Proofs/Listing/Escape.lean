import LuaChunk.Listing.Escape
import LuaChunk.Proofs.Numeral

/-!
# Proofs/Listing/Escape — escaped texts can be read back

`unescape` undoes `escape`.  What makes it work is that a control character without a letter of its
own is always written with three digits, so that a digit behind it is not taken for one of them
(`exists_escapeCode`).
-/

namespace LuaChunk

/-- Reads an escaped text. -/
def unescape : List Char → List Char
  | [] => []
  | '\\' :: '\\' :: cs => '\\' :: unescape cs
  | '\\' :: '"' :: cs => '"' :: unescape cs
  | '\\' :: 'n' :: cs => '\n' :: unescape cs
  | '\\' :: 'r' :: cs => '\r' :: unescape cs
  | '\\' :: 't' :: cs => '\t' :: unescape cs
  | '\\' :: x :: y :: z :: cs => Char.ofNat ((readDigits? 10 [x, y, z]).getD 0) :: unescape cs
  | c :: cs => c :: unescape cs

theorem toNat_lt_of_isControl {c : Char} (h : isControl c = true) : c.toNat < 160 := by
  simp only [isControl, Bool.or_eq_true, Bool.and_eq_true, decide_eq_true_eq] at h
  omega

theorem isDigit_of_mem_fill {c : Char} {width n : Nat}
    (h : c ∈ (fill '0' width (decimal n)).toList) : c.isDigit = true := by
  rw [toList_fill, List.mem_append] at h
  rcases h with hzero | hdigit
  · rw [List.eq_of_mem_replicate hzero]
    decide
  · exact isDigit_of_mem_decimal hdigit

/-- A control character has three digits. -/
theorem exists_escapeCode {c : Char} (h : isControl c = true) :
    ∃ x y z, escapeCode c = ['\\', x, y, z] ∧ x.isDigit = true
      ∧ readDigits? 10 [x, y, z] = some c.toNat := by
  have hlength : (fill '0' 3 (decimal c.toNat)).toList.length = 3 := by
    have hdigits : (Nat.toDigits 10 c.toNat).length ≤ 3 :=
      (Nat.length_toDigits_le_iff (by decide) (by decide)).mpr
        (Nat.lt_trans (toNat_lt_of_isControl h) (by decide))
    rw [String.length_toList, length_fill, ← String.length_toList, toList_decimal]
    omega
  obtain ⟨x, y, z, hxyz⟩ : ∃ x y z, (fill '0' 3 (decimal c.toNat)).toList = [x, y, z] :=
    match (fill '0' 3 (decimal c.toNat)).toList, hlength with
    | [x, y, z], _ => ⟨x, y, z, rfl⟩
  refine ⟨x, y, z, congrArg ('\\' :: ·) hxyz, ?_, ?_⟩
  · exact isDigit_of_mem_fill (by rw [hxyz]; exact List.mem_cons_self)
  · rw [← hxyz, readDigits?_decimal]

theorem unescape_code {x y z : Char} (hx : x.isDigit = true) (cs : List Char) :
    unescape ('\\' :: x :: y :: z :: cs)
      = Char.ofNat ((readDigits? 10 [x, y, z]).getD 0) :: unescape cs := by
  have hne (d : Char) (hd : d.isDigit = false) : x ≠ d := by
    rintro rfl
    rw [hx] at hd
    cases hd
  rw [unescape]
  all_goals exact hne _ rfl

theorem unescape_cons {c : Char} (hc : c ≠ '\\') (cs : List Char) :
    unescape (c :: cs) = c :: unescape cs := by
  rw [unescape]
  all_goals
    intros
    contradiction

theorem unescape_escapeChar (c : Char) (cs : List Char) :
    unescape (escapeChar c ++ cs) = c :: unescape cs := by
  unfold escapeChar
  split
  next h => rw [h]; rfl
  split
  next h => rw [h]; rfl
  split
  next h => rw [h]; rfl
  split
  next h => rw [h]; rfl
  split
  next h => rw [h]; rfl
  split
  next hcontrol =>
    obtain ⟨x, y, z, hcode, hx, hread⟩ := exists_escapeCode hcontrol
    rw [hcode]
    exact (unescape_code hx cs).trans (by rw [hread, Option.getD_some, Char.ofNat_toNat])
  next hbackslash _ _ _ _ _ => exact unescape_cons hbackslash cs

/-- **A text is read back from its escaped form**, whatever stands behind it. -/
theorem unescape_flatMap_append (s cs : List Char) :
    unescape (s.flatMap escapeChar ++ cs) = s ++ unescape cs := by
  induction s with
  | nil => rfl
  | cons c s ih =>
    rw [List.flatMap_cons, List.append_assoc, unescape_escapeChar, ih, List.cons_append]

theorem toList_escape (s : String) : (escape s).toList = s.toList.flatMap escapeChar :=
  String.toList_ofList

theorem unescape_escape (s : String) : unescape (escape s).toList = s.toList := by
  have hread := unescape_flatMap_append s.toList []
  rw [List.append_nil] at hread
  rw [toList_escape, hread]
  exact List.append_nil _

theorem escape_injective : Function.Injective escape := by
  intro s t h
  rw [← String.toList_inj, ← unescape_escape s, ← unescape_escape t, h]

/-- A text is escaped piece by piece. -/
theorem escape_append (s t : String) : escape (s ++ t) = escape s ++ escape t := by
  rw [← String.toList_inj, String.toList_append, toList_escape, toList_escape, toList_escape,
    String.toList_append, List.flatMap_append]

end LuaChunk
