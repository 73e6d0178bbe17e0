import LuaChunk.Proofs.File.Canonical

/-!
# Proofs/Charset/Lossy — UTF-8 among malformed bytes

What the decoder owes can only be paid with continuation bytes (`State.Confined`), and no character
is written with one in front.  So whatever stands before a written character, the decoder gives it
up and starts anew at the character (`run_append_cons`): text is found whole between any two strings
of bytes (`symbols_append_encode`).

The other way, bytes in which nothing is malformed are characters written one behind the other
(`exists_encode_of_clean`).  Such bytes can be taken over as a string without being decoded
(`strict?`), and it makes no difference which of the two is done (`text_eq_hastyText`).
-/

namespace LuaChunk

namespace Charset.Utf8

/-! ## Starting anew -/

theorem run_cons (s : State) (b : UInt8) (bytes : List UInt8) :
    machine.run s (b :: bytes) = (step s b).1 ++ machine.run (step s b).2 bytes := rfl

/-- **A byte that continues nothing settles what is owed**, and is read as if nothing had been. -/
theorem run_cons_of_lead {s : State} (hs : s.Confined) {b : UInt8} (hb : ¬ IsContinuation b)
    (bytes : List UInt8) :
    machine.run s (b :: bytes) = machine.run s [] ++ machine.run .between (b :: bytes) := by
  cases s with
  | between => rfl
  | inside owed low high value =>
    have hmem : ¬(low ≤ b ∧ b ≤ high) := by
      rintro ⟨hlow, hhigh⟩
      rw [UInt8.le_iff_toNat_le] at hlow hhigh
      obtain ⟨hmin, hmax⟩ := hs
      exact hb ⟨by omega, by omega⟩
    rw [run_cons, step_inside_of_not hmem]
    rfl

/-- …whatever stands before it. -/
theorem run_append_cons {s : State} (hs : s.Confined) (front : List UInt8) {b : UInt8}
    (hb : ¬ IsContinuation b) (bytes : List UInt8) :
    machine.run s (front ++ b :: bytes)
      = machine.run s front ++ machine.run .between (b :: bytes) := by
  induction front generalizing s with
  | nil => exact run_cons_of_lead hs hb bytes
  | cons a front ih =>
    rw [List.cons_append, run_cons, ih (confined_step a), ← List.append_assoc, ← run_cons]

/-- No character is written with a continuation byte in front. -/
theorem exists_encodeChar_cons (c : Char) :
    ∃ (first : UInt8) (rest : List UInt8), String.utf8EncodeChar c = first :: rest
      ∧ ¬ IsContinuation first := by
  unfold String.utf8EncodeChar
  generalize c.val.toNat = v
  dsimp only
  split
  · refine ⟨_, [], rfl, ?_⟩
    rw [IsContinuation, toNat_byte (by omega)]
    omega
  split
  · refine ⟨_, [_], rfl, ?_⟩
    rw [IsContinuation, toNat_byte (by omega)]
    omega
  split
  · refine ⟨_, [_, _], rfl, ?_⟩
    rw [IsContinuation, toNat_byte (by omega)]
    omega
  · refine ⟨_, [_, _, _], rfl, ?_⟩
    rw [IsContinuation, toNat_byte (by omega)]
    omega

/-- **Written text is found whole between any two strings of bytes.** -/
theorem symbols_append_encode {cs : List Char} (hcs : cs ≠ []) (x y : List UInt8) :
    Charset.utf8.symbols (x ++ (encode cs ++ y))
      = Charset.utf8.symbols x ++ (cs.map some ++ Charset.utf8.symbols y) := by
  obtain ⟨c, cs, rfl⟩ := List.exists_cons_of_ne_nil hcs
  obtain ⟨first, rest, hc, hfirst⟩ := exists_encodeChar_cons c
  have hbytes : encode (c :: cs) ++ y = first :: (rest ++ (encode cs ++ y)) := by
    rw [encode, List.flatMap_cons, hc, List.append_assoc, List.cons_append]
    rfl
  have hrun : machine.run .between (x ++ (encode (c :: cs) ++ y))
      = machine.run .between x ++ machine.run .between (encode (c :: cs) ++ y) := by
    rw [hbytes]
    exact run_append_cons (s := .between) trivial x hfirst _
  exact hrun.trans (congrArg _ (run_encode_append (c :: cs) y))

/-! ## Bytes with nothing malformed -/

/-- A code point is written in one to four bytes, by its size. -/
theorem encodeChar_ofNat {n : Nat} (h : n.isValidChar) :
    String.utf8EncodeChar (Char.ofNat n) =
      if n ≤ 0x7F then [UInt8.ofNat n]
      else if n ≤ 0x7FF then [UInt8.ofNat (n / 64 % 32 + 192), UInt8.ofNat (n % 64 + 128)]
      else if n ≤ 0xFFFF then
        [UInt8.ofNat (n / 4096 % 16 + 224), UInt8.ofNat (n / 64 % 64 + 128),
          UInt8.ofNat (n % 64 + 128)]
      else
        [UInt8.ofNat (n / 262144 % 8 + 240), UInt8.ofNat (n / 4096 % 64 + 128),
          UInt8.ofNat (n / 64 % 64 + 128), UInt8.ofNat (n % 64 + 128)] := by
  have hval : (Char.ofNat n).val.toNat = n := by
    rw [Char.ofNat, dif_pos h]
    rfl
  rw [String.utf8EncodeChar, hval]

theorem ofNat_eq {b : UInt8} {n : Nat} (h : n = b.toNat) : UInt8.ofNat n = b := by
  rw [h, UInt8.ofNat_toNat]

theorem encodeChar_one {a : UInt8} (ha : a.toNat < 0x80) :
    String.utf8EncodeChar (Char.ofNat a.toNat) = [a] := by
  rw [encodeChar_ofNat (.inl (by omega)), if_pos (by omega), UInt8.ofNat_toNat]

theorem encodeChar_two {a b : UInt8} (ha : 0xC2 ≤ a.toNat) (ha' : a.toNat < 0xE0)
    (hb : IsContinuation b) :
    String.utf8EncodeChar (Char.ofNat ((a.toNat - 0xC0) * 64 + (b.toNat - 0x80))) = [a, b] := by
  obtain ⟨hmin, hmax⟩ := hb
  rw [encodeChar_ofNat (.inl (by omega)), if_neg (by omega), if_pos (by omega),
    ofNat_eq (b := a) (by omega), ofNat_eq (b := b) (by omega)]

theorem encodeChar_three {a b c : UInt8} (ha : 0xE0 ≤ a.toNat) (ha' : a.toNat < 0xF0)
    (hb : IsContinuation b) (hlow : a.toNat = 0xE0 → 0xA0 ≤ b.toNat)
    (hhigh : a.toNat = 0xED → b.toNat ≤ 0x9F) (hc : IsContinuation c) :
    String.utf8EncodeChar (Char.ofNat
      (((a.toNat - 0xE0) * 64 + (b.toNat - 0x80)) * 64 + (c.toNat - 0x80))) = [a, b, c] := by
  obtain ⟨hmin, hmax⟩ := hb
  obtain ⟨hmin', hmax'⟩ := hc
  have hvalid : (((a.toNat - 0xE0) * 64 + (b.toNat - 0x80)) * 64
      + (c.toNat - 0x80)).isValidChar := by
    unfold Nat.isValidChar
    omega
  rw [encodeChar_ofNat hvalid, if_neg (by omega), if_neg (by omega), if_pos (by omega),
    ofNat_eq (b := a) (by omega), ofNat_eq (b := b) (by omega), ofNat_eq (b := c) (by omega)]

theorem encodeChar_four {a b c d : UInt8} (ha : 0xF0 ≤ a.toNat) (ha' : a.toNat < 0xF5)
    (hb : IsContinuation b) (hlow : a.toNat = 0xF0 → 0x90 ≤ b.toNat)
    (hhigh : a.toNat = 0xF4 → b.toNat ≤ 0x8F) (hc : IsContinuation c) (hd : IsContinuation d) :
    String.utf8EncodeChar (Char.ofNat
      ((((a.toNat - 0xF0) * 64 + (b.toNat - 0x80)) * 64 + (c.toNat - 0x80)) * 64
        + (d.toNat - 0x80))) = [a, b, c, d] := by
  obtain ⟨hmin, hmax⟩ := hb
  obtain ⟨hmin', hmax'⟩ := hc
  obtain ⟨hmin'', hmax''⟩ := hd
  have hvalid : ((((a.toNat - 0xF0) * 64 + (b.toNat - 0x80)) * 64 + (c.toNat - 0x80)) * 64
      + (d.toNat - 0x80)).isValidChar := by
    unfold Nat.isValidChar
    omega
  rw [encodeChar_ofNat hvalid, if_neg (by omega), if_neg (by omega), if_neg (by omega),
    ofNat_eq (b := a) (by omega), ofNat_eq (b := b) (by omega), ofNat_eq (b := c) (by omega),
    ofNat_eq (b := d) (by omega)]

/-- The next byte of a sequence that is not malformed is one of those waited for. -/
theorem exists_mem_of_clean {owed value : Nat} {low high : UInt8} {bytes : List UInt8}
    (h : none ∉ machine.run (.inside owed low high value) bytes) :
    ∃ b rest, bytes = b :: rest ∧ low ≤ b ∧ b ≤ high := by
  cases bytes with
  | nil => exact absurd List.mem_cons_self h
  | cons b rest =>
    by_cases hmem : low ≤ b ∧ b ≤ high
    · exact ⟨b, rest, rfl, hmem⟩
    · rw [run_cons, step_inside_of_not hmem] at h
      exact absurd List.mem_cons_self h

/-- …and if it is not the last, it leaves a sequence that is not malformed. -/
theorem exists_step_of_clean {owed value : Nat} {low high : UInt8} {bytes : List UInt8}
    (h : none ∉ machine.run (.inside (owed + 1) low high value) bytes) :
    ∃ b rest value', bytes = b :: rest ∧ (low ≤ b ∧ b ≤ high)
      ∧ none ∉ machine.run (.inside owed 0x80 0xBF value') rest := by
  obtain ⟨b, rest, rfl, hmem⟩ := exists_mem_of_clean h
  rw [run_inside_succ hmem] at h
  exact ⟨b, rest, _, rfl, hmem, h⟩

theorem isContinuation_of_mem {b : UInt8} (h : 0x80 ≤ b ∧ b ≤ 0xBF) : IsContinuation b :=
  ⟨UInt8.le_iff_toNat_le.mp h.1, UInt8.le_iff_toNat_le.mp h.2⟩

/-- **Bytes with nothing malformed start with a character.**  The cases are those of the lead byte;
each of the bytes behind it is in its range, as it would be malformed otherwise. -/
theorem exists_encodeChar_of_clean {a : UInt8} {bytes : List UInt8}
    (h : none ∉ machine.run .between (a :: bytes)) :
    ∃ c rest, a :: bytes = String.utf8EncodeChar c ++ rest := by
  rw [run_between, lead_eq] at h
  split at h
  next hone => exact ⟨_, bytes, congrArg (· ++ bytes) (encodeChar_one hone).symm⟩
  split at h
  next => exact absurd List.mem_cons_self h
  split at h
  next htwo =>
    obtain ⟨b, rest, rfl, hb⟩ := exists_mem_of_clean h
    have hchar := encodeChar_two (by omega) htwo (isContinuation_of_mem hb)
    exact ⟨_, rest, congrArg (· ++ rest) hchar.symm⟩
  split at h
  next hthree =>
    obtain ⟨b, rest, _, rfl, hb, h⟩ := exists_step_of_clean h
    obtain ⟨c, rest, rfl, hc⟩ := exists_mem_of_clean h
    obtain ⟨hb, hlow, hhigh⟩ := (mem_narrowed_iff 0xA0 0x9F (by decide) (by decide)).mp hb
    have hchar := encodeChar_three (by omega) hthree hb hlow hhigh (isContinuation_of_mem hc)
    exact ⟨_, rest, congrArg (· ++ rest) hchar.symm⟩
  split at h
  next hfour =>
    obtain ⟨b, rest, _, rfl, hb, h⟩ := exists_step_of_clean h
    obtain ⟨c, rest, _, rfl, hc, h⟩ := exists_step_of_clean h
    obtain ⟨d, rest, rfl, hd⟩ := exists_mem_of_clean h
    obtain ⟨hb, hlow, hhigh⟩ := (mem_narrowed_iff 0x90 0x8F (by decide) (by decide)).mp hb
    have hchar := encodeChar_four (by omega) hfour hb hlow hhigh (isContinuation_of_mem hc)
      (isContinuation_of_mem hd)
    exact ⟨_, rest, congrArg (· ++ rest) hchar.symm⟩
  next => exact absurd List.mem_cons_self h

/-- **Bytes with nothing malformed are a written text.** -/
theorem exists_encode_of_clean {bytes : List UInt8} (h : none ∉ machine.run .between bytes) :
    ∃ cs, bytes = encode cs := by
  induction hlength : bytes.length using Nat.strongRecOn generalizing bytes with
  | ind n ih =>
    cases bytes with
    | nil => exact ⟨[], rfl⟩
    | cons a bytes =>
      obtain ⟨c, rest, hbytes⟩ := exists_encodeChar_of_clean h
      rw [hbytes] at h hlength ⊢
      have hpos := List.length_pos_iff.mpr (String.utf8EncodeChar_ne_nil (c := c))
      rw [List.length_append] at hlength
      rw [run_encodeChar] at h
      have hclean : none ∉ machine.run .between rest := fun hmem =>
        h (List.mem_cons_of_mem _ hmem)
      obtain ⟨cs, rfl⟩ := ih rest.length (by omega) hclean rfl
      exact ⟨c :: cs, rfl⟩

/-! ## Taking bytes over as they stand -/

/-- The string of these very bytes, if there is one. -/
def strict? (bytes : List UInt8) : Option String := String.fromUTF8? bytes.toByteArray

theorem strict?_eq_some_iff {bytes : List UInt8} {s : String} :
    strict? bytes = some s ↔ bytes = textBytes s := by
  have hbytes : bytes = textBytes s ↔ bytes.toByteArray = s.toByteArray := by
    rw [textBytes_eq, ← String.utf8Encode_toList]
    constructor
    · rintro rfl
      rfl
    · intro h
      rw [← List.toList_data_toByteArray (l := bytes), h]
      exact List.toList_data_toByteArray
  rw [hbytes, strict?, String.fromUTF8?]
  split
  next hvalid =>
    rw [Option.some.injEq, ← String.toByteArray_inj]
    rfl
  next hinvalid =>
    refine ⟨nofun, fun h => absurd ?_ hinvalid⟩
    rw [h]
    exact s.isValidUTF8

theorem symbols_textBytes (s : String) :
    Charset.utf8.symbols (textBytes s) = s.toList.map some := by
  rw [textBytes_eq]
  exact run_encode s.toList

/-- **What is taken over is what the decoder would have made of it.** -/
theorem decode_of_strict? {bytes : List UInt8} {s : String} (h : strict? bytes = some s) :
    Charset.utf8.decode bytes = s := by
  rw [strict?_eq_some_iff.mp h, textBytes_eq, decode_encode, String.ofList_toList]

/-- **Nothing is malformed just when the bytes can be taken over.** -/
theorem malformed_eq (bytes : List UInt8) :
    Charset.utf8.malformed bytes = (strict? bytes).isNone := by
  rw [Bool.eq_iff_iff, Option.isNone_iff_eq_none]
  constructor
  · intro hmalformed
    rw [Option.eq_none_iff_forall_ne_some]
    intro s hs
    rw [malformed, strict?_eq_some_iff.mp hs, symbols_textBytes] at hmalformed
    simp at hmalformed
  · intro hnone
    rw [malformed, List.any_eq_true]
    refine ⟨none, Decidable.byContradiction fun hclean => ?_, rfl⟩
    obtain ⟨cs, hcs⟩ := exists_encode_of_clean hclean
    have hsome : strict? bytes = some (String.ofList cs) := by
      rw [strict?_eq_some_iff, textBytes_eq, String.toList_ofList, hcs]
    rw [hnone] at hsome
    cases hsome

end Charset.Utf8

open Charset

namespace Reader

/-- Bytes as text, taken over as they stand where that can be done. -/
def hastyText (bytes : List UInt8) : Reader String := do
  let charset := (← cursor).charset
  match if charset = .utf8 then Utf8.strict? bytes else none with
  | some s => return s
  | none =>
    reportIf (charset.malformed bytes) (.undecodable charset bytes)
    return charset.decode bytes

theorem run_text (bytes : List UInt8) (c : Cursor) :
    (text bytes).run c = ⟨.ok (c.charset.decode bytes), c,
      if c.charset.malformed bytes then [.undecodable c.charset bytes] else []⟩ := by
  rw [text, run_cursor_bind, run_bind, run_reportIf, Outcome.andThen_ok, run_pure, List.append_nil]

/-- **The haste cannot be told from the outcome.** -/
theorem text_eq_hastyText (bytes : List UInt8) : text bytes = hastyText bytes := by
  refine ext fun c => ?_
  rw [hastyText, run_cursor_bind]
  dsimp only
  split
  next s hs =>
    split at hs
    next hutf8 =>
      rw [run_text, hutf8, Utf8.decode_of_strict? hs, Utf8.malformed_eq, hs]
      rfl
    next => cases hs
  next => rfl

end Reader

/-- **Malformed bytes do no harm to the text next to them.**  A text is found whole between any two
strings of bytes, each of which is decoded as it would be alone.  Bytes are reported just when they
are not those of a text; and where they are, taking them over as they stand gives the same text as
decoding them, so that nothing shows which of the two was done. -/
theorem text_lossy :
    (∀ (x y : List UInt8) (s : String), s ≠ "" →
      Charset.utf8.decode (x ++ textBytes s ++ y)
        = Charset.utf8.decode x ++ s ++ Charset.utf8.decode y)
    ∧ (∀ (bytes : List UInt8) (c : Cursor), c.charset = .utf8 →
      ((.undecodable .utf8 bytes ∈ ((Reader.text bytes).run c).events)
          ↔ ¬ ∃ s, bytes = textBytes s)
        ∧ (((Reader.text bytes).run c).events = [] ↔ ∃ s, bytes = textBytes s))
    ∧ (∀ bytes : List UInt8, (Utf8.strict? bytes).isSome ↔ ∃ s, bytes = textBytes s)
    ∧ (∀ (bytes : List UInt8) (s : String), Utf8.strict? bytes = some s →
      Charset.utf8.decode bytes = s)
    ∧ ∀ bytes : List UInt8, Reader.text bytes = Reader.hastyText bytes := by
  have hstrict (bytes : List UInt8) :
      (Utf8.strict? bytes).isSome ↔ ∃ s, bytes = textBytes s := by
    rw [Option.isSome_iff_exists]
    exact exists_congr fun s => Utf8.strict?_eq_some_iff
  refine ⟨fun x y s hs => ?_, fun bytes c hc => ?_, hstrict, fun bytes s => Utf8.decode_of_strict?,
    Reader.text_eq_hastyText⟩
  · have hne : s.toList ≠ [] := fun h => hs (String.toList_eq_nil_iff.mp h)
    rw [decode, textBytes_eq, List.append_assoc, Utf8.symbols_append_encode hne]
    simp [decode, Function.comp_def, String.append_assoc]
  · rw [Reader.run_text, hc, Utf8.malformed_eq, ← hstrict]
    cases Utf8.strict? bytes <;> simp

/-- A text between the beginning and the end of what it is written as itself, a surrogate written
out, and a text as it stands. -/
theorem text_lossy_fragments :
    ("€" ≠ "" ∧ Charset.utf8.decode ([0xE2, 0x82] ++ textBytes "€" ++ [0x82, 0xAC])
      = "\uFFFD€\uFFFD\uFFFD")
    ∧ (.undecodable .utf8 [0xED, 0xA0, 0x80]
        ∈ ((Reader.text [0xED, 0xA0, 0x80]).run (Cursor.start [] .little .utf8)).events
      ∧ ¬ ∃ s, [0xED, 0xA0, 0x80] = textBytes s)
    ∧ (Utf8.strict? (textBytes "€") = some "€" ∧ Charset.utf8.decode (textBytes "€") = "€") := by
  obtain ⟨htext, hreport, -, hstrict, -⟩ := text_lossy
  have hsurrogate : .undecodable .utf8 [0xED, 0xA0, 0x80]
      ∈ ((Reader.text [0xED, 0xA0, 0x80]).run (Cursor.start [] .little .utf8)).events := by decide
  have heuro : Utf8.strict? (textBytes "€") = some "€" := Utf8.strict?_eq_some_iff.mpr rfl
  refine ⟨⟨by decide, (htext _ _ _ (by decide)).trans (by decide)⟩, ⟨hsurrogate, ?_⟩, heuro,
    hstrict _ _ heuro⟩
  exact (hreport _ (Cursor.start [] .little .utf8) rfl).1.mp hsurrogate

end LuaChunk
