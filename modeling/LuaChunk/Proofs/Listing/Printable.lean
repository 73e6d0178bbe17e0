import LuaChunk.Listing.Plain
import LuaChunk.Proofs.Listing.Escape
import LuaChunk.Proofs.Steps

/-!
# Proofs/Listing/Printable — texts that stay on their line

A text is **printable** if it has no control character, and so no end of line.  All that a plain
listing writes between two ends of line is printable: numerals and number texts, whatever was
escaped, and so what is said of an instruction (`printable_describeFrom`).  Tables and instructions
are both listed as a `block` of numbered texts.
-/

namespace LuaChunk

/-- A text without control characters. -/
def Printable (s : String) : Prop := ∀ c ∈ s.toList, isControl c = false

theorem printable_iff_all {s : String} :
    s.toList.all (fun c => !isControl c) = true ↔ Printable s := by
  simp [Printable]

instance (s : String) : Decidable (Printable s) :=
  decidable_of_iff (s.toList.all (fun c => !isControl c) = true) printable_iff_all

@[simp] theorem printable_append {s t : String} :
    Printable (s ++ t) ↔ Printable s ∧ Printable t := by
  simp only [Printable, String.toList_append, List.forall_mem_append]

@[simp] theorem printable_ofList {cs : List Char} :
    Printable (String.ofList cs) ↔ ∀ c ∈ cs, isControl c = false := by
  rw [Printable, String.toList_ofList]

theorem Printable.newline_notMem {s : String} (h : Printable s) : '\n' ∉ s.toList := fun hmem =>
  absurd (h '\n' hmem) (by decide)

/-! ## Numerals -/

theorem isControl_of_isDigit {c : Char} (h : c.isDigit = true) : isControl c = false := by
  obtain ⟨hlow, hhigh⟩ := Char.isDigit_iff_toNat.mp h
  have hzero : '0'.toNat = 48 := rfl
  have hnine : '9'.toNat = 57 := rfl
  simp only [isControl, Bool.or_eq_false_iff, Bool.and_eq_false_iff, decide_eq_false_iff_not]
  omega

theorem isControl_of_mem_toDigits {c : Char} {n : Nat} (h : c ∈ Nat.toDigits 10 n) :
    isControl c = false :=
  isControl_of_isDigit (Nat.isDigit_of_mem_toDigits (by decide) (by decide) h)

@[simp] theorem printable_decimal (n : Nat) : Printable (decimal n) :=
  printable_ofList.mpr fun _ => isControl_of_mem_toDigits

@[simp] theorem printable_integer (i : Int) : Printable (integer i) := by
  unfold integer
  split
  · exact printable_append.mpr ⟨by decide, printable_decimal _⟩
  · exact printable_decimal _

theorem printable_replicate (n : Nat) {c : Char} (hc : isControl c = false) :
    Printable (String.ofList (List.replicate n c)) :=
  printable_ofList.mpr fun _ hmem => List.eq_of_mem_replicate hmem ▸ hc

theorem printable_fill {s : String} (hs : Printable s) (width : Nat) :
    Printable (fill '0' width s) :=
  printable_append.mpr ⟨printable_replicate _ (by decide), hs⟩

theorem printable_column {s : String} (hs : Printable s) (width : Nat) :
    Printable (column width s) :=
  printable_append.mpr ⟨hs, printable_replicate _ (by decide)⟩

theorem isControl_of_mem_hexadecimal {c : Char} {n : Nat} (h : c ∈ Nat.toDigits 16 n) :
    isControl c.toUpper = false := by
  have hdigit : ∀ d < 16, isControl d.digitChar.toUpper = false := by decide
  induction n using Nat.strongRecOn with
  | ind n ih =>
    rw [Nat.toDigits_eq_if (by decide)] at h
    split at h
    next hlt => exact List.mem_singleton.mp h ▸ hdigit n hlt
    next hle =>
      rcases List.mem_append.mp h with hhead | hlast
      · exact ih _ (Nat.div_lt_self (by omega) (by decide)) hhead
      · exact List.mem_singleton.mp hlast ▸ hdigit _ (Nat.mod_lt n (by decide))

theorem printable_hexadecimal (n : Nat) : Printable (hexadecimal n) := by
  refine printable_ofList.mpr fun d hd => ?_
  obtain ⟨c, hc, rfl⟩ := List.mem_map.mp hd
  exact isControl_of_mem_hexadecimal hc

@[simp] theorem printable_hexWord (width n : Nat) : Printable (hexWord width n) :=
  printable_append.mpr ⟨by decide, printable_fill (printable_hexadecimal n) width⟩

@[simp] theorem printable_truth (b : Bool) : Printable (truth b) := by
  cases b <;> decide

/-! ## Number texts -/

theorem isControl_of_mem_digits {d : Decimal} {c : Char} (h : c ∈ d.digits) : isControl c = false :=
  isControl_of_mem_toDigits h

theorem printable_positional (d : Decimal) {whole : String} (h : Printable whole) :
    Printable (d.positional whole) := by
  unfold Decimal.positional
  split
  · refine printable_ofList.mpr fun c hc => ?_
    simp only [List.cons_append, List.mem_cons, List.mem_append] at hc
    rcases hc with rfl | rfl | hzero | hdigit
    · decide
    · decide
    · exact List.eq_of_mem_replicate hzero ▸ by decide
    · exact isControl_of_mem_digits hdigit
  split
  · refine printable_append.mpr ⟨printable_ofList.mpr fun c hc => ?_, h⟩
    rcases List.mem_append.mp hc with hdigit | hzero
    · exact isControl_of_mem_digits hdigit
    · exact List.eq_of_mem_replicate hzero ▸ by decide
  · refine printable_ofList.mpr fun c hc => ?_
    simp only [List.mem_append, List.mem_cons] at hc
    rcases hc with hdigit | rfl | hdigit
    · exact isControl_of_mem_digits (List.mem_of_mem_take hdigit)
    · decide
    · exact isControl_of_mem_digits (List.mem_of_mem_drop hdigit)

theorem printable_scientific (d : Decimal) : Printable d.scientific := by
  have hhead : Printable (String.ofList (d.digits.take 1)) :=
    printable_ofList.mpr fun c hc => isControl_of_mem_digits (List.mem_of_mem_take hc)
  have htail : Printable
      (if d.digits.length = 1 then "" else String.ofList ('.' :: d.digits.drop 1)) := by
    split
    · decide
    · refine printable_ofList.mpr fun c hc => ?_
      rcases List.mem_cons.mp hc with rfl | hdigit
      · decide
      · exact isControl_of_mem_digits (List.mem_of_mem_drop hdigit)
  rw [Decimal.scientific]
  simp only [printable_append]
  exact ⟨⟨⟨hhead, htail⟩, by decide⟩, printable_integer _⟩

/-- Whatever the style, a number text is printable if the words of the style are. -/
theorem printable_render {style : NumberStyle} (hwhole : Printable style.whole)
    (hnan : Printable style.nan) (hinfinity : Printable style.infinity) (x : Binary64) :
    Printable (x.render style) := by
  unfold Binary64.render
  split
  · exact hnan
  refine printable_append.mpr ⟨by split <;> decide, ?_⟩
  split
  · exact hinfinity
  split
  · exact printable_append.mpr ⟨by decide, hwhole⟩
  unfold Decimal.render
  split
  · exact printable_positional _ hwhole
  · exact printable_scientific _

@[simp] theorem printable_constant (x : Binary64) : Printable (x.render constantStyle) :=
  printable_render (by decide) (by decide) (by decide) x

/-! ## Escaped text -/

theorem all_escapeChar (c : Char) : (escapeChar c).all (fun d => !isControl d) = true := by
  unfold escapeChar
  split
  · decide
  split
  · decide
  split
  · decide
  split
  · decide
  split
  · decide
  split
  · refine List.all_eq_true.mpr (List.forall_mem_cons.mpr ⟨by decide, fun d hd => ?_⟩)
    rw [isControl_of_isDigit (isDigit_of_mem_fill hd)]
    rfl
  next hcontrol => simpa using hcontrol

@[simp] theorem printable_escape (s : String) : Printable (escape s) := by
  rw [← printable_iff_all, toList_escape, List.all_flatMap, List.all_eq_true]
  exact fun c _ => all_escapeChar c

/-! ## Instructions -/

theorem printable_mnemonic (op : Opcode) : Printable op.mnemonic := by
  cases op <;> decide

theorem printable_operandText (w : Word) (op : Opcode) (origin : Int) :
    Printable (w.operandText op origin) := by
  unfold Word.operandText
  split
  · decide
  · exact printable_append.mpr ⟨by decide, printable_decimal _⟩
  · refine printable_append.mpr ⟨printable_append.mpr ⟨by decide, printable_integer _⟩, ?_⟩
    split
    · simp only [printable_append, printable_integer]
      decide
    · decide
  · simp only [printable_append, printable_decimal]
    decide

theorem printable_genericText (w : Word) (op : Opcode) (origin : Int) :
    Printable (w.genericText op origin) := by
  have hmnemonic : Printable (if op.shape = .none then op.mnemonic else column 16 op.mnemonic) := by
    split
    · exact printable_mnemonic op
    · exact printable_column (printable_mnemonic op) 16
  have hcode : Printable (fill '0' 2 (decimal op.code)) := printable_fill (printable_decimal _) 2
  simp only [Word.genericText, Word.hex, printable_append, printable_hexWord, hcode, hmnemonic,
    printable_operandText]
  decide

/-- A text made of an entry of a table is printable if it is for every entry. -/
theorem printable_of_lookup {α : Type} {site : Site} {op : Opcode} {table : Table}
    {entries : List α} {i : Nat} {f : α → String} {text : String} (hf : ∀ a, Printable (f a))
    (h : (Prototype.lookup site op table entries i >>= fun a => pure (f a)) = .ok text) :
    Printable text := by
  obtain ⟨a, -, ha⟩ := bind_eq_ok.mp h
  cases ha
  exact hf a

theorem printable_describeFrom {p : Prototype} {site : Site} {origin : Int} {w : Word}
    {text : String} (h : p.describeFrom site origin w = .ok text) : Printable text := by
  unfold Prototype.describeFrom at h
  split at h
  next op _ =>
    cases op
    case pushString | getLocal | setLocal | getGlobal | setGlobal =>
      refine printable_of_lookup (fun a => ?_) h
      simp only [printable_append, printable_escape]
      decide
    case pushNum | pushNegNum => exact printable_of_lookup (fun _ => printable_constant _) h
    case closure => exact printable_of_lookup (fun _ => printable_genericText _ _ _) h
    case endOfCode | ret =>
      cases h
      decide
    case pushInt =>
      cases h
      exact printable_integer _
    all_goals
      cases h
      exact printable_genericText _ _ _
  · cases h

/-! ## Blocks of lines -/

namespace Plain

/-- A heading with the number of some texts, and the texts by number. -/
def block (title : String) (texts : List String) : List String :=
  heading title texts.length :: texts.zipIdx.map fun e => numbered e.2 e.1

theorem titled_eq_block {α : Type} (title : String) (entries : List α) (body : α → String) :
    titled title entries body = block title (entries.map fun a => "=> " ++ body a) := by
  rw [titled, block, List.length_map, List.zipIdx_map, List.map_map]
  rfl

/-- The instructions of a function are a block of as many texts, all printable. -/
theorem exists_block_of_instructions {p : Prototype} {path : String} {ls : List String}
    (h : instructions p path = .ok ls) :
    ∃ texts, ls = block "Instructions" texts ∧ texts.length = p.code.length
      ∧ ∀ t ∈ texts, Printable t := by
  obtain ⟨texts, htexts, h⟩ := bind_eq_ok.mp h
  cases h
  have hlength := length_of_mapM htexts
  rw [List.length_zipIdx] at hlength
  refine ⟨texts, by rw [block, hlength], hlength, fun t ht => ?_⟩
  have hmem : .ok t ∈ p.code.zipIdx.map fun e => p.describe ⟨path, e.2⟩ e.1 :=
    mapM_eq_ok.mp htexts ▸ List.mem_map_of_mem ht
  obtain ⟨e, -, he⟩ := List.mem_map.mp hmem
  exact printable_describeFrom he

theorem printable_heading {title : String} (htitle : Printable title) (length : Nat) :
    Printable (heading title length) := by
  simp only [heading, printable_append, printable_decimal, htitle]
  decide

theorem printable_numbered {body : String} (hbody : Printable body) (i : Nat) :
    Printable (numbered i body) := by
  simp only [numbered, Path.index, printable_append, printable_decimal, hbody]
  decide

end Plain

end LuaChunk
