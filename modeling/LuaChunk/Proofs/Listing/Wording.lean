import LuaChunk.Proofs.Code.Word
import LuaChunk.Proofs.Listing.Printable

/-!
# Proofs/Listing/Wording — what the text of an instruction tells

There are five ways to put an instruction into words, and the operation decides which one it is
(`Opcode.wording`).  A text tells in turn how it is worded, by its first and last characters
(`wordingOf`), whatever names and strings stand in between.  Only numbers take a longer look: a
whole number has nothing but digits and a sign, and a number constant always has something else
(`exists_mark_constant`).

So two instructions with the same text are worded alike, and then the text gives away what it was
made of (`describeAt_unambiguous`).
-/

namespace LuaChunk

/-- The ways to put an instruction into words. -/
inductive Wording where
  /-- The same words every time. -/
  | fixed (words : String)
  /-- A whole number. -/
  | integer
  /-- A number constant. -/
  | number
  /-- A name or a string between two marks. -/
  | name (before after : String)
  /-- The word itself, its operation and its operands. -/
  | word
  deriving DecidableEq, Repr

/-- How an operation is put into words. -/
def Opcode.wording : Opcode → Wording
  | .endOfCode => .fixed "-- end --"
  | .ret => .fixed "return"
  | .pushInt => .integer
  | .pushNum | .pushNegNum => .number
  | .pushString => .name "\"" "\""
  | .getLocal => .name "LOCAL[" "]"
  | .setLocal => .name "LOCAL[" "]="
  | .getGlobal => .name "GLOBAL[" "]"
  | .setGlobal => .name "GLOBAL[" "]="
  | _ => .word

namespace Prototype

/-- The name or the string that an instruction refers to. -/
def named? (p : Prototype) (w : Word) : Opcode → Option String
  | .getLocal | .setLocal => p.localName? w.u
  | .pushString | .getGlobal | .setGlobal => p.strings[w.u]?
  | _ => none

/-- The number constant that an instruction pushes. -/
def pushed? (p : Prototype) (w : Word) : Opcode → Option Binary64
  | .pushNum => p.numbers[w.u]?
  | .pushNegNum => p.numbers[w.u]?.map Binary64.negate
  | _ => none

end Prototype

/-- **A text puts an instruction into words** in a given way. -/
def Wording.Spells (p : Prototype) (w : Word) (op : Opcode) (origin : Int) (text : String) :
    Wording → Prop
  | .fixed words => text = words
  | .integer => text = LuaChunk.integer w.s
  | .number => ∃ x, p.pushed? w op = some x ∧ text = x.render constantStyle
  | .name before after => ∃ s, p.named? w op = some s ∧ text = before ++ escape s ++ after
  | .word => text = w.genericText op origin

/-! ## From an instruction to its text -/

theorem exists_of_lookup {α : Type} {site : Site} {op : Opcode} {table : Table} {entries : List α}
    {i : Nat} {f : α → String} {text : String}
    (h : (Prototype.lookup site op table entries i >>= fun a => pure (f a)) = .ok text) :
    ∃ a, entries[i]? = some a ∧ text = f a := by
  obtain ⟨a, ha, htext⟩ := bind_eq_ok.mp h
  refine ⟨a, ?_, (Except.ok.inj htext).symm⟩
  unfold Prototype.lookup at ha
  split at ha
  next b hb => rw [hb, Except.ok.inj ha]
  next => cases ha

/-- **What is said of an instruction is worded as its operation has it.** -/
theorem spells_of_describeFrom {p : Prototype} {site : Site} {origin : Int} {w : Word}
    {text : String} (h : p.describeFrom site origin w = .ok text) :
    ∃ op, w.opcode? = some op ∧ op.wording.Spells p w op origin text := by
  unfold Prototype.describeFrom at h
  split at h
  next op hop =>
    refine ⟨op, hop, ?_⟩
    cases op
    case pushString | pushNum | getGlobal | setGlobal => exact exists_of_lookup h
    case pushNegNum =>
      obtain ⟨x, hx, htext⟩ := exists_of_lookup h
      exact ⟨x.negate, by rw [Prototype.pushed?, hx]; rfl, htext⟩
    case getLocal | setLocal =>
      obtain ⟨v, hv, htext⟩ := exists_of_lookup h
      exact ⟨v.name, by rw [Prototype.named?, Prototype.localName?, hv]; rfl, htext⟩
    case closure =>
      obtain ⟨_, -, htext⟩ := exists_of_lookup h
      exact htext
    all_goals exact (Except.ok.inj h).symm
  next => cases h

theorem spells_of_describeAt {p : Prototype} {site : Site} {w : Word} {text : String}
    (h : p.describeAt site w = .ok text) :
    ∃ op origin, w.opcode? = some op ∧ op.wording.Spells p w op origin text := by
  unfold Prototype.describeAt at h
  split at h
  next origin _ =>
    obtain ⟨op, hop, hspells⟩ := spells_of_describeFrom h
    exact ⟨op, origin, hop, hspells⟩
  next => cases h

/-! ## The looks of numbers -/

/-- Characters that the text of a number begins with, behind its sign. -/
def opensNumber (c : Char) : Bool := c.isDigit || c == 'i' || c == 'N'

/-- A text that begins as numbers do. -/
def IsNumeral (cs : List Char) : Prop :=
  ∃ c rest, (cs = c :: rest ∨ cs = '-' :: c :: rest) ∧ opensNumber c = true

/-- Digits and signs. -/
def isWhole (c : Char) : Bool := c.isDigit || c == '-'

theorem exists_cons_toDigits (n : Nat) :
    ∃ c rest, Nat.toDigits 10 n = c :: rest ∧ c.isDigit = true := by
  obtain ⟨c, rest, h⟩ := List.exists_cons_of_ne_nil (Nat.toDigits_ne_nil (n := n) (b := 10))
  have hc : c ∈ Nat.toDigits 10 n := by simp [h]
  exact ⟨c, rest, h, Nat.isDigit_of_mem_toDigits (by decide) (by decide) hc⟩

theorem opensNumber_of_isDigit {c : Char} (h : c.isDigit = true) : opensNumber c = true := by
  simp [opensNumber, h]

theorem isNumeral_integer (i : Int) : IsNumeral (integer i).toList := by
  obtain ⟨c, rest, hdigits, hc⟩ := exists_cons_toDigits i.natAbs
  unfold integer
  split
  · refine ⟨c, rest, .inr ?_, opensNumber_of_isDigit hc⟩
    rw [String.toList_append, toList_decimal, hdigits]
    rfl
  · refine ⟨c, rest, .inl ?_, opensNumber_of_isDigit hc⟩
    rw [toList_decimal, hdigits]

theorem all_isWhole_integer (i : Int) : (integer i).toList.all isWhole = true := by
  refine List.all_eq_true.mpr fun c hc => ?_
  rcases mem_integer hc with rfl | hdigit
  · decide
  · simp [isWhole, hdigit]

/-- A decimal begins with a digit, and has a point or an exponent if whole numbers have a point. -/
theorem exists_render_decimal (d : Decimal) (style : NumberStyle)
    (hwhole : '.' ∈ style.whole.toList) :
    ∃ c rest, (d.render style).toList = c :: rest ∧ c.isDigit = true
      ∧ ('.' ∈ rest ∨ 'e' ∈ rest) := by
  obtain ⟨c, rest, hdigits, hc⟩ := exists_cons_toDigits d.coefficient
  have hdigits' : d.digits = c :: rest := hdigits
  unfold Decimal.render
  split
  · unfold Decimal.positional
    split
    · exact ⟨'0', _, String.toList_ofList, by decide, by simp⟩
    split
    · refine ⟨c, rest ++ List.replicate d.power.toNat '0' ++ style.whole.toList, ?_, hc, ?_⟩
      · simp [hdigits']
      · simp [hwhole]
    · obtain ⟨k, hk⟩ : ∃ k, d.point.toNat = k + 1 := ⟨d.point.toNat - 1, by omega⟩
      refine ⟨c, rest.take k ++ '.' :: rest.drop k, ?_, hc, by simp⟩
      simp [hdigits', hk]
  · unfold Decimal.scientific
    rw [hdigits']
    refine ⟨c, (if (c :: rest).length = 1 then "" else String.ofList ('.' :: rest)).toList
      ++ 'e' :: (integer (d.point - 1)).toList, ?_, hc, by simp⟩
    simp

/-- **A number constant begins as numbers do, and never looks like a whole number**: there is a
point or an exponent, or else it is spelled in letters. -/
theorem exists_mark_constant (x : Binary64) :
    IsNumeral (x.render constantStyle).toList
      ∧ ∃ c ∈ (x.render constantStyle).toList, isWhole c = false := by
  have hsigned {body : String} (hbody : ∃ c rest, body.toList = c :: rest ∧ opensNumber c = true
      ∧ ∃ m ∈ c :: rest, isWhole m = false) :
      IsNumeral ((if x.negative then "-" else "") ++ body).toList
        ∧ ∃ m ∈ ((if x.negative then "-" else "") ++ body).toList, isWhole m = false := by
    obtain ⟨c, rest, hbody, hc, m, hm, hmark⟩ := hbody
    rw [String.toList_append, hbody]
    refine ⟨⟨c, rest, ?_, hc⟩, m, List.mem_append_right _ hm, hmark⟩
    cases x.negative
    · exact .inl rfl
    · exact .inr rfl
  unfold Binary64.render
  split
  · exact ⟨⟨'N', _, .inl rfl, by decide⟩, 'N', by decide, by decide⟩
  refine hsigned ?_
  split
  · exact ⟨'i', ['n', 'f'], rfl, by decide, 'n', by decide, by decide⟩
  split
  · exact ⟨'0', ['.', '0'], rfl, by decide, '.', by decide, by decide⟩
  · obtain ⟨c, rest, hbody, hc, hmark⟩ :=
      exists_render_decimal (x.shortest constantStyle.tie) constantStyle (by decide)
    refine ⟨c, rest, hbody, opensNumber_of_isDigit hc, ?_⟩
    rcases hmark with hpoint | hexponent
    · exact ⟨'.', List.mem_cons_of_mem c hpoint, by decide⟩
    · exact ⟨'e', List.mem_cons_of_mem c hexponent, by decide⟩

/-! ## From a text to its wording -/

/-- What stands behind a name. -/
def ending (cs : List Char) : String := if cs.getLast? = some '=' then "]=" else "]"

/-- **How a text is worded**, by its looks alone. -/
def wordingOf (cs : List Char) : Wording :=
  match cs with
  | 'r' :: _ => .fixed "return"
  | '"' :: _ => .name "\"" "\""
  | 'L' :: _ => .name "LOCAL[" (ending cs)
  | 'G' :: _ => .name "GLOBAL[" (ending cs)
  | '-' :: '-' :: ' ' :: 'e' :: _ => .fixed "-- end --"
  | '-' :: '-' :: _ => .word
  | _ => if cs.all isWhole then .integer else .number

theorem wordingOf_of_isNumeral {cs : List Char} (h : IsNumeral cs) :
    wordingOf cs = if cs.all isWhole then .integer else .number := by
  obtain ⟨c, rest, hcs, hc⟩ := h
  -- no other wording begins with a character that opens a number, or with a sign before one
  rcases hcs with rfl | rfl
  all_goals
    rw [wordingOf]
    all_goals rintro _ ⟨⟩ <;> cases hc

/-- A name does not decide what stands behind it. -/
theorem ending_close (front : List Char) : ending (front ++ "]".toList) = "]" := by
  simp [ending, List.getLast?_append]

theorem ending_assign (front : List Char) : ending (front ++ "]=".toList) = "]=" := by
  simp [ending, List.getLast?_append]

theorem wordingOf_fixed {op : Opcode} {words : String} (h : op.wording = .fixed words) :
    wordingOf words.toList = .fixed words := by
  cases op <;> cases h <;> rfl

theorem wordingOf_integer (i : Int) : wordingOf (integer i).toList = .integer := by
  rw [wordingOf_of_isNumeral (isNumeral_integer i), all_isWhole_integer]
  rfl

theorem wordingOf_constant (x : Binary64) :
    wordingOf (x.render constantStyle).toList = .number := by
  obtain ⟨hnumeral, c, hc, hmark⟩ := exists_mark_constant x
  have hall : ¬ (x.render constantStyle).toList.all isWhole = true := fun hall => by
    rw [List.all_eq_true.mp hall c hc] at hmark
    cases hmark
  rw [wordingOf_of_isNumeral hnumeral, if_neg hall]

theorem wordingOf_name {op : Opcode} {before after : String}
    (h : op.wording = .name before after) (s : String) :
    wordingOf (before ++ s ++ after).toList = .name before after := by
  rw [String.toList_append, String.toList_append]
  cases op <;> cases h
  case pushString => rfl
  case getLocal | getGlobal => exact congrArg (Wording.name _) (ending_close _)
  case setLocal | setGlobal => exact congrArg (Wording.name _) (ending_assign _)

/-- The word comes first where it is shown. -/
theorem genericText_eq (w : Word) (op : Opcode) (origin : Int) :
    w.genericText op origin
      = "-- " ++ (w.hex ++ (" => [" ++ (fill '0' 2 (decimal op.code) ++ ("] "
        ++ ((if op.shape = .none then op.mnemonic else column 16 op.mnemonic)
          ++ w.operandText op origin))))) := by
  simp only [Word.genericText, String.append_assoc]

theorem wordingOf_genericText (w : Word) (op : Opcode) (origin : Int) :
    wordingOf (w.genericText op origin).toList = .word := by
  rw [genericText_eq, Word.hex, hexWord]
  simp only [String.toList_append]
  rfl

/-- **A text tells how it is worded**, whatever it is about. -/
theorem wordingOf_of_spells {p : Prototype} {w : Word} {op : Opcode} {origin : Int} {text : String}
    (h : op.wording.Spells p w op origin text) : wordingOf text.toList = op.wording := by
  cases hwording : op.wording with
  | fixed words =>
    rw [hwording] at h
    obtain rfl : text = words := h
    exact wordingOf_fixed hwording
  | integer =>
    rw [hwording] at h
    obtain rfl : text = integer w.s := h
    exact wordingOf_integer w.s
  | number =>
    rw [hwording] at h
    obtain ⟨x, -, rfl⟩ := h
    exact wordingOf_constant x
  | name before after =>
    rw [hwording] at h
    obtain ⟨s, -, rfl⟩ := h
    exact wordingOf_name hwording (escape s)
  | word =>
    rw [hwording] at h
    obtain rfl : text = w.genericText op origin := h
    exact wordingOf_genericText w op origin

/-! ## From a text to what it was made of -/

namespace Opcode

theorem mem_of_wording_fixed {op : Opcode} {words : String} (h : op.wording = .fixed words) :
    op ∈ [endOfCode, ret] := by
  cases op <;> cases h <;> decide

theorem mem_of_wording_number {op : Opcode} (h : op.wording = .number) :
    op ∈ [pushNum, pushNegNum] := by
  cases op <;> cases h <;> decide

theorem mem_of_wording_name {op : Opcode} {before after : String}
    (h : op.wording = .name before after) :
    op ∈ [pushString, getLocal, setLocal, getGlobal, setGlobal] := by
  cases op <;> cases h <;> decide

/-- Only numbers and words are worded alike for several operations. -/
theorem eq_of_wording {op op' : Opcode} (h : op.wording = op'.wording)
    (hnumber : op.wording ≠ .number) (hword : op.wording ≠ .word) : op = op' := by
  have hfind (o : Opcode) : o.wording ≠ .number → o.wording ≠ .word →
      all.find? (fun x => x.wording == o.wording) = some o := by
    cases o <;> decide
  have hfirst := hfind op hnumber hword
  rw [h] at hnumber hword hfirst
  rw [hfind op' hnumber hword] at hfirst
  exact (Option.some.inj hfirst).symm

end Opcode

theorem length_hex (w : Word) : w.hex.length = 10 := by
  have hdigits : (Nat.toDigits 16 w.bits.toNat).length ≤ 8 :=
    (Nat.length_toDigits_le_iff (by decide) (by decide)).mpr w.bits_lt
  have hlength : (hexadecimal w.bits.toNat).length ≤ 8 := by
    rwa [← String.length_toList, toList_hexadecimal, List.length_map]
  rw [Word.hex, hexWord, String.length_append, length_fill, Nat.max_eq_left hlength]
  rfl

theorem hex_injective : Function.Injective Word.hex := by
  rintro ⟨bits⟩ ⟨bits'⟩ h
  exact congrArg Word.mk (UInt32.toNat_inj.mp (hexWord_injective 8 h))

/-- The word can be read off whatever follows it. -/
theorem eq_of_hex_append {w v : Word} {s t : String} (h : w.hex ++ s = v.hex ++ t) : w = v := by
  have hlength : w.hex.toList.length = v.hex.toList.length := by
    rw [String.length_toList, String.length_toList, length_hex, length_hex]
  have hlist := congrArg String.toList h
  rw [String.toList_append, String.toList_append] at hlist
  exact hex_injective (String.toList_inj.mp (List.append_inj_left hlist hlength))

/-- **Where the word is shown, it can be read.** -/
theorem eq_of_genericText {w v : Word} {op op' : Opcode} {origin origin' : Int}
    (h : w.genericText op origin = v.genericText op' origin') : w = v := by
  rw [genericText_eq, genericText_eq, String.append_right_inj] at h
  exact eq_of_hex_append h

/-- A signed operand beside its operation makes the word. -/
theorem eq_of_s {w v : Word} {op : Opcode} (hw : w.opcode? = some op) (hv : v.opcode? = some op)
    (hs : w.s = v.s) : w = v := by
  have hcode : w.code = v.code :=
    (Word.opcode?_eq_some_iff.mp hw).trans (Word.opcode?_eq_some_iff.mp hv).symm
  have hu : w.u = v.u := by
    unfold Word.s at hs
    omega
  exact Word.eq_of_fields hcode hu

/-- **Instructions that may read the same**: one word, the end or the return whatever stands beside
their codes, one way to use one name, or two numbers that print alike. -/
inductive Alike (p : Prototype) (w : Word) (q : Prototype) (v : Word) : Prop where
  | word (h : w = v)
  | fixed {op : Opcode} (hop : op ∈ [.endOfCode, .ret])
      (hw : w.opcode? = some op) (hv : v.opcode? = some op)
  | name {op : Opcode} (hop : op ∈ [.pushString, .getLocal, .setLocal, .getGlobal, .setGlobal])
      (hw : w.opcode? = some op) (hv : v.opcode? = some op)
      {s : String} (hp : p.named? w op = some s) (hq : q.named? v op = some s)
  | number {op op' : Opcode} (hop : op ∈ [.pushNum, .pushNegNum])
      (hop' : op' ∈ [.pushNum, .pushNegNum])
      (hw : w.opcode? = some op) (hv : v.opcode? = some op')
      {x y : Binary64} (hp : p.pushed? w op = some x) (hq : q.pushed? v op' = some y)
      (hprint : x.render constantStyle = y.render constantStyle)

/-- Texts in the same words are about instructions that may read the same. -/
theorem alike_of_spells {p q : Prototype} {w v : Word} {op op' : Opcode} {origin origin' : Int}
    {text : String} (hw : w.opcode? = some op) (hv : v.opcode? = some op')
    (hspells : op.wording.Spells p w op origin text)
    (hspells' : op'.wording.Spells q v op' origin' text) : Alike p w q v := by
  have hsame : op.wording = op'.wording :=
    (wordingOf_of_spells hspells).symm.trans (wordingOf_of_spells hspells')
  rw [← hsame] at hspells'
  cases hwording : op.wording with
  | fixed words =>
    obtain rfl := Opcode.eq_of_wording hsame (by simp [hwording]) (by simp [hwording])
    exact .fixed (Opcode.mem_of_wording_fixed hwording) hw hv
  | integer =>
    obtain rfl := Opcode.eq_of_wording hsame (by simp [hwording]) (by simp [hwording])
    rw [hwording] at hspells hspells'
    exact .word (eq_of_s hw hv (integer_injective (hspells.symm.trans hspells')))
  | number =>
    have hwording' : op'.wording = .number := hsame.symm.trans hwording
    rw [hwording] at hspells hspells'
    obtain ⟨x, hx, hprint⟩ := hspells
    obtain ⟨y, hy, hprint'⟩ := hspells'
    exact .number (Opcode.mem_of_wording_number hwording) (Opcode.mem_of_wording_number hwording')
      hw hv hx hy (hprint.symm.trans hprint')
  | name before after =>
    obtain rfl := Opcode.eq_of_wording hsame (by simp [hwording]) (by simp [hwording])
    rw [hwording] at hspells hspells'
    obtain ⟨s, hs, htext⟩ := hspells
    obtain ⟨t, ht, htext'⟩ := hspells'
    have hmarked : before ++ escape s ++ after = before ++ escape t ++ after :=
      htext.symm.trans htext'
    rw [String.append_left_inj, String.append_right_inj] at hmarked
    obtain rfl := escape_injective hmarked
    exact .name (Opcode.mem_of_wording_name hwording) hw hv hs ht
  | word =>
    rw [hwording] at hspells hspells'
    exact .word (eq_of_genericText (hspells.symm.trans hspells'))

/-- Only number constants can be pushed by two operations and read the same. -/
theorem Alike.opcode? {p q : Prototype} {w v : Word} (h : Alike p w q v) :
    w.opcode? = v.opcode? ∨ ∃ op op', op ∈ [Opcode.pushNum, .pushNegNum]
      ∧ op' ∈ [Opcode.pushNum, .pushNegNum] ∧ w.opcode? = some op ∧ v.opcode? = some op' := by
  cases h with
  | word h => exact .inl (congrArg Word.opcode? h)
  | fixed _ hw hv => exact .inl (hw.trans hv.symm)
  | name _ hw hv => exact .inl (hw.trans hv.symm)
  | number hop hop' hw hv => exact .inr ⟨_, _, hop, hop', hw, hv⟩

/-- A text begins as the words do that are shown as such exactly if it is one. -/
theorem prefix_iff_of_spells {p : Prototype} {w : Word} {op : Opcode} {origin : Int}
    {text : String} (h : op.wording.Spells p w op origin text) :
    "-- 0x".toList <+: text.toList ↔ op.wording = .word := by
  constructor
  · rintro ⟨rest, htext⟩
    rw [← wordingOf_of_spells h, ← htext]
    rfl
  · intro hwording
    rw [hwording] at h
    obtain rfl : text = w.genericText op origin := h
    rw [genericText_eq, Word.hex, hexWord]
    simp only [String.toList_append, List.append_assoc]
    exact ⟨_, rfl⟩

/-- **The text of an instruction tells what it does.**  Whatever functions they belong to and
wherever they stand, two instructions with the same text may read the same: they perform one
operation, unless they push numbers, and neither a name nor a number reads like a word. -/
theorem describeAt_unambiguous {p q : Prototype} {site site' : Site} {w v : Word} {text : String}
    (hw : p.describeAt site w = .ok text) (hv : q.describeAt site' v = .ok text) :
    Alike p w q v
    ∧ (w.opcode? = v.opcode? ∨ ∃ op op', op ∈ [Opcode.pushNum, .pushNegNum]
      ∧ op' ∈ [Opcode.pushNum, .pushNegNum] ∧ w.opcode? = some op ∧ v.opcode? = some op')
    ∧ ("-- 0x".toList <+: text.toList ↔ ∃ op, w.opcode? = some op ∧ op.wording = .word) := by
  obtain ⟨op, origin, hop, hspells⟩ := spells_of_describeAt hw
  obtain ⟨op', origin', hop', hspells'⟩ := spells_of_describeAt hv
  have halike := alike_of_spells hop hop' hspells hspells'
  refine ⟨halike, halike.opcode?, (prefix_iff_of_spells hspells).trans ⟨fun h => ⟨op, hop, h⟩, ?_⟩⟩
  rintro ⟨op₁, hop₁, hwording⟩
  rwa [Option.some.inj (hop.symm.trans hop₁)]

/-- A function with nothing but constants. -/
def constants (strings : List String) (numbers : List Binary64) : Prototype :=
  { (default : Prototype) with strings, numbers }

/-- Reads of a variable with brackets in its name, from two tables, and pushes of `1` by both
operations that push numbers. -/
theorem describeAt_unambiguous_marks :
    Alike (constants ["a]="] []) ⟨0x0C⟩ (constants ["", "a]="] []) ⟨0x4C⟩
      ∧ Alike (constants [] [⟨0x3FF0000000000000⟩]) ⟨0x08⟩
        (constants [] [⟨0⟩, ⟨0xBFF0000000000000⟩]) ⟨0x49⟩ := by
  have hread : (constants ["a]="] []).describeAt ⟨"main", 0⟩ ⟨0x0C⟩ = .ok "GLOBAL[a]=]" := rfl
  have hread' : (constants ["", "a]="] []).describeAt ⟨"main", 7⟩ ⟨0x4C⟩ = .ok "GLOBAL[a]=]" := rfl
  have hpush : (constants [] [⟨0x3FF0000000000000⟩]).describeAt ⟨"main", 0⟩ ⟨0x08⟩
      = .ok ((⟨0x3FF0000000000000⟩ : Binary64).render constantStyle) := rfl
  have hpush' : (constants [] [⟨0⟩, ⟨0xBFF0000000000000⟩]).describeAt ⟨"main", 1⟩ ⟨0x49⟩
      = .ok ((⟨0x3FF0000000000000⟩ : Binary64).render constantStyle) := rfl
  exact ⟨(describeAt_unambiguous hread hread').1, (describeAt_unambiguous hpush hpush').1⟩

end LuaChunk
