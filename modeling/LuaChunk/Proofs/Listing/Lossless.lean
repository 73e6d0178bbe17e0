import LuaChunk.Proofs.Listing.Faults
import LuaChunk.Proofs.Listing.Wording

/-!
# Proofs/Listing/Lossless — a function taken apart can be put together again

An entry says what a word says.  Its texts can be read back (`Entry.bits?`, `Entry.opcode?`,
`Entry.assemble?`), and the line of a plain listing can be written from the entry alone
(`Entry.line?`).  `Entry.Shows` collects what that gives for one instruction, `Assembly.Mirrors` for
one function, and `ofPrototype_lossless` states it for every function of a tree.

The two listings come by the target of a branch in different ways: an entry has one whenever there
is one, a line only beside a signed operand.  They meet because only operations with a signed
operand branch (`Opcode.shape_of_isBranch`).
-/

namespace LuaChunk

/-! ## Reading texts back -/

theorem fill_zero (c : Char) (s : String) : fill c 0 s = s := by simp [fill]

theorem readDigits?_decimal_zero (n : Nat) : readDigits? 10 (decimal n).toList = some n := by
  have hread := readDigits?_decimal 0 n
  rwa [fill_zero] at hread

/-- **Integers are read back.** -/
theorem readExponent?_integer (i : Int) : Decimal.readExponent? (integer i).toList = some i := by
  have hread := readDigits?_decimal_zero i.natAbs
  unfold integer
  split
  next hneg =>
    rw [String.toList_append, show "-".toList = ['-'] from rfl, List.singleton_append,
      Decimal.readExponent?, hread]
    exact congrArg some (show -(i.natAbs : Int) = i by omega)
  next hpos =>
    obtain ⟨c, rest, hdigits, hc⟩ := exists_cons_toDigits i.natAbs
    rw [toList_decimal, hdigits] at hread ⊢
    rw [Decimal.readExponent?, hread]
    · exact congrArg some (show (i.natAbs : Int) = i by omega)
    -- a digit is no sign
    all_goals
      rintro _ ⟨⟩
      cases hc

namespace Opcode

/-- The operation of a mnemonic. -/
def ofMnemonic? (s : String) : Option Opcode := all.find? fun op => op.mnemonic == s

theorem ofMnemonic?_mnemonic (op : Opcode) : ofMnemonic? op.mnemonic = some op := by
  have hall : ∀ op ∈ all, ofMnemonic? op.mnemonic = some op := by decide +kernel
  exact hall op (List.mem_of_getElem? (ofCode?_code op))

/-- The operations that branch are the jumps up to the unconditional one, and the four of loops. -/
theorem isBranch_iff (op : Opcode) :
    op.isBranch = true ↔ (jmpNe.code ≤ op.code ∧ op.code ≤ jmp.code)
      ∨ (forPrep.code ≤ op.code ∧ op.code ≤ lForLoop.code) := by
  cases op <;> decide

end Opcode

namespace Operands

/-- Operands of a shape, from their texts. -/
def ofTexts? : Shape → List String → Option Operands
  | .none, [] => some .none
  | .unsigned, [u] => (readDigits? 10 u.toList).map .unsigned
  | .signed, [s] => (Decimal.readExponent? s.toList).map .signed
  | .pair, [a, b] => do
    let a ← readDigits? 10 a.toList
    let b ← readDigits? 10 b.toList
    return .pair a b
  | _, _ => none

/-- **Operands are read back.** -/
theorem ofTexts?_texts (x : Operands) : ofTexts? x.shape x.texts = some x := by
  cases x with
  | none => rfl
  | unsigned u => rw [shape, texts, ofTexts?, readDigits?_decimal_zero, Option.map_some]
  | signed s => rw [shape, texts, ofTexts?, readExponent?_integer, Option.map_some]
  | pair a b =>
    rw [shape, texts, ofTexts?, readDigits?_decimal_zero, readDigits?_decimal_zero]
    rfl

end Operands

/-- The fields that operands of a shape come from. -/
def Shape.slots : Shape → List Slot
  | .none => []
  | .unsigned => [.u]
  | .signed => [.s]
  | .pair => [.a, .b]

/-- Operands by the names of their fields, and a target behind them. -/
def labelled (slots : List Slot) (operands : List String) (target : Option Int) : String :=
  " ".intercalate (List.zipWith (fun slot text => slot.name ++ ": " ++ text) slots operands)
    ++ match target with
      | some t => " -> [" ++ integer t ++ "]"
      | none => ""

namespace Word

theorem shape_operandsIn (w : Word) (shape : Shape) : (w.operandsIn shape).shape = shape := by
  cases shape <;> rfl

theorem target?_eq {w : Word} {op : Opcode} (h : w.opcode? = some op) (origin : Int) :
    w.target? origin = if op.isBranch then some (origin + 1 + w.s) else none := by
  rw [target?, h, Option.bind_some]

/-- Without a signed operand there is no target. -/
theorem target?_of_shape {w : Word} {op : Opcode} (h : w.opcode? = some op)
    (hshape : op.shape ≠ .signed) (origin : Int) : w.target? origin = none := by
  rw [target?_eq h, if_neg fun hbranch => hshape (Opcode.shape_of_isBranch hbranch)]

/-- **A line names each operand and the target, if there is one**, whatever the shape. -/
theorem operandText_eq {w : Word} {op : Opcode} (h : w.opcode? = some op) (origin : Int) :
    w.operandText op origin
      = labelled op.shape.slots (w.operandsIn op.shape).texts (w.target? origin) := by
  cases hshape : op.shape with
  | none =>
    rw [target?_of_shape h (by simp [hshape]), operandText, hshape]
    rfl
  | unsigned =>
    rw [target?_of_shape h (by simp [hshape]), operandText, hshape]
    simp [labelled, operandsIn, Operands.texts, Shape.slots, Slot.name]
  | signed =>
    rw [operandText, hshape]
    cases w.target? origin <;> simp [labelled, operandsIn, Operands.texts, Shape.slots, Slot.name]
  | pair =>
    rw [target?_of_shape h (by simp [hshape]), operandText, hshape]
    refine String.toList_inj.mp ?_
    simp [labelled, operandsIn, Operands.texts, Shape.slots, Slot.name]

/-- A branch counts from its own position, or nothing is said of it. -/
theorem eq_of_origin {w : Word} {pc : Nat} {origin : Int} (h : w.origin pc = .ok origin) :
    origin = signedWord pc := by
  unfold Word.origin at h
  split at h
  next => exact (Except.ok.inj h).symm
  next =>
    split at h
    next => exact (Except.ok.inj h).symm
    next => cases h

end Word

namespace Entry

/-- The bits of the word of an entry. -/
def bits? (e : Entry) : Option Nat :=
  match e.word.toList with
  | '0' :: 'x' :: digits => readDigits? 16 digits
  | _ => none

/-- The operation of an entry. -/
def opcode? (e : Entry) : Option Opcode := Opcode.ofMnemonic? e.mnemonic

/-- The word assembled from the mnemonic and the operands of an entry. -/
def assemble? (e : Entry) : Option Word := do
  let op ← e.opcode?
  let x ← Operands.ofTexts? op.shape e.operands
  (Word.assemble op x).toOption

/-- The line of an entry, written as plain listings write a word. -/
def line? (e : Entry) : Option String := e.opcode?.map fun op =>
  "-- " ++ e.word ++ " => [" ++ fill '0' 2 (decimal op.code) ++ "] "
    ++ (if e.operands = [] then e.mnemonic else column 16 e.mnemonic)
    ++ labelled op.shape.slots e.operands e.target

/-- **An entry shows an instruction** `w` of `p`, at position `k`, that performs `op`. -/
structure Shows (p : Prototype) (k : Nat) (w : Word) (op : Opcode) (e : Entry) : Prop where
  operation : w.opcode? = some op
  pc : e.pc = k
  bits : e.bits? = some w.bits.toNat
  mnemonic : e.mnemonic = op.mnemonic
  word : e.assemble? = some (if op.shape = .none then ⟨w.bits &&& 63⟩ else w)
  target : e.target = if (Opcode.jmpNe.code ≤ op.code ∧ op.code ≤ Opcode.jmp.code)
      ∨ (Opcode.forPrep.code ≤ op.code ∧ op.code ≤ Opcode.lForLoop.code)
    then some (k + 1 + w.s) else none
  /-- Where a plain listing shows the word, it says what the entry says. -/
  line : op.wording = .word → ∀ site text, site.pc = k →
    p.describe site w = .ok text ∨ k < signedCount ∧ p.describeAt site w = .ok text →
      e.line? = some text

theorem ofWord_eq {site : Site} {w : Word} {op : Opcode} (h : w.opcode? = some op) :
    ofWord site w = .ok ⟨site.pc, w.hex, op.mnemonic, (w.operandsIn op.shape).texts,
      w.target? site.pc⟩ := by
  rw [ofWord, h]

theorem texts_eq_nil_iff (w : Word) (shape : Shape) :
    (w.operandsIn shape).texts = [] ↔ shape = .none := by
  cases shape <;> simp [Word.operandsIn, Operands.texts]

/-- The line of an entry is the line of its word. -/
theorem line?_eq {k : Nat} {w : Word} {op : Opcode} (h : w.opcode? = some op) (origin : Int) :
    line? ⟨k, w.hex, op.mnemonic, (w.operandsIn op.shape).texts, w.target? origin⟩
      = some (w.genericText op origin) := by
  rw [line?, opcode?, Opcode.ofMnemonic?_mnemonic, Option.map_some, Word.genericText,
    Word.operandText_eq h]
  simp only [texts_eq_nil_iff]

theorem eq_genericText_of_describe {p : Prototype} {k : Nat} {w : Word} {op : Opcode} {site : Site}
    {text : String} (hop : w.opcode? = some op) (hwording : op.wording = .word) (hpc : site.pc = k)
    (h : p.describe site w = .ok text ∨ k < signedCount ∧ p.describeAt site w = .ok text) :
    text = w.genericText op k := by
  have hfrom : p.describeFrom site k w = .ok text := by
    subst hpc
    rcases h with h | ⟨hlt, h⟩
    · exact h
    · unfold Prototype.describeAt at h
      split at h
      next origin horigin =>
        rwa [Word.eq_of_origin horigin, signedWord_of_lt hlt] at h
      next => cases h
  obtain ⟨op', hop', hspells⟩ := spells_of_describeFrom hfrom
  obtain rfl := Option.some.inj (hop.symm.trans hop')
  rw [hwording] at hspells
  exact hspells

/-- **What is taken apart shows the word it was made from.** -/
theorem shows_of_ofWord {p : Prototype} {site : Site} {w : Word} {e : Entry}
    (h : ofWord site w = .ok e) : ∃ op, Shows p site.pc w op e := by
  cases hop : w.opcode? with
  | none =>
    rw [ofWord, hop] at h
    cases h
  | some op =>
    rw [ofWord_eq hop] at h
    obtain rfl := Except.ok.inj h
    refine ⟨op, hop, rfl, ?_, rfl, ?_, ?_, fun hwording site' text hpc htext => ?_⟩
    · rw [bits?, Word.hex, hexWord, String.toList_append]
      exact readDigits?_hexadecimal 8 _
    · have hread := Operands.ofTexts?_texts (w.operandsIn op.shape)
      rw [Word.shape_operandsIn] at hread
      rw [assemble?, opcode?, Opcode.ofMnemonic?_mnemonic, Option.bind_eq_bind, Option.bind_some,
        hread, Option.bind_eq_bind, Option.bind_some, Word.assemble_operandsIn hop]
      rfl
    · rw [Word.target?_eq hop]
      simp only [Opcode.isBranch_iff]
    · obtain rfl := eq_genericText_of_describe hop hwording hpc htext
      exact line?_eq hop site.pc

end Entry

/-! ## Trees -/

namespace Assembly

/-- The function that a list of indices leads to. -/
def descend? (a : Assembly) : List Nat → Option Assembly
  | [] => some a
  | i :: rest => a.functions[i]?.bind fun b => b.descend? rest

/-- **A function is taken apart without loss**: it has all that the prototype has, and an entry for
each instruction, in order. -/
structure Mirrors (p : Prototype) (a : Assembly) : Prop where
  source : a.source = p.source
  line : a.line = p.line
  parameters : a.parameters = p.parameters
  vararg : a.vararg = p.vararg
  stack : a.stack = p.stack
  locals : a.locals = p.locals
  lines : a.lines = p.lines
  strings : a.strings = p.strings
  numbers : a.numbers = p.numbers
  count : a.functions.length = p.functions.length
  length : a.entries.length = p.code.length
  entries : ∀ (k : Nat) (w : Word), p.code[k]? = some w →
    ∃ e op, a.entries[k]? = some e ∧ e.Shows p k w op

/-- Nested functions are taken apart one by one, in order. -/
theorem getElem?_ofNested {path : String} {i : Nat} {ps : List Prototype} {as : List Assembly}
    (h : ofNested path i ps = .ok as) :
    as.length = ps.length ∧ ∀ {j : Nat} {p : Prototype}, ps[j]? = some p →
      ∃ a path', as[j]? = some a ∧ ofPrototype path' p = .ok a := by
  induction ps generalizing as i with
  | nil =>
    rw [ofNested] at h
    obtain rfl := Except.ok.inj h
    exact ⟨rfl, fun hq => by cases hq⟩
  | cons p ps ih =>
    rw [ofNested] at h
    obtain ⟨a, ha, h⟩ := bind_eq_ok.mp h
    obtain ⟨as', has', h⟩ := bind_eq_ok.mp h
    obtain rfl := Except.ok.inj h
    obtain ⟨hlength, hnested⟩ := ih has'
    refine ⟨congrArg (· + 1) hlength, fun {j q} hq => ?_⟩
    cases j with
    | zero =>
      obtain rfl := Option.some.inj hq
      exact ⟨a, _, rfl, ha⟩
    | succ j => exact hnested hq

theorem mirrors_of_ofPrototype {path : String} {p : Prototype} {a : Assembly}
    (h : ofPrototype path p = .ok a) : Mirrors p a := by
  rw [ofPrototype_eq] at h
  obtain ⟨entries, hentries, h⟩ := bind_eq_ok.mp h
  obtain ⟨functions, hfunctions, h⟩ := bind_eq_ok.mp h
  obtain rfl := Except.ok.inj h
  have hlength := length_of_mapM hentries
  rw [List.length_zipIdx] at hlength
  refine ⟨rfl, rfl, rfl, rfl, rfl, rfl, rfl, rfl, rfl, (getElem?_ofNested hfunctions).1, hlength,
    fun k w hw => ?_⟩
  have hk : p.code.zipIdx[k]? = some (w, k) := by
    rw [List.getElem?_zipIdx, hw, Option.map_some, Nat.zero_add]
  have hentry := congrArg (·[k]?) (mapM_eq_ok.mp hentries)
  simp only [List.getElem?_map, hk, Option.map_some] at hentry
  obtain ⟨e, he, hof⟩ := Option.map_eq_some_iff.mp hentry.symm
  obtain ⟨op, hshows⟩ := Entry.shows_of_ofWord hof.symm
  exact ⟨e, op, he, hshows⟩

/-- **Taking a tree apart loses nothing.**  The same addresses lead somewhere, and the functions
there mirror each other. -/
theorem ofPrototype_lossless {path : String} {p : Prototype} {a : Assembly}
    (h : ofPrototype path p = .ok a) (address : List Nat) :
    Option.Rel Mirrors (p.descend? address) (a.descend? address) := by
  induction address generalizing path p a with
  | nil => exact .some (mirrors_of_ofPrototype h)
  | cons i address ih =>
    rw [ofPrototype_eq] at h
    obtain ⟨entries, -, h⟩ := bind_eq_ok.mp h
    obtain ⟨functions, hfunctions, h⟩ := bind_eq_ok.mp h
    obtain rfl := Except.ok.inj h
    obtain ⟨hlength, hnested⟩ := getElem?_ofNested hfunctions
    rw [Prototype.descend?, descend?]
    cases hi : p.functions[i]? with
    | none =>
      rw [List.getElem?_eq_none_iff, ← hlength, ← List.getElem?_eq_none_iff] at hi
      rw [hi]
      exact .none
    | some q =>
      obtain ⟨b, path', hb, hof⟩ := hnested hi
      rw [hb]
      exact ih hof

/-- A function whose first instruction jumps to just before itself. -/
def loop : Prototype := ⟨"", 0, 0, false, 1, [], [], [], [], [], [⟨0x7FFFFF6A⟩, ⟨0xFFFFFFC0⟩]⟩

/-- The jump of a nested function can be put together again, and its line has the target. -/
theorem ofPrototype_lossless_loop :
    ∃ a b e, ofPrototype "main" { loop with functions := [loop] } = .ok a
      ∧ a.descend? [0] = some b ∧ b.entries[0]? = some e
      ∧ e.assemble? = some ⟨0x7FFFFF6A⟩ ∧ e.target = some (-1)
      ∧ e.line? = some "-- 0x7FFFFF6A => [42] JMP             S: -2 -> [-1]" := by
  obtain ⟨a, ha⟩ : ∃ a, ofPrototype "main" { loop with functions := [loop] } = .ok a := ⟨_, rfl⟩
  have hrel : Option.Rel Mirrors (some loop) (a.descend? [0]) := ofPrototype_lossless ha [0]
  cases hb : a.descend? [0] with
  | none =>
    rw [hb] at hrel
    cases hrel
  | some b =>
    rw [hb] at hrel
    obtain ⟨hmirrors⟩ := hrel
    obtain ⟨e, op, he, hshows⟩ := hmirrors.entries 0 ⟨0x7FFFFF6A⟩ rfl
    obtain rfl : Opcode.jmp = op := Option.some.inj hshows.operation
    have hline : loop.describe ⟨"main", 0⟩ ⟨0x7FFFFF6A⟩
        = .ok "-- 0x7FFFFF6A => [42] JMP             S: -2 -> [-1]" := by rfl
    exact ⟨a, b, e, ha, hb, he, hshows.word, hshows.target,
      hshows.line rfl ⟨"main", 0⟩ _ rfl (.inl hline)⟩

end Assembly

end LuaChunk
