import LuaChunk.Listing.Plain
import LuaChunk.Listing.Structured
import LuaChunk.Proofs.Listing.Spot

/-!
# Proofs/Listing/Faults — which files can be listed, and what is said of the others

Both listings go through a tree in the order of its spots and stop at the first instruction that
they cannot show.  A plain listing cannot show an instruction that does not resolve
(`reports_lines`), a structured one only those without an operation (`reports_assembly`); a plain
listing can also lack the room for its indentation.

`Reports` says of an outcome which fault it is, if any, apart from a lack of room; its rules follow
the steps of a listing.
-/

namespace LuaChunk

variable {α β : Type} {room : Prop}

/-- The fault that an outcome is, if it is one. -/
def faultOf : Except Fault α → Option Fault
  | .ok _ => none
  | .error e => some e

theorem faultOf_eq_none_iff {x : Except Fault α} : faultOf x = none ↔ ∃ a, x = .ok a := by
  cases x <;> simp [faultOf]

theorem faultOf_eq_some_iff {x : Except Fault α} {e : Fault} :
    faultOf x = some e ↔ x = .error e := by
  cases x <;> simp [faultOf]

/-- **An outcome reports a fault**, or that there is none, unless it overruns; and it does not
overrun if there is room. -/
def Reports (room : Prop) (x : Except Fault α) (fault : Option Fault) : Prop :=
  faultOf x = fault ∨ ¬ room ∧ ∃ o, x = .error (.overrun o)

namespace Reports

/-- The first of two steps that has a fault decides. -/
theorem bind {x : Except Fault α} {next : α → Except Fault β} {fault fault' : Option Fault}
    (hx : Reports room x fault) (hnext : ∀ a, x = .ok a → Reports room (next a) fault') :
    Reports room (x >>= next) (fault.or fault') := by
  rcases hx with rfl | ⟨hroom, o, rfl⟩
  · cases x with
    | error e => exact .inl rfl
    | ok a => exact hnext a rfl
  · exact .inr ⟨hroom, o, rfl⟩

theorem map {x : Except Fault α} {fault : Option Fault} (hx : Reports room x fault) (f : α → β) :
    Reports room (x >>= fun a => .ok (f a)) fault := by
  have h := hx.bind fun a _ => (.inl rfl : Reports room (.ok (f a)) none)
  rwa [Option.or_none] at h

theorem weaken {room' : Prop} {x : Except Fault α} {fault : Option Fault}
    (hx : Reports room x fault) (h : room' → room) : Reports room' x fault :=
  hx.imp_right fun ⟨hroom, ho⟩ => ⟨fun hroom' => hroom (h hroom'), ho⟩

theorem faultOf_eq {x : Except Fault α} {fault : Option Fault} (hx : Reports room x fault)
    (h : room) : faultOf x = fault :=
  hx.resolve_right fun ⟨hroom, _⟩ => hroom h

theorem faultOf_eq_of_ne {x : Except Fault α} {fault : Option Fault} (hx : Reports room x fault)
    (h : ∀ o, x ≠ .error (.overrun o)) : faultOf x = fault :=
  hx.resolve_right fun ⟨_, o, ho⟩ => h o ho

/-- A step that can only overrun, and does not if there is room, decides nothing. -/
theorem bind_overrun {x : Except Overrun α} {a : α} {next : α → Except Fault β}
    {fault : Option Fault} (hx : x = .ok a ∨ ∃ o, x = .error o) (hroom : room → x = .ok a)
    (hnext : Reports room (next a) fault) :
    Reports room (x.mapError Fault.overrun >>= next) fault := by
  rcases hx with rfl | ⟨o, rfl⟩
  · exact hnext
  · exact .inr ⟨fun h => (nomatch hroom h), o, rfl⟩

end Reports

/-- A list of steps has the fault of the first one with a fault. -/
theorem faultOf_mapM (f : α → Except Fault β) (xs : List α) :
    faultOf (xs.mapM f) = xs.findSome? fun x => faultOf (f x) := by
  induction xs with
  | nil => rfl
  | cons x xs ih =>
    rw [List.mapM_cons, List.findSome?_cons, ← ih]
    cases f x with
    | error e => rfl
    | ok b => cases xs.mapM f <;> rfl

/-! ## One instruction -/

theorem faultOf_lookup (site : Site) (op : Opcode) (table : Table) (entries : List α) (i : Nat) :
    faultOf (Prototype.lookup site op table entries i)
      = if i < entries.length then none
        else some (.operandIndexOutOfRange site op table i entries.length) := by
  unfold Prototype.lookup
  split
  next a ha =>
    rw [if_pos (List.getElem?_eq_some_iff.mp ha).1]
    rfl
  next hnone =>
    rw [if_neg (Nat.not_lt.mpr (List.getElem?_eq_none_iff.mp hnone))]
    rfl

/-- A text made of an entry of a table has the fault of looking it up. -/
theorem faultOf_lookup_bind (site : Site) (op : Opcode) (table : Table) (entries : List α) (i : Nat)
    (f : α → String) :
    faultOf (Prototype.lookup site op table entries i >>= fun a => pure (f a))
      = if i < entries.length then none
        else some (.operandIndexOutOfRange site op table i entries.length) := by
  rw [← faultOf_lookup]
  cases Prototype.lookup site op table entries i <;> rfl

/-- **An instruction can be described just when it resolves.** -/
theorem faultOf_describeFrom (p : Prototype) (site : Site) (origin : Int) (w : Word) :
    faultOf (p.describeFrom site origin w) = w.fault? p site := by
  unfold Prototype.describeFrom Word.fault?
  cases w.opcode? with
  | none => rfl
  | some op =>
    -- the operations that point into a table look an entry up; the others have a text in any case
    cases op
    case pushString | pushNum | pushNegNum | getLocal | setLocal | getGlobal | setGlobal
      | closure => exact faultOf_lookup_bind ..
    all_goals rfl

theorem faultOf_ofWord (site : Site) (w : Word) :
    faultOf (Entry.ofWord site w) = w.unknown? site := by
  unfold Entry.ofWord Word.unknown?
  cases w.opcode? <;> rfl

/-! ## Plain listings -/

namespace Plain

/-- **There is room for a tree at a depth**: at every level of it the depth is a word, and the
indentation is not beyond what an address can span. -/
def HasRoom (width depth : Nat) (p : Prototype) : Prop :=
  ∀ level ≤ p.height, depth + level < wordCount ∧ (depth + level) * width < signedCount

theorem HasRoom.nested {width depth : Nat} {p q : Prototype} (h : HasRoom width depth p)
    (hq : q ∈ p.functions) : depth + 1 < wordCount ∧ HasRoom width (depth + 1) q := by
  have hheight : q.height < p.height := by
    have hlt := Prototype.heightAll_lt_iff.mpr ⟨q, hq, Nat.le_refl _⟩
    cases p
    exact hlt
  refine ⟨(h 1 (by omega)).1, fun level hlevel => ?_⟩
  rw [Nat.add_assoc]
  exact h (1 + level) (by omega)

theorem lines_eq (width : Nat) (path : String) (depth : Nat) (p : Prototype) :
    lines width path depth p = (do
      let _ ← (roomFor depth width).mapError Fault.overrun
      let code ← instructions p path
      let nested ← nestedLines width path depth 0 p.functions
      return (tables p ++ code ++ [heading "Function Constants" p.functions.length]).map
        (.text depth) ++ nested) := by
  cases p
  rfl

theorem successor_cases (n : Nat) : successor n = .ok (n + 1) ∨ ∃ o, successor n = .error o := by
  unfold successor
  split
  · exact .inl rfl
  · exact .inr ⟨_, rfl⟩

theorem roomFor_cases (count size : Nat) :
    roomFor count size = .ok (count * size) ∨ ∃ o, roomFor count size = .error o := by
  unfold roomFor
  split
  · exact .inr ⟨_, rfl⟩
  · split
    · exact .inr ⟨_, rfl⟩
    · exact .inl rfl

theorem faultOf_instructions (p : Prototype) (path : String) :
    faultOf (instructions p path) = p.ownFault? Word.fault? path := by
  have htexts := faultOf_mapM (fun e => p.describe ⟨path, e.2⟩ e.1) p.code.zipIdx
  simp only [Prototype.describe, faultOf_describeFrom] at htexts
  exact (Reports.map (.inl htexts) _).faultOf_eq trivial

theorem reports_nestedLines {width : Nat} {ps : List Prototype}
    (h : ∀ q ∈ ps, ∀ path depth,
      Reports (HasRoom width depth q) (lines width path depth q) (q.firstFault? Word.fault? path))
    (path : String) (depth i : Nat) :
    Reports (∀ q ∈ ps, depth + 1 < wordCount ∧ HasRoom width (depth + 1) q)
      (nestedLines width path depth i ps)
      (Prototype.firstFaultFrom? Word.fault? path i ps) := by
  induction ps generalizing i with
  | nil => exact .inl rfl
  | cons p ps ih =>
    obtain ⟨hp, hps⟩ := List.forall_mem_cons.mp h
    rw [nestedLines, Prototype.firstFaultFrom?_cons]
    refine Reports.bind_overrun (successor_cases depth)
      (fun hroom => successor_of_lt (hroom p List.mem_cons_self).1) ?_
    refine Reports.bind ?_ fun first _ => Reports.map ?_ _
    · exact (hp (Path.function path i) (depth + 1)).weaken
        fun hroom => (hroom p List.mem_cons_self).2
    · exact (ih hps (i + 1)).weaken fun hroom q hq => hroom q (List.mem_cons_of_mem p hq)

/-- **A plain listing stops at the first instruction that does not resolve.** -/
theorem reports_lines (width : Nat) (path : String) (depth : Nat) (p : Prototype) :
    Reports (HasRoom width depth p) (lines width path depth p)
      (p.firstFault? Word.fault? path) := by
  induction p using Prototype.nestedInduction generalizing path depth with
  | step p ih =>
    rw [lines_eq, Prototype.firstFault?_eq]
    refine Reports.bind_overrun (roomFor_cases depth width)
      (fun hroom => roomFor_of_lt (hroom 0 (Nat.zero_le _)).2) ?_
    refine Reports.bind (.inl (faultOf_instructions p path)) fun code _ => Reports.map ?_ _
    exact (reports_nestedLines ih path depth 0).weaken fun hroom q hq => hroom.nested hq

theorem reports_function (width depth : Nat) (p : Prototype) :
    Reports (HasRoom width depth p) (function width depth p)
      (p.firstFault? Word.fault? "main") :=
  (reports_lines width "main" depth p).map _

theorem reports_render (width : Nat) (file : ChunkFile) :
    Reports (HasRoom width 0 file.main) (render width file)
      (file.main.firstFault? Word.fault? "main") :=
  (reports_lines width "main" 0 file.main).map _

theorem layout_append (width : Nat) (ls ls' : List Line) :
    layout width (ls ++ ls') = layout width ls ++ layout width ls' := by
  rw [layout, List.map_append, String.join_append]
  rfl

/-- The listing of a file is its preamble and the listing of its main function. -/
theorem render_eq_function (width : Nat) (file : ChunkFile) :
    render width file
      = (function width 0 file.main).map (layout width ((preamble file).map (.text 0)) ++ ·) := by
  unfold render function
  cases lines width "main" 0 file.main with
  | error e => rfl
  | ok ls => exact congrArg Except.ok (layout_append width _ ls)

end Plain

/-! ## Structured listings -/

namespace Assembly

theorem ofPrototype_eq (path : String) (p : Prototype) :
    ofPrototype path p = (do
      let entries ← p.code.zipIdx.mapM fun e => Entry.ofWord ⟨path, e.2⟩ e.1
      let functions ← ofNested path 0 p.functions
      return ⟨p.source, p.line, p.parameters, p.vararg, p.stack, p.locals, p.lines, p.strings,
        p.numbers, entries, functions⟩) := by
  cases p
  rfl

theorem reports_nested {ps : List Prototype}
    (h : ∀ q ∈ ps, ∀ path,
      Reports True (ofPrototype path q) (q.firstFault? (fun w _ => w.unknown?) path))
    (path : String) (i : Nat) :
    Reports True (ofNested path i ps)
      (Prototype.firstFaultFrom? (fun w _ => w.unknown?) path i ps) := by
  induction ps generalizing i with
  | nil => exact .inl rfl
  | cons p ps ih =>
    obtain ⟨hp, hps⟩ := List.forall_mem_cons.mp h
    rw [ofNested, Prototype.firstFaultFrom?_cons]
    exact (hp (Path.function path i)).bind fun first _ => (ih hps (i + 1)).map _

/-- **A structured listing stops at the first instruction without an operation.** -/
theorem reports_assembly (path : String) (p : Prototype) :
    Reports True (ofPrototype path p) (p.firstFault? (fun w _ => w.unknown?) path) := by
  induction p using Prototype.nestedInduction generalizing path with
  | step p ih =>
    have hentries := faultOf_mapM (fun e => Entry.ofWord ⟨path, e.2⟩ e.1) p.code.zipIdx
    simp only [faultOf_ofWord] at hentries
    rw [ofPrototype_eq, Prototype.firstFault?_eq]
    exact Reports.bind (.inl hentries) fun entries _ => (reports_nested ih path 0).map _

end Assembly

theorem Structured.faultOf_render (file : ChunkFile) :
    faultOf (render file) = file.main.firstFault? (fun w _ => w.unknown?) "main" :=
  ((Assembly.reports_assembly "main" file.main).map _).faultOf_eq trivial

/-! ## Main results -/

namespace Prototype

theorem firstFault?_eq_none_iff {p : Prototype} {path : String} :
    p.firstFault? Word.fault? path = none ↔ p.Resolves := by
  simp only [firstFault?, List.findSome?_eq_none_iff, Word.fault?_eq_none_iff, resolves_iff_spots]

/-- The first fault of a tree belongs to its first instruction that does not resolve. -/
theorem exists_spot_of_firstFault? {p : Prototype} {path : String} {e : Fault}
    (h : p.firstFault? Word.fault? path = some e) :
    ∃ earlier s later, p.spots = earlier ++ s :: later
      ∧ (∀ t ∈ earlier, t.word.ResolvesIn t.owner)
      ∧ s.word.fault? s.owner (s.site path) = some e := by
  obtain ⟨earlier, s, later, hspots, hs, hearlier⟩ := List.findSome?_eq_some_iff.mp h
  exact ⟨earlier, s, later, hspots, fun t ht => Word.fault?_eq_none_iff.mp (hearlier t ht), hs⟩

end Prototype

namespace Plain

/-- **A tree can be listed just when its instructions resolve, and otherwise the first that does not
is reported.**  The fault has the site of that instruction, whose path leads to its function and to
no other, and says what it is that does not resolve.  The listing of a file fares as the listing of
its main function. -/
theorem function_faults (width depth : Nat) (p : Prototype) (hroom : HasRoom width depth p) :
    ((∃ text, function width depth p = .ok text) ↔ p.Resolves)
    ∧ (∀ e, function width depth p = .error e →
      ∃ earlier s later, p.spots = earlier ++ s :: later
        ∧ (∀ t ∈ earlier, t.word.ResolvesIn t.owner)
        ∧ ((48 < s.word.code ∧ e = .unknownOpcode (s.site "main") s.word.code s.word)
          ∨ ∃ op table, s.word.opcode? = some op ∧ op.table? = some table
            ∧ s.owner.tableLength table ≤ s.word.indexIn table
            ∧ e = .operandIndexOutOfRange (s.site "main") op table (s.word.indexIn table)
              (s.owner.tableLength table))
        ∧ s.owner.code[s.pc]? = some s.word
        ∧ p.descend? s.address = some s.owner
        ∧ ∀ address, Path.nested "main" address = (s.site "main").path →
          p.descend? address = some s.owner)
    ∧ function width depth p ≠ .error .formatting
    ∧ ∀ file : ChunkFile, file.main = p →
      render width file
        = (function width 0 p).map (layout width ((preamble file).map (.text 0)) ++ ·) := by
  have hfault := (reports_function width depth p).faultOf_eq hroom
  have herror (e : Fault) (he : function width depth p = .error e) :=
    Prototype.exists_spot_of_firstFault? (hfault ▸ faultOf_eq_some_iff.mpr he)
  refine ⟨?_, fun e he => ?_, fun he => ?_, ?_⟩
  · rw [← faultOf_eq_none_iff, hfault, Prototype.firstFault?_eq_none_iff]
  · obtain ⟨earlier, s, later, hspots, hearlier, hs⟩ := herror e he
    have hmem : s ∈ p.spots := by simp [hspots]
    obtain ⟨howner, hword⟩ := Prototype.mem_spots.mp hmem
    refine ⟨earlier, s, later, hspots, hearlier, Word.fault?_eq_some hs, hword, howner, ?_⟩
    intro address haddress
    rw [Path.nested_injective "main" haddress, howner]
  · obtain ⟨_, s, _, -, -, hs⟩ := herror _ he
    rcases Word.fault?_eq_some hs with ⟨-, heq⟩ | ⟨op, table, -, -, -, heq⟩ <;> cases heq
  · rintro file rfl
    exact render_eq_function width file

/-- A function with one string, which it pushes, and a nested function that tries to push it too. -/
def thorn : Prototype :=
  ⟨"", 0, 0, false, 1, [], [], ["a"], [], [⟨"", 0, 0, false, 1, [], [], [], [], [], [⟨7⟩]⟩], [⟨7⟩]⟩

theorem function_thorn_faults :
    HasRoom 4 0 thorn
      ∧ ¬ (∃ text, function 4 0 thorn = .ok text)
      ∧ function 4 0 thorn
        = .error (.operandIndexOutOfRange ⟨"main.functions[0]", 0⟩ .pushString .strings 0 0) := by
  have hroom : HasRoom 4 0 thorn := by
    intro level hlevel
    have hheight : thorn.height = 1 := by decide
    simp only [wordCount, signedCount]
    omega
  refine ⟨hroom, ?_, by rfl⟩
  rw [(function_faults 4 0 thorn hroom).1]
  decide

/-- A function with an empty one nested in it. -/
def sprout : Prototype :=
  ⟨"", 0, 0, false, 1, [], [], [], [], [⟨"", 0, 0, false, 1, [], [], [], [], [], []⟩], []⟩

/-- A function with an instruction that has no operation. -/
def stray : Prototype := ⟨"", 0, 0, false, 1, [], [], [], [], [], [⟨49⟩]⟩

/-- **Indentations that are words are not enough.**  Without any indentation, a function at the last
depth there is has no depth left for those nested in it, though every instruction resolves; and an
indentation of half the words is refused before the first instruction is looked at. -/
theorem function_overruns :
    ((∀ level ≤ sprout.height, (wordCount - 1 + level) * 0 < wordCount)
      ∧ sprout.Resolves
      ∧ function 0 (wordCount - 1) sprout = .error (.overrun .sum))
    ∧ ((∀ level ≤ stray.height, (1 + level) * signedCount < wordCount)
      ∧ ¬ stray.Resolves
      ∧ function signedCount 1 stray = .error (.overrun .room))
    ∧ ¬ ∀ width depth p, depth < wordCount →
      (∀ level ≤ p.height, (depth + level) * width < wordCount) →
        ((∃ text, function width depth p = .ok text) ↔ p.Resolves) := by
  have hsprout : ∀ level ≤ sprout.height, (wordCount - 1 + level) * 0 < wordCount := by
    intro level _
    rw [Nat.mul_zero]
    decide
  have hresolves : sprout.Resolves := by decide
  have hsum : function 0 (wordCount - 1) sprout = .error (.overrun .sum) := by rfl
  refine ⟨⟨hsprout, hresolves, hsum⟩, ⟨?_, by decide, by rfl⟩, fun hclaim => ?_⟩
  · intro level hlevel
    have hheight : stray.height = 0 := by decide
    simp only [wordCount, signedCount]
    omega
  · obtain ⟨text, hok⟩ := (hclaim 0 (wordCount - 1) sprout (by decide) hsprout).mpr hresolves
    rw [hsum] at hok
    cases hok

end Plain

/-! ## The two listings side by side -/

namespace Prototype

/-- A tree that resolves has no unknown operation. -/
theorem unknown?_of_resolves {p : Prototype} (path : String) (h : p.Resolves) :
    p.firstFault? (fun w _ => w.unknown?) path = none :=
  List.findSome?_eq_none_iff.mpr fun s hs =>
    Word.unknown?_eq_none_iff.mpr (resolves_iff_spots.mp h s hs).1

/-- An unknown operation that a plain listing stops at stops a structured one too. -/
theorem unknown?_of_firstFault? {p : Prototype} {path : String} {site : Site} {code : Nat}
    {w : Word}
    (h : p.firstFault? Word.fault? path = some (.unknownOpcode site code w)) :
    p.firstFault? (fun w _ => w.unknown?) path = some (.unknownOpcode site code w) := by
  obtain ⟨earlier, s, later, hspots, hearlier, hs⟩ := exists_spot_of_firstFault? h
  refine List.findSome?_eq_some_iff.mpr ⟨earlier, s, later, hspots, ?_, fun t ht => ?_⟩
  · rcases Word.fault?_eq_some hs with ⟨hcode, heq⟩ | ⟨op, table, -, -, -, heq⟩
    · rw [heq]
      exact Word.unknown?_of_lt hcode _
    · cases heq
  · exact Word.unknown?_eq_none_iff.mpr (hearlier t ht).1

/-- Before the first unknown operation a plain listing stops only at an index. -/
theorem firstFault?_of_unknown? {p : Prototype} {path : String} {earlier later : List Spot}
    {s : Spot} {e : Fault} (hspots : p.spots = earlier ++ s :: later)
    (hs : s.word.unknown? (s.site path) = some e) (hearlier : ∀ t ∈ earlier, t.word.code ≤ 48) :
    p.firstFault? Word.fault? path = some e
      ∨ ∃ t ∈ earlier, ∃ op table index length, p.firstFault? Word.fault? path
        = some (.operandIndexOutOfRange (t.site path) op table index length) := by
  rw [firstFault?, hspots, List.findSome?_append, List.findSome?_cons,
    Word.fault?_of_unknown? s.owner hs]
  cases hfirst : earlier.findSome? fun t => t.word.fault? t.owner (t.site path) with
  | none => exact .inl rfl
  | some e' =>
    obtain ⟨t, ht, hfault⟩ := List.exists_of_findSome?_eq_some hfirst
    rcases Word.fault?_eq_some hfault with ⟨hcode, -⟩ | ⟨op, table, -, -, -, heq⟩
    · exact absurd hcode (Nat.not_lt.mpr (hearlier t ht))
    · exact .inr ⟨t, ht, op, table, _, _, congrArg some heq⟩

end Prototype

/-- **The two listings agree on what can be taken apart.**  What has a plain listing has a
structured one, and an unknown operation reported by the plain listing is reported by the other in
the same words.  A structured listing fails only for the first unknown operation; then the plain
listing, if it has the room, fails for the same reason or for an index of an instruction before. -/
theorem listings_agree (width : Nat) (file : ChunkFile) :
    (∀ text, Plain.render width file = .ok text → ∃ document, Structured.render file = .ok document)
    ∧ (∀ site code w, Plain.render width file = .error (.unknownOpcode site code w) →
      Structured.render file = .error (.unknownOpcode site code w))
    ∧ (∀ e, Structured.render file = .error e →
      ∃ earlier s later, file.main.spots = earlier ++ s :: later
        ∧ (∀ t ∈ earlier, t.word.code ≤ 48)
        ∧ 48 < s.word.code
        ∧ e = .unknownOpcode (s.site "main") s.word.code s.word
        ∧ ((∀ o, Plain.render width file ≠ .error (.overrun o)) →
          Plain.render width file = .error e
          ∨ ∃ t ∈ earlier, ∃ op table index length, Plain.render width file
            = .error (.operandIndexOutOfRange (t.site "main") op table index length)))
    ∧ ∀ site op table index length,
      Structured.render file ≠ .error (.operandIndexOutOfRange site op table index length) := by
  have hplain := Plain.reports_render width file
  have hstructured := Structured.faultOf_render file
  have hunknown (e : Fault) (he : Structured.render file = .error e) :
      ∃ earlier s later, file.main.spots = earlier ++ s :: later
        ∧ s.word.unknown? (s.site "main") = some e ∧ ∀ t ∈ earlier, t.word.code ≤ 48 := by
    obtain ⟨earlier, s, later, hspots, hs, hearlier⟩ :=
      List.findSome?_eq_some_iff.mp (hstructured ▸ faultOf_eq_some_iff.mpr he)
    exact ⟨earlier, s, later, hspots, hs, fun t ht =>
      Word.unknown?_eq_none_iff.mp (hearlier t ht)⟩
  refine ⟨fun text hok => ?_, fun site code w he => ?_, fun e he => ?_,
    fun site op table index length he => ?_⟩
  · have hnone := hplain.faultOf_eq_of_ne (by rw [hok]; exact nofun)
    rw [hok] at hnone
    rw [← faultOf_eq_none_iff, hstructured]
    exact Prototype.unknown?_of_resolves _ (Prototype.firstFault?_eq_none_iff.mp hnone.symm)
  · have hsome := hplain.faultOf_eq_of_ne (by rw [he]; exact nofun)
    rw [he] at hsome
    rw [← faultOf_eq_some_iff, hstructured]
    exact Prototype.unknown?_of_firstFault? hsome.symm
  · obtain ⟨earlier, s, later, hspots, hs, hearlier⟩ := hunknown e he
    obtain ⟨hcode, heq⟩ := Word.unknown?_eq_some hs
    refine ⟨earlier, s, later, hspots, hearlier, hcode, heq, fun hroom => ?_⟩
    have hfault := hplain.faultOf_eq_of_ne hroom
    simp only [← faultOf_eq_some_iff, hfault]
    exact Prototype.firstFault?_of_unknown? hspots hs hearlier
  · obtain ⟨_, s, _, -, hs, -⟩ := hunknown _ he
    cases (Word.unknown?_eq_some hs).2

/-- A file whose main function tries to push a string that it does not have, and then has no
operation. -/
def doubtful : ChunkFile :=
  ⟨⟨0x40, .little⟩, SelfCheck.expected,
    ⟨"", 0, 0, false, 1, [], [], [], [], [], [⟨7⟩, ⟨49⟩]⟩⟩

theorem listings_of_doubtful_agree :
    Structured.render doubtful = .error (.unknownOpcode ⟨"main", 1⟩ 49 ⟨49⟩)
      ∧ (∀ o, Plain.render 4 doubtful ≠ .error (.overrun o))
      ∧ (Plain.render 4 doubtful = .error (.unknownOpcode ⟨"main", 1⟩ 49 ⟨49⟩)
        ∨ ∃ site op table index length, Plain.render 4 doubtful
          = .error (.operandIndexOutOfRange site op table index length)) := by
  have hplain : Plain.render 4 doubtful
      = .error (.operandIndexOutOfRange ⟨"main", 0⟩ .pushString .strings 0 0) := by rfl
  have hstructured : Structured.render doubtful = .error (.unknownOpcode ⟨"main", 1⟩ 49 ⟨49⟩) := by
    rfl
  have hroom : ∀ o, Plain.render 4 doubtful ≠ .error (.overrun o) := by
    rw [hplain]
    exact nofun
  obtain ⟨_, _, _, -, -, -, -, hsame⟩ := (listings_agree 4 doubtful).2.2.1 _ hstructured
  refine ⟨hstructured, hroom, (hsame hroom).imp_right ?_⟩
  rintro ⟨t, -, op, table, index, length, he⟩
  exact ⟨_, op, table, index, length, he⟩

end LuaChunk
