import LuaChunk.Listing.Instruction
import LuaChunk.Proofs.File.Address

/-!
# Proofs/Listing/Spot — the instructions of a tree, and what can be wrong with one

A **spot** is an instruction together with its function, the address of that function and its
position there.  `spots` lists them in the order of a listing: function by function in pre-order,
and within a function by position.

An instruction **resolves** in a function if its code names an operation and the table that the
operation points into has an entry there.  `fault?` is what is wrong with an instruction otherwise,
and `firstFault?` finds the first fault of a tree for any such judgement on single instructions; its
equations follow the recursion over the tree (`firstFault?_eq`, `firstFaultFrom?_cons`).
-/

namespace LuaChunk

namespace Opcode

/-- The table that an operation points into. -/
def table? : Opcode → Option Table
  | .pushString | .getGlobal | .setGlobal => some .strings
  | .pushNum | .pushNegNum => some .numbers
  | .getLocal | .setLocal => some .locals
  | .closure => some .functions
  | _ => none

end Opcode

namespace Prototype

/-- The number of entries of a table. -/
def tableLength (p : Prototype) : Table → Nat
  | .strings => p.strings.length
  | .numbers => p.numbers.length
  | .locals => p.locals.length
  | .functions => p.functions.length
  | .other _ => 0

end Prototype

namespace Word

/-- The operand that points into a table: of a pair, the first. -/
def indexIn (w : Word) : Table → Nat
  | .functions => w.a
  | _ => w.u

/-- **An instruction resolves in a function**: its code names an operation, and the table that this
operation points into, if any, has an entry there. -/
def ResolvesIn (w : Word) (p : Prototype) : Prop :=
  w.code ≤ 48
    ∧ ∀ op ∈ w.opcode?, ∀ table ∈ op.table?, w.indexIn table < p.tableLength table

instance (w : Word) (p : Prototype) : Decidable (w.ResolvesIn p) :=
  inferInstanceAs (Decidable (_ ∧ _))

/-- What is wrong with an instruction of a function. -/
def fault? (w : Word) (p : Prototype) (site : Site) : Option Fault :=
  match w.opcode? with
  | none => some (.unknownOpcode site w.code w)
  | some op =>
    match op.table? with
    | none => none
    | some table =>
      if w.indexIn table < p.tableLength table then none
      else some (.operandIndexOutOfRange site op table (w.indexIn table) (p.tableLength table))

/-- What is wrong with an instruction whatever its function. -/
def unknown? (w : Word) (site : Site) : Option Fault :=
  match w.opcode? with
  | none => some (.unknownOpcode site w.code w)
  | some _ => none

theorem opcode?_eq_none_iff {w : Word} : w.opcode? = none ↔ 48 < w.code :=
  Opcode.ofCode?_eq_none_iff w.code

/-- **An instruction resolves just when nothing is wrong with it.** -/
theorem fault?_eq_none_iff {w : Word} {p : Prototype} {site : Site} :
    w.fault? p site = none ↔ w.ResolvesIn p := by
  unfold fault? ResolvesIn
  cases hop : w.opcode? with
  | none =>
    have hcode := opcode?_eq_none_iff.mp hop
    simp [Nat.not_le.mpr hcode]
  | some op =>
    have hcode : w.code ≤ 48 := Nat.not_lt.mp fun hlt => by
      rw [opcode?_eq_none_iff.mpr hlt] at hop
      cases hop
    cases htable : op.table? with
    | none => simp [hcode, htable]
    | some table => simp [hcode, htable]

/-- **What is wrong with an instruction that does not resolve.** -/
theorem fault?_eq_some {w : Word} {p : Prototype} {site : Site} {e : Fault}
    (h : w.fault? p site = some e) :
    (48 < w.code ∧ e = .unknownOpcode site w.code w)
      ∨ ∃ op table, w.opcode? = some op ∧ op.table? = some table
        ∧ p.tableLength table ≤ w.indexIn table
        ∧ e = .operandIndexOutOfRange site op table (w.indexIn table) (p.tableLength table) := by
  unfold fault? at h
  split at h
  next hop => exact .inl ⟨opcode?_eq_none_iff.mp hop, (Option.some.inj h).symm⟩
  next op hop =>
    split at h
    next => cases h
    next table htable =>
      split at h
      next => cases h
      next hle =>
        exact .inr ⟨op, table, hop, htable, Nat.not_lt.mp hle, (Option.some.inj h).symm⟩

theorem unknown?_eq_none_iff {w : Word} {site : Site} :
    w.unknown? site = none ↔ w.code ≤ 48 := by
  rw [← Nat.not_lt, ← opcode?_eq_none_iff, unknown?]
  cases w.opcode? <;> simp

theorem unknown?_eq_some {w : Word} {site : Site} {e : Fault} (h : w.unknown? site = some e) :
    48 < w.code ∧ e = .unknownOpcode site w.code w := by
  unfold unknown? at h
  split at h
  next hop => exact ⟨opcode?_eq_none_iff.mp hop, (Option.some.inj h).symm⟩
  next => cases h

theorem unknown?_of_lt {w : Word} (h : 48 < w.code) (site : Site) :
    w.unknown? site = some (.unknownOpcode site w.code w) := by
  rw [unknown?, opcode?_eq_none_iff.mpr h]

/-- An unknown code is wrong in every function. -/
theorem fault?_of_unknown? {w : Word} {site : Site} {e : Fault} (p : Prototype)
    (h : w.unknown? site = some e) : w.fault? p site = some e := by
  unfold unknown? at h
  split at h
  next hop =>
    rw [fault?, hop]
    exact h
  next => cases h

end Word

/-! ## Instructions in the order of a listing -/

/-- An instruction of a tree. -/
structure Spot where
  /-- Where its function stands. -/
  address : List Nat
  owner : Prototype
  pc : Nat
  word : Word

namespace Spot

/-- The site of an instruction in the tree at `path`. -/
def site (path : String) (s : Spot) : Site := ⟨Path.nested path s.address, s.pc⟩

/-- The same instruction, seen from the function around its tree. -/
def under (i : Nat) (s : Spot) : Spot := { s with address := i :: s.address }

end Spot

namespace Prototype

/-- A function's own instructions. -/
def ownSpots (p : Prototype) (address : List Nat) : List Spot :=
  p.code.zipIdx.map fun e => ⟨address, p, e.2, e.1⟩

/-- The instructions of a tree, function by function in pre-order and then by position. -/
def spots (p : Prototype) : List Spot := p.members.flatMap fun m => m.2.ownSpots m.1

/-- The instructions of a list of trees, the first of which has index `i`. -/
def spotsFrom (i : Nat) (ps : List Prototype) : List Spot :=
  (membersFrom i ps).flatMap fun m => m.2.ownSpots m.1

/-- **The spots of a tree are all its instructions, each at its own place.** -/
theorem mem_spots {p : Prototype} {s : Spot} :
    s ∈ p.spots ↔ p.descend? s.address = some s.owner ∧ s.owner.code[s.pc]? = some s.word := by
  obtain ⟨address, owner, pc, word⟩ := s
  simp only [spots, ownSpots, List.mem_flatMap, List.mem_map, Prod.exists, Spot.mk.injEq]
  constructor
  · rintro ⟨a, q, hq, w, i, hw, rfl, rfl, rfl, rfl⟩
    exact ⟨mem_members.mp hq, List.mem_zipIdx_iff_getElem?.mp hw⟩
  · rintro ⟨hq, hw⟩
    exact ⟨address, owner, mem_members.mpr hq, word, pc, List.mem_zipIdx_iff_getElem?.mpr hw, rfl,
      rfl, rfl, rfl⟩

theorem spots_eq (p : Prototype) : p.spots = p.ownSpots [] ++ spotsFrom 0 p.functions := by
  rw [spots, members_eq, List.flatMap_cons, spotsFrom]

theorem spotsFrom_cons (i : Nat) (p : Prototype) (ps : List Prototype) :
    spotsFrom i (p :: ps) = p.spots.map (Spot.under i) ++ spotsFrom (i + 1) ps := by
  rw [spotsFrom, membersFrom, List.flatMap_append, List.flatMap_map, spots, List.map_flatMap,
    spotsFrom]
  simp [ownSpots, Spot.under, Function.comp_def]

/-- **All instructions of a tree resolve**, each in its own function. -/
def Resolves (p : Prototype) : Prop :=
  ∀ address q, p.descend? address = some q → ∀ w ∈ q.code, w.ResolvesIn q

theorem resolves_iff_spots {p : Prototype} :
    p.Resolves ↔ ∀ s ∈ p.spots, s.word.ResolvesIn s.owner := by
  simp only [Resolves, mem_spots]
  constructor
  · intro h s hs
    exact h s.address s.owner hs.1 s.word (List.mem_of_getElem? hs.2)
  · intro h address q hq w hw
    obtain ⟨pc, hpc⟩ := List.mem_iff_getElem?.mp hw
    exact h ⟨address, q, pc, w⟩ ⟨hq, hpc⟩

instance (p : Prototype) : Decidable p.Resolves := decidable_of_iff' _ resolves_iff_spots

/-! ## The first fault -/

variable (judge : Word → Prototype → Site → Option Fault)

/-- The first fault of a function's own instructions. -/
def ownFault? (path : String) (p : Prototype) : Option Fault :=
  p.code.zipIdx.findSome? fun e => judge e.1 p ⟨path, e.2⟩

/-- The first fault of the tree at `path`. -/
def firstFault? (path : String) (p : Prototype) : Option Fault :=
  p.spots.findSome? fun s => judge s.word s.owner (s.site path)

/-- The first fault of the trees nested in the function at `path`, from index `i` on. -/
def firstFaultFrom? (path : String) (i : Nat) (ps : List Prototype) : Option Fault :=
  (spotsFrom i ps).findSome? fun s => judge s.word s.owner (s.site path)

/-- A function's own faults come before those nested in it. -/
theorem firstFault?_eq (path : String) (p : Prototype) :
    firstFault? judge path p
      = (ownFault? judge path p).or (firstFaultFrom? judge path 0 p.functions) := by
  rw [firstFault?, spots_eq, List.findSome?_append, ownSpots, List.findSome?_map]
  rfl

theorem firstFaultFrom?_cons (path : String) (i : Nat) (p : Prototype) (ps : List Prototype) :
    firstFaultFrom? judge path i (p :: ps)
      = (firstFault? judge (Path.function path i) p).or
        (firstFaultFrom? judge path (i + 1) ps) := by
  rw [firstFaultFrom?, spotsFrom_cons, List.findSome?_append, List.findSome?_map]
  rfl

end Prototype

end LuaChunk
