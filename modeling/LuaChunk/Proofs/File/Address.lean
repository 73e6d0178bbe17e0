import LuaChunk.Fault
import LuaChunk.File.Prototype
import LuaChunk.Proofs.Numeral

/-!
# Proofs/File/Address — the functions of a tree and where they stand

A function of a tree has an **address**, the indices on the way down to it.  `members` lists all
functions with their addresses, and two lemmas say that it is the right list: an address is in it
just when it leads somewhere (`mem_members`), and its order is that of `preorder`
(`preorder_eq_members`).

An address is spelled out as a path by `Path.nested`, and can be read off the path again
(`nested_injective`).
-/

namespace LuaChunk

namespace Path

/-- The path of a function by its address below the function at `path`. -/
def nested (path : String) (address : List Nat) : String := address.foldl function path

@[simp] theorem nested_nil (path : String) : nested path [] = path := rfl

theorem nested_cons (path : String) (i : Nat) (address : List Nat) :
    nested path (i :: address) = nested (function path i) address := rfl

theorem toList_function (path : String) (i : Nat) :
    (function path i).toList
      = path.toList ++ (".functions[".toList ++ ((decimal i).toList ++ [']'])) := by
  simp [function, index]

theorem toList_nested (path : String) (address : List Nat) :
    (nested path address).toList
      = path.toList
        ++ address.flatMap fun i => ".functions[".toList ++ ((decimal i).toList ++ [']']) := by
  induction address generalizing path with
  | nil => simp
  | cons i address ih => rw [nested_cons, ih, toList_function, List.append_assoc, List.flatMap_cons]

/-- **A path tells the address that it spells out.** -/
theorem nested_injective (path : String) : Function.Injective (nested path) := by
  intro a b h
  have hlist := congrArg String.toList h
  rw [toList_nested, toList_nested, List.append_cancel_left_eq] at hlist
  clear h
  induction a generalizing b with
  | nil =>
    cases b with
    | nil => rfl
    | cons j b => simp at hlist
  | cons i a ih =>
    cases b with
    | nil => simp at hlist
    | cons j b =>
      simp only [List.flatMap_cons, List.append_assoc, List.append_cancel_left_eq,
        List.singleton_append] at hlist
      obtain ⟨rfl, hrest⟩ := decimal_append_cons (by decide) hlist
      rw [ih hrest]

end Path

namespace Prototype

/-- What holds of a function whenever it holds of those nested in it holds of every function. -/
@[elab_as_elim]
theorem nestedInduction {motive : Prototype → Prop}
    (step : ∀ p : Prototype, (∀ q ∈ p.functions, motive q) → motive p) (p : Prototype) :
    motive p := by
  refine @Prototype.rec motive (fun ps => ∀ q ∈ ps, motive q) ?_ ?_ ?_ p
  · intro _ _ _ _ _ _ _ _ _ _ _ ih
    exact step _ ih
  · exact nofun
  · intro p ps hp hps
    exact List.forall_mem_cons.mpr ⟨hp, hps⟩

/-! ## Functions and their addresses -/

mutual

/-- The functions of a tree with their addresses, each before those nested in it. -/
def members : Prototype → List (List Nat × Prototype)
  | p@⟨_, _, _, _, _, _, _, _, _, functions, _⟩ => ([], p) :: membersFrom 0 functions

/-- The functions of a list of trees, the first of which has index `i`. -/
def membersFrom (i : Nat) : List Prototype → List (List Nat × Prototype)
  | [] => []
  | p :: ps => p.members.map (fun m => (i :: m.1, m.2)) ++ membersFrom (i + 1) ps

end

theorem members_eq (p : Prototype) : p.members = ([], p) :: membersFrom 0 p.functions := by
  cases p
  rfl

theorem nil_notMem_membersFrom (q : Prototype) (i : Nat) (ps : List Prototype) :
    ([], q) ∉ membersFrom i ps := by
  induction ps generalizing i with
  | nil => simp [membersFrom]
  | cons p ps ih => simp [membersFrom, ih]

/-- The first index of an address picks the tree, and the rest leads on from there. -/
theorem cons_mem_membersFrom {i j : Nat} {a : List Nat} {q : Prototype} {ps : List Prototype} :
    (j :: a, q) ∈ membersFrom i ps ↔ i ≤ j ∧ ∃ p, ps[j - i]? = some p ∧ (a, q) ∈ p.members := by
  induction ps generalizing i with
  | nil => simp [membersFrom]
  | cons p ps ih =>
    rw [membersFrom, List.mem_append, ih]
    rcases Nat.lt_trichotomy j i with hlt | rfl | hgt
    · have hne : i ≠ j := by omega
      simp [hne, show ¬ i ≤ j by omega, show ¬ i + 1 ≤ j by omega]
    · rw [or_iff_left fun h => Nat.not_succ_le_self j h.1]
      simp
    · have hne : i ≠ j := by omega
      have hsub : j - i = (j - (i + 1)) + 1 := by omega
      simp [hne, hsub, show i ≤ j by omega, show i + 1 ≤ j by omega]

/-- **The members of a tree are what its addresses lead to.** -/
theorem mem_members {p q : Prototype} {a : List Nat} :
    (a, q) ∈ p.members ↔ p.descend? a = some q := by
  induction a generalizing p with
  | nil =>
    rw [members_eq, List.mem_cons, descend?]
    simp [nil_notMem_membersFrom, eq_comm]
  | cons i a ih =>
    rw [members_eq, List.mem_cons, cons_mem_membersFrom, descend?, Option.bind_eq_some_iff]
    simp [ih]

theorem preorderAll_eq_membersFrom {ps : List Prototype} (depth i : Nat)
    (h : ∀ p ∈ ps, ∀ depth,
      p.preorder depth = p.members.map fun m => (depth + m.1.length, m.2)) :
    preorderAll (depth + 1) ps
      = (membersFrom i ps).map fun m => (depth + m.1.length, m.2) := by
  induction ps generalizing i with
  | nil => rfl
  | cons p ps ih =>
    obtain ⟨hp, hps⟩ := List.forall_mem_cons.mp h
    rw [preorderAll, membersFrom, hp, ih (i + 1) hps, List.map_append, List.map_map]
    simp [Function.comp_def, Nat.add_comm, Nat.add_left_comm]

/-- **The members of a tree stand in pre-order**, at depths that their addresses measure. -/
theorem preorder_eq_members (p : Prototype) (depth : Nat) :
    p.preorder depth = p.members.map fun m => (depth + m.1.length, m.2) := by
  induction p using nestedInduction generalizing depth with
  | step p ih =>
    rw [members_eq, List.map_cons, ← preorderAll_eq_membersFrom depth 0 ih]
    cases p
    rfl

theorem preorder_eq (p : Prototype) (depth : Nat) :
    p.preorder depth = (depth, p) :: preorderAll (depth + 1) p.functions := by
  cases p
  rfl

theorem count_eq (p : Prototype) : p.count = 1 + countAll p.functions := by
  cases p
  rfl

mutual

theorem length_preorder (depth : Nat) : ∀ p : Prototype, (p.preorder depth).length = p.count
  | ⟨_, _, _, _, _, _, _, _, _, functions, _⟩ => by
    rw [preorder, count, List.length_cons, length_preorderAll (depth + 1) functions, Nat.add_comm]

theorem length_preorderAll (depth : Nat) :
    ∀ ps : List Prototype, (preorderAll depth ps).length = countAll ps
  | [] => rfl
  | p :: ps => by
    rw [preorderAll, countAll, List.length_append, length_preorder depth p,
      length_preorderAll depth ps]

end

/-! ## Depth -/

theorem heightAll_lt_iff {ps : List Prototype} {n : Nat} :
    n < heightAll ps ↔ ∃ p ∈ ps, n ≤ p.height := by
  induction ps with
  | nil => simp [heightAll]
  | cons p ps ih =>
    simp only [heightAll, List.mem_cons, exists_eq_or_imp, ← ih]
    omega

/-- **A tree has functions at all depths up to its height**, and none below. -/
theorem exists_descend_iff_le_height {p : Prototype} {n : Nat} :
    (∃ a q, p.descend? a = some q ∧ a.length = n) ↔ n ≤ p.height := by
  induction n generalizing p with
  | zero =>
    refine iff_of_true ⟨[], p, rfl, rfl⟩ (Nat.zero_le _)
  | succ n ih =>
    have hheight : p.height = heightAll p.functions := by
      cases p
      rfl
    rw [hheight, Nat.succ_le_iff, heightAll_lt_iff]
    constructor
    · rintro ⟨_ | ⟨i, a⟩, q, hq, hlen⟩
      · cases hlen
      · obtain ⟨r, hr, hq⟩ := Option.bind_eq_some_iff.mp hq
        exact ⟨r, List.mem_of_getElem? hr, ih.mp ⟨a, q, hq, Nat.succ.inj hlen⟩⟩
    · rintro ⟨r, hr, hle⟩
      obtain ⟨i, hi⟩ := List.mem_iff_getElem?.mp hr
      obtain ⟨a, q, hq, hlen⟩ := ih.mpr hle
      exact ⟨i :: a, q, Option.bind_eq_some_iff.mpr ⟨r, hi, hq⟩, congrArg Nat.succ hlen⟩

/-- The address of the first function, in pre-order, at a depth below the root. -/
def firstAt? (p : Prototype) (depth : Nat) : Option (List Nat) :=
  (p.members.map Prod.fst).find? fun a => a.length == depth

/-- The same for a list of trees, the first of which has index `i`, at a depth below their roots. -/
def firstFrom? (i : Nat) (ps : List Prototype) (depth : Nat) : Option (List Nat) :=
  ((membersFrom i ps).map Prod.fst).find? fun a => a.length == depth + 1

@[simp] theorem firstAt?_zero (p : Prototype) : p.firstAt? 0 = some [] := by
  rw [firstAt?, members_eq]
  rfl

theorem firstAt?_succ (p : Prototype) (depth : Nat) :
    p.firstAt? (depth + 1) = firstFrom? 0 p.functions depth := by
  rw [firstAt?, members_eq]
  rfl

theorem firstFrom?_cons (i : Nat) (p : Prototype) (ps : List Prototype) (depth : Nat) :
    firstFrom? i (p :: ps) depth
      = ((p.firstAt? depth).map (i :: ·)).or (firstFrom? (i + 1) ps depth) := by
  have hlen (a : List Nat) : ((i :: a).length == depth + 1) = (a.length == depth) := by
    rw [List.length_cons, Bool.eq_iff_iff, beq_iff_eq, beq_iff_eq, Nat.add_right_cancel_iff]
  simp only [firstFrom?, firstAt?, membersFrom, List.map_append, List.map_map, List.find?_append,
    List.find?_map, Option.map_map, Function.comp_def, hlen]

theorem firstAt?_eq_none_iff {p : Prototype} {n : Nat} : p.firstAt? n = none ↔ p.height < n := by
  rw [← Nat.not_le, ← exists_descend_iff_le_height, firstAt?, List.find?_eq_none]
  simp only [← mem_members]
  simp

end Prototype

end LuaChunk
