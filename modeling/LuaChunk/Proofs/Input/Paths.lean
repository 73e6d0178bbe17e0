import LuaChunk.Proofs.Input.Run

/-!
# Proofs/Input/Paths — naming a field on the way down or on the way up

A reader names the field it reads, and its callers put their segments in front once it has failed.
`within` does the putting, and goes through every reader that is made of others (`within_bind`,
`within_entries`), down to the ones that name a field (`within_take` and the fields after it).  So a
segment may as well be put in front beforehand.

Two segments in a row make one (`within_within`), because joining paths is associative as long as
the middle one is not empty.
-/

namespace LuaChunk

namespace Path

/-- What stands between a segment and a path. -/
def separator (rest : String) : String :=
  if rest.toList.head? = none ∨ rest.toList.head? = some '[' then "" else "."

theorem join_eq (segment rest : String) :
    join segment rest = segment ++ separator rest ++ rest := by
  unfold join separator
  split
  next h =>
    obtain rfl : rest = "" := String.toList_eq_nil_iff.mp h
    simp
  next h => simp [h]
  next hnil hbracket =>
    obtain ⟨x, xs, hx⟩ := List.exists_cons_of_ne_nil hnil
    have hne : x ≠ '[' := by
      rintro rfl
      exact hbracket xs hx
    simp [hx, hne]

/-- Only the beginning of a path decides what stands before it. -/
theorem separator_append {a : String} (ha : a ≠ "") (b : String) :
    separator (a ++ b) = separator a := by
  obtain ⟨x, xs, hx⟩ : ∃ x xs, a.toList = x :: xs :=
    List.exists_cons_of_ne_nil fun h => ha (String.toList_eq_nil_iff.mp h)
  simp only [separator, String.toList_append, hx, List.cons_append, List.head?_cons]

theorem join_join {b : String} (hb : b ≠ "") (a c : String) :
    join a (join b c) = join (join a b) c := by
  simp only [join_eq, String.append_assoc, separator_append hb]

/-- The path of a field. -/
def field (path name : String) : String := path ++ "." ++ name

theorem join_name {name : String} (h : separator name = ".") (path : String) :
    join path name = field path name := by
  rw [join_eq, h, field]

theorem index_ne_empty (i : Nat) : index i ≠ "" := by
  intro h
  have := congrArg String.toList h
  simp [index] at this

theorem join_index (path : String) (i : Nat) : join path (index i) = path ++ index i := by
  have h : separator (index i) = "" := by
    rw [index, String.append_assoc, separator_append (by decide)]
    decide
  rw [join_eq, h, String.append_empty]

end Path

namespace Fault

theorem field?_within (e : Fault) (segment : String) :
    (e.within segment).field? = e.field?.map (Path.join segment) := by
  cases e <;> rfl

theorem within_within {b : String} (hb : b ≠ "") (a : String) (e : Fault) :
    (e.within b).within a = e.within (Path.join a b) := by
  cases e <;> simp [within, Path.join_join hb]

end Fault

namespace Reader

variable {α β : Type}

/-! ## Segments go through readers made of others -/

theorem within_within {b : String} (hb : b ≠ "") (a : String) (r : Reader α) :
    within a (within b r) = within (Path.join a b) r := by
  refine ext fun c => ?_
  simp only [run_within]
  cases (r.run c).result with
  | ok x => rfl
  | error e =>
    exact congrArg (fun e => Outcome.mk (.error e) (r.run c).cursor (r.run c).events)
      (Fault.within_within hb a e)

@[simp] theorem within_pure (segment : String) (a : α) : within segment (pure a) = pure a := rfl

@[simp] theorem within_fail (segment : String) (e : Fault) :
    within segment (fail e : Reader α) = fail (e.within segment) := rfl

@[simp] theorem within_report (segment : String) (e : Event) :
    within segment (report e) = report e := rfl

@[simp] theorem within_reportIf (segment : String) (b : Bool) (e : Event) :
    within segment (reportIf b e) = reportIf b e := by
  cases b <;> rfl

@[simp] theorem within_cursor (segment : String) : within segment cursor = cursor := rfl

@[simp] theorem within_bind (segment : String) (r : Reader α) (next : α → Reader β) :
    within segment (r >>= next) = within segment r >>= fun a => within segment (next a) := by
  refine ext fun c => ?_
  simp only [run_within, run_bind]
  obtain ⟨result, c', events⟩ := r.run c
  cases result <;> rfl

@[simp] theorem within_ite (segment : String) (p : Prop) [Decidable p] (r r' : Reader α) :
    within segment (if p then r else r') = if p then within segment r else within segment r' :=
  apply_ite _ _ _ _

/-! ## Down to the readers that name a field -/

@[simp] theorem within_take (segment : String) (n : Nat) (field : String) :
    within segment (take n field) = take n (Path.join segment field) := by
  refine ext fun c => ?_
  rw [run_within, run_take, run_take]
  split <;> rfl

@[simp] theorem within_byte (segment field : String) :
    within segment (byte field) = byte (Path.join segment field) := by
  simp only [byte, within_bind, within_take, within_pure]

@[simp] theorem within_natural (segment : String) (width : Nat) (field : String) :
    within segment (natural width field) = natural width (Path.join segment field) := by
  simp only [natural, within_bind, within_take, within_cursor, within_pure]

@[simp] theorem within_uint32 (segment field : String) :
    within segment (uint32 field) = uint32 (Path.join segment field) := by
  simp only [uint32, within_bind, within_natural, within_pure]

@[simp] theorem within_int32 (segment field : String) :
    within segment (int32 field) = int32 (Path.join segment field) := by
  simp only [int32, within_bind, within_uint32, within_pure]

@[simp] theorem within_binary64 (segment field : String) :
    within segment (binary64 field) = binary64 (Path.join segment field) := by
  simp only [binary64, within_bind, within_natural, within_pure]

@[simp] theorem within_text (segment : String) (bytes : List UInt8) :
    within segment (text bytes) = text bytes := by
  simp only [text, within_bind, within_cursor, within_reportIf, within_pure]

@[simp] theorem within_string (segment field : String) :
    within segment (string field) = string (Path.join segment field) := by
  simp [string, Fault.within]

@[simp] theorem within_count (segment field : String) :
    within segment (count field) = count (Path.join segment field) := by
  simp [count, Fault.within]

end Reader

/-! ## Readers that are told the path of what they read -/

namespace Qualified

variable {α : Type}

/-- The entries from index `i` on of the table at a path. -/
def entries (entry : String → Reader α) (path : String) (i : Nat) : Nat → Reader (List α)
  | 0 => pure []
  | n + 1 => do
    let a ← entry (path ++ Path.index i)
    return a :: (← entries entry path (i + 1) n)

/-- The table at a path. -/
def table (entry : String → Reader α) (path : String) : Reader (List α) := do
  let n ← Reader.count path
  entries entry path 0 n

end Qualified

namespace Reader

variable {α : Type}

/-- Entries told their path are entries whose table's path is put in front. -/
theorem within_entries {r : Reader α} {entry : String → Reader α}
    (h : ∀ path, within path r = entry path) (path : String) (i n : Nat) :
    within path (entries r i n) = Qualified.entries entry path i n := by
  induction n generalizing i with
  | zero => rfl
  | succ n ih =>
    have hentry : within path (within (Path.index i) r) = entry (path ++ Path.index i) := by
      rw [within_within (Path.index_ne_empty i), Path.join_index, h]
    simp only [entries, Qualified.entries, within_bind, within_pure, hentry, ih]

theorem within_table {r : Reader α} {entry : String → Reader α}
    (h : ∀ path, within path r = entry path) {name : String} (hname : Path.separator name = ".")
    (path : String) :
    within path (table name r) = Qualified.table entry (Path.field path name) := by
  have hne : name ≠ "" := by
    rintro rfl
    exact absurd hname (by decide)
  rw [table, Qualified.table, within_bind, within_count, Path.join_name hname]
  refine congrArg (count (Path.field path name) >>= ·) (funext fun n => ?_)
  rw [within_within hne, within_entries h, Path.join_name hname]

end Reader

end LuaChunk
