import LuaChunk.Proofs.File.Prefix
import LuaChunk.Proofs.Input.Advance

/-!
# Proofs/File/Calls — the calls that reading a file makes

The reader of functions calls itself for every nested function, as often as the file says.  A
**traced** reader is a reader with a list of these calls, each with its depth and the position where
it starts; `Traced.file` reads a file and lists them, whether or not the file is any good
(`reader_file`).

A call takes `frontLength` bytes at least before it makes another, and a call that has come to its
end has taken more.  So the calls of a run, in order, start at least that far apart
(`Traced.Paced`), and no more of them are made than the file has room for (`calls_paced`).
-/

namespace LuaChunk

/-! ## A function up to its nested functions -/

namespace Prototype

/-- What is read of a function before its nested functions, the last of it their number. -/
structure Front where
  source : String
  line : Int32
  parameters : Int32
  vararg : Bool
  stack : Int32
  locals : List LocalVar
  lines : List Int32
  strings : List String
  numbers : List Binary64
  nested : Nat

namespace Front

def read : Reader Front := do
  let source ← Reader.string "source"
  let line ← Reader.int32 "line_number"
  let parameters ← Reader.int32 "num_params"
  let vararg ← Reader.byte "is_vararg"
  let stack ← Reader.int32 "max_stack_size"
  let locals ← Reader.table "local_vars" LocalVar.read
  let lines ← Reader.table "line_info" (Reader.int32 "line")
  let strings ← Reader.table "strings" (Reader.string "string")
  let numbers ← Reader.table "numbers" (Reader.binary64 "number")
  let nested ← Reader.count "functions"
  return { source, line, parameters, vararg := vararg != 0, stack, locals, lines, strings, numbers,
           nested }

/-- Reads what follows the nested functions. -/
def complete (f : Front) (depth : Nat) (functions : List Prototype) : Reader Prototype := do
  let code ← Reader.table "instructions" Word.read
  let p : Prototype :=
    { source := f.source, line := f.line, parameters := f.parameters, vararg := f.vararg,
      stack := f.stack, locals := f.locals, lines := f.lines, strings := f.strings,
      numbers := f.numbers, functions, code }
  Reader.report (p.readEvent depth)
  return p

end Front

/-- **A function is its front, its nested functions and its instructions.** -/
theorem read_succ (limit levels depth : Nat) :
    read limit (levels + 1) depth = (do
      let f ← Front.read
      let functions ←
        Reader.within "functions" (Reader.entries (read limit levels (depth + 1)) 0 f.nested)
      f.complete depth functions) := by
  simp only [read, Front.read, Front.complete, Reader.table, bind_assoc, pure_bind]

/-- The least length of what is read before the nested functions. -/
def frontLength : Nat := 38

end Prototype

namespace Reader

theorem advances_localVar : LocalVar.read.Advances 13 :=
  (advances_string _).bind fun _ => (advances_int32 _).bind fun _ =>
    (advances_int32 _).bind_still fun _ => Advances.pure _

theorem advances_word : Word.read.Advances 4 :=
  (advances_uint32 _).bind_still fun _ => Advances.pure _

theorem advances_front : Prototype.Front.read.Advances Prototype.frontLength :=
  (advances_string _).bind fun _ => (advances_int32 _).bind fun _ =>
    (advances_int32 _).bind fun _ => (advances_byte _).bind fun _ =>
    (advances_int32 _).bind fun _ =>
    ((advances_localVar.mono (Nat.zero_le _)).table _).bind fun _ =>
    (((advances_int32 _).mono (Nat.zero_le _)).table _).bind fun _ =>
    (((advances_string _).mono (Nat.zero_le _)).table _).bind fun _ =>
    (((advances_binary64 _).mono (Nat.zero_le _)).table _).bind fun _ =>
    (advances_count _).bind_still fun _ => Advances.pure _

theorem advances_complete (f : Prototype.Front) (depth : Nat) (functions : List Prototype) :
    (f.complete depth functions).Advances 0 :=
  (((advances_word.mono (Nat.zero_le _)).table _).mono (Nat.zero_le _)).bind_still fun _ =>
    (Advances.report _).bind_still fun _ => Advances.pure _

theorem online_front : Prototype.Front.read.Online :=
  (online_string _).bind fun _ => (online_int32 _).bind fun _ => (online_int32 _).bind fun _ =>
    (online_byte _).bind fun _ => (online_int32 _).bind fun _ =>
    (online_localVar.table _).bind fun _ => ((online_int32 _).table _).bind fun _ =>
    ((online_string _).table _).bind fun _ => ((online_binary64 _).table _).bind fun _ =>
    (online_count _).bind fun _ => Online.pure _

theorem online_complete (f : Prototype.Front) (depth : Nat) (functions : List Prototype) :
    (f.complete depth functions).Online :=
  (online_word.table _).bind fun _ => (Online.report _).bind fun _ => Online.pure _

theorem advances_flagged (version : UInt8) : (flagged version).Advances 1 := by
  refine (advances_byte _).bind_still fun flag => ?_
  split
  · exact Advances.pure _
  · exact Advances.fail _ _

theorem advances_header : Header.read.Advances 6 := by
  refine (advances_byte _).bind (n := 5) fun first => ?_
  split
  · exact Advances.fail _ _
  · refine (Advances.take 3 _).bind (n := 2) fun letters => ?_
    split
    · exact Advances.fail _ _
    · exact (advances_byte _).bind fun version => (Advances.reportIf _ _).bind fun _ =>
        advances_flagged version

theorem advances_selfCheck : SelfCheck.read.Advances 15 :=
  (advances_byte _).bind fun _ => (advances_byte _).bind fun _ => (advances_byte _).bind fun _ =>
    (advances_byte _).bind fun _ => (advances_byte _).bind fun _ => (advances_byte _).bind fun _ =>
    (advances_byte _).bind fun _ => (advances_binary64 _).bind_still fun _ => Advances.pure _

end Reader

namespace ChunkFile

open Reader

theorem advances_judge (strictness : Strictness) (s : SelfCheck) :
    (judge strictness s).Advances 0 := by
  unfold judge
  split
  · exact Advances.pure ()
  · exact Advances.fail _ _
  · exact Advances.report _

theorem advances_finish (f : ChunkFile) : (finish f).Advances 0 :=
  Advances.of_still fun c => by rw [run_finish]

end ChunkFile

/-- The length of what stands before the main function. -/
def Image.preambleLength : Nat := 21

/-! ## Traced readers -/

/-- A call of the reader of functions. -/
structure Call where
  depth : Nat
  /-- Where it starts. -/
  position : Nat
  deriving DecidableEq, Repr

/-- **A reader with the calls that it makes**, from each place where it may start. -/
structure Traced (α : Type) where
  reader : Reader α
  calls : Cursor → List Call

namespace Traced

variable {α β : Type}

/-- The calls of what follows a first step, if that step succeeds. -/
def callsAfter (o : Outcome α) (next : α → Traced β) : List Call :=
  match o.result with
  | .ok a => (next a).calls o.cursor
  | .error _ => []

instance : Monad Traced where
  pure a := ⟨pure a, fun _ => []⟩
  bind t next := ⟨t.reader >>= fun a => (next a).reader,
    fun c => t.calls c ++ callsAfter (t.reader.run c) next⟩

/-- A reader that makes no calls. -/
instance : MonadLift Reader Traced := ⟨fun r => ⟨r, fun _ => []⟩⟩

/-- Lists the call that starts here. -/
def enter (depth : Nat) (t : Traced α) : Traced α :=
  ⟨t.reader, fun c => ⟨depth, c.position⟩ :: t.calls c⟩

def within (segment : String) (t : Traced α) : Traced α := ⟨Reader.within segment t.reader, t.calls⟩

/-- The entries of a table from index `i` on. -/
def entries (entry : Traced α) (i : Nat) : Nat → Traced (List α)
  | 0 => pure []
  | n + 1 => do
    let a ← within (Path.index i) entry
    let as ← entries entry (i + 1) n
    return a :: as

/-- A function, with the call for it before those for its nested functions. -/
def prototype (limit : Nat) : (levels depth : Nat) → Traced Prototype
  | 0, depth => enter depth (liftM (Reader.fail (.tooDeeplyNested "" limit) : Reader Prototype))
  | levels + 1, depth => enter depth do
    let f ← Prototype.Front.read
    let functions ← within "functions" (entries (prototype limit levels (depth + 1)) 0 f.nested)
    f.complete depth functions

/-- A file of allowed size. -/
def file (options : LoadOptions) : Traced ChunkFile := do
  let header ← Header.read
  Reader.setOrder header.order
  let selfCheck ← SelfCheck.read
  ChunkFile.judge options.strictness selfCheck
  let main ← within "main" (prototype options.maxDepth (options.maxDepth + 1) 0)
  ChunkFile.finish { header, selfCheck, main }

/-! ## Nothing else is traced -/

@[simp] theorem reader_pure (a : α) : (pure a : Traced α).reader = pure a := rfl

@[simp] theorem reader_bind (t : Traced α) (next : α → Traced β) :
    (t >>= next).reader = t.reader >>= fun a => (next a).reader := rfl

@[simp] theorem reader_lift (r : Reader α) : (liftM r : Traced α).reader = r := rfl

@[simp] theorem reader_enter (depth : Nat) (t : Traced α) : (enter depth t).reader = t.reader := rfl

@[simp] theorem reader_within (segment : String) (t : Traced α) :
    (within segment t).reader = Reader.within segment t.reader := rfl

theorem reader_entries (entry : Traced α) (i n : Nat) :
    (entries entry i n).reader = Reader.entries entry.reader i n := by
  induction n generalizing i with
  | zero => rfl
  | succ n ih =>
    simp only [entries, Reader.entries, reader_bind, reader_within, reader_pure, ih]

theorem reader_prototype (limit levels depth : Nat) :
    (prototype limit levels depth).reader = Prototype.read limit levels depth := by
  induction levels generalizing depth with
  | zero => rfl
  | succ levels ih =>
    have hentries (n : Nat) : (entries (prototype limit levels (depth + 1)) 0 n).reader
        = Reader.entries (Prototype.read limit levels (depth + 1)) 0 n := by
      rw [reader_entries, ih]
    simp only [prototype, Prototype.read_succ, reader_enter, reader_bind, reader_lift,
      reader_within, hentries]

/-- **Tracing leaves reading as it is.** -/
theorem reader_file (options : LoadOptions) : (file options).reader = ChunkFile.read options := by
  simp only [file, ChunkFile.read, ChunkFile.finish, reader_bind, reader_lift, reader_within,
    reader_prototype]

@[simp] theorem calls_lift (r : Reader α) (c : Cursor) : (liftM r : Traced α).calls c = [] := rfl

theorem calls_bind (t : Traced α) (next : α → Traced β) (c : Cursor) :
    (t >>= next).calls c = t.calls c ++ callsAfter (t.reader.run c) next := rfl

theorem calls_bind_of_ok {t : Traced α} {c : Cursor} {a : α} (next : α → Traced β)
    (h : (t.reader.run c).result = .ok a) :
    (t >>= next).calls c = t.calls c ++ (next a).calls (t.reader.run c).cursor := by
  rw [calls_bind, callsAfter, h]

theorem calls_bind_of_error {t : Traced α} {c : Cursor} {e : Fault} (next : α → Traced β)
    (h : (t.reader.run c).result = .error e) : (t >>= next).calls c = t.calls c := by
  rw [calls_bind, callsAfter, h, List.append_nil]

@[simp] theorem calls_within (segment : String) (t : Traced α) (c : Cursor) :
    (within segment t).calls c = t.calls c := rfl

/-! ## The pace of the calls -/

/-- **Calls at a pace**, from `depth` on and `ahead` bytes further: the call with `k` others before
it is at most `k` levels below `depth`, and starts at least `k` fronts behind the beginning, and
`ahead` bytes more; and when all is read, a front has been read for each of the calls. -/
structure Paced (depth ahead : Nat) (t : Traced α) : Prop where
  online : t.reader.Online
  pace : ∀ c (k : Nat) (call : Call), (t.calls c)[k]? = some call →
    call.depth ≤ depth + k ∧ c.position + ahead + Prototype.frontLength * k ≤ call.position
      ∧ call.position ≤ c.size
  advance : ∀ c a, (t.reader.run c).result = .ok a →
    c.position + ahead + Prototype.frontLength * (t.calls c).length
      ≤ (t.reader.run c).cursor.position

namespace Paced

variable {depth m n : Nat}

theorem lift {r : Reader α} (hr : r.Online) (hadvance : r.Advances n) :
    Paced depth n (liftM r : Traced α) where
  online := hr
  pace _ _ _ h := nomatch h
  advance := hadvance

theorem pure (a : α) : Paced depth 0 (Pure.pure a : Traced α) :=
  lift (Reader.Online.pure a) (Reader.Advances.pure a)

theorem within {t : Traced α} (ht : Paced depth n t) (segment : String) :
    Paced depth n (Traced.within segment t) where
  online := ht.online.within segment
  pace := ht.pace
  advance c a h := ht.advance c a (Reader.result_within_eq_ok.mp h)

theorem bind {t : Traced α} {next : α → Traced β} (ht : Paced depth n t)
    (hnext : ∀ a, Paced depth 0 (next a)) : Paced depth n (t >>= next) where
  online := ht.online.bind fun a => (hnext a).online
  pace c k call hk := by
    cases h : (t.reader.run c).result with
    | error e =>
      rw [calls_bind_of_error next h] at hk
      exact ht.pace c k call hk
    | ok a =>
      rw [calls_bind_of_ok next h, List.getElem?_append] at hk
      split at hk
      · exact ht.pace c k call hk
      next hlength =>
        -- a later call has all calls of the first step before it
        have hfirst := ht.advance c a h
        have hsize := ht.online.size_cursor c
        obtain ⟨hdepth, hposition, hend⟩ := (hnext a).pace _ _ call hk
        obtain ⟨j, rfl⟩ := Nat.exists_eq_add_of_le (Nat.not_lt.mp hlength)
        rw [Nat.add_sub_cancel_left] at hdepth hposition
        rw [Nat.mul_add]
        omega
  advance c b hb := by
    obtain ⟨a, ha, hb⟩ := Reader.result_bind_eq_ok.mp hb
    have hfirst := ht.advance c a ha
    have hsecond := (hnext a).advance _ b hb
    rw [reader_bind, Reader.cursor_bind_of_ok ha, calls_bind_of_ok next ha, List.length_append,
      Nat.mul_add]
    omega

/-- What is read before the first call puts all calls off. -/
theorem lift_bind {r : Reader α} {next : α → Traced β} (hr : r.Online) (hadvance : r.Advances m)
    (hnext : ∀ a, Paced depth n (next a)) : Paced depth (m + n) (liftM r >>= next) where
  online := hr.bind fun a => (hnext a).online
  pace c k call hk := by
    cases h : (r.run c).result with
    | error e =>
      rw [calls_bind_of_error (t := liftM r) next h] at hk
      cases hk
    | ok a =>
      rw [calls_bind_of_ok (t := liftM r) next h, calls_lift, List.nil_append, reader_lift] at hk
      have hread := hadvance c a h
      have hsize := hr.size_cursor c
      obtain ⟨hdepth, hposition, hend⟩ := (hnext a).pace _ k call hk
      omega
  advance c b hb := by
    obtain ⟨a, ha, hb⟩ := Reader.result_bind_eq_ok.mp hb
    have hread := hadvance c a ha
    have hrest := (hnext a).advance _ b hb
    rw [calls_bind_of_ok (t := liftM r) next ha, reader_bind, Reader.cursor_bind_of_ok ha,
      calls_lift, List.nil_append, reader_lift]
    rw [reader_lift] at hrest
    omega

theorem entries {t : Traced α} (ht : Paced depth 0 t) (i n : Nat) :
    Paced depth 0 (Traced.entries t i n) := by
  induction n generalizing i with
  | zero => exact pure []
  | succ n ih => exact (ht.within _).bind fun a => (ih (i + 1)).bind fun as => pure (a :: as)

/-- A call comes before those that are one level deeper and a front further on. -/
theorem enter {t : Traced α} (ht : Paced (depth + 1) Prototype.frontLength t) :
    Paced depth 0 (Traced.enter depth t) where
  online := ht.online
  pace c k call hk := by
    cases k with
    | zero =>
      obtain rfl : ⟨depth, c.position⟩ = call := Option.some.inj hk
      exact ⟨Nat.le_refl _, Nat.le_refl _, Nat.le_add_right _ _⟩
    | succ k =>
      obtain ⟨hdepth, hposition, hend⟩ := ht.pace c k call hk
      rw [Nat.mul_succ]
      omega
  advance c a ha := by
    have hread := ht.advance c a ha
    change _ + _ * ((t.calls c).length + 1) ≤ (t.reader.run c).cursor.position
    rw [Nat.mul_succ]
    omega

end Paced

/-- **A function is read at the pace of its calls.**  Its own call comes first, its front is read
before the calls for its nested functions, and these are one level deeper. -/
theorem paced_prototype (limit levels depth : Nat) :
    Paced depth 0 (prototype limit levels depth) := by
  induction levels generalizing depth with
  | zero => exact (Paced.lift (Reader.Online.fail _) (Reader.Advances.fail _ _)).enter
  | succ levels ih =>
    refine Paced.enter
      (Paced.lift_bind (n := 0) Reader.online_front Reader.advances_front fun f => ?_)
    refine (((ih (depth + 1)).entries 0 f.nested).within _).bind fun functions => ?_
    exact Paced.lift (Reader.online_complete _ _ _) (Reader.advances_complete _ _ _)

/-- The preamble is read before the first call. -/
theorem paced_file (options : LoadOptions) : Paced 0 Image.preambleLength (file options) := by
  refine Paced.lift_bind (n := 15) Reader.online_header Reader.advances_header fun header => ?_
  refine Paced.lift_bind (n := 15) (Reader.Online.setOrder _) (Reader.Advances.setOrder _)
    fun _ => ?_
  refine Paced.lift_bind (n := 0) Reader.online_selfCheck Reader.advances_selfCheck fun record => ?_
  refine Paced.lift_bind (n := 0) (ChunkFile.online_judge _ _) (ChunkFile.advances_judge _ _)
    fun _ => ?_
  refine ((paced_prototype _ _ _).within _).bind fun main => ?_
  exact Paced.lift (ChunkFile.online_finish _) (ChunkFile.advances_finish _)

/-! ## The calls for what is accepted -/

/-- **The value of a reader tells how deep its calls went**, behind those that came before. -/
def Tells (before : List Nat) (depths : α → List Nat) (t : Traced α) : Prop :=
  ∀ c a, (t.reader.run c).result = .ok a → before ++ (t.calls c).map Call.depth = depths a

namespace Tells

variable {before : List Nat} {depths : α → List Nat} {depths' : β → List Nat}

theorem lift {r : Reader α} (h : ∀ c a, (r.run c).result = .ok a → before = depths a) :
    Tells before depths (liftM r : Traced α) :=
  fun c a ha => (List.append_nil before).trans (h c a ha)

theorem pure {a : α} (h : before = depths a) : Tells before depths (Pure.pure a : Traced α) :=
  lift fun _ _ ha => Except.ok.inj ha ▸ h

theorem within {t : Traced α} (ht : Tells before depths t) (segment : String) :
    Tells before depths (Traced.within segment t) :=
  fun c a ha => ht c a (Reader.result_within_eq_ok.mp ha)

theorem bind {t : Traced α} {next : α → Traced β} (ht : Tells [] depths t)
    (hnext : ∀ a, Tells (before ++ depths a) depths' (next a)) :
    Tells before depths' (t >>= next) := by
  intro c b hb
  obtain ⟨a, ha, hb⟩ := Reader.result_bind_eq_ok.mp hb
  have hfirst : (t.calls c).map Call.depth = depths a := ht c a ha
  rw [calls_bind_of_ok next ha, List.map_append, hfirst, ← List.append_assoc]
  exact hnext a _ b hb

theorem lift_bind {r : Reader α} {next : α → Traced β}
    (hnext : ∀ a, Tells before depths' (next a)) : Tells before depths' (liftM r >>= next) := by
  have hlift : Tells [] (fun _ => []) (liftM r : Traced α) := lift fun _ _ _ => rfl
  refine hlift.bind fun a => ?_
  rw [List.append_nil]
  exact hnext a

theorem enter {t : Traced α} {depth : Nat} (ht : Tells [depth] depths t) :
    Tells [] depths (Traced.enter depth t) := ht

theorem entries {t : Traced Prototype} {depth : Nat}
    (ht : Tells [] (fun p => (p.preorder depth).map Prod.fst) t) (i n : Nat) :
    Tells [] (fun ps => (Prototype.preorderAll depth ps).map Prod.fst) (Traced.entries t i n) := by
  induction n generalizing i with
  | zero => exact Tells.pure rfl
  | succ n ih =>
    refine (ht.within _).bind fun p => (ih (i + 1)).bind fun ps => Tells.pure ?_
    rw [Prototype.preorderAll, List.map_append, List.nil_append]

end Tells

/-- **A function that is read was called for, and so was each of those nested in it**, in
pre-order. -/
theorem tells_prototype (limit levels depth : Nat) :
    Tells [] (fun p => (p.preorder depth).map Prod.fst) (prototype limit levels depth) := by
  induction levels generalizing depth with
  | zero => exact Tells.enter (Tells.lift fun _ _ h => absurd h Reader.result_fail_ne_ok)
  | succ levels ih =>
    refine Tells.enter (Tells.lift_bind fun f => ?_)
    refine (((ih (depth + 1)).entries 0 f.nested).within _).bind fun functions => ?_
    refine Tells.lift fun c p hp => ?_
    obtain ⟨code, -, hp⟩ := Reader.result_bind_eq_ok.mp hp
    obtain ⟨-, -, hp⟩ := Reader.result_bind_eq_ok.mp hp
    rw [← Except.ok.inj hp]
    rfl

theorem tells_file (options : LoadOptions) :
    Tells [] (fun f : ChunkFile => (f.main.preorder 0).map Prod.fst) (file options) := by
  refine Tells.lift_bind fun header => Tells.lift_bind fun _ => Tells.lift_bind fun record =>
    Tells.lift_bind fun _ => ((tells_prototype _ _ _).within _).bind fun main => ?_
  refine Tells.lift fun c f hf => ?_
  rw [ChunkFile.run_finish] at hf
  rw [← Except.ok.inj hf]
  rfl

end Traced

namespace ChunkFile

/-- The calls that loading a file makes, up to its end or to the first fault; a file that is too
large is not read. -/
def calls (options : LoadOptions) (bytes : List UInt8) : List Call :=
  if options.maxLength < bytes.length then []
  else (Traced.file options).calls (Cursor.start bytes .little options.charset)

/-- **Calls start a front apart, or more, and all of them in the file.** -/
theorem calls_paced (options : LoadOptions) (bytes : List UInt8) {k : Nat} {call : Call}
    (h : (calls options bytes)[k]? = some call) :
    call.depth ≤ k ∧ Image.preambleLength + Prototype.frontLength * k ≤ call.position
      ∧ call.position ≤ bytes.length := by
  unfold calls at h
  split at h
  · cases h
  · have hpace := (Traced.paced_file options).pace _ k call h
    simpa [Cursor.start, Cursor.size, Cursor.remaining] using hpace

theorem depths_calls {options : LoadOptions} {bytes : List UInt8} {f : ChunkFile}
    (h : ofBytes options bytes = .ok f) :
    (calls options bytes).map Call.depth = (f.main.preorder 0).map Prod.fst := by
  have hlen := length_le_of_ok h
  rw [ofBytes_of_le hlen, ← Traced.reader_file] at h
  rw [calls, if_neg (Nat.not_lt.mpr hlen)]
  exact Traced.tells_file options _ f h

end ChunkFile

end LuaChunk
