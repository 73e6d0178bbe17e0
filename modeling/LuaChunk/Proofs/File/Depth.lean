import LuaChunk.Proofs.File.Address
import LuaChunk.Proofs.File.Qualified
import LuaChunk.Proofs.File.RoundTrip

/-!
# Proofs/File/Depth — what the limit on nesting does, and all that it does

Two readers of the same file, one with a limit and one with a wider limit, run side by side until
the first function that is too deep for the one (`Reader.Limited`).  If there is none, they come to
the same; if there is one, the limited reader stops there, and the other reader's tree tells which
function it was: the first in pre-order one level below the limit (`ofBytes_limited`).
-/

namespace LuaChunk

namespace Reader

variable {α β : Type} {limit : Nat} {path : String}

/-- **A reader with a limit beside one with a wider limit.**  Whatever the file, either the limit
makes no difference or it stops the reader at some address below `path`.  If the wider limit lets a
value be read, `first` finds in it the first function that is too deep, and so tells which of the
two it was. -/
def Limited (limit : Nat) (path : String) (first : α → Option (List Nat)) (r r' : Reader α) :
    Prop :=
  ∀ c,
    (r.run c = r'.run c ∧ ∀ a, (r'.run c).result = .ok a → first a = none)
    ∨ ∃ address,
      (r.run c).result = .error (.tooDeeplyNested (Path.nested path address) limit)
        ∧ ∀ a, (r'.run c).result = .ok a → first a = some address

namespace Limited

theorem refl {first : α → Option (List Nat)} {r : Reader α}
    (h : ∀ c a, (r.run c).result = .ok a → first a = none) : Limited limit path first r r :=
  fun c => .inl ⟨rfl, h c⟩

/-- The limit stops two readers in a row where it stops the first, or else the second. -/
theorem bind {first : α → Option (List Nat)} {first' : β → Option (List Nat)} {r r' : Reader α}
    {next next' : α → Reader β} (hr : Limited limit path first r r')
    (hnext : ∀ a, first a = none → Limited limit path first' (next a) (next' a))
    (hstop : ∀ a address, first a = some address →
      ∀ c b, ((next' a).run c).result = .ok b → first' b = some address) :
    Limited limit path first' (r >>= next) (r' >>= next') := by
  intro c
  rcases hr c with ⟨hrun, hnone⟩ | ⟨address, herror, hsome⟩
  · rw [run_bind, run_bind, hrun]
    generalize r'.run c = o at hnone
    obtain ⟨result, c', events⟩ := o
    cases result with
    | error e => exact .inl ⟨rfl, nofun⟩
    | ok a =>
      rcases hnext a (hnone a rfl) c' with ⟨hrun', hnone'⟩ | hstopped
      · exact .inl ⟨by simp only [Outcome.andThen_ok, hrun'], hnone'⟩
      · exact .inr hstopped
  · refine .inr ⟨address, result_bind_of_error herror, fun b hb => ?_⟩
    obtain ⟨a, ha, hb⟩ := result_bind_eq_ok.mp hb
    exact hstop a address (hsome a ha) _ b hb

/-- What is read alike by both comes first. -/
theorem bind_same {first : β → Option (List Nat)} {r : Reader α} {next next' : α → Reader β}
    (hnext : ∀ a, Limited limit path first (next a) (next' a)) :
    Limited limit path first (r >>= next) (r >>= next') := by
  have hsame : Limited limit path (fun _ => none) r r := refl fun _ _ _ => rfl
  exact hsame.bind (fun a _ => hnext a) fun _ _ => nofun

/-- What is read alike by both comes last. -/
theorem bind_alike {first : α → Option (List Nat)} {first' : β → Option (List Nat)}
    {r r' : Reader α} {next : α → Reader β} (hr : Limited limit path first r r')
    (hnext : ∀ a c b, ((next a).run c).result = .ok b → first' b = first a) :
    Limited limit path first' (r >>= next) (r' >>= next) :=
  hr.bind (fun a ha => refl fun c b hb => (hnext a c b hb).trans ha)
    fun a _ ha c b hb => (hnext a c b hb).trans ha

/-- A limit seen from the enclosing function. -/
theorem nested {first : α → Option (List Nat)} {r r' : Reader α} {i : Nat}
    (hr : Limited limit (Path.function path i) first r r') :
    Limited limit path (fun a => (first a).map (i :: ·)) r r' := by
  intro c
  rcases hr c with ⟨hrun, hnone⟩ | ⟨address, herror, hsome⟩
  · exact .inl ⟨hrun, fun a ha => Option.map_eq_none_iff.mpr (hnone a ha)⟩
  · exact .inr ⟨i :: address, herror, fun a ha => congrArg (Option.map (i :: ·)) (hsome a ha)⟩

/-! ## Functions -/

theorem entry_path (path : String) (i : Nat) :
    Path.field path "functions" ++ Path.index i = Path.function path i := by
  rw [Path.field, Path.function, @String.append_assoc path]
  rfl

/-- The limit stops a table of functions at the first of them that is too deep. -/
theorem entries {levels : Nat} {entry entry' : String → Reader Prototype}
    (h : ∀ path, Limited limit path (fun p => p.firstAt? levels) (entry path) (entry' path))
    (path : String) (i n : Nat) :
    Limited limit path (fun ps => Prototype.firstFrom? i ps levels)
      (Qualified.entries entry (Path.field path "functions") i n)
      (Qualified.entries entry' (Path.field path "functions") i n) := by
  induction n generalizing i with
  | zero =>
    refine refl fun c ps hps => ?_
    obtain rfl : [] = ps := Except.ok.inj hps
    rfl
  | succ n ih =>
    rw [Qualified.entries, Qualified.entries, entry_path]
    refine (h (Path.function path i)).nested.bind (fun p hp => ?_) fun p address hp c ps hps => ?_
    · refine (ih (i + 1)).bind_alike fun qs c ps hps => ?_
      obtain rfl : p :: qs = ps := Except.ok.inj hps
      rw [Prototype.firstFrom?_cons, hp, Option.none_or]
    · obtain ⟨qs, _, hps⟩ := result_bind_eq_ok.mp hps
      obtain rfl : p :: qs = ps := Except.ok.inj hps
      rw [Prototype.firstFrom?_cons, hp, Option.some_or]

end Limited

/-- **The limit stops the reader of a function at the first function that is too deep**, by the
levels that it allows. -/
theorem limited_prototype (limit limit' : Nat) {levels levels' : Nat} (h : levels ≤ levels')
    (depth : Nat) (path : String) :
    Limited limit path (fun p => p.firstAt? levels) (Qualified.prototype limit levels depth path)
      (Qualified.prototype limit' levels' depth path) := by
  induction levels generalizing levels' depth path with
  | zero => exact fun c => .inr ⟨[], rfl, fun p _ => p.firstAt?_zero⟩
  | succ levels ih =>
    obtain ⟨levels', rfl⟩ : ∃ n, levels' = n + 1 := ⟨levels' - 1, by omega⟩
    have hfunctions := Limited.entries (ih (Nat.le_of_succ_le_succ h) (depth + 1))
    refine Limited.bind_same fun source => Limited.bind_same fun line =>
      Limited.bind_same fun parameters => Limited.bind_same fun vararg =>
      Limited.bind_same fun stack => Limited.bind_same fun locals => Limited.bind_same fun lines =>
      Limited.bind_same fun strings => Limited.bind_same fun numbers =>
      (Limited.bind_same fun n => hfunctions path 0 n).bind_alike fun functions c p hp => ?_
    -- what follows the nested functions leaves them as they are
    obtain ⟨code, -, hp⟩ := result_bind_eq_ok.mp hp
    obtain ⟨-, -, hp⟩ := result_bind_eq_ok.mp hp
    rw [← Except.ok.inj hp, Prototype.firstAt?_succ]

end Reader

namespace ChunkFile

open Reader

theorem limited_file (options : LoadOptions) {d d' : Nat} (h : d ≤ d') :
    Limited d "main" (fun f : ChunkFile => f.main.firstAt? (d + 1))
      (read { options with maxDepth := d }) (read { options with maxDepth := d' }) := by
  rw [read_eq_qualified, read_eq_qualified]
  refine Limited.bind_same fun header => Limited.bind_same fun _ =>
    Limited.bind_same fun selfCheck => Limited.bind_same fun _ =>
    (limited_prototype d d' (Nat.succ_le_succ h) 0 "main").bind_alike fun main c f hf => ?_
  obtain ⟨c', -, hf⟩ := result_bind_eq_ok.mp hf
  obtain ⟨-, -, hf⟩ := result_bind_eq_ok.mp hf
  rw [← Except.ok.inj hf]

/-- **Files under two limits.**  The lower limit makes no difference, or it stops the reader at the
first function below it in pre-order. -/
theorem ofBytes_limited (options : LoadOptions) (bytes : List UInt8) {d d' : Nat} (h : d ≤ d') :
    (ofBytes { options with maxDepth := d } bytes = ofBytes { options with maxDepth := d' } bytes
      ∧ ∀ f, ofBytes { options with maxDepth := d' } bytes = .ok f → f.main.height ≤ d)
    ∨ ∃ address,
      ofBytes { options with maxDepth := d } bytes
          = .error (.tooDeeplyNested (Path.nested "main" address) d)
        ∧ ∀ f, ofBytes { options with maxDepth := d' } bytes = .ok f →
          f.main.firstAt? (d + 1) = some address := by
  by_cases hlen : bytes.length ≤ options.maxLength
  · have hrun (n : Nat) : ofBytes { options with maxDepth := n } bytes = _ := ofBytes_of_le hlen
    rw [hrun, hrun]
    rcases limited_file options h (Cursor.start bytes .little options.charset) with
      ⟨hrun, hnone⟩ | hstopped
    · refine .inl ⟨congrArg Outcome.result hrun, fun f hf => ?_⟩
      exact Nat.le_of_lt_succ (Prototype.firstAt?_eq_none_iff.mp (hnone f hf))
    · exact .inr hstopped
  · have hlarge (n : Nat) : ofBytes { options with maxDepth := n } bytes
        = .error (.inputTooLarge bytes.length options.maxLength) := by
      rw [ofBytes, load, if_pos (Nat.not_le.mp hlen)]
    refine .inl ⟨by rw [hlarge, hlarge], fun f hf => ?_⟩
    rw [hlarge] at hf
    cases hf

/-- **The limit on nesting is exact.**  A file that is accepted under one limit is accepted as the
same tree under every limit that its height does not exceed, and its height does not exceed the one
it was accepted under; under a lower limit it is refused for the first function, in pre-order, one
level below that limit.  Whatever the file, an outcome other than such a refusal stays the same
under every higher limit. -/
theorem ofBytes_maxDepth (options : LoadOptions) (bytes : List UInt8) :
    (∀ D f, ofBytes { options with maxDepth := D } bytes = .ok f →
      f.main.height ≤ D
      ∧ (∀ d, f.main.height ≤ d → ofBytes { options with maxDepth := d } bytes = .ok f)
      ∧ ∀ d, d < f.main.height →
        ∃ address, f.main.firstAt? (d + 1) = some address
          ∧ ofBytes { options with maxDepth := d } bytes
            = .error (.tooDeeplyNested (Path.nested "main" address) d))
    ∧ ∀ d d', d ≤ d' →
      (∀ path limit,
        ofBytes { options with maxDepth := d } bytes ≠ .error (.tooDeeplyNested path limit)) →
      ofBytes { options with maxDepth := d' } bytes
        = ofBytes { options with maxDepth := d } bytes := by
  have hhigher (d d' : Nat) (h : d ≤ d')
      (hne : ∀ path limit,
        ofBytes { options with maxDepth := d } bytes ≠ .error (.tooDeeplyNested path limit)) :
      ofBytes { options with maxDepth := d' } bytes
        = ofBytes { options with maxDepth := d } bytes := by
    rcases ofBytes_limited options bytes h with ⟨hsame, -⟩ | ⟨address, herror, -⟩
    · exact hsame.symm
    · exact absurd herror (hne _ _)
  refine ⟨fun D f hf => ?_, hhigher⟩
  have hheight : f.main.height ≤ D := by
    rcases ofBytes_limited options bytes (Nat.le_refl D) with ⟨-, hle⟩ | ⟨address, herror, -⟩
    · exact hle f hf
    · rw [hf] at herror
      cases herror
  refine ⟨hheight, fun d hd => ?_, fun d hd => ?_⟩
  · rcases Nat.le_total D d with hle | hle
    · rw [hhigher D d hle (by rw [hf]; exact nofun), hf]
    · rcases ofBytes_limited options bytes hle with ⟨hsame, -⟩ | ⟨address, -, hfirst⟩
      · rw [hsame, hf]
      · -- a function below the limit would make the tree higher than it is
        have hnone := Prototype.firstAt?_eq_none_iff.mpr (Nat.lt_succ_of_le hd)
        rw [hfirst f hf] at hnone
        cases hnone
  · rcases ofBytes_limited options bytes (Nat.le_of_lt (Nat.lt_of_lt_of_le hd hheight)) with
      ⟨-, hle⟩ | ⟨address, herror, hfirst⟩
    · exact absurd (hle f hf) (Nat.not_le.mpr hd)
    · exact ⟨address, hfirst f hf, herror⟩

end ChunkFile

namespace Image.File

/-- A script of two nested functions, the second with one of its own. -/
def thicket : File where
  header := ⟨0x40, .little⟩
  selfCheck := SelfCheck.expected
  main :=
    let leaf : Function := ⟨[], 0, 0, 0, 1, [], [], [], [], [], [⟨0⟩]⟩
    let branch : Function := ⟨[], 0, 0, 0, 1, [], [], [], [], [leaf], [⟨0⟩]⟩
    ⟨[], 0, 0, 0, 1, [], [], [], [], [leaf, branch], [⟨0⟩]⟩

theorem thicket_admissible : thicket.Admissible .default where
  fits := by simp [thicket, Function.Fits, Function.FitsAll, lengthBound]
  height_le := by decide
  agrees _ := by decide

end Image.File

namespace ChunkFile

open Image.File

theorem ofBytes_maxDepth_thicket :
    ofBytes { LoadOptions.default with maxDepth := 1000 } thicket.bytes
        = .ok (thicket.interpret .utf8)
      ∧ (thicket.interpret .utf8).main.height = 2
      ∧ ofBytes { LoadOptions.default with maxDepth := 2 } thicket.bytes
        = .ok (thicket.interpret .utf8)
      ∧ ofBytes { LoadOptions.default with maxDepth := 1 } thicket.bytes
        = .error (.tooDeeplyNested "main.functions[1].functions[0]" 1)
      ∧ ofBytes { LoadOptions.default with maxDepth := 0 } thicket.bytes
        = .error (.tooDeeplyNested "main.functions[0]" 0) := by
  have hok : ofBytes .default (thicket.bytes ++ []) = .ok (thicket.interpret .utf8) :=
    ofBytes_bytes_append thicket_admissible (by decide +kernel)
  rw [List.append_nil] at hok
  have hheight : (thicket.interpret .utf8).main.height = 2 := by decide
  obtain ⟨-, hle, hlt⟩ := (ofBytes_maxDepth .default thicket.bytes).1 1000 _ hok
  refine ⟨hok, hheight, hle 2 (Nat.le_of_eq hheight), ?_, ?_⟩
  · obtain ⟨address, haddress, herror⟩ := hlt 1 (by rw [hheight]; decide)
    obtain rfl : [1, 0] = address := Option.some.inj haddress
    exact herror
  · obtain ⟨address, haddress, herror⟩ := hlt 0 (by rw [hheight]; decide)
    obtain rfl : [0] = address := Option.some.inj haddress
    exact herror

end ChunkFile

end LuaChunk
