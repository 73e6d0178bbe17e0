import Mathlib.Algebra.GroupWithZero.Nat
import LuaChunk.Proofs.Input.Field
import LuaChunk.Proofs.Input.Online
import LuaChunk.Proofs.Input.Paths

/-!
# Proofs/Input/Spans — the reads that a value is made of

A reader gets its bytes a few at a time, each few under the path of a field: a **span**.  Placed one
behind the other from some position on, spans become **extents**, which tile what they cover
(`tiles_place`).

A reader is **itemized** if the values of its layout come in spans, and if the reader, when the
bytes end within an extent, fails with the path, the place and the length of that extent.  Only
`take` has a span of its own.  The rules `bind`, `expect`, `itemized_entries` and `itemized_table`
line up those of the parts, and `carry` moves them to other raw values.
-/

namespace LuaChunk

/-- **A span**: a number of bytes that are read at once, under the path of a field. -/
structure Span where
  path : String
  length : Nat
  pos : 0 < length
  deriving DecidableEq, Repr

/-- A span at its place in a file. -/
structure Extent where
  path : String
  start : Nat
  length : Nat
  deriving DecidableEq, Repr

namespace Extent

/-- Whether a position is in an extent. -/
def Covers (e : Extent) (k : Nat) : Prop := e.start ≤ k ∧ k < e.start + e.length

instance (e : Extent) (k : Nat) : Decidable (e.Covers k) := inferInstanceAs (Decidable (_ ∧ _))

/-- What is said of a file that ends within an extent. -/
def fault (e : Extent) (size : Nat) : Fault := .truncated e.path e.start e.length (size - e.start)

end Extent

/-! ## Tilings -/

/-- **Extents that tile an interval**: each starts where the one before it ends. -/
inductive Tiles : Nat → List Extent → Nat → Prop
  | nil (a : Nat) : Tiles a [] a
  | cons {e : Extent} {es : List Extent} {b : Nat} (pos : 0 < e.length)
    (rest : Tiles (e.start + e.length) es b) : Tiles e.start (e :: es) b

namespace Tiles

variable {a b k : Nat} {es : List Extent} {e e' : Extent}

theorem le (h : Tiles a es b) : a ≤ b := by
  induction h with
  | nil a => exact Nat.le_refl a
  | cons pos rest ih => omega

theorem bounds (h : Tiles a es b) (he : e ∈ es) : a ≤ e.start ∧ e.start + e.length ≤ b := by
  induction h with
  | nil a => exact absurd he List.not_mem_nil
  | cons pos rest ih =>
    rcases List.mem_cons.mp he with rfl | he
    · exact ⟨Nat.le_refl _, rest.le⟩
    · have hrest := ih he
      omega

theorem exists_covers (h : Tiles a es b) (hle : a ≤ k) (hlt : k < b) : ∃ e ∈ es, e.Covers k := by
  induction h with
  | nil a => omega
  | @cons e es b pos rest ih =>
    by_cases hk : k < e.start + e.length
    · exact ⟨e, List.mem_cons_self, hle, hk⟩
    · obtain ⟨e', he', hcovers⟩ := ih (by omega) hlt
      exact ⟨e', List.mem_cons_of_mem e he', hcovers⟩

theorem eq_of_covers (h : Tiles a es b) (he : e ∈ es) (he' : e' ∈ es) (hk : e.Covers k)
    (hk' : e'.Covers k) : e = e' := by
  obtain ⟨hle, hlt⟩ := hk
  obtain ⟨hle', hlt'⟩ := hk'
  induction h with
  | nil a => exact absurd he List.not_mem_nil
  | cons pos rest ih =>
    rcases List.mem_cons.mp he with rfl | hmem <;> rcases List.mem_cons.mp he' with rfl | hmem'
    · rfl
    · have hstart := (rest.bounds hmem').1
      omega
    · have hstart := (rest.bounds hmem).1
      omega
    · exact ih hmem hmem'

end Tiles

namespace Span

def byte (path : String) : Span := ⟨path, 1, by decide⟩

def word (path : String) : Span := ⟨path, 4, by decide⟩

def number (path : String) : Span := ⟨path, 8, by decide⟩

/-- The length of spans one behind the other. -/
def total (ss : List Span) : Nat := (ss.map length).sum

@[simp] theorem total_nil : total [] = 0 := rfl

@[simp] theorem total_cons (s : Span) (ss : List Span) : total (s :: ss) = s.length + total ss :=
  List.sum_cons

@[simp] theorem total_append (ss ts : List Span) : total (ss ++ ts) = total ss + total ts := by
  simp only [total, List.map_append, List.sum_append_nat]

/-- The extents of spans from a position on. -/
def place (start : Nat) : List Span → List Extent
  | [] => []
  | s :: ss => ⟨s.path, start, s.length⟩ :: place (start + s.length) ss

theorem place_append (start : Nat) (ss ts : List Span) :
    place start (ss ++ ts) = place start ss ++ place (start + total ss) ts := by
  induction ss generalizing start with
  | nil => rfl
  | cons s ss ih =>
    rw [List.cons_append, place, ih, total_cons, ← Nat.add_assoc]
    rfl

/-- **Spans one behind the other tile what they cover.** -/
theorem tiles_place (start : Nat) (ss : List Span) :
    Tiles start (place start ss) (start + total ss) := by
  induction ss generalizing start with
  | nil => exact Tiles.nil start
  | cons s ss ih =>
    have hrest := ih (start + s.length)
    rw [Nat.add_assoc, ← total_cons] at hrest
    exact Tiles.cons (e := ⟨s.path, start, s.length⟩) s.pos hrest

end Span

namespace Reader

open LuaChunk.Span

variable {α β ρ σ : Type}

/-- **A reader whose values come in spans**: when the bytes end within an extent, it says so. -/
structure Itemized (r : Reader α) (L : Layout ρ α) (spans : ρ → List Span) : Prop
    extends Reads r L where
  length_bytes : ∀ (order : ByteOrder) {x : ρ}, L.fits x →
    (L.bytes order x).length = total (spans x)
  short : ∀ {c : Cursor} {x : ρ} {e : Extent}, L.fits x → c.rest <+: L.bytes c.order x →
    e ∈ place c.position (spans x) → e.Covers c.size → (r.run c).result = .error (e.fault c.size)

/-- **Bytes in two parts end in the first or in the second**, and so does the extent that they end
in. -/
theorem prefix_append_cases {c : Cursor} {first second : List UInt8} {ss ts : List Span}
    {e : Extent} (hlength : first.length = total ss) (hstarts : c.rest <+: first ++ second)
    (he : e ∈ place c.position (ss ++ ts)) (hcovers : e.Covers c.size) :
    (c.rest <+: first ∧ e ∈ place c.position ss)
      ∨ ∃ rest, c.rest = first ++ rest ∧ rest <+: second
        ∧ e ∈ place (c.position + first.length) ts := by
  obtain ⟨hle, hlt⟩ := hcovers
  rw [Cursor.size, Cursor.remaining] at hle hlt
  rw [place_append, ← hlength] at he
  rcases List.mem_append.mp he with he | he
  · have hend := ((tiles_place _ _).bounds he).2
    rw [← hlength] at hend
    exact .inl ⟨List.prefix_of_prefix_length_le hstarts (List.prefix_append _ _) (by omega), he⟩
  · have hstart := ((tiles_place _ _).bounds he).1
    obtain ⟨rest, hrest⟩ :=
      List.prefix_of_prefix_length_le (List.prefix_append first second) hstarts (by omega)
    rw [← hrest, List.prefix_append_right_inj] at hstarts
    exact .inr ⟨rest, hrest.symm, hstarts, he⟩

/-- **A reader in two steps runs out of bytes in one of them.** -/
theorem result_bind_of_short {r : Reader α} {next : α → Reader β} {c : Cursor} {a : α}
    {first second : List UInt8} {ss ts : List Span} {e : Extent}
    (hlength : first.length = total ss) (hstarts : c.rest <+: first ++ second)
    (he : e ∈ place c.position (ss ++ ts)) (hcovers : e.Covers c.size)
    (hfirst : c.rest <+: first → e ∈ place c.position ss →
      (r.run c).result = .error (e.fault c.size))
    (hread : ∀ rest, c.rest = first ++ rest → (r.run c).result = .ok a
      ∧ (r.run c).cursor = c.advance first.length)
    (hsecond : ∀ c' : Cursor, c'.order = c.order → c'.rest <+: second →
      e ∈ place c'.position ts → e.Covers c'.size →
        ((next a).run c').result = .error (e.fault c'.size)) :
    ((r >>= next).run c).result = .error (e.fault c.size) := by
  rcases prefix_append_cases hlength hstarts he hcovers with
    ⟨hshort, he⟩ | ⟨rest, hrest, hshort, he⟩
  · exact result_bind_of_error (hfirst hshort he)
  · obtain ⟨hok, hcursor⟩ := hread rest hrest
    have hsize : (c.advance first.length).size = c.size := by
      refine Cursor.size_advance ?_
      rw [Cursor.remaining, hrest, List.length_append]
      exact Nat.le_add_right _ _
    rw [result_bind_of_ok hok, hcursor, ← hsize]
    refine hsecond _ rfl ?_ he (hsize ▸ hcovers)
    rw [Cursor.rest_advance_length hrest]
    exact hshort

namespace Itemized

theorem read {r : Reader α} {L : Layout ρ α} {spans : ρ → List Span} {c : Cursor} {x : ρ}
    {rest : List UInt8} (hr : r.Itemized L spans) (hx : L.fits x)
    (hrest : c.rest = L.bytes c.order x ++ rest) :
    (r.run c).result = .ok (L.value c.charset x)
      ∧ (r.run c).cursor = c.advance (L.bytes c.order x).length := by
  rw [hr.complete hx hrest]
  exact ⟨rfl, rfl⟩

/-- **The same spans under other raw values**, for a reader that fails as the first does. -/
theorem carry {r : Reader α} {r' : Reader β} {L : Layout ρ α} {M : Layout σ β}
    {spans : ρ → List Span} {spans' : σ → List Span} (hr : r.Itemized L spans) (hM : r'.Reads M)
    (herror : ∀ c e, (r.run c).result = .error e → (r'.run c).result = .error e)
    (h : ∀ y, M.fits y → ∃ x, L.fits x ∧ (∀ order, M.bytes order y = L.bytes order x)
      ∧ spans' y = spans x) :
    r'.Itemized M spans' where
  toReads := hM
  length_bytes order y hy := by
    obtain ⟨x, hx, hbytes, hspans⟩ := h y hy
    rw [hbytes, hspans, hr.length_bytes order hx]
  short {c y e} hy hstarts he hcovers := by
    obtain ⟨x, hx, hbytes, hspans⟩ := h y hy
    rw [hbytes] at hstarts
    rw [hspans] at he
    exact herror c _ (hr.short hx hstarts he hcovers)

/-- A reader without spans, which leaves nothing to run out of. -/
theorem of_reads {r : Reader α} {L : Layout ρ α} (hr : r.Reads L)
    (h : ∀ order x, L.fits x → L.bytes order x = []) : r.Itemized L fun _ => [] where
  toReads := hr
  length_bytes order x hx := by rw [h order x hx]; rfl
  short _ _ he := absurd he List.not_mem_nil

theorem take {n : Nat} (hn : 0 < n) (field : String) :
    (Reader.take n field).Itemized (Layout.raw n) fun _ => [⟨field, n, hn⟩] where
  toReads := reads_take n field
  length_bytes _ _ hx := hx
  short {c x e} hx hstarts he hcovers := by
    obtain rfl := List.mem_singleton.mp he
    obtain ⟨-, hlt⟩ := hcovers
    rw [Cursor.size] at hlt
    have hshort : c.remaining < n := Nat.lt_of_add_lt_add_left hlt
    rw [run_take, if_pos hshort, Extent.fault, Cursor.size, Nat.add_sub_cancel_left]

/-- **Two readers in a row have the spans of both.** -/
theorem bind {r : Reader α} {next : α → Reader β} {L : Layout ρ α}
    {bytes : ByteOrder → σ → List UInt8} {value : α → Charset → σ → β}
    {events : α → Charset → σ → List Event} {fits : σ → Prop} {spans : ρ → List Span}
    {spans' : σ → List Span} (hr : r.Itemized L spans)
    (hnext : ∀ a, (next a).Itemized ⟨bytes, value a, events a, fits⟩ spans') :
    (r >>= next).Itemized
      ⟨fun order (p : ρ × σ) => L.bytes order p.1 ++ bytes order p.2,
        fun charset p => value (L.value charset p.1) charset p.2,
        fun charset p => L.events charset p.1 ++ events (L.value charset p.1) charset p.2,
        fun p => L.fits p.1 ∧ fits p.2⟩ (fun p => spans p.1 ++ spans' p.2) where
  toReads := hr.toReads.bind fun a => (hnext a).toReads
  length_bytes order p hp := by
    obtain ⟨hx, hy⟩ := hp
    have hsecond := (hnext (L.value default p.1)).length_bytes order hy
    rw [List.length_append, total_append, hr.length_bytes order hx, ← hsecond]
  short {c p e} hp hstarts he hcovers :=
    result_bind_of_short (hr.length_bytes c.order hp.1) hstarts he hcovers
      (fun hshort he => hr.short hp.1 hshort he hcovers) (fun _ => hr.read hp.1)
      fun c' horder hshort he hcovers => (hnext _).short hp.2 (horder ▸ hshort) he hcovers

theorem reportIf {next : Reader β} {M : Layout σ β} {spans : σ → List Span}
    (hnext : next.Itemized M spans) (b : Bool) (e : Event) :
    (Reader.reportIf b e >>= fun _ => next).Itemized
      ⟨M.bytes, M.value, fun charset y => (if b then [e] else []) ++ M.events charset y, M.fits⟩
      spans :=
  hnext.carry (hnext.toReads.reportIf b e)
    (fun c f h => by rw [run_bind, run_reportIf, Outcome.andThen_ok]; exact h)
    fun y hy => ⟨y, hy, fun _ => rfl, rfl⟩

/-- The one value that is accepted has the spans of any other. -/
theorem expect [BEq α] [LawfulBEq α] {r : Reader α} {next : Reader β} {L : Layout α α}
    {M : Layout σ β} {spans : α → List Span} {spans' : σ → List Span} {b : α} (e : α → Fault)
    (hr : r.Itemized L spans) (hnext : next.Itemized M spans') (hfits : L.fits b)
    (hvalue : ∀ charset x, L.value charset x = x)
    (hevents : ∀ charset x, L.events charset x = []) :
    (r >>= fun a => if a != b then Reader.fail (e a) else next).Itemized
      ⟨fun order y => L.bytes order b ++ M.bytes order y, M.value, M.events, M.fits⟩
      (fun y => spans b ++ spans' y) where
  toReads := hr.toReads.expect e hnext.toReads hfits hvalue hevents
  length_bytes order y hy := by
    rw [List.length_append, total_append, hr.length_bytes order hfits, hnext.length_bytes order hy]
  short {c y x} hy hstarts hx hcovers := by
    refine result_bind_of_short (hr.length_bytes c.order hfits) hstarts hx hcovers
      (fun hshort he => hr.short hfits hshort he hcovers) (fun _ => hr.read hfits) ?_
    intro c' horder hshort he hcovers
    rw [hvalue, bne_self_eq_false, if_neg Bool.false_ne_true]
    exact hnext.short hy (horder ▸ hshort) he hcovers

end Itemized

/-! ## The fields -/

theorem itemized_byte (field : String) :
    (byte field).Itemized Layout.byte fun _ => [Span.byte field] :=
  (Itemized.take (by decide) field).carry (reads_byte field) (fun _ _ => result_bind_of_error)
    fun b _ => ⟨[b], rfl, fun _ => rfl, rfl⟩

theorem itemized_natural {width : Nat} (hwidth : 0 < width) (field : String) :
    (natural width field).Itemized (Layout.natural width) fun _ => [⟨field, width, hwidth⟩] where
  toReads := reads_natural width field
  length_bytes order n _ := by
    rw [total_cons, total_nil]
    exact order.length_bytes width n
  short {c n e} _ hstarts he hcovers := by
    have hlength := c.order.length_bytes width n
    exact result_bind_of_error ((Itemized.take hwidth field).short hlength hstarts he hcovers)

theorem itemized_uint32 (field : String) :
    (uint32 field).Itemized Layout.uint32 fun _ => [Span.word field] :=
  (itemized_natural (by decide) field).carry (reads_uint32 field) (fun _ _ => result_bind_of_error)
    fun w _ => ⟨w.toNat, w.toNat_lt, fun _ => rfl, rfl⟩

theorem itemized_int32 (field : String) :
    (int32 field).Itemized Layout.int32 fun _ => [Span.word field] :=
  (itemized_uint32 field).carry (reads_int32 field) (fun _ _ => result_bind_of_error)
    fun i _ => ⟨i.toUInt32, trivial, fun _ => rfl, rfl⟩

theorem itemized_binary64 (field : String) :
    (binary64 field).Itemized Layout.binary64 fun _ => [Span.number field] :=
  (itemized_natural (by decide) field).carry (reads_binary64 field)
    (fun _ _ => result_bind_of_error)
    fun x _ => ⟨x.bits.toNat, x.bits.toNat_lt, fun _ => rfl, rfl⟩

theorem itemized_count (field : String) :
    (count field).Itemized Layout.length fun _ => [Span.word field] :=
  (itemized_int32 field).carry (reads_count field) (fun _ _ => result_bind_of_error)
    fun n hn => ⟨Int32.ofNat n, trivial, fun order => (Image.int32_ofNat order hn).symm, rfl⟩

/-- **A string has two spans under one path**, its length and its bytes with the terminator. -/
def stringSpans (path : String) (payload : List UInt8) : List Span :=
  [Span.word path] ++ [⟨path, payload.length + 1, Nat.succ_pos _⟩]

theorem itemized_string (field : String) :
    (string field).Itemized Layout.string (stringSpans field) where
  toReads := reads_string field
  length_bytes order payload _ := by
    have hlength := Image.length_string order payload
    simp only [stringSpans, Span.word, total_append, total_cons, total_nil]
    exact hlength.trans (by omega)
  short {c payload e} hfits hstarts he hcovers := by
    have hlength := Image.length_length c.order (payload.length + 1)
    have hparts : c.rest <+: Image.length c.order (payload.length + 1) ++ (payload ++ [0]) := by
      rw [← List.append_assoc]
      exact hstarts
    rw [string_eq, run_cursor_bind]
    refine result_bind_of_short (a := Int32.ofNat (payload.length + 1)) hlength hparts he hcovers
      (fun hshort he => ?_) (fun rest hrest => ?_) ?_
    · -- a length is read as a signed word before it is known to be one
      rw [← Image.int32_ofNat c.order hfits] at hshort
      exact (itemized_int32 field).short trivial hshort he hcovers
    · rw [run_int32_length field hfits hrest]
      exact ⟨rfl, rfl⟩
    · intro c' horder hshort he hcovers
      have hint : (Int32.ofNat (payload.length + 1)).toInt = ((payload.length + 1 : Nat) : Int) :=
        Image.toInt_ofNat hfits
      have hneg : ¬ ((payload.length + 1 : Nat) : Int) < 0 := by omega
      have hzero : ¬ ((payload.length + 1 : Nat) : Int) = 0 := by omega
      simp only [hint, if_neg hneg, if_neg hzero, Int.toNat_natCast]
      have hall : (payload ++ [(0 : UInt8)]).length = payload.length + 1 := List.length_append
      exact result_bind_of_error
        ((Itemized.take (Nat.succ_pos _) field).short hall hshort he hcovers)

/-! ## Tables -/

/-- The spans of the entries from index `i` on of the table at a path. -/
def entrySpans (spans : String → ρ → List Span) (path : String) (i : Nat) : List ρ → List Span
  | [] => []
  | x :: xs => spans (path ++ Path.index i) x ++ entrySpans spans path (i + 1) xs

/-- The spans of the table at a path. -/
def tableSpans (spans : String → ρ → List Span) (path : String) (xs : List ρ) : List Span :=
  [Span.word path] ++ entrySpans spans path 0 xs

section Tables

variable {r : Reader α} {entry : String → Reader α} {L : Layout ρ α}
  {spans : String → ρ → List Span}

theorem itemized_entries (hr : r.Reads L) (hwithin : ∀ path, within path r = entry path)
    (hentry : ∀ path, (entry path).Itemized L (spans path)) (path : String) (i n : Nat) :
    (Qualified.entries entry path i n).Itemized
      ⟨fun order (xs : List ρ) => xs.flatMap (L.bytes order),
        fun charset xs => xs.map (L.value charset),
        fun charset xs => xs.flatMap (L.events charset),
        fun xs => xs.length = n ∧ ∀ x ∈ xs, L.fits x⟩ (entrySpans spans path i) := by
  have hreads (i n : Nat) := (hr.entries i n).within path
  simp only [within_entries hwithin] at hreads
  induction n generalizing i with
  | zero =>
    have hnone := Itemized.of_reads (Reads.pure ([] : List α)) fun _ _ _ => rfl
    refine hnone.carry (hreads i 0) (fun _ _ h => h) fun xs hxs => ?_
    obtain rfl := List.length_eq_zero_iff.mp hxs.1
    exact ⟨(), trivial, fun _ => rfl, rfl⟩
  | succ n ih =>
    have hstep := (hentry (path ++ Path.index i)).bind fun a => (ih (i + 1)).bind fun as =>
      Itemized.of_reads (Reads.pure (a :: as)) fun _ _ _ => rfl
    refine hstep.carry (hreads i (n + 1)) (fun _ _ h => h) ?_
    rintro (_ | ⟨x, xs⟩) ⟨hlength, hxs⟩
    · cases hlength
    · obtain ⟨hx, hxs⟩ := List.forall_mem_cons.mp hxs
      refine ⟨(x, xs, ()), ⟨hx, ⟨Nat.succ.inj hlength, hxs⟩, trivial⟩, fun order => ?_, ?_⟩
      · simp only [List.flatMap_cons, List.append_nil]
      · simp only [entrySpans, List.append_nil]

/-- **A table has a span for its number of entries**, and then those of the entries. -/
theorem itemized_table (hr : r.Reads L) (hwithin : ∀ path, within path r = entry path)
    (hentry : ∀ path, (entry path).Itemized L (spans path)) {name : String}
    (hname : Path.separator name = ".") (path : String) :
    (Qualified.table entry (Path.field path name)).Itemized L.table
      (tableSpans spans (Path.field path name)) := by
  have hreads := (reads_table hr name).within path
  rw [within_table hwithin hname] at hreads
  have hcount := itemized_count (Path.field path name)
  have hentries := itemized_entries hr hwithin hentry (Path.field path name) 0
  refine ⟨hreads, fun order xs hxs => ?_, fun {c xs e} hxs hstarts he hcovers => ?_⟩
  · have hlength := hcount.length_bytes order hxs.1
    have hrest := (hentries xs.length).length_bytes order (x := xs) ⟨rfl, hxs.2⟩
    rw [tableSpans, total_append, ← hrest, ← hlength]
    exact List.length_append
  · refine result_bind_of_short (hcount.length_bytes c.order hxs.1) hstarts he hcovers
      (fun hshort he => hcount.short hxs.1 hshort he hcovers) (fun _ => hcount.read hxs.1) ?_
    intro c' horder hshort he hcovers
    exact (hentries xs.length).short ⟨rfl, hxs.2⟩ (horder ▸ hshort) he hcovers

end Tables

end Reader

end LuaChunk
