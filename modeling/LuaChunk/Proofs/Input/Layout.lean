import LuaChunk.Proofs.Input.Run

/-!
# Proofs/Input/Layout — readers and what they accept

A **layout** says how raw values stand in a file: the bytes of each, what a reader makes of it, and
what is reported on the way.  `Reader.Reads r L` ties a reader to a layout, in three parts:

* `complete` — what the layout writes, the reader reads, up to its last byte and no further;
* `sound` — what the reader accepts, the layout has written;
* `prefixFree` — no two raw values are written so that one could be taken for the other.

The rules `bind`, `expect`, `reshape`, `within` and `entries` build layouts of readers in several
steps from those of the steps; only readers that decide by a value how to go on are run by hand.
-/

namespace LuaChunk

/-- How raw values stand in a file. -/
structure Layout (ρ α : Type) where
  /-- The bytes that a raw value is written as. -/
  bytes : ByteOrder → ρ → List UInt8
  /-- What a reader makes of it. -/
  value : Charset → ρ → α
  /-- What it reports on the way. -/
  events : Charset → ρ → List Event
  /-- Whether it can be written at all. -/
  fits : ρ → Prop

namespace Reader

variable {α β ρ σ : Type}

/-- **A reader reads a layout**: it accepts what the layout writes and nothing else. -/
structure Reads (r : Reader α) (L : Layout ρ α) : Prop where
  complete : ∀ {c : Cursor} {x : ρ} {tail : List UInt8}, L.fits x →
    c.rest = L.bytes c.order x ++ tail →
      r.run c = ⟨.ok (L.value c.charset x), c.advance (L.bytes c.order x).length,
        L.events c.charset x⟩
  sound : ∀ {c : Cursor} {a : α}, (r.run c).result = .ok a →
    ∃ x tail, L.fits x ∧ c.rest = L.bytes c.order x ++ tail
  prefixFree : ∀ (order : ByteOrder) {x y : ρ} {s t : List UInt8}, L.fits x → L.fits y →
    L.bytes order x ++ s = L.bytes order y ++ t → x = y ∧ s = t

namespace Reads

/-- What a reader accepts comes with the raw value that it was made of. -/
theorem exists_raw {r : Reader α} {L : Layout ρ α} {c : Cursor} {a : α} (hr : r.Reads L)
    (hok : (r.run c).result = .ok a) :
    ∃ x tail, L.fits x ∧ c.rest = L.bytes c.order x ++ tail ∧ L.value c.charset x = a := by
  obtain ⟨x, tail, hx, hrest⟩ := hr.sound hok
  rw [hr.complete hx hrest] at hok
  exact ⟨x, tail, hx, hrest, Except.ok.inj hok⟩

/-- The outcome on written bytes, with the cursor in full. -/
theorem run_eq {r : Reader α} {L : Layout ρ α} {c : Cursor} {x : ρ} {tail : List UInt8}
    (hr : r.Reads L) (hx : L.fits x) (hrest : c.rest = L.bytes c.order x ++ tail) :
    r.run c = ⟨.ok (L.value c.charset x),
      ⟨tail, c.position + (L.bytes c.order x).length, c.order, c.charset⟩,
      L.events c.charset x⟩ := by
  rw [hr.complete hx hrest, Cursor.advance_length hrest]

/-- Nothing to read. -/
theorem pure (a : α) :
    (Pure.pure a : Reader α).Reads
      ⟨fun _ (_ : Unit) => [], fun _ _ => a, fun _ _ => [], fun _ => True⟩ where
  complete _ _ := rfl
  sound {c} _ _ := ⟨(), c.rest, trivial, rfl⟩
  prefixFree _ _ _ _ _ _ _ h := ⟨rfl, h⟩

/-- Nothing to read, and a last report. -/
theorem report (e : Event) (a : α) :
    (Reader.report e >>= fun _ => Pure.pure a : Reader α).Reads
      ⟨fun _ (_ : Unit) => [], fun _ _ => a, fun _ _ => [e], fun _ => True⟩ where
  complete _ _ := rfl
  sound {c} _ _ := ⟨(), c.rest, trivial, rfl⟩
  prefixFree _ _ _ _ _ _ _ h := ⟨rfl, h⟩

/-- A reader that never succeeds, for a layout that writes nothing. -/
theorem fail (e : Fault) (L : Layout ρ α) (h : ∀ x, ¬ L.fits x) : (Reader.fail e).Reads L where
  complete hx := absurd hx (h _)
  sound hok := absurd hok result_fail_ne_ok
  prefixFree _ _ _ _ _ hx := absurd hx (h _)

/-- **Two readers in a row read the one layout behind the other.**  The second may use the value of
the first, but neither its bytes nor its limits may depend on it. -/
theorem bind {r : Reader α} {next : α → Reader β} {L : Layout ρ α}
    {bytes : ByteOrder → σ → List UInt8} {value : α → Charset → σ → β}
    {events : α → Charset → σ → List Event} {fits : σ → Prop}
    (hr : r.Reads L) (hnext : ∀ a, (next a).Reads ⟨bytes, value a, events a, fits⟩) :
    (r >>= next).Reads
      ⟨fun order (p : ρ × σ) => L.bytes order p.1 ++ bytes order p.2,
        fun charset p => value (L.value charset p.1) charset p.2,
        fun charset p => L.events charset p.1 ++ events (L.value charset p.1) charset p.2,
        fun p => L.fits p.1 ∧ fits p.2⟩ where
  complete := by
    intro c ⟨x, y⟩ tail ⟨hx, hy⟩ hrest
    rw [List.append_assoc] at hrest
    have hmid := Cursor.rest_advance_length hrest
    rw [run_bind, hr.complete hx hrest, Outcome.andThen_ok, (hnext _).complete hy hmid]
    simp only [Cursor.advance_advance, Cursor.charset_advance, Cursor.order_advance,
      List.length_append]
  sound := by
    intro c b hok
    obtain ⟨a, ha, hb⟩ := result_bind_eq_ok.mp hok
    obtain ⟨x, mid, hx, hrest⟩ := hr.sound ha
    rw [hr.complete hx hrest] at hb
    obtain ⟨y, tail, hy, hmid⟩ := (hnext a).sound hb
    rw [Cursor.rest_advance_length hrest] at hmid
    exact ⟨(x, y), tail, ⟨hx, hy⟩, by rw [hrest, hmid, List.append_assoc]; rfl⟩
  prefixFree := by
    intro order ⟨x, y⟩ ⟨x', y'⟩ s t ⟨hx, hy⟩ ⟨hx', hy'⟩ heq
    rw [List.append_assoc, List.append_assoc] at heq
    obtain ⟨rfl, heq'⟩ := hr.prefixFree order hx hx' heq
    obtain ⟨a⟩ : Nonempty α := ⟨L.value default x⟩
    obtain ⟨rfl, rfl⟩ := (hnext a).prefixFree order hy hy' heq'
    exact ⟨rfl, rfl⟩

/-- A report before the rest. -/
theorem reportIf {next : Reader β} {M : Layout σ β} (hnext : next.Reads M) (b : Bool) (e : Event) :
    (Reader.reportIf b e >>= fun _ => next).Reads
      ⟨M.bytes, M.value, fun charset y => (if b then [e] else []) ++ M.events charset y,
        M.fits⟩ where
  complete hy hrest := by rw [run_bind, run_reportIf, Outcome.andThen_ok, hnext.complete hy hrest]
  sound hok := by
    obtain ⟨_, _, hok⟩ := result_bind_eq_ok.mp hok
    rw [run_reportIf] at hok
    exact hnext.sound hok
  prefixFree := hnext.prefixFree

/-- **One value alone is accepted**, and then the rest is read.  The value is no part of the raw
value, since it is always the same. -/
theorem expect [BEq α] [LawfulBEq α] {r : Reader α} {next : Reader β} {L : Layout α α}
    {M : Layout σ β} {b : α} (e : α → Fault) (hr : r.Reads L) (hnext : next.Reads M)
    (hfits : L.fits b) (hvalue : ∀ charset x, L.value charset x = x)
    (hevents : ∀ charset x, L.events charset x = []) :
    (r >>= fun a => if a != b then Reader.fail (e a) else next).Reads
      ⟨fun order y => L.bytes order b ++ M.bytes order y, M.value, M.events, M.fits⟩ where
  complete := by
    intro c y tail hy hrest
    rw [List.append_assoc] at hrest
    have hmid := Cursor.rest_advance_length hrest
    rw [run_bind, hr.complete hfits hrest, Outcome.andThen_ok, hvalue, hevents, bne_self_eq_false,
      if_neg Bool.false_ne_true, hnext.complete hy hmid]
    simp only [Cursor.advance_advance, Cursor.charset_advance, Cursor.order_advance,
      List.length_append, List.nil_append]
  sound := by
    intro c a hok
    obtain ⟨b', hb', hok⟩ := result_bind_eq_ok.mp hok
    obtain ⟨x, mid, hx, hrest, hxb⟩ := hr.exists_raw hb'
    rw [hvalue] at hxb
    subst hxb
    rw [hr.complete hx hrest] at hok
    by_cases hne : (x != b) = true
    · rw [if_pos hne] at hok
      exact absurd hok result_fail_ne_ok
    · obtain rfl : x = b := by simpa using hne
      rw [if_neg hne] at hok
      obtain ⟨y, tail, hy, hmid⟩ := hnext.sound hok
      rw [Cursor.rest_advance_length hrest] at hmid
      exact ⟨y, tail, hy, by rw [hrest, hmid, List.append_assoc]; rfl⟩
  prefixFree := by
    intro order y y' s t hy hy' heq
    rw [List.append_assoc, List.append_assoc] at heq
    exact hnext.prefixFree order hy hy' (List.append_cancel_left heq)

/-- **The same bytes under other raw values.**  Every raw value of the one layout stands for one of
the other, written and read alike, and all of the other are stood for. -/
theorem reshape {r : Reader α} {L : Layout ρ α} {M : Layout σ α} (hr : r.Reads L) (f : ρ → σ)
    (hfits : ∀ x, L.fits x → M.fits (f x)) (honto : ∀ y, M.fits y → ∃ x, L.fits x ∧ f x = y)
    (hbytes : ∀ order x, L.fits x → M.bytes order (f x) = L.bytes order x)
    (hvalue : ∀ charset x, L.fits x → M.value charset (f x) = L.value charset x)
    (hevents : ∀ charset x, L.fits x → M.events charset (f x) = L.events charset x) :
    r.Reads M where
  complete := by
    intro c y tail hy hrest
    obtain ⟨x, hx, rfl⟩ := honto y hy
    rw [hbytes _ _ hx] at hrest ⊢
    rw [hvalue _ _ hx, hevents _ _ hx]
    exact hr.complete hx hrest
  sound := by
    intro c a hok
    obtain ⟨x, tail, hx, hrest⟩ := hr.sound hok
    exact ⟨f x, tail, hfits x hx, by rw [hbytes _ _ hx, hrest]⟩
  prefixFree := by
    intro order y y' s t hy hy' heq
    obtain ⟨x, hx, rfl⟩ := honto y hy
    obtain ⟨x', hx', rfl⟩ := honto y' hy'
    rw [hbytes _ _ hx, hbytes _ _ hx'] at heq
    obtain ⟨rfl, rfl⟩ := hr.prefixFree order hx hx' heq
    exact ⟨rfl, rfl⟩

/-- The path of a fault is no part of a layout. -/
theorem within {r : Reader α} {L : Layout ρ α} (hr : r.Reads L) (segment : String) :
    (Reader.within segment r).Reads L where
  complete hx hrest := by
    rw [run_within, hr.complete hx hrest]
    rfl
  sound hok := hr.sound (result_within_eq_ok.mp hok)
  prefixFree := hr.prefixFree

/-- **The entries of a table stand one behind the other.** -/
theorem entries {r : Reader α} {L : Layout ρ α} (hr : r.Reads L) (i n : Nat) :
    (Reader.entries r i n).Reads
      ⟨fun order (xs : List ρ) => xs.flatMap (L.bytes order),
        fun charset xs => xs.map (L.value charset),
        fun charset xs => xs.flatMap (L.events charset),
        fun xs => xs.length = n ∧ ∀ x ∈ xs, L.fits x⟩ := by
  induction n generalizing i with
  | zero =>
    refine (Reads.pure []).reshape (fun _ => []) ?_ ?_ ?_ ?_ ?_
    · exact fun _ _ => ⟨rfl, nofun⟩
    · exact fun xs hxs => ⟨(), trivial, (List.length_eq_zero_iff.mp hxs.1).symm⟩
    all_goals exact fun _ _ _ => rfl
  | succ n ih =>
    refine ((hr.within _).bind fun a => (ih (i + 1)).bind fun as => Reads.pure (a :: as)).reshape
      (fun p => p.1 :: p.2.1) ?_ ?_ ?_ ?_ ?_
    · rintro ⟨x, xs, _⟩ ⟨hx, ⟨hlen, hxs⟩, _⟩
      exact ⟨by rw [List.length_cons, hlen], List.forall_mem_cons.mpr ⟨hx, hxs⟩⟩
    · rintro (_ | ⟨x, xs⟩) ⟨hlen, hxs⟩
      · exact absurd hlen (by simp)
      · obtain ⟨hx, hxs⟩ := List.forall_mem_cons.mp hxs
        exact ⟨(x, xs, ()), ⟨hx, ⟨Nat.succ.inj hlen, hxs⟩, trivial⟩, rfl⟩
    · exact fun _ _ _ => by simp
    · exact fun _ _ _ => rfl
    · exact fun _ _ _ => by simp

end Reads

end Reader

end LuaChunk
