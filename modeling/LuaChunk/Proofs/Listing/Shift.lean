import LuaChunk.Proofs.Listing.Lines

/-!
# Proofs/Listing/Shift — listings inside listings

A path only labels faults, so the lines of a function are the same under every path; and a depth
only moves them to the right.  `lines_relocate` says both at once, by induction on the tree: lines
at a greater depth are the lines at a smaller one, each moved (`Line.deeper`).

Hence what stands in the listing of a function for one nested in it is the listing of that function
by itself (`exists_listings_of_nestedLines`).  That depth moves the lines of the *text* and changes
nothing else (`layout_deeper`) needs more, since a text with an end of line in it would be moved in
its middle: no line has one, and no line of a function is empty.
-/

namespace LuaChunk

namespace Line

/-- A line at a greater depth. -/
def deeper (n : Nat) : Line → Line
  | .blank => .blank
  | .text depth body => .text (depth + n) body

theorem deeper_zero (l : Line) : l.deeper 0 = l := by
  cases l <;> rfl

end Line

/-! ## Text moved to the right -/

/-- A line of a text moved to the right, unless it is empty. -/
def indentRow (n : Nat) (row : List Char) : List Char :=
  if row = [] then [] else List.replicate n ' ' ++ row

/-- **A text with its lines moved to the right**, those that are empty excepted. -/
def indentText (n : Nat) (text : String) : String :=
  String.ofList (['\n'].intercalate ((text.toList.splitOn '\n').map (indentRow n)))

/-! ## Success under another path -/

namespace Prototype

theorem lookup_relocate {α : Type} {site : Site} {op : Opcode} {table : Table} {entries : List α}
    {i : Nat} {a : α} (h : lookup site op table entries i = .ok a) (site' : Site) :
    lookup site' op table entries i = .ok a := by
  unfold lookup at h ⊢
  split at h
  · exact h
  · cases h

theorem lookup_bind_relocate {α : Type} {site : Site} {op : Opcode} {table : Table}
    {entries : List α} {i : Nat} {f : α → String} {text : String}
    (h : (lookup site op table entries i >>= fun a => pure (f a)) = .ok text) (site' : Site) :
    (lookup site' op table entries i >>= fun a => pure (f a)) = .ok text := by
  obtain ⟨a, ha, htext⟩ := bind_eq_ok.mp h
  exact bind_eq_ok.mpr ⟨a, lookup_relocate ha site', htext⟩

/-- **An instruction is described alike wherever its function stands.** -/
theorem describe_relocate {p : Prototype} {path : String} {pc : Nat} {w : Word} {text : String}
    (h : p.describe ⟨path, pc⟩ w = .ok text) (path' : String) :
    p.describe ⟨path', pc⟩ w = .ok text := by
  unfold describe describeFrom at h ⊢
  split at h
  next op _ =>
    -- the site is handed on to a look-up, or not used at all
    cases op
    case pushString | pushNum | pushNegNum | getLocal | setLocal | getGlobal | setGlobal
      | closure => exact lookup_bind_relocate h _
    all_goals exact h
  next => cases h

end Prototype

namespace Plain

variable {width depth : Nat} {path : String}

theorem instructions_relocate {p : Prototype} {code : List String}
    (h : instructions p path = .ok code) (path' : String) : instructions p path' = .ok code := by
  obtain ⟨texts, htexts, hcode⟩ := bind_eq_ok.mp h
  refine bind_eq_ok.mpr ⟨texts, mapM_eq_ok.mpr ?_, hcode⟩
  have hmap := mapM_eq_ok.mp htexts
  rw [← hmap]
  refine List.map_congr_left fun e he => ?_
  have hmem : p.describe ⟨path, e.2⟩ e.1 ∈ texts.map .ok := hmap ▸ List.mem_map_of_mem he
  obtain ⟨text, -, htext⟩ := List.mem_map.mp hmem
  rw [← htext]
  exact Prototype.describe_relocate htext.symm path'

/-! ## What success takes -/

theorem lt_of_roomFor {count size n : Nat} (h : roomFor count size = .ok n) :
    count * size < signedCount := by
  unfold roomFor at h
  split at h
  · cases h
  split at h
  · cases h
  next hlt => exact Nat.not_le.mp hlt

/-- **A function has a listing if there is room, its instructions resolve, and the functions nested
in it have theirs.** -/
theorem lines_eq_ok_iff {p : Prototype} {ls : List Line} :
    lines width path depth p = .ok ls ↔
      depth * width < signedCount ∧ ∃ code nested, instructions p path = .ok code
        ∧ nestedLines width path depth 0 p.functions = .ok nested
        ∧ ls = (ownLines p code).map (.text depth) ++ nested := by
  constructor
  · intro h
    refine ⟨?_, exists_of_lines h⟩
    rw [lines_eq] at h
    obtain ⟨n, hn, -⟩ := bind_eq_ok.mp h
    cases hroom : roomFor depth width with
    | ok m => exact lt_of_roomFor hroom
    | error o =>
      rw [hroom] at hn
      cases hn
  · rintro ⟨hroom, code, nested, hcode, hnested, rfl⟩
    rw [lines_eq, roomFor_of_lt hroom, hcode, hnested]
    rfl

theorem nestedLines_cons_eq_ok_iff {i : Nat} {p : Prototype} {ps : List Prototype}
    {ls : List Line} :
    nestedLines width path depth i (p :: ps) = .ok ls ↔
      depth + 1 < wordCount ∧ ∃ first rest,
        lines width (Path.function path i) (depth + 1) p = .ok first
          ∧ nestedLines width path depth (i + 1) ps = .ok rest ∧ ls = first ++ .blank :: rest := by
  constructor
  · intro h
    refine ⟨?_, exists_of_nestedLines_cons h⟩
    rw [nestedLines] at h
    obtain ⟨deeper, hdeeper, -⟩ := bind_eq_ok.mp h
    unfold successor at hdeeper
    split at hdeeper
    next hlt => exact hlt
    next => cases hdeeper
  · rintro ⟨hdepth, first, rest, hfirst, hrest, rfl⟩
    rw [nestedLines, successor_of_lt hdepth]
    exact bind_eq_ok.mpr ⟨_, rfl, bind_eq_ok.mpr ⟨first, hfirst, bind_eq_ok.mpr ⟨rest, hrest, rfl⟩⟩⟩

/-! ## Lines moved to another place -/

variable {n : Nat}

theorem nestedLines_relocate {ps : List Prototype}
    (h : ∀ p ∈ ps, ∀ path path' depth ls, lines width path (depth + n) p = .ok ls →
      ∃ ls', lines width path' depth p = .ok ls' ∧ ls = ls'.map (Line.deeper n))
    {i : Nat} {ls : List Line} (hls : nestedLines width path (depth + n) i ps = .ok ls)
    (path' : String) :
    ∃ ls', nestedLines width path' depth i ps = .ok ls' ∧ ls = ls'.map (Line.deeper n) := by
  induction ps generalizing i ls with
  | nil =>
    cases hls
    exact ⟨[], rfl, rfl⟩
  | cons p ps ih =>
    obtain ⟨hp, hps⟩ := List.forall_mem_cons.mp h
    obtain ⟨hdepth, first, rest, hfirst, hrest, rfl⟩ := nestedLines_cons_eq_ok_iff.mp hls
    rw [Nat.add_right_comm] at hfirst
    obtain ⟨first', hfirst', rfl⟩ := hp _ (Path.function path' i) _ _ hfirst
    obtain ⟨rest', hrest', rfl⟩ := ih hps hrest
    refine ⟨first' ++ .blank :: rest', ?_, by rw [List.map_append]; rfl⟩
    exact nestedLines_cons_eq_ok_iff.mpr ⟨by omega, first', rest', hfirst', hrest', rfl⟩

/-- **Where a function stands moves its lines and changes nothing else.**  What can be listed at a
depth can be listed at any smaller one, and under any path. -/
theorem lines_relocate {p : Prototype} {ls : List Line}
    (hls : lines width path (depth + n) p = .ok ls) (path' : String) :
    ∃ ls', lines width path' depth p = .ok ls' ∧ ls = ls'.map (Line.deeper n) := by
  induction p using Prototype.nestedInduction generalizing path path' depth ls with
  | step p ih =>
    obtain ⟨hroom, code, nested, hcode, hnested, rfl⟩ := lines_eq_ok_iff.mp hls
    obtain ⟨nested', hnested', rfl⟩ :=
      nestedLines_relocate (fun q hq _ path' _ _ h => ih q hq h path') hnested path'
    have hless : depth * width < signedCount :=
      Nat.lt_of_le_of_lt (Nat.mul_le_mul_right width (Nat.le_add_right depth n)) hroom
    refine ⟨(ownLines p code).map (.text depth) ++ nested', lines_eq_ok_iff.mpr
      ⟨hless, code, nested', instructions_relocate hcode path', hnested', rfl⟩, ?_⟩
    rw [List.map_append, List.map_map]
    rfl

theorem lines_path {p : Prototype} {ls : List Line} (hls : lines width path depth p = .ok ls)
    (path' : String) : lines width path' depth p = .ok ls := by
  obtain ⟨ls', hls', rfl⟩ := lines_relocate (n := 0) hls path'
  rwa [List.map_congr_left fun l _ => l.deeper_zero, List.map_id']

/-! ## Texts moved to another place -/

/-- Every line of a listing that is not blank has something in it. -/
theorem Spread.row_ne_nil {blanks : Nat} {ms : List (Nat × Prototype)} {ls : List Line}
    (h : Spread blanks ms ls) (width : Nat) : ∀ l ∈ ls, l = .blank ∨ l.row width ≠ [] := by
  induction h with
  | nil => exact nofun
  | blank rest ih => exact List.forall_mem_cons.mpr ⟨.inl rfl, ih⟩
  | sheet hsheet hlength rest ih =>
    refine List.forall_mem_append.mpr ⟨List.forall_mem_map.mpr fun s hs => .inr ?_, ih⟩
    exact Plain.row_ne_nil (hsheet.opens s hs)

theorem row_deeper {l : Line} (h : l = .blank ∨ l.row width ≠ []) :
    (l.deeper n).row width = indentRow (n * width) (l.row width) := by
  cases l with
  | blank => rfl
  | text depth body =>
    have hne : (Line.text depth body).row width ≠ [] := h.resolve_left nofun
    have hdepth : (depth + n) * width = n * width + depth * width := by
      rw [Nat.add_mul, Nat.add_comm]
    rw [indentRow, if_neg hne, Line.deeper, Line.row, Line.row, hdepth, ← List.append_assoc,
      List.replicate_append_replicate]

/-- **Lines at a greater depth are a text moved to the right.** -/
theorem layout_deeper {ls : List Line} (hrows : ∀ l ∈ ls, l = .blank ∨ l.row width ≠ [])
    (hends : ∀ l ∈ ls, '\n' ∉ l.row width)
    (hends' : ∀ l ∈ ls.map (Line.deeper n), '\n' ∉ l.row width) :
    layout width (ls.map (Line.deeper n)) = indentText (n * width) (layout width ls) := by
  have hmoved : (ls.map (Line.deeper n)).map (Line.row width)
      = (ls.map (Line.row width)).map (indentRow (n * width)) := by
    rw [List.map_map, List.map_map]
    exact List.map_congr_left fun l hl => row_deeper (hrows l hl)
  have hsplit : (layout width (ls.map (Line.deeper n))).toList.splitOn '\n'
      = ((layout width ls).toList.splitOn '\n').map (indentRow (n * width)) := by
    rw [splitOn_layout hends, splitOn_layout hends', hmoved, List.map_append]
    rfl
  rw [indentText, ← hsplit, List.intercalate_splitOn, String.ofList_toList]

/-- **A listing is the listing at depth zero, moved to the right.** -/
theorem exists_base_of_function {p : Prototype} {text : String}
    (h : function width depth p = .ok text) :
    ∃ base, function width 0 p = .ok base ∧ text = indentText (depth * width) base := by
  obtain ⟨ls, hls, htext⟩ := bind_eq_ok.mp h
  cases htext
  have hends := (Spread.of_lines hls).newline_notMem width
  rw [← Nat.zero_add depth] at hls
  obtain ⟨base, hbase, rfl⟩ := lines_relocate hls "main"
  have hspread := Spread.of_lines hbase
  exact ⟨layout width base, bind_eq_ok.mpr ⟨base, hbase, rfl⟩,
    layout_deeper (hspread.row_ne_nil width) (hspread.newline_notMem width) hends⟩

/-! ## Listings of nested functions -/

/-- **The lines of nested functions are their listings**, each with an empty line behind it. -/
theorem exists_listings_of_nestedLines {i : Nat} {ps : List Prototype} {ls : List Line}
    (h : nestedLines width path depth i ps = .ok ls) :
    ∃ texts, List.Forall₂ (fun p text => function width (depth + 1) p = .ok text) ps texts
      ∧ layout width ls = String.join (texts.map (· ++ "\n")) := by
  induction ps generalizing i ls with
  | nil =>
    cases h
    exact ⟨[], .nil, rfl⟩
  | cons p ps ih =>
    obtain ⟨-, first, rest, hfirst, hrest, rfl⟩ := nestedLines_cons_eq_ok_iff.mp h
    obtain ⟨texts, htexts, hlayout⟩ := ih hrest
    have hfunction : function width (depth + 1) p = .ok (layout width first) :=
      bind_eq_ok.mpr ⟨first, lines_path hfirst "main", rfl⟩
    refine ⟨layout width first :: texts, .cons hfunction htexts, ?_⟩
    rw [layout_append, layout_cons, hlayout, List.map_cons, String.join_cons, String.append_assoc]
    rfl

theorem exists_parts_of_function {p : Prototype} {text : String}
    (h : function width depth p = .ok text) :
    ∃ code texts, instructions p "main" = .ok code
      ∧ List.Forall₂ (fun q text => function width (depth + 1) q = .ok text) p.functions texts
      ∧ text = layout width ((ownLines p code).map (.text depth))
        ++ String.join (texts.map (· ++ "\n")) := by
  obtain ⟨ls, hls, htext⟩ := bind_eq_ok.mp h
  cases htext
  obtain ⟨-, code, nested, hcode, hnested, rfl⟩ := lines_eq_ok_iff.mp hls
  obtain ⟨texts, htexts, hlayout⟩ := exists_listings_of_nestedLines hnested
  exact ⟨code, texts, hcode, htexts, by rw [layout_append, hlayout]⟩

/-! ## The preamble -/

theorem printable_sample (x : Binary64) : Printable (x.render SelfCheck.sampleStyle) :=
  printable_render (by decide) (by decide) (by decide) x

theorem printable_preamble (file : ChunkFile) : ∀ s ∈ preamble file, Printable s := by
  simp only [preamble, List.forall_mem_cons, printable_append, printable_hexWord, printable_truth,
    printable_decimal, printable_sample]
  decide

/-- A preamble is two lines, and is not indented. -/
theorem exists_preamble (file : ChunkFile) :
    ∃ first second, Printable first ∧ Printable second
      ∧ ∀ width,
        layout width ((preamble file).map (.text 0)) = first ++ "\n" ++ second ++ "\n" := by
  obtain ⟨first, second, hpreamble⟩ : ∃ first second, preamble file = [first, second] :=
    ⟨_, _, rfl⟩
  have hprintable := printable_preamble file
  rw [hpreamble] at hprintable
  refine ⟨first, second, hprintable first (by simp), hprintable second (by simp), fun width => ?_⟩
  rw [hpreamble]
  simp [layout, Line.render, String.append_assoc]

/-! ## Main results -/

/-- **Listings compose and shift.**  Where there is room for a tree, neither the depth nor the
indentation decides whether it can be listed, or what is wrong with it.  A listing at some depth is
the listing at depth zero with its lines moved to the right; and it is the function's own lines and
then, for each nested function, that function's listing one level deeper and an end of line.  The
listing of a file is two lines and the listing of its main function. -/
theorem function_shift (p : Prototype) :
    (∀ width depth width' depth', HasRoom width depth p → HasRoom width' depth' p →
      faultOf (function width depth p) = faultOf (function width' depth' p))
    ∧ (∀ width depth text, function width depth p = .ok text →
      (∃ base, function width 0 p = .ok base ∧ text = indentText (depth * width) base)
      ∧ ∃ code texts, instructions p "main" = .ok code
        ∧ List.Forall₂ (fun q text => function width (depth + 1) q = .ok text) p.functions texts
        ∧ text = layout width ((ownLines p code).map (.text depth))
          ++ String.join (texts.map (· ++ "\n")))
    ∧ ∀ file : ChunkFile, file.main = p →
      ∃ first second, Printable first ∧ Printable second
        ∧ ∀ width, render width file
          = (function width 0 p).map (first ++ "\n" ++ second ++ "\n" ++ ·) := by
  refine ⟨fun width depth width' depth' hroom hroom' => ?_, fun width depth text h => ?_, ?_⟩
  · rw [(reports_function width depth p).faultOf_eq hroom,
      (reports_function width' depth' p).faultOf_eq hroom']
  · exact ⟨exists_base_of_function h, exists_parts_of_function h⟩
  · rintro file rfl
    obtain ⟨first, second, hfirst, hsecond, hpreamble⟩ := exists_preamble file
    refine ⟨first, second, hfirst, hsecond, fun width => ?_⟩
    rw [render_eq_function, hpreamble]

/-- A tree that fails in the same way at two depths, and a tree whose listing at one depth is found
again at another. -/
theorem function_shift_forger :
    (HasRoom 4 0 thorn ∧ HasRoom 2 3 thorn
      ∧ faultOf (function 4 0 thorn) = faultOf (function 2 3 thorn))
    ∧ ∃ text base, function 2 3 forger = .ok text ∧ function 2 0 forger = .ok base
      ∧ text = indentText 6 base
      ∧ ∃ code nested, instructions forger "main" = .ok code
        ∧ List.Forall₂ (fun q text => function 2 4 q = .ok text) forger.functions nested
        ∧ text = layout 2 ((ownLines forger code).map (.text 3))
          ++ String.join (nested.map (· ++ "\n")) := by
  have hheight : thorn.height = 1 := by decide
  have hroom : HasRoom 4 0 thorn := by
    intro level hlevel
    simp only [wordCount, signedCount]
    omega
  have hroom' : HasRoom 2 3 thorn := by
    intro level hlevel
    simp only [wordCount, signedCount]
    omega
  obtain ⟨text, htext⟩ : ∃ text, function 2 3 forger = .ok text := ⟨_, rfl⟩
  obtain ⟨⟨base, hbase, hmoved⟩, hparts⟩ := (function_shift forger).2.1 2 3 text htext
  exact ⟨⟨hroom, hroom', (function_shift thorn).1 4 0 2 3 hroom hroom'⟩, text, base, htext, hbase,
    hmoved, hparts⟩

/-- **Indentations that are words do not keep the depth out of it.**  A tree with an instruction
that has no operation is refused for that at depth zero, and one level deeper for the room that half
the words would take; and a tree that can be listed without any indentation cannot be at the last
depth there is. -/
theorem function_depth_matters :
    ((∀ level ≤ stray.height, (0 + level) * signedCount < wordCount
        ∧ (1 + level) * signedCount < wordCount)
      ∧ function signedCount 0 stray = .error (.unknownOpcode ⟨"main", 0⟩ 49 ⟨49⟩)
      ∧ function signedCount 1 stray = .error (.overrun .room))
    ∧ ((∃ text, function 0 0 sprout = .ok text)
      ∧ function 0 (wordCount - 1) sprout = .error (.overrun .sum))
    ∧ ¬ ∀ width depth width' depth' p, depth < wordCount → depth' < wordCount →
      (∀ level ≤ p.height, (depth + level) * width < wordCount) →
      (∀ level ≤ p.height, (depth' + level) * width' < wordCount) →
        faultOf (function width depth p) = faultOf (function width' depth' p) := by
  have hstray : ∀ level ≤ stray.height, (0 + level) * signedCount < wordCount
      ∧ (1 + level) * signedCount < wordCount := by
    intro level hlevel
    have hheight : stray.height = 0 := by decide
    simp only [wordCount, signedCount]
    omega
  have hzero : function signedCount 0 stray = .error (.unknownOpcode ⟨"main", 0⟩ 49 ⟨49⟩) := by rfl
  have hone : function signedCount 1 stray = .error (.overrun .room) := by rfl
  refine ⟨⟨hstray, hzero, hone⟩, ⟨⟨_, rfl⟩, by rfl⟩, fun hclaim => ?_⟩
  have hsame := hclaim signedCount 0 signedCount 1 stray (by decide) (by decide)
    (fun level hlevel => (hstray level hlevel).1) (fun level hlevel => (hstray level hlevel).2)
  rw [hzero, hone] at hsame
  exact absurd hsame (by decide)

end Plain

end LuaChunk
