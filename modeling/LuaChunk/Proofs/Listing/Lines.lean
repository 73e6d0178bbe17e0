import Mathlib.Algebra.GroupWithZero.Nat
import Mathlib.Data.List.Forall2
import LuaChunk.Proofs.Listing.Unambiguous

/-!
# Proofs/Listing/Lines — the lines of a plain listing

A listing has as many lines as its functions and their tables ask for, whatever the texts in them
say.  What a function adds is a **sheet** (`Sheet`): texts that stay on their line, open in one of
two ways and name one source.  The listing of a tree is the sheets of its functions in pre-order,
with a blank line behind each nested function (`Spread`); everything about its lines follows by
induction on that.
-/

namespace LuaChunk

namespace Line

/-- A line as it stands in a text, without its end. -/
def row (width : Nat) : Line → List Char
  | .blank => []
  | .text depth body => List.replicate (depth * width) ' ' ++ body.toList

theorem toList_render (width : Nat) (l : Line) :
    (l.render width).toList = l.row width ++ ['\n'] := by
  cases l <;> simp [render, row]

end Line

namespace Plain

variable {width depth : Nat}

/-! ## Splitting a text -/

theorem toList_layout_cons (width : Nat) (l : Line) (ls : List Line) :
    (layout width (l :: ls)).toList = l.row width ++ '\n' :: (layout width ls).toList := by
  rw [layout_cons, String.toList_append, Line.toList_render, List.append_assoc]
  rfl

/-- **A text splits into its lines**, if none of them has an end of line of its own. -/
theorem splitOn_layout {ls : List Line} (h : ∀ l ∈ ls, '\n' ∉ l.row width) :
    (layout width ls).toList.splitOn '\n' = ls.map (Line.row width) ++ [[]] := by
  induction ls with
  | nil => rfl
  | cons l ls ih =>
    obtain ⟨hl, hls⟩ := List.forall_mem_cons.mp h
    have hrow : (l.row width).splitOn '\n' = [l.row width] := by
      rw [List.splitOn_eq_splitOnP]
      refine List.splitOnP_eq_singleton fun c hc => ?_
      exact beq_eq_false_iff_ne.mpr fun heq => hl (heq ▸ hc)
    rw [toList_layout_cons, List.splitOn_append_cons_self, hrow, ih hls]
    rfl

theorem count_layout {ls : List Line} (h : ∀ l ∈ ls, '\n' ∉ l.row width) :
    (layout width ls).toList.count '\n' = ls.length := by
  induction ls with
  | nil => rfl
  | cons l ls ih =>
    obtain ⟨hl, hls⟩ := List.forall_mem_cons.mp h
    rw [toList_layout_cons, List.count_append, List.count_eq_zero.mpr hl, List.count_cons_self,
      ih hls, Nat.zero_add, List.length_cons]

theorem mem_layout {ls : List Line} {c : Char} (h : c ∈ (layout width ls).toList) :
    c = '\n' ∨ ∃ l ∈ ls, c ∈ l.row width := by
  induction ls with
  | nil => exact absurd h List.not_mem_nil
  | cons l ls ih =>
    rw [toList_layout_cons, List.mem_append, List.mem_cons] at h
    rcases h with hrow | hend | hrest
    · exact .inr ⟨l, List.mem_cons_self, hrow⟩
    · exact .inl hend
    · exact (ih hrest).imp_right fun ⟨m, hm, hc⟩ => ⟨m, List.mem_cons_of_mem l hm, hc⟩

/-! ## How lines open -/

/-- The two ways in which a line opens behind its indentation. -/
def Opens (body : List Char) : Prop := "--".toList <+: body ∨ " [".toList <+: body

/-- Whether a line names a source behind the blanks that it starts with. -/
def isSource (row : List Char) : Bool :=
  "-- @source ".toList.isPrefixOf (row.dropWhile (· == ' '))

/-- The line that names the source of a function. -/
def sourceText (p : Prototype) : String :=
  "-- @source " ++ escape p.source ++ ":" ++ integer p.line.toInt

theorem isSource_row (depth : Nat) (body : String) :
    isSource ((Line.text depth body).row width) = isSource body.toList := by
  rw [isSource, isSource, Line.row, List.dropWhile_append_of_pos]
  exact fun c hc => beq_iff_eq.mpr (List.eq_of_mem_replicate hc)

theorem row_ne_nil {body : String} (h : Opens body.toList) :
    (Line.text depth body).row width ≠ [] := by
  intro hnil
  have hbody : body.toList = [] := (List.append_eq_nil_iff.mp hnil).2
  rw [hbody] at h
  exact h.elim (by decide) (by decide)

theorem opens_heading (title : String) (n : Nat) : Opens (heading title n).toList := by
  refine .inl ⟨(" " ++ title ++ " (" ++ decimal n ++ ") --").toList, ?_⟩
  simp [heading]

theorem opens_numbered (i : Nat) (body : String) : Opens (numbered i body).toList := by
  refine .inr ⟨(decimal i ++ "] " ++ body).toList, ?_⟩
  simp [numbered, Path.index]

theorem isSource_heading {title : String} (h : title.toList.head? ≠ some '@') (n : Nat) :
    isSource (heading title n).toList = false := by
  cases htitle : title.toList with
  | nil => simp [isSource, heading, htitle, List.isPrefixOf]
  | cons c cs =>
    have hc : ('@' == c) = false := by
      rw [htitle] at h
      exact beq_eq_false_iff_ne.mpr fun heq => h (congrArg some heq.symm)
    simp [isSource, heading, htitle, List.isPrefixOf, hc]

theorem isSource_numbered (i : Nat) (body : String) :
    isSource (numbered i body).toList = false := by
  simp [isSource, numbered, Path.index, List.isPrefixOf]

theorem isSource_sourceText (p : Prototype) : isSource (sourceText p).toList = true := by
  simp [isSource, sourceText, List.isPrefixOf]

/-! ## Sheets -/

/-- **A sheet**: texts that stay on their line and open as lines do, with the sources that they
name. -/
structure Sheet (sources texts : List String) : Prop where
  printable : ∀ s ∈ texts, Printable s
  opens : ∀ s ∈ texts, Opens s.toList
  sources_eq : texts.filter (fun s => isSource s.toList) = sources

namespace Sheet

theorem append {sources sources' texts texts' : List String} (h : Sheet sources texts)
    (h' : Sheet sources' texts') : Sheet (sources ++ sources') (texts ++ texts') where
  printable := List.forall_mem_append.mpr ⟨h.printable, h'.printable⟩
  opens := List.forall_mem_append.mpr ⟨h.opens, h'.opens⟩
  sources_eq := by rw [List.filter_append, h.sources_eq, h'.sources_eq]

theorem heading {title : String} (htitle : Printable title) (hhead : title.toList.head? ≠ some '@')
    (n : Nat) : Sheet [] [heading title n] where
  printable := List.forall_mem_singleton.mpr (printable_heading htitle n)
  opens := List.forall_mem_singleton.mpr (opens_heading title n)
  sources_eq := List.filter_eq_nil_iff.mpr (List.forall_mem_singleton.mpr (by
    rw [isSource_heading hhead]
    exact Bool.false_ne_true))

/-- No text in a block can name a source, since each has its number in front. -/
theorem block {title : String} {texts : List String} (htitle : Printable title)
    (hhead : title.toList.head? ≠ some '@') (htexts : ∀ t ∈ texts, Printable t) :
    Sheet [] (block title texts) := by
  have hnumbered : Sheet [] (texts.zipIdx.map fun e => numbered e.2 e.1) := by
    refine ⟨List.forall_mem_map.mpr fun e he => ?_, List.forall_mem_map.mpr fun e _ => ?_,
      List.filter_eq_nil_iff.mpr (List.forall_mem_map.mpr fun e _ => ?_)⟩
    · exact printable_numbered (htexts e.1 (List.fst_mem_of_mem_zipIdx he)) e.2
    · exact opens_numbered e.2 e.1
    · rw [isSource_numbered]
      exact Bool.false_ne_true
  exact (heading htitle hhead texts.length).append hnumbered

theorem titled {α : Type} {title : String} {body : α → String} (htitle : Printable title)
    (hhead : title.toList.head? ≠ some '@') (hbody : ∀ a, Printable (body a)) (entries : List α) :
    Sheet [] (titled title entries body) := by
  rw [titled_eq_block]
  refine block htitle hhead (List.forall_mem_map.mpr fun a _ => ?_)
  exact printable_append.mpr ⟨by decide, hbody a⟩

/-- …but the first line above its tables names the source of a function. -/
theorem caption (p : Prototype) : Sheet [sourceText p] (caption p) where
  printable := printable_caption p
  opens := by
    refine List.forall_mem_cons.mpr ⟨.inl ?_, List.forall_mem_cons.mpr ⟨.inl ?_, nofun⟩⟩ <;>
      simp
  sources_eq := by
    have hsource := isSource_sourceText p
    have hsecond : isSource ("-- #params=" ++ integer p.parameters.toInt ++ " var_arg="
        ++ truth p.vararg ++ " max_stack_size=" ++ integer p.stack.toInt).toList = false := by
      simp [isSource, List.isPrefixOf]
    rw [sourceText] at hsource
    simp only [Plain.caption, sourceText, List.filter_cons, hsource, hsecond, if_true,
      Bool.false_eq_true, if_false, List.filter_nil]

theorem tables (p : Prototype) : Sheet [sourceText p] (tables p) := by
  rw [tables_eq]
  exact ((((caption p).append
    (titled (by decide) (by decide) printable_localText p.locals)).append
    (titled (by decide) (by decide) printable_lineText p.lines)).append
    (titled (by decide) (by decide) printable_stringText p.strings)).append
    (titled (by decide) (by decide) printable_constant p.numbers)

theorem instructions {p : Prototype} {path : String} {ls : List String}
    (h : instructions p path = .ok ls) : Sheet [] ls := by
  obtain ⟨texts, rfl, -, htexts⟩ := exists_block_of_instructions h
  exact block (by decide) (by decide) htexts

end Sheet

/-- The number of lines that a function adds to a listing. -/
def rowCount (p : Prototype) : Nat :=
  8 + p.locals.length + p.lines.length + p.strings.length + p.numbers.length + p.code.length

theorem length_block (title : String) (texts : List String) :
    (block title texts).length = 1 + texts.length := by
  rw [block, List.length_cons, List.length_map, List.length_zipIdx, Nat.add_comm]

theorem length_titled {α : Type} (title : String) (entries : List α) (body : α → String) :
    (titled title entries body).length = 1 + entries.length := by
  rw [titled_eq_block, length_block, List.length_map]

/-- The lines of a function by itself, from those of its instructions. -/
def ownLines (p : Prototype) (code : List String) : List String :=
  tables p ++ code ++ [heading "Function Constants" p.functions.length]

theorem sheet_ownLines {p : Prototype} {path : String} {code : List String}
    (h : instructions p path = .ok code) : Sheet [sourceText p] (ownLines p code) :=
  ((Sheet.tables p).append (Sheet.instructions h)).append
    (Sheet.heading (by decide) (by decide) _)

theorem length_ownLines {p : Prototype} {path : String} {code : List String}
    (h : instructions p path = .ok code) : (ownLines p code).length = rowCount p := by
  obtain ⟨texts, rfl, hlength, -⟩ := exists_block_of_instructions h
  simp only [ownLines, tables_eq, List.length_append, length_caption, length_titled, length_block,
    hlength, List.length_singleton, rowCount]
  omega

/-! ## Trees -/

/-- **What the listing of some functions is**: `blanks` blank lines, and the sheets of the functions
in their order, each at its depth. -/
inductive Spread : (blanks : Nat) → List (Nat × Prototype) → List Line → Prop
  | nil : Spread 0 [] []
  | blank {blanks : Nat} {ms : List (Nat × Prototype)} {ls : List Line}
    (rest : Spread blanks ms ls) : Spread (blanks + 1) ms (.blank :: ls)
  | sheet {blanks depth : Nat} {p : Prototype} {texts : List String} {ms : List (Nat × Prototype)}
    {ls : List Line} (hsheet : Sheet [sourceText p] texts) (hlength : texts.length = rowCount p)
    (rest : Spread blanks ms ls) :
    Spread blanks ((depth, p) :: ms) (texts.map (.text depth) ++ ls)

namespace Spread

theorem append {blanks blanks' : Nat} {ms ms' : List (Nat × Prototype)} {ls ls' : List Line}
    (h : Spread blanks ms ls) (h' : Spread blanks' ms' ls') :
    Spread (blanks + blanks') (ms ++ ms') (ls ++ ls') := by
  induction h with
  | nil =>
    rw [Nat.zero_add]
    exact h'
  | blank rest ih =>
    rw [Nat.succ_add]
    exact ih.blank
  | sheet hsheet hlength rest ih =>
    rw [List.append_assoc]
    exact ih.sheet hsheet hlength

/-- The lines of nested functions, if each of the functions is listed in this way. -/
theorem of_nestedLines {path : String} {i : Nat} {ps : List Prototype} {ls : List Line}
    (h : ∀ p ∈ ps, ∀ path depth ls, lines width path depth p = .ok ls →
      Spread (Prototype.countAll p.functions) (p.preorder depth) ls)
    (hls : nestedLines width path depth i ps = .ok ls) :
    Spread (Prototype.countAll ps) (Prototype.preorderAll (depth + 1) ps) ls := by
  induction ps generalizing i ls with
  | nil =>
    cases hls
    exact nil
  | cons p ps ih =>
    obtain ⟨hp, hps⟩ := List.forall_mem_cons.mp h
    obtain ⟨first, rest, hfirst, hrest, rfl⟩ := exists_of_nestedLines_cons hls
    have happend := (hp _ _ _ hfirst).append (ih hps hrest).blank
    -- the blank line behind a function counts for the function itself
    rwa [← Nat.add_assoc, Nat.add_right_comm, Nat.add_comm _ 1, ← Prototype.count_eq] at happend

/-- **A listing is its sheets and blank lines.** -/
theorem of_lines {path : String} {p : Prototype} {ls : List Line}
    (hls : lines width path depth p = .ok ls) :
    Spread (Prototype.countAll p.functions) (p.preorder depth) ls := by
  induction p using Prototype.nestedInduction generalizing path depth ls with
  | step p ih =>
    obtain ⟨code, nested, hcode, hnested, rfl⟩ := exists_of_lines hls
    rw [Prototype.preorder_eq]
    exact (of_nestedLines (fun q hq _ _ _ => ih q hq) hnested).sheet (sheet_ownLines hcode)
      (length_ownLines hcode)

variable {blanks : Nat} {ms : List (Nat × Prototype)} {ls : List Line}

theorem printable (h : Spread blanks ms ls) (width : Nat) :
    ∀ l ∈ ls, ∀ c ∈ l.row width, isControl c = false := by
  induction h with
  | nil => exact nofun
  | blank rest ih => exact List.forall_mem_cons.mpr ⟨nofun, ih⟩
  | sheet hsheet hlength rest ih =>
    refine List.forall_mem_append.mpr ⟨List.forall_mem_map.mpr fun s hs => ?_, ih⟩
    refine List.forall_mem_append.mpr ⟨fun c hc => ?_, hsheet.printable s hs⟩
    exact List.eq_of_mem_replicate hc ▸ rfl

theorem newline_notMem (h : Spread blanks ms ls) (width : Nat) : ∀ l ∈ ls, '\n' ∉ l.row width :=
  fun l hl hmem => absurd (h.printable width l hl _ hmem) (by decide)

theorem length_eq (h : Spread blanks ms ls) :
    ls.length = (ms.map fun m => rowCount m.2).sum + blanks := by
  induction h with
  | nil => rfl
  | blank rest ih => rw [List.length_cons, ih, Nat.add_assoc]
  | sheet hsheet hlength rest ih =>
    rw [List.length_append, List.length_map, hlength, ih, List.map_cons, List.sum_cons,
      Nat.add_assoc]

end Spread

/-- **The lines of one function**: as many as it asks for, each indented to its depth and opening as
lines do. -/
structure Owns (width : Nat) (m : Nat × Prototype) (rows : List (List Char)) : Prop where
  length_eq : rows.length = rowCount m.2
  opens : ∀ row ∈ rows, ∃ body, row = List.replicate (m.1 * width) ' ' ++ body ∧ Opens body

namespace Spread

variable {blanks : Nat} {ms : List (Nat × Prototype)} {ls : List Line}

theorem count_nil (h : Spread blanks ms ls) (width : Nat) :
    (ls.map (Line.row width)).count [] = blanks := by
  induction h with
  | nil => rfl
  | blank rest ih => rw [List.map_cons, Line.row, List.count_cons_self, ih]
  | sheet hsheet hlength rest ih =>
    rw [List.map_append, List.count_append, ih, List.count_eq_zero.mpr, Nat.zero_add]
    rw [List.map_map, List.mem_map]
    rintro ⟨s, hs, hnil⟩
    exact row_ne_nil (hsheet.opens s hs) hnil

/-- Every line that is not blank belongs to one function. -/
theorem exists_owned (h : Spread blanks ms ls) (width : Nat) :
    ∃ blocks, List.Forall₂ (Owns width) ms blocks
      ∧ (ls.map (Line.row width)).filter (· ≠ []) = blocks.flatten := by
  induction h with
  | nil => exact ⟨[], .nil, rfl⟩
  | blank rest ih => exact ih
  | @sheet _ depth p texts _ _ hsheet hlength rest ih =>
    obtain ⟨blocks, howns, hblocks⟩ := ih
    refine ⟨(texts.map fun s => (Line.text depth s).row width) :: blocks, .cons ⟨?_, ?_⟩ howns, ?_⟩
    · rw [List.length_map, hlength]
    · exact List.forall_mem_map.mpr fun s hs => ⟨s.toList, rfl, hsheet.opens s hs⟩
    · rw [List.map_append, List.filter_append, hblocks, List.flatten_cons, List.map_map]
      congr 1
      refine List.filter_eq_self.mpr (List.forall_mem_map.mpr fun s hs => ?_)
      exact decide_eq_true (row_ne_nil (hsheet.opens s hs))

/-- The lines that name a source name those of the functions. -/
theorem sources_eq (h : Spread blanks ms ls) (width : Nat) :
    (ls.map (Line.row width)).filter isSource
      = ms.map fun m => (Line.text m.1 (sourceText m.2)).row width := by
  induction h with
  | nil => rfl
  | blank rest ih => exact ih
  | @sheet _ depth p texts _ _ hsheet hlength rest ih =>
    have hown : (texts.map fun s => (Line.text depth s).row width).filter isSource
        = [(Line.text depth (sourceText p)).row width] := by
      have hfilter : isSource ∘ (fun s => (Line.text depth s).row width)
          = fun s => isSource s.toList := funext fun s => isSource_row depth s
      rw [List.filter_map, hfilter, hsheet.sources_eq]
      rfl
    rw [List.map_append, List.filter_append, ih, List.map_map]
    exact congrArg (· ++ _) hown

end Spread

/-- **No text can forge or split a line of a listing.**  The only control character is the end of
line, and there are as many as the functions and their tables ask for.  A blank line stands behind
each nested function; all other lines belong to one function, are indented to its depth and open as
lines do; and the lines that name a source are one for each function, in pre-order. -/
theorem function_lines (width depth : Nat) (p : Prototype) (text : String)
    (h : function width depth p = .ok text) :
    (∀ c ∈ text.toList, isControl c = true → c = '\n')
      ∧ text.toList.count '\n'
        = ((p.preorder depth).map fun m => rowCount m.2).sum + (p.count - 1)
      ∧ ∃ rows : List (List Char), text.toList.splitOn '\n' = rows ++ [[]]
        ∧ rows.count [] = p.count - 1
        ∧ (∃ blocks, List.Forall₂ (Owns width) (p.preorder depth) blocks
          ∧ rows.filter (· ≠ []) = blocks.flatten)
        ∧ rows.filter isSource
          = (p.preorder depth).map (fun m =>
            List.replicate (m.1 * width) ' ' ++ (sourceText m.2).toList)
        ∧ (rows.filter isSource).length = p.count := by
  obtain ⟨ls, hls, htext⟩ := bind_eq_ok.mp h
  cases htext
  have hspread := Spread.of_lines hls
  have hnewline := hspread.newline_notMem width
  have hcount : Prototype.countAll p.functions = p.count - 1 := by
    rw [Prototype.count_eq]
    omega
  rw [hcount] at hspread
  refine ⟨fun c hc hcontrol => ?_, ?_, ls.map (Line.row width), splitOn_layout hnewline,
    hspread.count_nil width, hspread.exists_owned width, hspread.sources_eq width, ?_⟩
  · refine (mem_layout hc).resolve_right fun ⟨l, hl, hmem⟩ => ?_
    rw [hspread.printable width l hl c hmem] at hcontrol
    cases hcontrol
  · rw [count_layout hnewline, hspread.length_eq]
  · rw [hspread.sources_eq, List.length_map, Prototype.length_preorder]

/-- A function whose texts look like lines of a listing. -/
def forger : Prototype :=
  ⟨"a\n-- @source b", 0, 0, false, 1, [⟨"v\u0085", 0, 1⟩], [], ["\n-- @source c:1"], [],
    [⟨"", 1, 0, true, 1, [], [], [], [], [], [⟨0⟩]⟩], []⟩

theorem function_lines_forger :
    ∃ text, function 2 1 forger = .ok text ∧ text.toList.count '\n' = 20
      ∧ ∃ rows : List (List Char), text.toList.splitOn '\n' = rows ++ [[]] ∧ rows.count [] = 1
        ∧ rows.filter isSource
          = ["  -- @source a\\n-- @source b:0".toList, "    -- @source :1".toList] := by
  obtain ⟨text, htext⟩ : ∃ text, function 2 1 forger = .ok text := ⟨_, rfl⟩
  obtain ⟨-, hcount, rows, hrows, hblank, -, hsources, -⟩ := function_lines 2 1 forger text htext
  exact ⟨text, htext, hcount.trans (by decide), rows, hrows, hblank.trans (by decide),
    hsources.trans (by decide +kernel)⟩

end Plain

end LuaChunk
