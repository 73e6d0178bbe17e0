import LuaChunk.Proofs.Listing.Faults
import LuaChunk.Proofs.Listing.Printable

/-!
# Proofs/Listing/Unambiguous — what a plain listing tells of a function

Two texts **settle** a fact (`Settles`) if a text that starts with both of them tells the fact, and
goes on behind both in the same way.  The rules for it follow a listing from front to back: what the
lines so far have settled can be used for those that follow.  So the heading of a table settles how
many entries there are, and with it where the table ends; and the last heading of a function
settles how many functions are nested in it, and with it, by induction, where the listing ends.
Indentation plays no part.
-/

namespace LuaChunk

/-- **Two texts settle a fact**: if some text starts with both, then the fact holds, and the text
goes on behind both in the same way. -/
def Settles (s t : String) (fact : Prop) : Prop := ∀ r r', s ++ r = t ++ r' → fact ∧ r = r'

namespace Settles

variable {s s' t t' : String} {fact fact' : Prop}

theorem refl (s : String) : Settles s s True := fun _ _ h =>
  ⟨trivial, (String.append_right_inj s).mp h⟩

/-- What follows may rest on what is settled. -/
theorem append (h : Settles s t fact) (h' : fact → Settles s' t' fact') :
    Settles (s ++ s') (t ++ t') (fact ∧ fact') := by
  intro r r' heq
  rw [String.append_assoc, String.append_assoc] at heq
  obtain ⟨hfact, hrest⟩ := h _ _ heq
  obtain ⟨hfact', hend⟩ := h' hfact _ _ hrest
  exact ⟨⟨hfact, hfact'⟩, hend⟩

theorem imp (h : Settles s t fact) (himp : fact → fact') : Settles s t fact' := fun r r' heq =>
  (h r r' heq).imp_left himp

end Settles

/-! ## Lines -/

namespace Plain

variable {width depth : Nat}

theorem layout_cons (width : Nat) (l : Line) (ls : List Line) :
    layout width (l :: ls) = l.render width ++ layout width ls := by
  rw [layout, List.map_cons, String.join_cons]
  rfl

/-- A line ends at the end of line. -/
theorem settles_line {s t : String} (hs : Printable s) (ht : Printable t) :
    Settles ((Line.text depth s).render width) ((Line.text depth t).render width) (s = t) := by
  intro r r' h
  simp only [Line.render, String.append_assoc, String.append_right_inj] at h
  have hlist : s.toList ++ '\n' :: r.toList = t.toList ++ '\n' :: r'.toList := by
    simpa using congrArg String.toList h
  obtain ⟨hline, hrest⟩ := split_first hs.newline_notMem ht.newline_notMem hlist
  exact ⟨String.toList_inj.mp hline, String.toList_inj.mp hrest⟩

/-- As many lines on either side settle each other. -/
theorem settles_lines {ls ls' : List String} (hlength : ls.length = ls'.length)
    (hls : ∀ s ∈ ls, Printable s) (hls' : ∀ s ∈ ls', Printable s) :
    Settles (layout width (ls.map (.text depth))) (layout width (ls'.map (.text depth)))
      (ls = ls') := by
  induction ls generalizing ls' with
  | nil =>
    obtain rfl : ls' = [] := List.length_eq_zero_iff.mp hlength.symm
    exact (Settles.refl _).imp fun _ => rfl
  | cons s ls ih =>
    cases ls' with
    | nil => cases hlength
    | cons t ls' =>
      obtain ⟨hs, hls⟩ := List.forall_mem_cons.mp hls
      obtain ⟨ht, hls'⟩ := List.forall_mem_cons.mp hls'
      simp only [List.map_cons, layout_cons]
      refine ((settles_line hs ht).append fun _ => ih (Nat.succ.inj hlength) hls hls').imp ?_
      rintro ⟨rfl, rfl⟩
      rfl

theorem heading_injective (title : String) : Function.Injective (heading title) := by
  intro m n h
  simp only [heading, String.append_assoc, String.append_right_inj] at h
  have hlist : (decimal m).toList ++ ')' :: " --".toList
      = (decimal n).toList ++ ')' :: " --".toList := by
    simpa using congrArg String.toList h
  exact (decimal_append_cons (by decide) hlist).1

theorem numbered_inj {i j : Nat} {s t : String} (h : numbered i s = numbered j t) :
    i = j ∧ s = t := by
  simp only [numbered, Path.index, String.append_assoc, String.append_right_inj] at h
  have hlist : (decimal i).toList ++ ']' :: ' ' :: s.toList
      = (decimal j).toList ++ ']' :: ' ' :: t.toList := by
    simpa using congrArg String.toList h
  obtain ⟨hindex, hbody⟩ := decimal_append_cons (by decide) hlist
  exact ⟨hindex, String.toList_inj.mp (List.cons.inj hbody).2⟩

theorem settles_heading {title : String} (htitle : Printable title) (m n : Nat) :
    Settles ((Line.text depth (heading title m)).render width)
      ((Line.text depth (heading title n)).render width) (m = n) :=
  (settles_line (printable_heading htitle m) (printable_heading htitle n)).imp
    fun h => heading_injective title h

/-- **The heading of a block settles where it ends**, and its lines its texts. -/
theorem settles_block {title : String} {texts texts' : List String} (htitle : Printable title)
    (htexts : ∀ t ∈ texts, Printable t) (htexts' : ∀ t ∈ texts', Printable t) :
    Settles (layout width ((block title texts).map (.text depth)))
      (layout width ((block title texts').map (.text depth))) (texts = texts') := by
  have hprintable {ts : List String} (h : ∀ t ∈ ts, Printable t) :
      ∀ s ∈ ts.zipIdx.map fun e => numbered e.2 e.1, Printable s := by
    intro s hs
    obtain ⟨e, he, rfl⟩ := List.mem_map.mp hs
    exact printable_numbered (h e.1 (List.fst_mem_of_mem_zipIdx he)) e.2
  simp only [block, List.map_cons, layout_cons]
  refine ((settles_heading htitle _ _).append fun hlength =>
    settles_lines ?_ (hprintable htexts) (hprintable htexts')).imp ?_
  · simpa using hlength
  · rintro ⟨-, hlines⟩
    have hpairs : texts.zipIdx = texts'.zipIdx :=
      (List.map_inj_right fun e e' h => Prod.ext (numbered_inj h).2 (numbered_inj h).1).mp hlines
    rw [← List.zipIdx_map_fst 0 texts, hpairs, List.zipIdx_map_fst]

theorem settles_titled {α : Type} {title : String} {body : α → String} (htitle : Printable title)
    (hbody : ∀ a, Printable (body a)) (entries entries' : List α) :
    Settles (layout width ((titled title entries body).map (.text depth)))
      (layout width ((titled title entries' body).map (.text depth)))
      (entries.map body = entries'.map body) := by
  have hprintable (es : List α) : ∀ t ∈ es.map fun a => "=> " ++ body a, Printable t := by
    intro t ht
    obtain ⟨a, -, rfl⟩ := List.mem_map.mp ht
    exact printable_append.mpr ⟨by decide, hbody a⟩
  rw [titled_eq_block, titled_eq_block]
  refine (settles_block htitle (hprintable _) (hprintable _)).imp fun h => ?_
  have harrow (es : List α) :
      es.map (fun a => "=> " ++ body a) = (es.map body).map ("=> " ++ ·) := by
    rw [List.map_map]
    rfl
  rw [harrow, harrow] at h
  exact (List.map_inj_right fun _ _ => (String.append_right_inj _).mp).mp h

end Plain

/-- **Two functions have the same tables**, as far as a listing goes: numbers count by their
texts. -/
structure SameTables (p q : Prototype) : Prop where
  source : p.source = q.source
  line : p.line = q.line
  parameters : p.parameters = q.parameters
  vararg : p.vararg = q.vararg
  stack : p.stack = q.stack
  locals : p.locals = q.locals
  lines : p.lines = q.lines
  strings : p.strings = q.strings
  numbers : p.numbers.map (·.render constantStyle) = q.numbers.map (·.render constantStyle)

namespace Plain

variable {width depth : Nat}

/-! ## The tables of a function -/

/-- The lines of a function above its tables. -/
def caption (p : Prototype) : List String :=
  ["-- @source " ++ escape p.source ++ ":" ++ integer p.line.toInt,
   "-- #params=" ++ integer p.parameters.toInt ++ " var_arg=" ++ truth p.vararg
     ++ " max_stack_size=" ++ integer p.stack.toInt]

def localText (v : LocalVar) : String :=
  escape v.name ++ " (" ++ integer v.start.toInt ++ "-" ++ integer v.stop.toInt ++ ")"

def lineText (l : Int32) : String := hexWord 8 l.toUInt32.toNat

def stringText (s : String) : String := "\"" ++ escape s ++ "\""

theorem tables_eq (p : Prototype) :
    tables p = caption p ++ titled "Local Vars" p.locals localText
      ++ titled "Line Info" p.lines lineText ++ titled "String Constants" p.strings stringText
      ++ titled "Number Constants" p.numbers (·.render constantStyle) := rfl

theorem length_caption (p : Prototype) : (caption p).length = 2 := rfl

theorem printable_caption (p : Prototype) : ∀ s ∈ caption p, Printable s := by
  simp only [caption, List.forall_mem_cons, printable_append, printable_escape, printable_integer,
    printable_truth]
  decide

theorem printable_localText (v : LocalVar) : Printable (localText v) := by
  simp only [localText, printable_append, printable_escape, printable_integer]
  decide

theorem printable_lineText (l : Int32) : Printable (lineText l) := printable_hexWord 8 _

theorem printable_stringText (s : String) : Printable (stringText s) := by
  simp only [stringText, printable_append, printable_escape]
  decide

/-- A text can have colons of its own, so the one before the line is the last. -/
theorem source_inj {s t : String} {i j : Int}
    (h : "-- @source " ++ escape s ++ ":" ++ integer i
      = "-- @source " ++ escape t ++ ":" ++ integer j) :
    s = t ∧ i = j := by
  simp only [String.append_assoc, String.append_right_inj] at h
  have hlist : (escape s).toList ++ ':' :: (integer i).toList
      = (escape t).toList ++ ':' :: (integer j).toList := by
    simpa using congrArg String.toList h
  have hcolon (n : Int) : ':' ∉ (integer n).toList := fun hmem =>
    (mem_integer hmem).elim (by decide) (by decide)
  obtain ⟨hsource, hline⟩ := split_last (hcolon i) (hcolon j) hlist
  exact ⟨escape_injective (String.toList_inj.mp hsource),
    integer_injective (String.toList_inj.mp hline)⟩

theorem truth_append {a b : Bool} {r r' : List Char}
    (h : (truth a).toList ++ r = (truth b).toList ++ r') : a = b ∧ r = r' := by
  cases a <;> cases b
  case true.false | false.true => simp [truth] at h
  all_goals exact ⟨rfl, List.append_cancel_left h⟩

theorem parameters_inj {i j k l : Int} {a b : Bool}
    (h : "-- #params=" ++ integer i ++ " var_arg=" ++ truth a ++ " max_stack_size=" ++ integer k
      = "-- #params=" ++ integer j ++ " var_arg=" ++ truth b ++ " max_stack_size=" ++ integer l) :
    i = j ∧ a = b ∧ k = l := by
  simp only [String.append_assoc, String.append_right_inj] at h
  have hlist : (integer i).toList ++ ' ' :: ("var_arg=".toList
        ++ ((truth a).toList ++ (" max_stack_size=" ++ integer k).toList))
      = (integer j).toList ++ ' ' :: ("var_arg=".toList
        ++ ((truth b).toList ++ (" max_stack_size=" ++ integer l).toList)) := by
    simpa using congrArg String.toList h
  obtain ⟨hparameters, hrest⟩ := integer_append_cons (by decide) hlist
  obtain ⟨hvararg, hstack⟩ := truth_append (List.append_cancel_left hrest)
  rw [String.toList_inj, String.append_right_inj] at hstack
  exact ⟨hparameters, hvararg, integer_injective hstack⟩

theorem caption_inj {p q : Prototype} (h : caption p = caption q) :
    p.source = q.source ∧ p.line = q.line ∧ p.parameters = q.parameters ∧ p.vararg = q.vararg
      ∧ p.stack = q.stack := by
  rw [caption, caption, List.cons.injEq, List.cons.injEq] at h
  obtain ⟨hfirst, hsecond, -⟩ := h
  obtain ⟨hsource, hline⟩ := source_inj hfirst
  obtain ⟨hparameters, hvararg, hstack⟩ := parameters_inj hsecond
  exact ⟨hsource, Int32.toInt_inj.mp hline, Int32.toInt_inj.mp hparameters, hvararg,
    Int32.toInt_inj.mp hstack⟩

theorem localText_injective : Function.Injective localText := by
  rintro ⟨s, i, k⟩ ⟨t, j, l⟩ h
  have hlist : ((escape s).toList ++ [' '])
        ++ '(' :: ((integer i.toInt).toList ++ '-' :: ((integer k.toInt).toList ++ [')']))
      = ((escape t).toList ++ [' '])
        ++ '(' :: ((integer j.toInt).toList ++ '-' :: ((integer l.toInt).toList ++ [')'])) := by
    simpa [localText] using congrArg String.toList h
  have hnumeral (n : Int) : '(' ∉ (integer n).toList := fun hmem =>
    (mem_integer hmem).elim (by decide) (by decide)
  have hspan (m n : Int) : '(' ∉ (integer m).toList ++ '-' :: ((integer n).toList ++ [')']) := by
    simp [hnumeral]
  -- a name can have brackets of its own, so the one of the span is the last
  obtain ⟨hname, hrest⟩ := split_last (hspan _ _) (hspan _ _) hlist
  obtain ⟨hstart, hrest⟩ := integer_append_cons (by decide) hrest
  obtain ⟨hstop, -⟩ := integer_append_cons (by decide) hrest
  rw [escape_injective (String.toList_inj.mp (List.append_cancel_right hname)),
    Int32.toInt_inj.mp hstart, Int32.toInt_inj.mp hstop]

theorem lineText_injective : Function.Injective lineText := by
  intro l m h
  have hword : l.toUInt32 = m.toUInt32 := UInt32.toNat_inj.mp (hexWord_injective 8 h)
  rw [← Int32.toInt32_toUInt32 l, hword, Int32.toInt32_toUInt32]

theorem stringText_injective : Function.Injective stringText := fun _ _ h =>
  escape_injective ((String.append_right_inj _).mp ((String.append_left_inj _).mp h))

/-- **The tables of a function end where they say.** -/
theorem settles_tables (p q : Prototype) :
    Settles (layout width ((tables p).map (.text depth)))
      (layout width ((tables q).map (.text depth))) (SameTables p q) := by
  simp only [tables_eq, List.map_append, layout_append]
  have hlength := (length_caption p).trans (length_caption q).symm
  refine (((((settles_lines hlength (printable_caption p) (printable_caption q)).append
    fun _ => settles_titled (by decide) printable_localText p.locals q.locals).append
    fun _ => settles_titled (by decide) printable_lineText p.lines q.lines).append
    fun _ => settles_titled (by decide) printable_stringText p.strings q.strings).append
    fun _ => settles_titled (by decide) printable_constant p.numbers q.numbers).imp ?_
  rintro ⟨⟨⟨⟨hcaption, hlocals⟩, hlines⟩, hstrings⟩, hnumbers⟩
  obtain ⟨hsource, hline, hparameters, hvararg, hstack⟩ := caption_inj hcaption
  exact {
    source := hsource
    line := hline
    parameters := hparameters
    vararg := hvararg
    stack := hstack
    locals := (List.map_inj_right fun _ _ h => localText_injective h).mp hlocals
    lines := (List.map_inj_right fun _ _ h => lineText_injective h).mp hlines
    strings := (List.map_inj_right fun _ _ h => stringText_injective h).mp hstrings
    numbers := hnumbers }

end Plain

/-! ## Trees -/

/-- **Two functions agree**, both at `path`: they have the same tables, and as many instructions
with the same texts. -/
structure Agree (path : String) (p q : Prototype) : Prop extends SameTables p q where
  count : p.code.length = q.code.length
  texts : ∃ ls, Plain.instructions p path = .ok ls ∧ Plain.instructions q path = .ok ls

/-- Two trees agree, both below `path`: the same addresses lead somewhere, and to functions that
agree. -/
def AgreeBelow (path : String) (p q : Prototype) : Prop :=
  ∀ address, Option.Rel (Agree (Path.nested path address)) (p.descend? address)
    (q.descend? address)

theorem AgreeBelow.of_functions {path : String} {p q : Prototype} (h : Agree path p q)
    (hlength : p.functions.length = q.functions.length)
    (hfunctions : ∀ i p' q', p.functions[i]? = some p' → q.functions[i]? = some q' →
      AgreeBelow (Path.function path i) p' q') :
    AgreeBelow path p q := by
  rintro (_ | ⟨i, address⟩)
  · exact .some h
  · rw [Prototype.descend?, Prototype.descend?, Path.nested_cons]
    cases hp : p.functions[i]? with
    | none =>
      have hq : q.functions[i]? = none := by
        rw [List.getElem?_eq_none_iff] at hp ⊢
        omega
      rw [hq]
      exact .none
    | some p' =>
      obtain ⟨q', hq⟩ : ∃ q', q.functions[i]? = some q' := by
        have hlt := (List.getElem?_eq_some_iff.mp hp).1
        exact ⟨_, List.getElem?_eq_getElem (hlength ▸ hlt)⟩
      rw [hq]
      exact hfunctions i p' q' hp hq address

namespace Plain

variable {width depth : Nat} {path : String}

theorem exists_of_lines {p : Prototype} {ls : List Line} (h : lines width path depth p = .ok ls) :
    ∃ code nested, instructions p path = .ok code
      ∧ nestedLines width path depth 0 p.functions = .ok nested
      ∧ ls = (tables p ++ code ++ [heading "Function Constants" p.functions.length]).map
        (.text depth) ++ nested := by
  rw [lines_eq] at h
  obtain ⟨_, -, h⟩ := bind_eq_ok.mp h
  obtain ⟨code, hcode, h⟩ := bind_eq_ok.mp h
  obtain ⟨nested, hnested, h⟩ := bind_eq_ok.mp h
  cases h
  exact ⟨code, nested, hcode, hnested, rfl⟩

theorem exists_of_nestedLines_cons {i : Nat} {p : Prototype} {ps : List Prototype} {ls : List Line}
    (h : nestedLines width path depth i (p :: ps) = .ok ls) :
    ∃ first rest, lines width (Path.function path i) (depth + 1) p = .ok first
      ∧ nestedLines width path depth (i + 1) ps = .ok rest ∧ ls = first ++ .blank :: rest := by
  rw [nestedLines] at h
  obtain ⟨deeper, hdeeper, h⟩ := bind_eq_ok.mp h
  have hsuccessor : deeper = depth + 1 := by
    rcases successor_cases depth with hok | ⟨o, ho⟩
    · rw [hok] at hdeeper
      cases hdeeper
      rfl
    · rw [ho] at hdeeper
      cases hdeeper
  rw [hsuccessor] at h
  obtain ⟨first, hfirst, h⟩ := bind_eq_ok.mp h
  obtain ⟨rest, hrest, h⟩ := bind_eq_ok.mp h
  cases h
  exact ⟨first, rest, hfirst, hrest, rfl⟩

theorem settles_instructions {p q : Prototype} {ls ls' : List String}
    (hp : instructions p path = .ok ls) (hq : instructions q path = .ok ls') :
    Settles (layout width (ls.map (.text depth))) (layout width (ls'.map (.text depth)))
      (p.code.length = q.code.length ∧ ls = ls') := by
  obtain ⟨texts, rfl, hlength, htexts⟩ := exists_block_of_instructions hp
  obtain ⟨texts', rfl, hlength', htexts'⟩ := exists_block_of_instructions hq
  refine (settles_block (by decide) htexts htexts').imp ?_
  rintro rfl
  exact ⟨hlength.symm.trans hlength', rfl⟩

/-- As many nested functions on either side settle each other, if the first ones do. -/
theorem settles_nestedLines {ps qs : List Prototype} {ls ls' : List Line} {i : Nat}
    (h : ∀ p ∈ ps, ∀ q path depth ls ls', lines width path depth p = .ok ls →
      lines width path depth q = .ok ls' →
        Settles (layout width ls) (layout width ls') (AgreeBelow path p q))
    (hlength : ps.length = qs.length) (hps : nestedLines width path depth i ps = .ok ls)
    (hqs : nestedLines width path depth i qs = .ok ls') :
    Settles (layout width ls) (layout width ls')
      (∀ j p q, ps[j]? = some p → qs[j]? = some q →
        AgreeBelow (Path.function path (i + j)) p q) := by
  induction ps generalizing qs ls ls' i with
  | nil =>
    obtain rfl : qs = [] := List.length_eq_zero_iff.mp hlength.symm
    cases hps
    cases hqs
    exact (Settles.refl _).imp fun _ => nofun
  | cons p ps ih =>
    cases qs with
    | nil => cases hlength
    | cons q qs =>
      obtain ⟨hp, hrest⟩ := List.forall_mem_cons.mp h
      obtain ⟨first, others, hfirst, hothers, rfl⟩ := exists_of_nestedLines_cons hps
      obtain ⟨first', others', hfirst', hothers', rfl⟩ := exists_of_nestedLines_cons hqs
      simp only [layout_append, layout_cons]
      refine ((hp q _ _ _ _ hfirst hfirst').append fun _ => (Settles.refl _).append fun _ =>
        ih hrest (Nat.succ.inj hlength) hothers hothers').imp ?_
      rintro ⟨hagree, -, hagrees⟩ (_ | j) p' q' hp' hq'
      · cases hp'
        cases hq'
        exact hagree
      · have hindex : i + (j + 1) = i + 1 + j := by omega
        rw [hindex]
        exact hagrees j p' q' hp' hq'

/-- **The listing of a tree ends where it says**, and tells what the tree is like. -/
theorem settles_tree (p q : Prototype) (path : String) (depth : Nat) {ls ls' : List Line}
    (hp : lines width path depth p = .ok ls) (hq : lines width path depth q = .ok ls') :
    Settles (layout width ls) (layout width ls') (AgreeBelow path p q) := by
  induction p using Prototype.nestedInduction generalizing q path depth ls ls' with
  | step p ih =>
    obtain ⟨code, nested, hcode, hnested, rfl⟩ := exists_of_lines hp
    obtain ⟨code', nested', hcode', hnested', rfl⟩ := exists_of_lines hq
    simp only [List.map_append, List.map_cons, List.map_nil, layout_append, layout_cons]
    refine ((((settles_tables p q).append
      fun _ => settles_instructions hcode hcode').append
      fun _ => (settles_heading (by decide) _ _).append fun _ => Settles.refl _).append
      fun hsettled => settles_nestedLines ih hsettled.2.1 hnested hnested').imp ?_
    rintro ⟨⟨⟨htables, hcount, rfl⟩, hlength, -⟩, hagree⟩
    refine .of_functions ⟨htables, hcount, code, hcode, hcode'⟩ hlength fun i p' q' hp' hq' => ?_
    have := hagree i p' q' hp' hq'
    rwa [Nat.zero_add] at this

/-- **A listing loses nothing of the tables of a tree, and ends where it says.**  Trees with the
same listing, at whatever depth and with whatever indentation, have the same addresses, and the
functions there agree; and no text starts with two different listings. -/
theorem function_unambiguous (width depth : Nat) (p q : Prototype) (s t : String)
    (hp : function width depth p = .ok s) (hq : function width depth q = .ok t) :
    (s = t → ∀ address, Option.Rel (Agree (Path.nested "main" address)) (p.descend? address)
      (q.descend? address))
    ∧ ∀ r r', s ++ r = t ++ r' → s = t ∧ r = r' := by
  obtain ⟨ls, hls, hs⟩ := bind_eq_ok.mp hp
  obtain ⟨ls', hls', ht⟩ := bind_eq_ok.mp hq
  cases hs
  cases ht
  have hsettles := settles_tree p q "main" depth hls hls'
  refine ⟨fun h => (hsettles "" "" (by rw [h])).1, fun r r' h => ?_⟩
  obtain rfl := (hsettles r r' h).2
  exact ⟨(String.append_left_inj r).mp h, rfl⟩

/-- A function with a name that looks like a line of a listing, a NaN, and a nested function that
ends its code at once.  What a NaN carries and what stands beside the code of the end is left
open. -/
def veiled (payload : UInt64) (operand : UInt32) : Prototype :=
  ⟨"a:1", 1, 0, false, 1, [⟨"x (0-1)\n [1] => y", 0, 1⟩], [], ["\""],
    [⟨0x7FF0000000000000 + payload⟩],
    [⟨"", 2, 0, true, 1, [], [], [], [], [], [⟨64 * operand⟩]⟩], []⟩

/-- Different functions can have the same listing; they agree all the same. -/
theorem function_veiled_unambiguous :
    veiled 1 0 ≠ veiled 2 7
      ∧ ∃ s, function 0 3 (veiled 1 0) = .ok s ∧ function 0 3 (veiled 2 7) = .ok s
        ∧ Option.Rel (Agree "main.functions[0]") ((veiled 1 0).descend? [0])
          ((veiled 2 7).descend? [0]) := by
  obtain ⟨s, hs⟩ : ∃ s, function 0 3 (veiled 1 0) = .ok s := ⟨_, rfl⟩
  have htables : tables (veiled 2 7) = tables (veiled 1 0) := by decide +kernel
  have hsame : function 0 3 (veiled 2 7) = function 0 3 (veiled 1 0) := by
    rw [function, function, lines_eq, lines_eq, htables]
    rfl
  have hne : veiled 1 0 ≠ veiled 2 7 := fun h =>
    absurd (congrArg Prototype.numbers h) (by decide)
  exact ⟨hne, s, hs, hsame.trans hs,
    (function_unambiguous 0 3 _ _ s s hs (hsame.trans hs)).1 rfl [0]⟩

end Plain

end LuaChunk
