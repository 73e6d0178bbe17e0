import LuaChunk.Proofs.Input.Paths

/-!
# Proofs/Input/Segments — segments act on faults

Putting segments in front of a fault one after the other comes to the same as joining neighbours
first, in whatever groups, and putting the groups in front (`enclosed_path`).  This rests on
`within_within_eq_iff`, which says when two segments may be joined: the inner one must not be empty,
or else the path that they meet must take no dot.

The segments are all that a path is made of: it spells them from the outermost to the innermost, and
then the field (`field?_enclosed`).  Of the rest of a fault nothing changes (`pathless_within`).
-/

namespace LuaChunk

namespace Path

/-! ## The parts of a path -/

/-- A part of a path as it stands behind another: after a dot, unless it is an index. -/
def behind (part : String) : String := if part.toList.head? = some '[' then part else "." ++ part

/-- Parts, from the outermost to the innermost, as one path. -/
def ofParts : List String → String
  | [] => ""
  | first :: parts => first ++ String.join (parts.map behind)

/-- The parts of a path in segments: a field that has no name is none of them. -/
def parts (segments : List String) (field : String) : List String :=
  if field = "" then segments else segments ++ [field]

theorem behind_eq {part : String} (h : part ≠ "") : behind part = separator part ++ part := by
  have hhead : part.toList.head? ≠ none := fun hnone =>
    h (String.toList_eq_nil_iff.mp (List.head?_eq_none_iff.mp hnone))
  by_cases hindex : part.toList.head? = some '['
  · rw [behind, separator, if_pos hindex, if_pos (.inr hindex), String.empty_append]
  · rw [behind, separator, if_neg hindex, if_neg (not_or.mpr ⟨hhead, hindex⟩)]

/-- A segment goes in front of the parts of a path, whichever of them comes first. -/
theorem join_ofParts (segment : String) {ps : List String} (h : ∀ p ∈ ps, p ≠ "") :
    join segment (ofParts ps) = ofParts (segment :: ps) := by
  cases ps with
  | nil => rw [ofParts, join_eq, String.append_empty]; rfl
  | cons first ps =>
    have hfirst : first ≠ "" := h first List.mem_cons_self
    rw [ofParts, ofParts, join_eq, separator_append hfirst, List.map_cons, String.join_cons,
      behind_eq hfirst, String.append_assoc, String.append_assoc]

theorem parts_cons (segment : String) (segments : List String) (field : String) :
    parts (segment :: segments) field = segment :: parts segments field := by
  rw [parts, parts]
  split <;> rfl

theorem ne_empty_of_mem_parts {segments : List String} (h : ∀ s ∈ segments, s ≠ "")
    {field p : String} (hp : p ∈ parts segments field) : p ≠ "" := by
  rw [parts] at hp
  split at hp
  next => exact h p hp
  next hfield =>
    obtain hp | hp := List.mem_append.mp hp
    · exact h p hp
    · exact List.mem_singleton.mp hp ▸ hfield

theorem ofParts_parts_nil (field : String) : ofParts (parts [] field) = field := by
  rw [parts]
  split
  next h => exact h.symm
  next => simp [ofParts]

/-! ## When two segments may be joined -/

theorem separator_eq (path : String) : separator path = "" ∨ separator path = "." := by
  rw [separator]
  split
  · exact .inl rfl
  · exact .inr rfl

theorem join_empty (segment : String) : join segment "" = segment := rfl

theorem empty_join (path : String) : join "" path = separator path ++ path := by
  rw [join_eq, String.empty_append]

theorem join_ne_empty (segment : String) {rest : String} (h : rest ≠ "") :
    join segment rest ≠ "" := by
  simp [join_eq, h]

/-- **Two segments may be joined just when the inner one is not empty**, or the path that they meet
takes no dot.  An empty segment would leave a dot of its own in front of the path. -/
theorem join_join_eq_iff (a b c : String) :
    join a (join b c) = join (join a b) c ↔ b ≠ "" ∨ separator c = "" := by
  by_cases hb : b = ""
  · subst hb
    rw [join_empty, empty_join]
    obtain hc | hc := separator_eq c
    · simp [hc]
    · have hdot : separator ("." ++ c) = "." := by
        rw [separator_append (by decide)]
        decide
      simp [join_eq, hc, hdot]
  · exact iff_of_true (join_join hb a c) (.inl hb)

/-! ## Groups of segments -/

/-- A way of joining segments, from the outermost to the innermost, to one. -/
inductive Grouping where
  | segment (s : String)
  | joined (outer inner : Grouping)

namespace Grouping

/-- The segment that comes out. -/
def path : Grouping → String
  | .segment s => s
  | .joined outer inner => join outer.path inner.path

/-- The segments that go in. -/
def segments : Grouping → List String
  | .segment s => [s]
  | .joined outer inner => outer.segments ++ inner.segments

theorem segments_ne_nil (g : Grouping) : g.segments ≠ [] := by
  induction g with
  | segment s => exact List.cons_ne_nil _ _
  | joined outer inner houter => exact fun h => houter (List.append_eq_nil_iff.mp h).1

theorem path_ne_empty {g : Grouping} (h : ∀ s ∈ g.segments, s ≠ "") : g.path ≠ "" := by
  induction g with
  | segment s => exact h s List.mem_cons_self
  | joined outer inner _ hinner =>
    exact join_ne_empty _ (hinner fun s hs => h s (List.mem_append_right _ hs))

end Grouping

end Path

namespace Fault

open LuaChunk.Path (Grouping)

/-! ## A fault is its path and the rest of it -/

/-- A fault with another path in the place of its own. -/
def renamed (path : String) : Fault → Fault
  | .truncated _ offset needed available => .truncated path offset needed available
  | .malformedLength _ offset length => .malformedLength path offset length
  | .malformedString _ offset defect => .malformedString path offset defect
  | .tooDeeplyNested _ limit => .tooDeeplyNested path limit
  | fault => fault

/-- The rest of a fault: its kind and all that it says, but no path. -/
def pathless (e : Fault) : Fault := e.renamed ""

theorem renamed_pathless (e : Fault) : e.pathless.renamed (e.field?.getD "") = e := by
  cases e <;> rfl

theorem eq_iff_pathless {e e' : Fault} :
    e = e' ↔ e.field? = e'.field? ∧ e.pathless = e'.pathless := by
  constructor
  · rintro rfl
    exact ⟨rfl, rfl⟩
  · rintro ⟨hfield, hrest⟩
    rw [← renamed_pathless e, ← renamed_pathless e', hfield, hrest]

/-- **A segment changes nothing but the path.** -/
theorem pathless_within (e : Fault) (segment : String) :
    (e.within segment).pathless = e.pathless := by
  cases e <;> rfl

theorem within_of_field?_eq_none {e : Fault} (h : e.field? = none) (segment : String) :
    e.within segment = e := by
  rw [eq_iff_pathless, field?_within, pathless_within, h]
  exact ⟨rfl, rfl⟩

/-- **Two segments act as one just when they may be joined in front of the path.** -/
theorem within_within_eq_iff (e : Fault) (a b : String) :
    (e.within b).within a = e.within (Path.join a b)
      ↔ b ≠ "" ∨ ∀ path ∈ e.field?, Path.separator path = "" := by
  rw [eq_iff_pathless]
  simp only [field?_within, pathless_within, and_true]
  cases e.field? with
  | none => simp
  | some path => simp [Path.join_join_eq_iff]

/-! ## Any number of segments -/

/-- A fault as it comes out of all that encloses it, given by segments from the outermost to the
innermost. -/
def enclosed (e : Fault) (segments : List String) : Fault := segments.foldr within e

theorem enclosed_cons (e : Fault) (segment : String) (segments : List String) :
    e.enclosed (segment :: segments) = (e.enclosed segments).within segment := rfl

theorem enclosed_append (e : Fault) (outer inner : List String) :
    e.enclosed (outer ++ inner) = (e.enclosed inner).enclosed outer := List.foldr_append

/-- A group acts as the segments that go into it. -/
theorem within_path (e : Fault) {g : Grouping} (h : ∀ s ∈ g.segments.tail, s ≠ "") :
    e.within g.path = e.enclosed g.segments := by
  induction g generalizing e with
  | segment s => rfl
  | joined outer inner houter hinner =>
    rw [Grouping.segments, List.tail_append_of_ne_nil outer.segments_ne_nil] at h
    have hin : ∀ s ∈ inner.segments, s ≠ "" := fun s hs => h s (List.mem_append_right _ hs)
    calc e.within (Path.join outer.path inner.path)
        = (e.within inner.path).within outer.path :=
          (within_within (Grouping.path_ne_empty hin) _ e).symm
      _ = (e.enclosed inner.segments).within outer.path := by
          rw [hinner e fun s hs => hin s (List.mem_of_mem_tail hs)]
      _ = (e.enclosed inner.segments).enclosed outer.segments :=
          houter _ fun s hs => h s (List.mem_append_left _ hs)
      _ = e.enclosed (outer.segments ++ inner.segments) := (enclosed_append e _ _).symm

/-- **How segments are grouped makes no difference.** -/
theorem enclosed_path (e : Fault) {groups : List Grouping}
    (h : ∀ s ∈ (groups.flatMap Grouping.segments).tail, s ≠ "") :
    e.enclosed (groups.map Grouping.path) = e.enclosed (groups.flatMap Grouping.segments) := by
  induction groups with
  | nil => rfl
  | cons g groups ih =>
    rw [List.flatMap_cons, List.tail_append_of_ne_nil g.segments_ne_nil] at h
    have hrest := ih fun s hs => h s (List.mem_append_right _ (List.mem_of_mem_tail hs))
    rw [List.map_cons, enclosed_cons, hrest, List.flatMap_cons, enclosed_append]
    exact within_path _ fun s hs => h s (List.mem_append_left _ hs)

/-- **The path is made of the segments and the field**, each in its place. -/
theorem field?_enclosed (e : Fault) {segments : List String} (h : ∀ s ∈ segments.tail, s ≠ "") :
    (e.enclosed segments).field?
      = e.field?.map fun field => Path.ofParts (Path.parts segments field) := by
  induction segments with
  | nil => simp [enclosed, Path.ofParts_parts_nil]
  | cons segment segments ih =>
    have hinner : ∀ s ∈ segments, s ≠ "" := h
    rw [enclosed_cons, field?_within, ih fun s hs => hinner s (List.mem_of_mem_tail hs),
      Option.map_map]
    refine congrArg (Option.map · e.field?) (funext fun field => ?_)
    rw [Function.comp_apply, Path.parts_cons,
      Path.join_ofParts segment fun p hp => Path.ne_empty_of_mem_parts hinner hp]

/-- **Segments act on faults.**  Two of them in a row act as the two joined, just when the inner one
is not empty or the path that they meet takes no dot.  So any number of segments, of which only the
outermost may be empty, act the same in whatever groups they are joined beforehand.  A segment
changes nothing but the path, and nothing at all of a fault that has none.  The path that comes out
is made of the segments, from the outermost to the innermost, and then of the field, if it has a
name, with a dot before each part but the first and but those that are indices. -/
theorem segments_act (e : Fault) :
    (∀ a b, (e.within b).within a = e.within (Path.join a b)
      ↔ b ≠ "" ∨ ∀ path ∈ e.field?, Path.separator path = "")
    ∧ (∀ groups : List Grouping, (∀ s ∈ (groups.flatMap Grouping.segments).tail, s ≠ "") →
      e.enclosed (groups.map Grouping.path) = e.enclosed (groups.flatMap Grouping.segments))
    ∧ (∀ segment, (e.within segment).pathless = e.pathless)
    ∧ (e.field? = none → ∀ segment, e.within segment = e)
    ∧ (∀ segments, (∀ s ∈ segments.tail, s ≠ "") →
      (e.enclosed segments).field?
        = e.field?.map fun field => Path.ofParts (Path.parts segments field)) :=
  ⟨within_within_eq_iff e, fun _ => enclosed_path e, pathless_within e,
    within_of_field?_eq_none, fun _ => field?_enclosed e⟩

/-- A field of a local variable, behind the index of the variable and the name of their table, which
are joined beforehand.  In place of the index an empty segment would not do. -/
theorem segments_act_startPc :
    let e : Fault := .truncated "start_pc" 12 4 3
    let groups : List Grouping :=
      [.segment "main", .joined (.segment "local_vars") (.segment "[0]")]
    let segments := ["main", "local_vars", "[0]"]
    (groups.flatMap Grouping.segments = segments
      ∧ groups.map Grouping.path = ["main", "local_vars[0]"] ∧ ∀ s ∈ segments.tail, s ≠ "")
    ∧ e.enclosed ["main", "local_vars[0]"] = e.enclosed segments
    ∧ (e.enclosed segments).field? = some "main.local_vars[0].start_pc"
    ∧ (e.within "[0]").within "local_vars" = e.within "local_vars[0]"
    ∧ (e.within "").within "local_vars" ≠ e.within "local_vars"
    ∧ (e.within "[0]").pathless = .truncated "" 12 4 3
    ∧ (inputTooLarge 10 5).field? = none
    ∧ (inputTooLarge 10 5).within "main" = .inputTooLarge 10 5 := by
  intro e groups segments
  obtain ⟨hact, hgroups, hrest, -, hpath⟩ := segments_act e
  have hinner : ∀ s ∈ segments.tail, s ≠ "" := by decide
  refine ⟨⟨rfl, by decide, hinner⟩, hgroups groups hinner, ?_, ?_, ?_, hrest "[0]", rfl,
    (segments_act (.inputTooLarge 10 5)).2.2.2.1 rfl "main"⟩
  · exact (hpath segments hinner).trans (by decide)
  · exact (hact "local_vars" "[0]").mpr (.inl (by decide))
  · exact fun h => absurd ((hact "local_vars" "").mp h) (by decide)

end Fault

end LuaChunk
