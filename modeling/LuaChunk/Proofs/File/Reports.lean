import LuaChunk.Proofs.File.Address
import LuaChunk.Proofs.File.SelfCheck

/-!
# Proofs/File/Reports — what accepting a file reports

    version? · self-check? · main function · trailing?
                               │
        its strings · its nested functions, one level down · the function

Reports come from the header, the judgement of the record, the decoder of texts and the reader of
functions, each in the middle of its work.  `Image.Function.trace` puts them in order by one
recursion; here is the equation that it satisfies (`trace_eq`), and what is left of it when only the
functions are looked at: the tree in post-order (`filter_trace`).
-/

namespace LuaChunk

namespace Event

/-- Whether a report is for debugging only. -/
def isDebug (e : Event) : Bool := e.severity == .debug

/-- Nothing that a reader reports is too small for a threshold of debugging. -/
theorem shown_record (e : Event) : e.record.shown .debug = true := by
  cases e <;> rfl

end Event

namespace Prototype

mutual

/-- The functions of a tree with their depths, each behind those nested in it. -/
def postorder (depth : Nat) : Prototype → List (Nat × Prototype)
  | p@⟨_, _, _, _, _, _, _, _, _, functions, _⟩ =>
    postorderAll (depth + 1) functions ++ [(depth, p)]

/-- The functions of a list of trees. -/
def postorderAll (depth : Nat) : List Prototype → List (Nat × Prototype)
  | [] => []
  | p :: ps => p.postorder depth ++ postorderAll depth ps

end

mutual

/-- The two orders list the same functions at the same depths. -/
theorem postorder_perm (depth : Nat) : ∀ p : Prototype, (p.postorder depth).Perm (p.preorder depth)
  | ⟨_, _, _, _, _, _, _, _, _, functions, _⟩ => by
    rw [postorder, preorder]
    exact (List.perm_append_singleton _ _).trans ((postorderAll_perm (depth + 1) functions).cons _)

theorem postorderAll_perm (depth : Nat) :
    ∀ ps : List Prototype, (postorderAll depth ps).Perm (preorderAll depth ps)
  | [] => .refl _
  | p :: ps => by
    rw [postorderAll, preorderAll]
    exact (postorder_perm depth p).append (postorderAll_perm depth ps)

end

theorem length_postorder (p : Prototype) (depth : Nat) : (p.postorder depth).length = p.count :=
  (postorder_perm depth p).length_eq.trans (length_preorder depth p)

end Prototype

namespace Image.Function

/-- The payloads of a function's own strings, in the order of the file. -/
def ownPayloads (p : Function) : List (List UInt8) :=
  p.source :: p.locals.map Local.name ++ p.strings

/-- Those of them, without the NULs at their ends, that have bytes which name no character. -/
def undecodable (charset : Charset) (p : Function) : List (List UInt8) :=
  (p.ownPayloads.map Reader.trimNul).filter charset.malformed

/-- A text is reported if it is undecodable. -/
theorem events_string (charset : Charset) (payload : List UInt8) :
    Layout.string.events charset payload
      = ([Reader.trimNul payload].filter charset.malformed).map (.undecodable charset) := by
  change (if charset.malformed (Reader.trimNul payload) = true then _ else _) = _
  split
  next hbad => rw [List.filter_cons_of_pos hbad, List.filter_nil, List.map_singleton]
  next hgood => rw [List.filter_cons_of_neg hgood, List.filter_nil, List.map_nil]

theorem flatMap_events_string (charset : Charset) (payloads : List (List UInt8)) :
    payloads.flatMap (Layout.string.events charset)
      = ((payloads.map Reader.trimNul).filter charset.malformed).map (.undecodable charset) := by
  induction payloads with
  | nil => rfl
  | cons payload payloads ih =>
    rw [List.flatMap_cons, ih, events_string, ← List.map_append, ← List.filter_append]
    rfl

/-- **What reading a function reports**: its undecodable strings in the order of the file, then what
its nested functions report one level down, and at last the function itself. -/
theorem trace_eq (charset : Charset) (depth : Nat) (p : Function) :
    p.trace charset depth
      = (p.undecodable charset).map (.undecodable charset)
        ++ p.functions.flatMap (trace charset (depth + 1))
        ++ [.function (text charset p.source) p.line.toInt depth
            ⟨p.locals.length, p.strings.length, p.numbers.length, p.functions.length,
              p.code.length⟩] := by
  obtain ⟨source, line, parameters, vararg, stack, locals, lines, strings, numbers, functions,
    code⟩ := p
  rw [trace, traceAll_eq, undecodable, ← flatMap_events_string, ownPayloads]
  simp [interpret, interpretAll_eq, Prototype.readEvent, List.flatMap_map]

/-- Undecodable strings are warned of, so they are no reports of functions. -/
theorem filter_undecodable (charset : Charset) (payloads : List (List UInt8)) :
    (payloads.map (Event.undecodable charset)).filter Event.isDebug = [] := by
  rw [List.filter_map]
  simp [Event.isDebug, Event.severity]

mutual

/-- **The reports of functions list the tree in post-order.** -/
theorem filter_trace (charset : Charset) (depth : Nat) : ∀ p : Function,
    (p.trace charset depth).filter Event.isDebug
      = ((p.interpret charset).postorder depth).map fun m => m.2.readEvent m.1
  | p@⟨source, line, parameters, vararg, stack, locals, lines, strings, numbers, functions,
      code⟩ => by
    have hnested := filter_traceAll charset (depth + 1) functions
    rw [traceAll_eq] at hnested
    rw [trace_eq, List.filter_append, List.filter_append, filter_undecodable, List.nil_append,
      hnested, interpret, Prototype.postorder, List.map_append]
    simp [Prototype.readEvent, interpretAll_eq, Event.isDebug, Event.severity]

theorem filter_traceAll (charset : Charset) (depth : Nat) : ∀ ps : List Function,
    (traceAll charset depth ps).filter Event.isDebug
      = (Prototype.postorderAll depth (interpretAll charset ps)).map fun m => m.2.readEvent m.1
  | [] => rfl
  | p :: ps => by
    rw [traceAll, interpretAll, Prototype.postorderAll, List.filter_append, List.map_append,
      filter_trace charset depth p, filter_traceAll charset depth ps]

end

end Image.Function

namespace Image.File

/-- **What accepting a file reports** that was written from an image, with `tail` behind it: a
foreign version, a record that differs and is tolerated, the main function with all that is in it,
and the bytes that are left. -/
def reports (options : LoadOptions) (f : File) (tail : List UInt8) : List Event :=
  (if f.header.version = 0x40 then [] else [.version f.header.version 0x40])
    ++ (if options.strictness = .lenient then (f.selfCheck.mismatch?.map Event.tolerated).toList
      else [])
    ++ f.main.trace options.charset 0
    ++ if tail = [] then [] else [.trailing tail.length f.bytes.length]

theorem events_header (charset : Charset) (header : Header) :
    Layout.header.events charset header
      = if header.version = 0x40 then [] else [.version header.version 0x40] := by
  change (if header.version != Header.currentVersion then _ else _) = _
  simp [Header.currentVersion]

/-- A strict reader accepts no record that differs, so it has none to report. -/
theorem Admissible.tolerated_eq {options : LoadOptions} {f : File} (hf : f.Admissible options) :
    (f.selfCheck.mismatch?.map Event.tolerated).toList
      = if options.strictness = .lenient then (f.selfCheck.mismatch?.map Event.tolerated).toList
        else [] := by
  cases hstrictness : options.strictness with
  | lenient => rfl
  | strict =>
    rw [hf.agrees hstrictness]
    rfl

theorem reports_eq {options : LoadOptions} {f : File} (hf : f.Admissible options)
    (tail : List UInt8) :
    f.reports options tail
      = f.trace options.charset
        ++ if !tail.isEmpty then [.trailing tail.length (0 + f.bytes.length)] else [] := by
  rw [reports, trace, events_header, ← hf.tolerated_eq]
  simp [ite_not]

/-- The reports of functions are those that reading the main function makes. -/
theorem filter_reports (options : LoadOptions) (f : File) (tail : List UInt8) :
    (f.reports options tail).filter Event.isDebug
      = ((f.interpret options.charset).main.postorder 0).map fun m => m.2.readEvent m.1 := by
  have htolerated (o : Option Mismatch) :
      (o.map Event.tolerated).toList.filter Event.isDebug = [] := by
    cases o <;> rfl
  rw [reports, List.filter_append, List.filter_append, List.filter_append, f.main.filter_trace,
    apply_ite (List.filter _), apply_ite (List.filter _), apply_ite (List.filter _), htolerated]
  simp [Event.isDebug, Event.severity, interpret]

end Image.File

namespace ChunkFile

/-- **Reading what was written reports what is in it.** -/
theorem load_bytes_append {options : LoadOptions} {f : Image.File} {tail : List UInt8}
    (hf : f.Admissible options) (hlen : (f.bytes ++ tail).length ≤ options.maxLength) :
    load options (f.bytes ++ tail)
      = (.ok (f.interpret options.charset), f.reports options tail) := by
  rw [load, if_neg (Nat.not_lt.mpr hlen), run_read hf rfl, f.reports_eq hf]
  rfl

/-- **The reports of an accepted file are a trace of what is in it.**  The file is written from an
image, and what is reported is told by the image and the bytes behind it; all of it is shown at a
threshold of debugging.  The trace of a function is made of its own strings, the traces of its
nested functions one level down, and the function.  So the reports for debugging list the tree in
post-order, and there are as many of them as there are functions. -/
theorem load_reports (options : LoadOptions) (bytes : List UInt8) (g : ChunkFile)
    (events : List Event) (h : load options bytes = (.ok g, events)) :
    (∃ (f : Image.File) (tail : List UInt8),
      f.Admissible options ∧ bytes = f.bytes ++ tail ∧ g = f.interpret options.charset
        ∧ events = f.reports options tail)
    ∧ (events.map Event.record).filter (Record.shown .debug) = events.map Event.record
    ∧ (∀ (depth : Nat) (p : Image.Function), p.trace options.charset depth
        = (p.undecodable options.charset).map (.undecodable options.charset)
          ++ p.functions.flatMap (Image.Function.trace options.charset (depth + 1))
          ++ [.function (Image.text options.charset p.source) p.line.toInt depth
              ⟨p.locals.length, p.strings.length, p.numbers.length, p.functions.length,
                p.code.length⟩])
    ∧ events.filter Event.isDebug
        = (g.main.postorder 0).map (fun m => m.2.readEvent m.1)
    ∧ (events.filter Event.isDebug).length = g.main.count := by
  have hok : ofBytes options bytes = .ok g := congrArg Prod.fst h
  obtain ⟨f, tail, hf, rfl⟩ := exists_image_of_ok hok
  rw [load_bytes_append hf (length_le_of_ok hok)] at h
  obtain ⟨hg, rfl⟩ := Prod.mk.inj h
  obtain rfl : f.interpret options.charset = g := Except.ok.inj hg
  have hfunctions := f.filter_reports options tail
  refine ⟨⟨f, tail, hf, rfl, rfl, rfl⟩, ?_, fun depth p => p.trace_eq _ depth, hfunctions, ?_⟩
  · refine List.filter_eq_self.mpr fun r hr => ?_
    obtain ⟨e, -, rfl⟩ := List.mem_map.mp hr
    exact e.shown_record
  · rw [hfunctions, List.length_map, Prototype.length_postorder]

/-- The specimen with a record of another machine, a nested function and two bytes too many, read by
a reader that tolerates the record. -/
theorem load_reports_foreignRecord :
    let options : LoadOptions := { LoadOptions.default with strictness := .lenient }
    let f : Image.File := { Image.File.specimen with selfCheck := foreignRecord }
    let events : List Event :=
      [.version 0x41 0x40, .tolerated ⟨"size_size_t", "8", "4"⟩, .undecodable .utf8 [0xFF, 0x61],
        .function "" 1 1 ⟨0, 0, 0, 0, 1⟩, .function "@a\x00b" (-1) 0 ⟨1, 1, 1, 1, 1⟩,
        .trailing 2 151]
    load options (f.bytes ++ [1, 2]) = (.ok (f.interpret .utf8), events)
      ∧ events.filter Event.isDebug
        = ((f.interpret .utf8).main.postorder 0).map (fun m => m.2.readEvent m.1)
      ∧ (f.interpret .utf8).main.count = 2 := by
  intro options f events
  have hf : f.Admissible options := {
    fits := Image.File.specimen_admissible.fits
    height_le := Image.File.specimen_admissible.height_le
    agrees := nofun }
  have hload : load options (f.bytes ++ [1, 2]) = (.ok (f.interpret .utf8), events) := by
    rw [load_bytes_append hf (by decide +kernel)]
    have hreports : f.reports options [1, 2] = events := by decide +kernel
    rw [hreports]
    rfl
  obtain ⟨-, -, -, hfunctions, hcount⟩ := load_reports _ _ _ _ hload
  exact ⟨hload, hfunctions, hcount.symm⟩

end ChunkFile

end LuaChunk
