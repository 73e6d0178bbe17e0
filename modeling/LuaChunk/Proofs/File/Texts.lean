import LuaChunk.Proofs.Charset.Ascii
import LuaChunk.Proofs.File.RoundTrip
import LuaChunk.Proofs.Input.Blind

/-!
# Proofs/File/Texts — the texts of a file, and all that a character set decides

A tree is its texts (`Prototype.texts`) and what is left without them (`Prototype.muted`).  The
texts of a file are its payloads, each decoded on its own (`texts_interpret`); the rest is the same
under every character set, and so is every fault (`ofBytes_charset`).
-/

namespace LuaChunk

namespace LocalVar

/-- A local variable without its name. -/
def muted (v : LocalVar) : LocalVar := { v with name := Reader.hidden v.name }

end LocalVar

namespace Prototype

mutual

/-- A tree without its texts. -/
def muted : Prototype → Prototype
  | ⟨source, line, parameters, vararg, stack, locals, lines, strings, numbers, functions, code⟩ =>
    { source := Reader.hidden source
      line, parameters, vararg, stack
      locals := locals.map LocalVar.muted
      lines
      strings := strings.map Reader.hidden
      numbers
      functions := mutedAll functions
      code }

def mutedAll : List Prototype → List Prototype
  | [] => []
  | p :: ps => p.muted :: mutedAll ps

end

mutual

/-- The texts of a tree: of each function its source, the names of its variables and its strings,
and then those of the functions nested in it. -/
def texts : Prototype → List String
  | ⟨source, _, _, _, _, locals, _, strings, _, functions, _⟩ =>
    source :: (locals.map LocalVar.name ++ strings ++ textsAll functions)

def textsAll : List Prototype → List String
  | [] => []
  | p :: ps => p.texts ++ textsAll ps

end

theorem mutedAll_eq (ps : List Prototype) : mutedAll ps = ps.map muted := by
  induction ps with
  | nil => rfl
  | cons p ps ih => rw [mutedAll, ih, List.map_cons]

end Prototype

namespace ChunkFile

/-- A file without its texts. -/
def muted (f : ChunkFile) : ChunkFile := { f with main := f.main.muted }

end ChunkFile

/-! ## Payloads -/

namespace Image.Function

mutual

/-- The payloads of a tree, in the order of its texts. -/
def payloads : Function → List (List UInt8)
  | ⟨source, _, _, _, _, locals, _, strings, _, functions, _⟩ =>
    source :: (locals.map Local.name ++ strings ++ payloadsAll functions)

def payloadsAll : List Function → List (List UInt8)
  | [] => []
  | p :: ps => p.payloads ++ payloadsAll ps

end

mutual

/-- **The texts of a tree are its payloads, each decoded on its own.** -/
theorem texts_interpret (charset : Charset) :
    ∀ p : Function, (p.interpret charset).texts = p.payloads.map (text charset)
  | ⟨source, line, parameters, vararg, stack, locals, lines, strings, numbers, functions,
      code⟩ => by
    have hlocals : (locals.map (Local.interpret charset)).map LocalVar.name
        = (locals.map Local.name).map (text charset) := by
      rw [List.map_map, List.map_map]
      rfl
    rw [interpret, Prototype.texts, payloads, hlocals, textsAll_interpretAll charset functions]
    simp only [List.map_cons, List.map_append]

theorem textsAll_interpretAll (charset : Charset) :
    ∀ ps : List Function,
      Prototype.textsAll (interpretAll charset ps) = (payloadsAll ps).map (text charset)
  | [] => rfl
  | p :: ps => by
    rw [interpretAll, Prototype.textsAll, payloadsAll, texts_interpret charset p,
      textsAll_interpretAll charset ps, List.map_append]

end

mutual

/-- Nothing of a tree but its payloads is decoded. -/
theorem interpret_congr {cs cs' : Charset} :
    ∀ p : Function, (∀ payload ∈ p.payloads, text cs payload = text cs' payload) →
      p.interpret cs = p.interpret cs'
  | ⟨source, line, parameters, vararg, stack, locals, lines, strings, numbers, functions, code⟩,
    h => by
    simp only [payloads, List.forall_mem_cons, List.forall_mem_append, List.forall_mem_map] at h
    obtain ⟨hsource, ⟨hnames, hstrings⟩, hfunctions⟩ := h
    have hlocals : locals.map (Local.interpret cs) = locals.map (Local.interpret cs') :=
      List.map_congr_left fun v hv => by rw [Local.interpret, Local.interpret, hnames v hv]
    rw [interpret, interpret, hsource, hlocals, List.map_congr_left hstrings,
      interpretAll_congr functions hfunctions]

theorem interpretAll_congr {cs cs' : Charset} :
    ∀ ps : List Function, (∀ payload ∈ payloadsAll ps, text cs payload = text cs' payload) →
      interpretAll cs ps = interpretAll cs' ps
  | [], _ => rfl
  | p :: ps, h => by
    obtain ⟨hp, hps⟩ := List.forall_mem_append.mp h
    rw [interpretAll, interpretAll, interpret_congr p hp, interpretAll_congr ps hps]

end

end Image.Function

theorem Image.File.texts_interpret (i : Image.File) (charset : Charset) :
    (i.interpret charset).main.texts = i.main.payloads.map (Image.text charset) :=
  Image.Function.texts_interpret charset i.main

namespace Reader

theorem mem_of_mem_trimNul {b : UInt8} {bytes : List UInt8} (h : b ∈ trimNul bytes) :
    b ∈ bytes := by
  rw [trimNul, List.mem_reverse] at h
  exact List.mem_reverse.mp ((List.dropWhile_suffix _).subset h)

end Reader

/-- A payload of ASCII is the same text in every character set. -/
theorem Image.text_of_ascii (cs cs' : Charset) {payload : List UInt8}
    (h : ∀ b ∈ payload, b < 0x80) : text cs payload = text cs' payload :=
  Charset.decode_of_ascii cs cs' fun b hb => h b (Reader.mem_of_mem_trimNul hb)

/-! ## Reading under two character sets -/

namespace Reader

theorem blind_localVar : Blind LocalVar.muted LocalVar.read LocalVar.read :=
  (blind_string _).bind fun _ _ _ => (blind_int32 _).bind_same fun _ =>
    (blind_int32 _).bind_same fun _ => Blind.pure rfl

theorem blind_word : Blind id Word.read Word.read :=
  (blind_uint32 _).bind_same fun _ => Blind.pure rfl

/-- **The tree that is read under another character set differs in its texts only.**  No step looks
at a text, so each is compared for all pairs of them. -/
theorem blind_prototype (limit levels depth : Nat) :
    Blind Prototype.muted (Prototype.read limit levels depth)
      (Prototype.read limit levels depth) := by
  induction levels generalizing depth with
  | zero => exact Blind.fail _
  | succ levels ih =>
    refine (blind_string _).bind fun source source' _ => (blind_int32 _).bind_same fun line =>
      (blind_int32 _).bind_same fun parameters => (blind_byte _).bind_same fun vararg =>
      (blind_int32 _).bind_same fun stack =>
      (blind_localVar.table _).bind fun locals locals' hlocals =>
      ((blind_int32 _).table _).bind fun lines lines' hlines =>
      ((blind_string _).table _).bind fun strings strings' hstrings =>
      ((blind_binary64 _).table _).bind fun numbers numbers' hnumbers =>
      ((ih (depth + 1)).table _).bind fun functions functions' hfunctions =>
      (blind_word.table _).bind fun code code' hcode =>
      (Blind.report _ _).bind_same fun _ => Blind.pure ?_
    rw [List.map_id, List.map_id] at hlines hnumbers hcode
    rw [Prototype.muted, Prototype.muted, Prototype.mutedAll_eq, Prototype.mutedAll_eq, hlocals,
      hlines, hstrings, hnumbers, hfunctions, hcode]
    rfl

theorem blind_header : Blind id Header.read Header.read := by
  refine (blind_byte _).bind_same fun first => ?_
  split
  · exact Blind.fail _
  · refine (Blind.take _ _).bind_same fun letters => ?_
    split
    · exact Blind.fail _
    · refine (blind_byte _).bind_same fun version => (Blind.reportIf _ _ _ _).bind_same fun _ =>
        (blind_byte _).bind_same fun flag => ?_
      split
      · exact Blind.pure rfl
      · exact Blind.fail _

theorem blind_selfCheck : Blind id SelfCheck.read SelfCheck.read :=
  (blind_byte _).bind_same fun _ => (blind_byte _).bind_same fun _ =>
    (blind_byte _).bind_same fun _ => (blind_byte _).bind_same fun _ =>
    (blind_byte _).bind_same fun _ => (blind_byte _).bind_same fun _ =>
    (blind_byte _).bind_same fun _ => (blind_binary64 _).bind_same fun _ => Blind.pure rfl

end Reader

namespace ChunkFile

open Reader

theorem blind_judge (strictness : Strictness) (record : SelfCheck) :
    Blind id (judge strictness record) (judge strictness record) := by
  unfold judge
  split
  · exact Blind.pure rfl
  · exact Blind.fail _
  · exact Blind.report _ _

theorem blind_read (options : LoadOptions) (charset : Charset) :
    Blind muted (read options) (read { options with charset }) := by
  refine blind_header.bind_same fun header => (Blind.setOrder _).bind_same fun _ =>
    blind_selfCheck.bind_same fun record => (blind_judge _ record).bind_same fun _ =>
    ((blind_prototype _ _ _).within _).bind fun main main' hmain =>
    Blind.cursor_bind fun _ _ => (Blind.reportIf _ _ _ _).bind_same fun _ => Blind.pure ?_
  rw [muted, muted, hmain]

/-- The two outcomes are one, as far as texts are left out. -/
theorem ofBytes_map_muted (options : LoadOptions) (charset : Charset) (bytes : List UInt8) :
    (ofBytes { options with charset } bytes).map muted = (ofBytes options bytes).map muted := by
  by_cases hlen : bytes.length ≤ options.maxLength
  · have hrun : ofBytes { options with charset } bytes = _ := ofBytes_of_le hlen
    rw [hrun, ofBytes_of_le hlen]
    exact (blind_read options charset (Cursor.start bytes .little options.charset) charset).1
  · have hlt := Nat.not_le.mp hlen
    have hlarge : ofBytes { options with charset } bytes = _ := ofBytes_of_lt hlt
    rw [hlarge, ofBytes_of_lt hlt]

/-- A fault does not depend on the character set. -/
theorem ofBytes_error_charset {options : LoadOptions} {bytes : List UInt8} {e : Fault}
    (h : ofBytes options bytes = .error e) (charset : Charset) :
    ofBytes { options with charset } bytes = .error e := by
  have hmap := ofBytes_map_muted options charset bytes
  rw [h] at hmap
  cases h' : ofBytes { options with charset } bytes with
  | ok f =>
    rw [h'] at hmap
    cases hmap
  | error e' =>
    rw [h'] at hmap
    obtain rfl : e' = e := Except.error.inj hmap
    rfl

/-- An accepted file holds one image, and each character set reads the payloads of that image. -/
theorem exists_image_charset {options : LoadOptions} {bytes : List UInt8} {f : ChunkFile}
    (h : ofBytes options bytes = .ok f) :
    ∃ (i : Image.File) (tail : List UInt8), i.main.Fits ∧ bytes = i.bytes ++ tail
      ∧ ∀ charset, ofBytes { options with charset } bytes = .ok (i.interpret charset) := by
  have hlen := length_le_of_ok h
  obtain ⟨i, tail, hi, rfl⟩ := exists_image_of_ok h
  exact ⟨i, tail, hi.fits, rfl, fun charset =>
    ofBytes_bytes_append ⟨hi.fits, hi.height_le, hi.agrees⟩ hlen⟩

/-- **A character set decides texts, and nothing else.**  Under two sets a file is refused with one
and the same fault, or it is accepted as two trees that are the same tree without their texts.  The
texts are the payloads of the file, each decoded on its own, and where a payload is ASCII its text
is the same in both. -/
theorem ofBytes_charset (options : LoadOptions) (cs cs' : Charset) (bytes : List UInt8) :
    (∃ e, ofBytes { options with charset := cs } bytes = .error e
        ∧ ofBytes { options with charset := cs' } bytes = .error e)
      ∨ ∃ f f' : ChunkFile,
        ofBytes { options with charset := cs } bytes = .ok f
          ∧ ofBytes { options with charset := cs' } bytes = .ok f'
          ∧ f.muted = f'.muted
          ∧ ∃ (i : Image.File) (tail : List UInt8), i.main.Fits ∧ bytes = i.bytes ++ tail
            ∧ f.main.texts = i.main.payloads.map (Image.text cs)
            ∧ f'.main.texts = i.main.payloads.map (Image.text cs')
            ∧ (∀ (n : Nat) (payload : List UInt8), i.main.payloads[n]? = some payload →
                (∀ b ∈ payload, b < 0x80) →
                ∃ t, f.main.texts[n]? = some t ∧ f'.main.texts[n]? = some t)
            ∧ ((∀ payload ∈ i.main.payloads, ∀ b ∈ payload, b < 0x80) → f = f') := by
  cases h : ofBytes { options with charset := cs } bytes with
  | error e =>
    have h' : ofBytes { options with charset := cs' } bytes = .error e :=
      ofBytes_error_charset h cs'
    exact .inl ⟨e, rfl, h'⟩
  | ok f =>
    obtain ⟨i, tail, hfits, hbytes, hread⟩ := exists_image_charset h
    have hf : f = i.interpret cs := Except.ok.inj (h.symm.trans (hread cs))
    have hmuted : f.muted = (i.interpret cs').muted := by
      have hmap := ofBytes_map_muted { options with charset := cs } cs' bytes
      rw [h, hread cs'] at hmap
      exact (Except.ok.inj hmap).symm
    subst hf
    refine .inr ⟨_, _, rfl, hread cs', hmuted, i, tail, hfits, hbytes, i.texts_interpret cs,
      i.texts_interpret cs', ?_, ?_⟩
    · intro n payload hn hascii
      refine ⟨Image.text cs payload, ?_, ?_⟩
      · rw [i.texts_interpret, List.getElem?_map, hn, Option.map_some]
      · rw [i.texts_interpret, List.getElem?_map, hn, Option.map_some,
          Image.text_of_ascii cs cs' hascii]
    · intro hascii
      have hmain := Image.Function.interpret_congr i.main fun payload hp =>
        Image.text_of_ascii cs cs' (hascii payload hp)
      rw [Image.File.interpret, Image.File.interpret, hmain]

/-- The two sets may well differ in the texts: here in a byte that is no UTF-8. -/
theorem ofBytes_charset_specimen :
    ∃ f f' : ChunkFile,
      ofBytes .default Image.File.specimen.bytes = .ok f
        ∧ ofBytes { LoadOptions.default with charset := .latin1 } Image.File.specimen.bytes = .ok f'
        ∧ f.muted = f'.muted
        ∧ f.main.texts[2]? = some "\uFFFDa" ∧ f'.main.texts[2]? = some "ÿa" := by
  obtain ⟨e, he, -⟩ | ⟨f, f', hf, hf', hmuted, i, tail, hfits, hbytes, htexts, htexts', -⟩ :=
    ofBytes_charset .default .utf8 .latin1 Image.File.specimen.bytes
  · cases ofBytes_specimen.symm.trans he
  · obtain ⟨rfl, -⟩ := Image.File.bytes_append_inj Image.File.specimen_admissible.fits hfits
      ((List.append_nil _).trans hbytes)
    refine ⟨f, f', hf, hf', hmuted, ?_, ?_⟩
    · rw [htexts]
      decide +kernel
    · rw [htexts']
      decide +kernel

end ChunkFile

end LuaChunk
