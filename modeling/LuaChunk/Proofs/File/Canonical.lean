import LuaChunk.Proofs.Charset.LowAscii
import LuaChunk.Proofs.File.Texts

/-!
# Proofs/File/Canonical — a file that was read, written anew

    bytes  ──read──▸  file  ──write──▸  canonical bytes  ──read──▸  the same file

Reading loses padding, malformed bytes and the number behind a flag, so the bytes of a file are not
found again.  But what is left after one reading is all there is to lose: a text that was read is
found again in its UTF-8 bytes (`Image.text_textBytes`, `getLast?_text_ne_nul`), and so the whole
file is, in either byte order (`ofBytes_image_of_ok`).
-/

namespace LuaChunk

open Charset

/-! ## The bytes of a text -/

/-- The bytes from a position on are appended to those before it. -/
theorem toList_loop_eq (bytes : ByteArray) (i : Nat) (front : List UInt8) :
    ByteArray.toList.loop bytes i front = front.reverse ++ bytes.data.toList.drop i := by
  rw [ByteArray.toList.loop]
  by_cases h : i < bytes.size
  · have hi : i < bytes.data.toList.length := h
    have hget : bytes.get! i = bytes.data.toList[i] := getElem!_pos bytes.data i h
    rw [if_pos h, toList_loop_eq bytes (i + 1), List.reverse_cons, hget,
      List.drop_eq_getElem_cons hi, List.append_assoc, List.singleton_append]
  · have hi : bytes.data.toList.length ≤ i := Nat.le_of_not_lt h
    rw [if_neg h, List.drop_eq_nil_of_le hi, List.append_nil]
termination_by bytes.size - i

theorem textBytes_eq (t : String) : textBytes t = Utf8.encode t.toList := by
  have hloop : textBytes t = t.toUTF8.data.toList := toList_loop_eq t.toUTF8 0 []
  have hbytes : t.toUTF8 = (Utf8.encode t.toList).toByteArray := String.utf8Encode_toList.symm
  rw [hloop, hbytes, List.toList_data_toByteArray]

namespace Reader

theorem trimNul_eq_self {bytes : List UInt8} (h : bytes.getLast? ≠ some 0) :
    trimNul bytes = bytes := by
  rw [← List.head?_reverse] at h
  rw [trimNul]
  cases hrev : bytes.reverse with
  | nil => exact (List.reverse_eq_nil_iff.mp hrev).symm
  | cons b front =>
    have hb : (b == 0) = false := by
      refine beq_eq_false_iff_ne.mpr fun hb => h ?_
      rw [hrev, hb, List.head?_cons]
    rw [List.dropWhile_cons, hb, if_neg Bool.false_ne_true, ← hrev, List.reverse_reverse]

end Reader

/-- Only `U+0000` is written as a zero. -/
theorem exists_encodeChar_concat (c : Char) :
    ∃ (front : List UInt8) (last : UInt8), String.utf8EncodeChar c = front ++ [last]
      ∧ (last = 0 → c = '\x00') := by
  have hne (n : Nat) : UInt8.ofNat (n % 64 + 128) ≠ 0 := by
    intro h
    have hle : 0x80 ≤ (UInt8.ofNat (n % 64 + 128)).toNat := (Utf8.isContinuation_ofNat n).1
    rw [h] at hle
    exact absurd hle (by decide)
  unfold String.utf8EncodeChar
  dsimp only
  split
  next hle =>
    refine ⟨[], _, rfl, fun hlast => ?_⟩
    have hzero : c.val.toNat = 0 := by
      rw [← Utf8.toNat_byte (n := c.val.toNat) (by omega), hlast]
      rfl
    rw [← Char.ofNat_toNat c, Char.toNat, hzero]
  split
  · exact ⟨[_], _, rfl, fun h => absurd h (hne _)⟩
  split
  · exact ⟨[_, _], _, rfl, fun h => absurd h (hne _)⟩
  · exact ⟨[_, _, _], _, rfl, fun h => absurd h (hne _)⟩

theorem getLast?_textBytes_ne {t : String} (h : t.toList.getLast? ≠ some '\x00') :
    (textBytes t).getLast? ≠ some 0 := by
  rw [textBytes_eq]
  rcases List.eq_nil_or_concat t.toList with hnil | ⟨cs, c, hconcat⟩
  · rw [hnil]
    exact nofun
  · rw [List.concat_eq_append] at hconcat
    rw [hconcat, List.getLast?_concat] at h
    obtain ⟨front, last, hc, hlast⟩ := exists_encodeChar_concat c
    rw [hconcat, Utf8.encode, List.flatMap_append, List.flatMap_singleton, hc, ← List.append_assoc,
      List.getLast?_concat]
    exact fun heq => h (congrArg some (hlast (Option.some.inj heq)))

namespace Image

/-- **No text that was read ends in `U+0000`.** -/
theorem getLast?_text_ne_nul (payload : List UInt8) :
    (text .utf8 payload).toList.getLast? ≠ some '\x00' :=
  getLast?_decode_ne_nul .utf8 (Reader.getLast?_trimNul_ne payload)

/-- **A text that does not end in `U+0000` is read back from its bytes.** -/
theorem text_textBytes {t : String} (h : t.toList.getLast? ≠ some '\x00') :
    text .utf8 (textBytes t) = t := by
  rw [text, Reader.trimNul_eq_self (getLast?_textBytes_ne h), textBytes_eq, Utf8.decode_encode,
    String.ofList_toList]

end Image

/-! ## Trees -/

namespace Prototype

theorem imageAll_eq (ps : List Prototype) : imageAll ps = ps.map image := by
  induction ps with
  | nil => rfl
  | cons p ps ih => rw [imageAll, ih, List.map_cons]

mutual

/-- **A tree is read back from its image** if all its texts are. -/
theorem interpret_image :
    ∀ p : Prototype, (∀ t ∈ p.texts, Image.text .utf8 (textBytes t) = t) →
      p.image.interpret .utf8 = p
  | ⟨source, line, parameters, vararg, stack, locals, lines, strings, numbers, functions, code⟩,
    h => by
    simp only [texts, List.forall_mem_cons, List.forall_mem_append, List.forall_mem_map] at h
    obtain ⟨hsource, ⟨hnames, hstrings⟩, hfunctions⟩ := h
    have hlocals : (locals.map fun v => (⟨textBytes v.name, v.start, v.stop⟩ : Image.Local)).map
        (Image.Local.interpret .utf8) = locals := by
      rw [List.map_map]
      refine (List.map_congr_left fun v hv => ?_).trans (List.map_id locals)
      rw [Function.comp_apply, Image.Local.interpret, hnames v hv, id]
    have htables : (strings.map textBytes).map (Image.text .utf8) = strings := by
      rw [List.map_map]
      exact (List.map_congr_left hstrings).trans (List.map_id strings)
    have hvararg : ((if vararg then 1 else 0 : UInt8) != 0) = vararg := by
      cases vararg <;> rfl
    rw [image, Image.Function.interpret, hsource, hlocals, htables, hvararg,
      interpretAll_imageAll functions hfunctions]

theorem interpretAll_imageAll :
    ∀ ps : List Prototype, (∀ t ∈ textsAll ps, Image.text .utf8 (textBytes t) = t) →
      Image.Function.interpretAll .utf8 (imageAll ps) = ps
  | [], _ => rfl
  | p :: ps, h => by
    obtain ⟨hp, hps⟩ := List.forall_mem_append.mp h
    rw [imageAll, Image.Function.interpretAll, interpret_image p hp, interpretAll_imageAll ps hps]

end

end Prototype

namespace Image.Function

mutual

theorem height_image_interpret (charset : Charset) :
    ∀ p : Function, (p.interpret charset).image.height = p.height
  | ⟨source, line, parameters, vararg, stack, locals, lines, strings, numbers, functions,
      code⟩ => by
    rw [interpret, Prototype.image, height, height, heightAll_image_interpret charset functions]

theorem heightAll_image_interpret (charset : Charset) :
    ∀ ps : List Function, heightAll (Prototype.imageAll (interpretAll charset ps)) = heightAll ps
  | [] => rfl
  | p :: ps => by
    rw [interpretAll, Prototype.imageAll, heightAll, heightAll, height_image_interpret charset p,
      heightAll_image_interpret charset ps]

end

mutual

/-- A tree written anew has the tables that it had, so it fits if its texts do. -/
theorem fits_image_interpret (charset : Charset) :
    ∀ p : Function, p.Fits →
      (∀ t ∈ (p.interpret charset).texts, (textBytes t).length + 1 < lengthBound) →
      (p.interpret charset).image.Fits
  | ⟨source, line, parameters, vararg, stack, locals, lines, strings, numbers, functions, code⟩,
    hfits, htexts => by
    obtain ⟨-, ⟨hlocals, -⟩, hlines, ⟨hstrings, -⟩, hnumbers, ⟨hfunctions, hall⟩, hcode⟩ := hfits
    simp only [interpret, Prototype.texts, List.forall_mem_cons, List.forall_mem_append,
      List.forall_mem_map] at htexts
    obtain ⟨hsource, ⟨hnames, hpayloads⟩, hnested⟩ := htexts
    have hall' := fitsAll_image_interpret charset functions hall hnested
    simp only [interpret, Prototype.image, Fits, List.length_map, List.forall_mem_map,
      Prototype.imageAll_eq, interpretAll_eq] at hall' ⊢
    exact ⟨hsource, ⟨hlocals, hnames⟩, hlines, ⟨hstrings, hpayloads⟩, hnumbers,
      ⟨hfunctions, hall'⟩, hcode⟩

theorem fitsAll_image_interpret (charset : Charset) :
    ∀ ps : List Function, FitsAll ps →
      (∀ t ∈ Prototype.textsAll (interpretAll charset ps), (textBytes t).length + 1 < lengthBound) →
      FitsAll (Prototype.imageAll (interpretAll charset ps))
  | [], _, _ => trivial
  | p :: ps, hfits, htexts => by
    obtain ⟨hp, hps⟩ := List.forall_mem_append.mp htexts
    exact ⟨fits_image_interpret charset p hfits.1 hp,
      fitsAll_image_interpret charset ps hfits.2 hps⟩

end

end Image.Function

/-! ## Files -/

namespace ChunkFile

/-- **Reading what was read and written anew gives it back.**  Under UTF-8 no text of an accepted
file ends in `U+0000`.  The file can be written in either byte order, with its texts in UTF-8; if
these are not too long for their lengths and the whole not too long for the options, reading gives
the file that there was, now in that order. -/
theorem ofBytes_image_of_ok (options : LoadOptions) (bytes : List UInt8) (f : ChunkFile)
    (hcharset : options.charset = .utf8) (h : ofBytes options bytes = .ok f) :
    (∀ t ∈ f.main.texts, t.toList.getLast? ≠ some '\x00')
      ∧ ∀ order : ByteOrder,
        (∀ t ∈ f.main.texts, (textBytes t).length + 1 < Image.lengthBound) →
        (f.image order).bytes.length ≤ options.maxLength →
        ofBytes options (f.image order).bytes
          = .ok { f with header := { f.header with order } } := by
  have hlen := length_le_of_ok h
  obtain ⟨i, tail, hi, rfl⟩ := exists_image_of_ok h
  rw [ofBytes_bytes_append hi hlen, hcharset] at h
  obtain rfl : i.interpret .utf8 = f := Except.ok.inj h
  have hclear : ∀ t ∈ (i.interpret .utf8).main.texts, t.toList.getLast? ≠ some '\x00' := by
    intro t ht
    rw [i.texts_interpret] at ht
    obtain ⟨payload, -, rfl⟩ := List.mem_map.mp ht
    exact Image.getLast?_text_ne_nul payload
  refine ⟨hclear, fun order htexts hlen' => ?_⟩
  have hadmissible : ((i.interpret .utf8).image order).Admissible options :=
    ⟨Image.Function.fits_image_interpret .utf8 i.main hi.fits htexts,
      (Image.Function.height_image_interpret .utf8 i.main).symm ▸ hi.height_le, hi.agrees⟩
  have hread := ofBytes_bytes hadmissible hlen'
  have hmain : (i.interpret .utf8).main.image.interpret .utf8 = (i.interpret .utf8).main :=
    Prototype.interpret_image _ fun t ht => Image.text_textBytes (hclear t ht)
  rw [hcharset] at hread
  rw [hread, image, Image.File.interpret, hmain]

/-- The specimen has padding, a byte that is no UTF-8 and an odd flag, and it is written big end
first; written anew, little end first, it is still the same file. -/
theorem ofBytes_image_of_specimen :
    ofBytes .default (Image.File.specimen.bytes ++ [1, 2])
        = .ok (Image.File.specimen.interpret .utf8)
      ∧ (∀ t ∈ (Image.File.specimen.interpret .utf8).main.texts,
          (textBytes t).length + 1 < Image.lengthBound)
      ∧ ((Image.File.specimen.interpret .utf8).image .little).bytes.length
          ≤ LoadOptions.default.maxLength
      ∧ ofBytes .default ((Image.File.specimen.interpret .utf8).image .little).bytes
          = .ok { Image.File.specimen.interpret .utf8 with header := ⟨0x41, .little⟩ } := by
  have hok := ofBytes_bytes_append Image.File.specimen_admissible Image.File.length_specimen_le
  have htexts : ∀ t ∈ (Image.File.specimen.interpret .utf8).main.texts,
      (textBytes t).length + 1 < Image.lengthBound := by
    decide +kernel
  have hlen : ((Image.File.specimen.interpret .utf8).image .little).bytes.length
      ≤ LoadOptions.default.maxLength := by
    decide +kernel
  exact ⟨hok, htexts, hlen, (ofBytes_image_of_ok .default _ _ rfl hok).2 .little htexts hlen⟩

end ChunkFile

end LuaChunk
