import LuaChunk.Proofs.Listing.Printable

/-!
# Proofs/Listing/Quoted — where an escaped text ends

    " c₁ c₂ \" c₃ \\ "   whatever follows

A backslash in an escaped text **claims** the character behind it.  A double quote is always claimed
and the last backslash of a text never claims what follows it, so the quote that closes a text is
the first that is not claimed: one scan that skips whatever is claimed finds it, without a look at
what stands behind (`untilQuote_escape`).  Seen from a quote, it is claimed if an odd number of
backslashes stands in front of it (`guarded_escape`).

A character is escaped as itself, or as a backslash with something behind (`escapeChar_cases`); all
else is proved from these two cases, character by character.
-/

namespace LuaChunk

/-- The number of backslashes at the end. -/
def backslashes (cs : List Char) : Nat := (cs.reverse.takeWhile (· == '\\')).length

/-- What stands before the first quote that no backslash claims, and what stands behind it. -/
def untilQuote : List Char → Option (List Char × List Char)
  | [] => none
  | '"' :: cs => some ([], cs)
  | '\\' :: c :: cs => (untilQuote cs).map fun r => ('\\' :: c :: r.1, r.2)
  | c :: cs => (untilQuote cs).map fun r => (c :: r.1, r.2)

/-- A text between quotes, and what stands behind it. -/
def betweenQuotes : List Char → Option (List Char × List Char)
  | '"' :: cs => untilQuote cs
  | _ => none

/-! ## One character -/

/-- A character that means nothing to a scan. -/
def IsPlain (c : Char) : Prop := c ≠ '\\' ∧ c ≠ '"'

theorem isPlain_of_isDigit {c : Char} (h : c.isDigit = true) : IsPlain c := by
  constructor <;> rintro rfl <;> exact absurd h (by decide)

/-- **A character stands for itself, or a backslash claims what stands for it.** -/
theorem escapeChar_cases (c : Char) :
    (escapeChar c = [c] ∧ IsPlain c)
      ∨ ∃ d rest, escapeChar c = '\\' :: d :: rest ∧ ∀ e ∈ rest, IsPlain e := by
  unfold escapeChar
  split
  · exact .inr ⟨_, [], rfl, nofun⟩
  split
  · exact .inr ⟨_, [], rfl, nofun⟩
  split
  · exact .inr ⟨_, [], rfl, nofun⟩
  split
  · exact .inr ⟨_, [], rfl, nofun⟩
  split
  · exact .inr ⟨_, [], rfl, nofun⟩
  split
  next hcontrol =>
    obtain ⟨x, y, z, hcode, -⟩ := exists_escapeCode hcontrol
    have hdigits : (fill '0' 3 (decimal c.toNat)).toList = [x, y, z] := (List.cons.inj hcode).2
    refine .inr ⟨x, [y, z], hcode, fun e he => isPlain_of_isDigit ?_⟩
    exact isDigit_of_mem_fill (hdigits ▸ List.mem_cons_of_mem x he)
  next hbackslash hquote _ _ _ _ => exact .inl ⟨rfl, hbackslash, hquote⟩

/-! ## The scan -/

theorem untilQuote_cons {c : Char} (hc : IsPlain c) (cs : List Char) :
    untilQuote (c :: cs) = (untilQuote cs).map fun r => (c :: r.1, r.2) := by
  rw [untilQuote]
  · exact hc.2
  · exact fun _ _ h => absurd h hc.1

theorem untilQuote_plain {text : List Char} (hplain : ∀ c ∈ text, IsPlain c) (cs : List Char) :
    untilQuote (text ++ cs) = (untilQuote cs).map fun r => (text ++ r.1, r.2) := by
  induction text with
  | nil => exact Option.map_id'.symm
  | cons c text ih =>
    obtain ⟨hc, htext⟩ := List.forall_mem_cons.mp hplain
    rw [List.cons_append, untilQuote_cons hc, ih htext, Option.map_map]
    rfl

theorem untilQuote_escapeChar (c : Char) (cs : List Char) :
    untilQuote (escapeChar c ++ cs)
      = (untilQuote cs).map fun r => (escapeChar c ++ r.1, r.2) := by
  obtain ⟨hself, hplain⟩ | ⟨d, rest, hcode, hplain⟩ := escapeChar_cases c
  · rw [hself]
    exact untilQuote_cons hplain cs
  · rw [hcode, List.cons_append, List.cons_append, untilQuote, untilQuote_plain hplain,
      Option.map_map]
    rfl

/-- **The scan ends where the text ends**, whatever stands behind the quote. -/
theorem untilQuote_escape (s : String) (rest : List Char) :
    untilQuote ((escape s).toList ++ '"' :: rest) = some ((escape s).toList, rest) := by
  rw [toList_escape]
  induction s.toList with
  | nil => rfl
  | cons c cs ih =>
    rw [List.flatMap_cons, List.append_assoc, untilQuote_escapeChar, ih]
    rfl

/-! ## The backslashes before a quote -/

theorem backslashes_concat (cs : List Char) (c : Char) :
    backslashes (cs ++ [c]) = if c = '\\' then backslashes cs + 1 else 0 := by
  rw [backslashes, List.reverse_concat, List.takeWhile_cons]
  split
  next h => rw [if_pos (beq_iff_eq.mp h), List.length_cons, backslashes]
  next h => rw [if_neg (fun hc => h (beq_iff_eq.mpr hc)), List.length_nil]

/-- Every quote in `text` has an odd number of backslashes in front, those at the end of `front`
included. -/
def Guarded (front text : List Char) : Prop :=
  ∀ before after, text = before ++ '"' :: after → backslashes (front ++ before) % 2 = 1

theorem guarded_nil (front : List Char) : Guarded front [] := fun _ _ h =>
  absurd h.symm (List.append_ne_nil_of_right_ne_nil _ (List.cons_ne_nil _ _))

theorem guarded_cons {front text : List Char} {c : Char}
    (hc : c = '"' → backslashes front % 2 = 1) (htext : Guarded (front ++ [c]) text) :
    Guarded front (c :: text) := by
  intro before after h
  match before with
  | [] =>
    rw [List.append_nil]
    exact hc (List.cons.inj h).1
  | d :: before =>
    obtain ⟨rfl, htail⟩ := List.cons.inj h
    rw [List.append_cons]
    exact htext before after htail

theorem guarded_append {front text more : List Char} (htext : Guarded front text)
    (hmore : Guarded (front ++ text) more) : Guarded front (text ++ more) := by
  induction text generalizing front with
  | nil => rwa [List.append_nil] at hmore
  | cons c text ih =>
    refine guarded_cons (fun hc => ?_) (ih (fun before after h => ?_) ?_)
    · have hfirst := htext [] text (by rw [hc]; rfl)
      rwa [List.append_nil] at hfirst
    · have hlater := htext (c :: before) after (by rw [h]; rfl)
      rwa [List.append_cons] at hlater
    · rwa [List.append_cons] at hmore

/-- A text that claims nothing behind its end, and whose quotes are all claimed, wherever nothing is
claimed in front of it. -/
def Closed (text : List Char) : Prop :=
  ∀ front, backslashes front % 2 = 0 →
    Guarded front text ∧ backslashes (front ++ text) % 2 = 0

theorem Closed.append {text more : List Char} (htext : Closed text) (hmore : Closed more) :
    Closed (text ++ more) := by
  intro front hfront
  obtain ⟨hguarded, heven⟩ := htext front hfront
  obtain ⟨hguarded', heven'⟩ := hmore (front ++ text) heven
  exact ⟨guarded_append hguarded hguarded', by rwa [← List.append_assoc]⟩

theorem closed_nil : Closed [] := fun front hfront =>
  ⟨guarded_nil front, by rwa [List.append_nil]⟩

theorem closed_singleton {c : Char} (hc : IsPlain c) : Closed [c] := fun front _ =>
  ⟨guarded_cons (fun h => absurd h hc.2) (guarded_nil _), by
    rw [backslashes_concat, if_neg hc.1]⟩

theorem closed_plain {text : List Char} (hplain : ∀ c ∈ text, IsPlain c) : Closed text := by
  induction text with
  | nil => exact closed_nil
  | cons c text ih =>
    obtain ⟨hc, htext⟩ := List.forall_mem_cons.mp hplain
    exact (closed_singleton hc).append (ih htext)

/-- A backslash and what it claims. -/
theorem closed_pair (d : Char) : Closed ['\\', d] := by
  intro front hfront
  have hodd : backslashes (front ++ ['\\']) % 2 = 1 := by
    rw [backslashes_concat, if_pos rfl]
    omega
  refine ⟨guarded_cons nofun (guarded_cons (fun _ => hodd) (guarded_nil _)), ?_⟩
  rw [List.append_cons, backslashes_concat]
  split <;> omega

theorem closed_escapeChar (c : Char) : Closed (escapeChar c) := by
  obtain ⟨hself, hplain⟩ | ⟨d, rest, hcode, hplain⟩ := escapeChar_cases c
  · exact hself ▸ closed_singleton hplain
  · exact hcode ▸ (closed_pair d).append (closed_plain hplain)

/-- **Every quote in an escaped text is claimed, and its last character claims nothing.** -/
theorem closed_escape (s : String) : Closed (escape s).toList := by
  rw [toList_escape]
  induction s.toList with
  | nil => exact closed_nil
  | cons c cs ih => exact (closed_escapeChar c).append ih

/-! ## Between quotes -/

/-- **Escaping can be undone and keeps a quoted text together.**  An escaped text tells the text it
was made from, and is escaped piece by piece.  It has no control character; every quote in it has an
odd number of backslashes in front, and an even number stands at its end.  Between two quotes it is
read back to its last character and no further, whatever follows. -/
theorem escape_reversible :
    (∀ s, unescape (escape s).toList = s.toList)
    ∧ Function.Injective escape
    ∧ (∀ s t, escape (s ++ t) = escape s ++ escape t)
    ∧ ∀ s,
      (∀ c ∈ (escape s).toList, isControl c = false)
      ∧ (∀ before after, (escape s).toList = before ++ '"' :: after →
          backslashes before % 2 = 1)
      ∧ backslashes (escape s).toList % 2 = 0
      ∧ ∀ rest, betweenQuotes ('"' :: (escape s).toList ++ '"' :: rest)
          = some ((escape s).toList, rest) := by
  refine ⟨unescape_escape, escape_injective, escape_append, fun s => ?_⟩
  obtain ⟨hguarded, heven⟩ := closed_escape s [] rfl
  rw [List.nil_append] at heven
  refine ⟨printable_escape s, fun before after h => ?_, heven, fun rest => ?_⟩
  · have hodd := hguarded before after h
    rwa [List.nil_append] at hodd
  · rw [List.cons_append, betweenQuotes, untilQuote_escape]

/-- A backslash, a quote and a control character before a digit, followed by another quoted text. -/
theorem escape_reversible_marks :
    (escape "\\\"\x019").toList = "\\\\\\\"\\0019".toList
    ∧ unescape (escape "\\\"\x019").toList = "\\\"\x019".toList
    ∧ betweenQuotes ('"' :: (escape "\\\"\x019").toList ++ '"' :: ", \"next\"".toList)
      = some ("\\\\\\\"\\0019".toList, ", \"next\"".toList) := by
  obtain ⟨hundo, -, -, hquoted⟩ := escape_reversible
  obtain ⟨-, -, -, hscan⟩ := hquoted "\\\"\x019"
  have htext : (escape "\\\"\x019").toList = "\\\\\\\"\\0019".toList := by decide
  have hend := hscan ", \"next\"".toList
  refine ⟨htext, hundo "\\\"\x019", ?_⟩
  rw [htext] at hend ⊢
  exact hend

end LuaChunk
