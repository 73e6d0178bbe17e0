import LuaChunk.Command.Disk

/-!
# Proofs/Command/Disk — what writing a file changes

A disk is seen through paths: `held` is what a path holds, if anything.  Many paths lead to one
place, and a path may run through any directory.  Writing to a path makes all paths to its place
hold the new file and leaves every other path as it was (`Overwritten`).  The reason is that a place
is only ever reached through directories, so a new file makes no new ones (`isDirectory_of_walk`).
-/

namespace LuaChunk.Command

/-- A location as walking makes it: `..` stands only in front. -/
def IsNormal (l : Location) : Prop :=
  ∃ (n : Nat) (names : List String), l = List.replicate n ".." ++ names ∧ ".." ∉ names

theorem IsNormal.append {l : Location} (h : IsNormal l) {name : String} (hname : name ≠ "..") :
    IsNormal (l ++ [name]) := by
  obtain ⟨n, names, rfl, hnames⟩ := h
  refine ⟨n, names ++ [name], List.append_assoc .., ?_⟩
  rw [List.mem_append, List.mem_singleton]
  exact fun hmem => hmem.elim hnames hname.symm

/-- The location above is one of those that the names lead through, or one more step up. -/
theorem above_cases {l : Location} (h : IsNormal l) :
    IsNormal (above l) ∧ (above l <+: l ∨ ∀ name ∈ above l, name = "..") := by
  obtain ⟨n, names, rfl, hnames⟩ := h
  rcases List.eq_nil_or_concat names with rfl | ⟨front, name, rfl⟩
  · have habove : above (List.replicate n ".." ++ []) = List.replicate (n + 1) ".." := by
      rw [List.append_nil, List.replicate_succ']
      cases n with
      | zero => rfl
      | succ n => simp only [above, List.replicate_succ', List.getLast?_concat, if_true]
    rw [habove]
    exact ⟨⟨n + 1, [], (List.append_nil _).symm, List.not_mem_nil⟩,
      .inr fun name hname => List.eq_of_mem_replicate hname⟩
  · rw [List.concat_eq_append] at hnames ⊢
    have hname : name ≠ ".." := fun heq => hnames (by simp [heq])
    by_cases hroot : name = "/"
    · have habove : above (List.replicate n ".." ++ (front ++ [name]))
          = List.replicate n ".." ++ (front ++ [name]) := by
        rw [← List.append_assoc, above, List.getLast?_concat]
        simp only [if_neg hname, if_pos hroot]
      rw [habove]
      exact ⟨⟨n, _, rfl, hnames⟩, .inl (List.prefix_refl _)⟩
    · have habove : above (List.replicate n ".." ++ (front ++ [name]))
          = List.replicate n ".." ++ front := by
        rw [← List.append_assoc, above, List.getLast?_concat]
        simp only [if_neg hname, if_neg hroot, List.dropLast_concat]
      rw [habove, ← List.append_assoc]
      exact ⟨⟨n, front, rfl, fun hmem => hnames (List.mem_append_left _ hmem)⟩,
        .inl (List.prefix_append _ _)⟩

namespace Disk

variable {d d' : Disk} {l l' : Location}

/-! ## Directories -/

theorem isDirectory_iff :
    d.isDirectory l = true ↔
      (∀ name ∈ l, name = "..") ∨ l = ["/"] ∨ (∃ f ∈ d.files, l <+: f.1)
        ∨ ∃ s ∈ d.sinks, l <+: s := by
  simp only [isDirectory, Bool.or_eq_true, List.all_eq_true, List.any_eq_true, beq_iff_eq,
    List.isPrefixOf_iff_prefix, or_assoc]

/-- What leads to a directory is one. -/
theorem isDirectory_of_leads (h : d.isDirectory l = true) (hl : l' <+: l) :
    d.isDirectory l' = true := by
  rw [isDirectory_iff] at h ⊢
  rcases h with hups | rfl | ⟨f, hf, hleads⟩ | ⟨s, hs, hleads⟩
  · exact .inl fun name hname => hups name (hl.subset hname)
  · rcases List.prefix_cons_iff.mp hl with rfl | ⟨t, rfl, ht⟩
    · exact .inl nofun
    · rw [List.prefix_nil.mp ht]
      exact .inr (.inl rfl)
  · exact .inr (.inr (.inl ⟨f, hf, hl.trans hleads⟩))
  · exact .inr (.inr (.inr ⟨s, hs, hl.trans hleads⟩))

theorem isDirectory_above (hl : IsNormal l) (h : d.isDirectory l = true) :
    d.isDirectory (above l) = true := by
  rcases (above_cases hl).2 with hleads | hups
  · exact isDirectory_of_leads h hleads
  · exact isDirectory_iff.mpr (.inl hups)

theorem isDirectory_of_content? (h : d.content? l = some .directory) : d.isDirectory l = true := by
  unfold content? at h
  split at h
  · cases h
  · split at h
    · cases h
    · split at h
      next hdirectory => exact hdirectory
      · cases h

/-- **A place is reached through directories.** -/
theorem isDirectory_of_walk {names : List String} {spot : Spot} (hl : IsNormal l)
    (hd : d.isDirectory l = true) (h : d.walk l names = .ok spot) (hleads : l' <+: spot.location)
    (hne : l' ≠ spot.location) : d.isDirectory l' = true := by
  induction names generalizing l with
  | nil =>
    obtain rfl : ⟨l, false⟩ = spot := Except.ok.inj h
    exact isDirectory_of_leads hd hleads
  | cons name rest ih =>
    rw [walk] at h
    split at h
    · exact ih hl hd h
    split at h
    · exact ih (above_cases hl).1 (isDirectory_above hl hd) h
    next hname =>
    split at h
    · obtain rfl := Except.ok.inj h
      rcases List.prefix_concat_iff.mp hleads with heq | hleads
      · exact absurd heq hne
      · exact isDirectory_of_leads hd hleads
    split at h
    · cases h
    split at h
    next hcontent => exact ih (hl.append hname) (isDirectory_of_content? hcontent) h
    · cases h
    · cases h

/-- A path starts from a directory, so it reaches its place through directories. -/
theorem isDirectory_of_resolve {path : String} {spot : Spot} (h : d.resolve path = .ok spot)
    (hleads : l <+: spot.location) (hne : l ≠ spot.location) : d.isDirectory l = true := by
  unfold resolve at h
  split at h
  · cases h
  · split at h
    · have hroot : IsNormal ["/"] := ⟨0, ["/"], rfl, by decide⟩
      exact isDirectory_of_walk hroot (isDirectory_iff.mpr (.inr (.inl rfl))) h hleads hne
    · have hstart : IsNormal [] := ⟨0, [], rfl, List.not_mem_nil⟩
      exact isDirectory_of_walk hstart (isDirectory_iff.mpr (.inl nofun)) h hleads hne

/-! ## A file put in a place -/

theorem lookup_put_self (d : Disk) (l : Location) (bytes : List UInt8) :
    (d.put l bytes).files.lookup l = some bytes := by
  rw [put, List.lookup_cons_self]

theorem lookup_put_of_ne (d : Disk) (bytes : List UInt8) (h : l' ≠ l) :
    (d.put l bytes).files.lookup l' = d.files.lookup l' := by
  have hhead : (l' == l) = false := beq_eq_false_iff_ne.mpr h
  rw [put, List.lookup_cons, hhead]
  dsimp only
  induction d.files with
  | nil => rfl
  | cons f files ih =>
    obtain ⟨key, value⟩ := f
    by_cases hkey : key = l
    · have hfilter : ((key, value) :: files).filter (fun f => f.1 != l)
          = files.filter fun f => f.1 != l := List.filter_cons_of_neg (by simp [hkey])
      rw [hfilter, ih, List.lookup_cons, hkey, hhead]
    · have hfilter : ((key, value) :: files).filter (fun f => f.1 != l)
          = (key, value) :: files.filter fun f => f.1 != l :=
        List.filter_cons_of_pos (by simp [hkey])
      rw [hfilter, List.lookup_cons, List.lookup_cons, ih]

/-- **A file in a directory makes no new directories**, and replacing one loses none. -/
theorem isDirectory_put (bytes : List UInt8)
    (h : ∀ l', l' <+: l → l' ≠ l → d.isDirectory l' = true) (hne : l' ≠ l) :
    (d.put l bytes).isDirectory l' = d.isDirectory l' := by
  rw [Bool.eq_iff_iff]
  constructor
  · intro hdir
    rcases isDirectory_iff.mp hdir with hups | hroot | ⟨f, hf, hleads⟩ | hsink
    · exact isDirectory_iff.mpr (.inl hups)
    · exact isDirectory_iff.mpr (.inr (.inl hroot))
    · rcases List.mem_cons.mp hf with rfl | hf
      · exact h l' hleads hne
      · exact isDirectory_iff.mpr (.inr (.inr (.inl ⟨f, (List.mem_filter.mp hf).1, hleads⟩)))
    · exact isDirectory_iff.mpr (.inr (.inr (.inr hsink)))
  · intro hdir
    rcases isDirectory_iff.mp hdir with hups | hroot | ⟨f, hf, hleads⟩ | hsink
    · exact isDirectory_iff.mpr (.inl hups)
    · exact isDirectory_iff.mpr (.inr (.inl hroot))
    · by_cases hl : f.1 = l
      · exact isDirectory_iff.mpr
          (.inr (.inr (.inl ⟨(l, bytes), List.mem_cons_self, hl ▸ hleads⟩)))
      · have hkept : f ∈ d.files.filter fun f => f.1 != l :=
          List.mem_filter.mpr ⟨hf, by simpa using hl⟩
        exact isDirectory_iff.mpr (.inr (.inr (.inl ⟨f, List.mem_cons_of_mem _ hkept, hleads⟩)))
    · exact isDirectory_iff.mpr (.inr (.inr (.inr hsink)))

theorem content?_put_self (d : Disk) (l : Location) (bytes : List UInt8) :
    (d.put l bytes).content? l = some (.file bytes) := by
  rw [content?, lookup_put_self]

theorem content?_put_of_ne (bytes : List UInt8)
    (h : ∀ l', l' <+: l → l' ≠ l → d.isDirectory l' = true) (hne : l' ≠ l) :
    (d.put l bytes).content? l' = d.content? l' := by
  unfold content?
  rw [lookup_put_of_ne d bytes hne, isDirectory_put bytes h hne]
  rfl

/-! ## What paths hold -/

/-- What a spot holds, if anything. -/
def contentAt? (d : Disk) (spot : Spot) : Option Content :=
  if isTooLong spot.location then none
  else (d.content? spot.location).filter fun c => c == .directory || !spot.slash

/-- What a path holds, if anything. -/
def held (d : Disk) (path : String) : Option Content := (d.look path).toOption

theorem held_eq (d : Disk) (path : String) :
    d.held path = (d.resolve path).toOption.bind d.contentAt? := by
  unfold held look
  cases d.resolve path with
  | error e => rfl
  | ok spot =>
    obtain ⟨location, slash⟩ := spot
    simp only [bind, Except.bind, contentAt?, Except.toOption, Option.bind_some]
    by_cases hlong : isTooLong location = true
    · simp only [if_pos hlong]
    · simp only [if_neg hlong]
      rcases d.content? location with _ | _ | _
      · rfl
      · cases slash <;> rfl
      · rfl

/-- Walking only asks which locations are directories. -/
theorem walk_congr (h : ∀ l, d.content? l = some .directory ↔ d'.content? l = some .directory)
    (names : List String) (l : Location) :
    (d.walk l names).toOption = (d'.walk l names).toOption := by
  induction names generalizing l with
  | nil => rfl
  | cons name rest ih =>
    rw [walk, walk]
    split
    · exact ih l
    split
    · exact ih (above l)
    split
    · rfl
    split
    · rfl
    · by_cases hdir : d.content? (l ++ [name]) = some .directory
      · rw [hdir, (h _).mp hdir]
        exact ih (l ++ [name])
      · have hdir' : d'.content? (l ++ [name]) ≠ some .directory := mt (h _).mpr hdir
        -- whatever else is there, on either disk, ends the walk
        split
        next heq => exact absurd heq hdir
        all_goals
          split
          next heq => exact absurd heq hdir'
          all_goals rfl

theorem resolve_congr (h : ∀ l, d.content? l = some .directory ↔ d'.content? l = some .directory)
    (path : String) : (d.resolve path).toOption = (d'.resolve path).toOption := by
  unfold resolve
  split
  · rfl
  · exact walk_congr h _ _

/-! ## Writing -/

/-- Whether a path is one for a file: it leads somewhere, and no directory is there. -/
def Writable (d : Disk) (path : String) : Prop :=
  ∃ spot, d.resolve path = .ok spot ∧ spot.slash = false ∧ isTooLong spot.location = false
    ∧ d.content? spot.location ≠ some .directory

/-- Whether a path leads to a device that stays empty. -/
def IsSink (d : Disk) (path : String) : Prop :=
  ∃ spot, d.resolve path = .ok spot ∧ spot.location ∈ d.sinks

/-- **One file is new**, under all its paths, and every other path holds what it held. -/
structure Overwritten (path : String) (bytes : List UInt8) (d d' : Disk) : Prop where
  here : ∀ other, d.resolve other = d.resolve path → d'.held other = some (.file bytes)
  elsewhere : ∀ other, d.resolve other ≠ d.resolve path → d'.held other = d.held other

/-- A path that insists on a directory holds nothing but a directory. -/
theorem contentAt?_of_slash {spot : Spot} (hslash : spot.slash = true)
    (hdir : d.content? spot.location ≠ some .directory) : d.contentAt? spot = none := by
  rw [contentAt?, hslash]
  split
  · rfl
  · rcases hcontent : d.content? spot.location with _ | _ | _
    · rfl
    · rfl
    · exact absurd hcontent hdir

theorem overwritten_put {path : String} {spot : Spot} (h : d.resolve path = .ok spot)
    (hslash : spot.slash = false) (hlong : isTooLong spot.location = false)
    (hdir : d.content? spot.location ≠ some .directory) (bytes : List UInt8) :
    Overwritten path bytes d (d.put spot.location bytes) := by
  have hplace : ∀ l, l <+: spot.location → l ≠ spot.location → d.isDirectory l = true :=
    fun l => isDirectory_of_resolve h
  have hsame : ∀ l, d.content? l = some .directory
      ↔ (d.put spot.location bytes).content? l = some .directory := by
    intro l
    by_cases hl : l = spot.location
    · rw [hl, content?_put_self]
      exact iff_of_false hdir nofun
    · rw [content?_put_of_ne bytes hplace hl]
  have hheld (other : String) : (d.put spot.location bytes).held other
      = (d.resolve other).toOption.bind (d.put spot.location bytes).contentAt? := by
    rw [held_eq, ← resolve_congr hsame]
  constructor
  · intro other hother
    rw [hheld, hother, h]
    simp only [Except.toOption, Option.bind_some, contentAt?, hlong, content?_put_self, hslash]
    rfl
  · intro other hother
    rw [hheld, held_eq]
    cases hresolve : d.resolve other with
    | error e => rfl
    | ok spot' =>
      by_cases hl : spot'.location = spot.location
      · -- the same place by another name can only be one with a slash
        have hslash' : spot'.slash = true := by
          refine eq_true_of_ne_false fun hfalse => hother ?_
          obtain ⟨location, slash⟩ := spot
          obtain ⟨location', slash'⟩ := spot'
          obtain rfl : location' = location := hl
          rw [hresolve, h, show slash' = slash from hfalse.trans hslash.symm]
        have hold : d.content? spot'.location ≠ some .directory := hl ▸ hdir
        have hnew := mt (hsame spot'.location).mpr hold
        simp only [Except.toOption, Option.bind_some]
        rw [contentAt?_of_slash hslash' hold, contentAt?_of_slash hslash' hnew]
      · simp only [Except.toOption, Option.bind_some, contentAt?,
          content?_put_of_ne bytes hplace hl]

theorem write_of_writable {path : String} (h : d.Writable path) (bytes : List UInt8) :
    ∃ d', d.write path bytes = .ok d' ∧ (d.IsSink path → d' = d)
      ∧ (¬ d.IsSink path → Overwritten path bytes d d') := by
  obtain ⟨spot, hresolve, hslash, hlong, hdir⟩ := h
  have hsink : d.IsSink path ↔ d.sinks.contains spot.location = true := by
    rw [List.contains_iff_mem]
    exact ⟨fun ⟨spot', h', hmem⟩ => Except.ok.inj (hresolve.symm.trans h') ▸ hmem,
      fun hmem => ⟨spot, hresolve, hmem⟩⟩
  have hwrite : d.write path bytes
      = if d.sinks.contains spot.location then .ok d else .ok (d.put spot.location bytes) := by
    have hdir' : (d.content? spot.location == some .directory) = false :=
      beq_eq_false_iff_ne.mpr hdir
    simp only [write, hresolve, bind, Except.bind, hslash, hlong, hdir', Bool.false_eq_true,
      if_false]
  rw [hwrite]
  split
  next hs => exact ⟨d, rfl, fun _ => rfl, fun hns => absurd (hsink.mpr hs) hns⟩
  next hs =>
    exact ⟨_, rfl, fun h => absurd (hsink.mp h) hs,
      fun _ => overwritten_put hresolve hslash hlong hdir bytes⟩

theorem write_of_not_writable {path : String} (h : ¬ d.Writable path) (bytes : List UInt8) :
    ∃ e, d.write path bytes = .error e := by
  unfold write
  cases hresolve : d.resolve path with
  | error e => exact ⟨e, rfl⟩
  | ok spot =>
    simp only [bind, Except.bind]
    split
    · exact ⟨_, rfl⟩
    next hslash =>
    split
    · exact ⟨_, rfl⟩
    next hlong =>
    split
    · exact ⟨_, rfl⟩
    next hdir =>
    refine absurd ⟨spot, hresolve, ?_, ?_, ?_⟩ h
    · exact eq_false_of_ne_true hslash
    · exact eq_false_of_ne_true hlong
    · exact fun heq => hdir (beq_iff_eq.mpr heq)

end Disk

end LuaChunk.Command
