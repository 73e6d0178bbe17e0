import LuaChunk.Command.Run
import LuaChunk.Proofs.Command.Disk
import LuaChunk.Proofs.File.Raises
import LuaChunk.Proofs.Listing.Faults
import LuaChunk.Proofs.Steps

/-!
# Proofs/Command/Run — a run writes its listing, or nothing at all

    settings · source ──read──▸ file ──list──▸ listing ──write──▸ dest

Everything up to the listing only looks at the disk (`listingOf`), and nothing follows the write, so
a run is decided by the two: `plan_of_error` and `plan_of_ok` say what is planned in either case,
and `runJob_atomic` what that does to the disk.
-/

namespace LuaChunk

namespace Mode

/-- **Only a plain listing can be beyond the machine**, and only for want of room. -/
theorem render_eq_overrun {mode : Mode} {indent : Nat} {file : ChunkFile} {o : Overrun}
    (h : mode.render indent file = .error (.overrun o)) :
    mode = .debug ∧ ¬ Plain.HasRoom indent 0 file.main := by
  cases mode with
  | debug =>
    refine ⟨rfl, fun hroom => ?_⟩
    have hfault := (Plain.reports_render indent file).faultOf_eq hroom
    have hsome := hfault.symm.trans (faultOf_eq_some_iff.mpr h)
    obtain ⟨_, s, _, -, -, hs⟩ := Prototype.exists_spot_of_firstFault? hsome
    rcases Word.fault?_eq_some hs with ⟨-, heq⟩ | ⟨op, table, -, -, -, heq⟩ <;> cases heq
  | yaml =>
    have hsome := (Structured.faultOf_render file).symm.trans (faultOf_eq_some_iff.mpr h)
    obtain ⟨_, s, _, -, hs, -⟩ := List.findSome?_eq_some_iff.mp hsome
    cases (Word.unknown?_eq_some hs).2

end Mode

namespace Command

/-! ## The listing of a job -/

/-- The listing of a source under settings, step by step: its bytes, the file that these are, and
the listing of that. -/
def listingUnder (look : Look) (s : Settings) (path : String) : Except Failure String := do
  let bytes ← sourceBytes look s.load.maxLength path
  let file ← (ChunkFile.ofBytes s.load bytes).mapError (.parse path)
  listing s file

/-- **The listing of a job**: that of its source under its settings. -/
def listingOf (look : Look) (job : Job) : Except Failure String := do
  let s ← settle look job
  listingUnder look s job.source

/-- The settings of a job and the file that is its source, which is there and not too large. -/
def Opens (disk : Disk) (job : Job) (s : Settings) (file : ChunkFile) : Prop :=
  settle disk.look job = .ok s ∧ ∃ bytes, disk.look job.source = .ok (.file bytes)
    ∧ bytes.length ≤ s.load.maxLength ∧ ChunkFile.ofBytes s.load bytes = .ok file

/-- The text that a job is to write. -/
def Yields (disk : Disk) (job : Job) (text : String) : Prop :=
  ∃ s file, Opens disk job s file ∧ s.mode.render s.indent file = .ok text

theorem prepare_fst (look : Look) (s : Settings) (path : String) :
    (prepare look s path).1 = listingUnder look s path := by
  unfold prepare listingUnder
  cases sourceBytes look s.load.maxLength path with
  | error e => rfl
  | ok bytes =>
    change _ = ((ChunkFile.load s.load bytes).1.mapError (.parse path) >>= listing s)
    dsimp only
    cases ChunkFile.load s.load bytes with
    | mk result events =>
      cases result with
      | error e => rfl
      | ok file => rfl

theorem sourceBytes_file {look : Look} {path : String} {bytes : List UInt8}
    (h : look path = .ok (.file bytes)) (limit : Nat) :
    sourceBytes look limit path
      = if limit < bytes.length then .error (.refuse path (.inputTooLarge bytes.length limit))
        else .ok bytes := by
  rw [sourceBytes, h]
  rfl

/-- **A source is read if it is a file and not too large.** -/
theorem sourceBytes_eq_ok_iff {look : Look} {limit : Nat} {path : String} {bytes : List UInt8} :
    sourceBytes look limit path = .ok bytes
      ↔ look path = .ok (.file bytes) ∧ bytes.length ≤ limit := by
  constructor
  · intro h
    rcases hlook : look path with e | content | _
    · rw [sourceBytes, hlook] at h
      cases h
    · rw [sourceBytes_file hlook] at h
      split at h
      · cases h
      next hlen =>
        obtain rfl := Except.ok.inj h
        exact ⟨rfl, Nat.not_lt.mp hlen⟩
    · rw [sourceBytes, hlook] at h
      dsimp only at h
      split at h <;> cases h
  · rintro ⟨hlook, hlen⟩
    rw [sourceBytes_file hlook, if_neg (Nat.not_lt.mpr hlen)]

theorem listingOf_of_settle {look : Look} {job : Job} {s : Settings} (h : settle look job = .ok s) :
    listingOf look job = listingUnder look s job.source := by
  rw [listingOf, h]
  rfl

/-- What is left to do with a file is to list it. -/
theorem listingOf_of_opens {disk : Disk} {job : Job} {s : Settings} {file : ChunkFile}
    (h : Opens disk job s file) : listingOf disk.look job = listing s file := by
  obtain ⟨hs, bytes, hlook, hlen, hfile⟩ := h
  rw [listingOf_of_settle hs, listingUnder, sourceBytes_eq_ok_iff.mpr ⟨hlook, hlen⟩]
  change ((ChunkFile.ofBytes s.load bytes).mapError _ >>= _) = _
  rw [hfile]
  rfl

/-- **A job has a listing if its source can be read and listed under its settings.** -/
theorem listingOf_eq_ok_iff {disk : Disk} {job : Job} {text : String} :
    listingOf disk.look job = .ok text ↔ Yields disk job text := by
  constructor
  · intro h
    obtain ⟨s, hs, h⟩ := bind_eq_ok.mp h
    obtain ⟨bytes, hbytes, h⟩ := bind_eq_ok.mp h
    obtain ⟨file, hfile, h⟩ := bind_eq_ok.mp h
    obtain ⟨hlook, hlen⟩ := sourceBytes_eq_ok_iff.mp hbytes
    exact ⟨s, file, ⟨hs, bytes, hlook, hlen, mapError_eq_ok.mp hfile⟩, mapError_eq_ok.mp h⟩
  · rintro ⟨s, file, hopens, htext⟩
    rw [listingOf_of_opens hopens]
    exact mapError_eq_ok.mpr htext

/-! ## Failures -/

/-- A listing that is beyond the machine exits with 101, and every other failure with 1. -/
theorem Failure.exit_cases (f : Failure) :
    f.exit = 1 ∧ (∀ mode o, f ≠ .render mode (.overrun o))
      ∨ f.exit = 101 ∧ ∃ mode o, f = .render mode (.overrun o) := by
  unfold Failure.exit Failure.overrun?
  split
  next mode o => exact .inr ⟨rfl, mode, o, rfl⟩
  next hne => exact .inl ⟨rfl, hne⟩

theorem configText_ne_render {look : Look} {path : String} {mode : Mode} {e : Fault} :
    configText look path ≠ .error (.render mode e) := by
  unfold configText
  split
  · exact nofun
  · exact nofun
  · split
    · exact nofun
    · exact nofun

theorem settle_ne_render {look : Look} {job : Job} {mode : Mode} {e : Fault} :
    settle look job ≠ .error (.render mode e) := by
  intro h
  rcases bind_eq_error.mp h with hbase | ⟨s, -, h⟩
  · cases hconfig : job.config with
    | none =>
      rw [hconfig] at hbase
      cases hbase
    | some path =>
      rw [hconfig] at hbase
      rcases bind_eq_error.mp hbase with htext | ⟨text, -, hbase⟩
      · exact configText_ne_render htext
      · split at hbase <;> cases hbase
  · cases h

theorem sourceBytes_ne_render {look : Look} {limit : Nat} {path : String} {mode : Mode}
    {e : Fault} : sourceBytes look limit path ≠ .error (.render mode e) := by
  unfold sourceBytes
  split
  · exact nofun
  · split
    · exact nofun
    · split
      · exact nofun
      · exact nofun

/-- A listing that fails at its last step is that of a source under its settings. -/
theorem listingOf_eq_render {disk : Disk} {job : Job} {mode : Mode} {e : Fault}
    (h : listingOf disk.look job = .error (.render mode e)) :
    ∃ s file, Opens disk job s file ∧ s.mode = mode ∧ s.mode.render s.indent file = .error e := by
  rcases bind_eq_error.mp h with hs | ⟨s, hs, h⟩
  · exact absurd hs settle_ne_render
  rcases bind_eq_error.mp h with hbytes | ⟨bytes, hbytes, h⟩
  · exact absurd hbytes sourceBytes_ne_render
  rcases bind_eq_error.mp h with hfile | ⟨file, hfile, h⟩
  · obtain ⟨_, -, hparse⟩ := mapError_eq_error.mp hfile
    cases hparse
  obtain ⟨hlook, hlen⟩ := sourceBytes_eq_ok_iff.mp hbytes
  obtain ⟨e', he', hrender⟩ := mapError_eq_error.mp h
  obtain ⟨rfl, rfl⟩ := Failure.render.inj hrender
  exact ⟨s, file, ⟨hs, bytes, hlook, hlen, mapError_eq_ok.mp hfile⟩, rfl, he'⟩

/-! ## Runs -/

variable {look : Look} {job : Job}

/-- Without a listing nothing is to be written. -/
theorem plan_of_error {f : Failure} (h : listingOf look job = .error f)
    (environment : Option String) :
    ∃ records, plan look environment job = .stop (.failed records f) := by
  unfold plan
  rcases bind_eq_error.mp h with hs | ⟨s, hs, h⟩
  · rw [hs]
    exact ⟨[], rfl⟩
  · rw [← prepare_fst] at h
    rw [hs]
    dsimp only
    cases hprepare : prepare look s job.source with
    | mk result records =>
      obtain rfl : result = .error f := by rwa [hprepare] at h
      exact ⟨_, rfl⟩

/-- The listing is what is to be written, and the write decides how the run ends. -/
theorem plan_of_ok {text : String} (h : listingOf look job = .ok text)
    (environment : Option String) :
    ∃ (failed : SystemFault → Report) (succeeded : Report),
      plan look environment job = .write job.dest text failed succeeded
        ∧ (∀ e, (failed e).exit = 1) ∧ succeeded.exit = 0 := by
  obtain ⟨s, hs, h⟩ := bind_eq_ok.mp h
  rw [← prepare_fst] at h
  unfold plan
  rw [hs]
  dsimp only
  cases hprepare : prepare look s job.source with
  | mk result records =>
    obtain rfl : result = .ok text := by rwa [hprepare] at h
    exact ⟨_, _, rfl, fun e => rfl, rfl⟩

theorem runJob_of_error {disk : Disk} {f : Failure} (h : listingOf disk.look job = .error f)
    (environment : Option String) :
    (runJob disk environment job).2 = disk ∧ (runJob disk environment job).1.exit = f.exit
      ∧ (runJob disk environment job).1.stderr = f.message := by
  obtain ⟨records, hplan⟩ := plan_of_error h environment
  rw [runJob, hplan]
  exact ⟨rfl, rfl, rfl⟩

theorem runJob_of_writable {disk : Disk} {text : String} (h : listingOf disk.look job = .ok text)
    (hdest : disk.Writable job.dest) (environment : Option String) :
    (runJob disk environment job).1.exit = 0
      ∧ (disk.IsSink job.dest → (runJob disk environment job).2 = disk)
      ∧ (¬ disk.IsSink job.dest →
        Disk.Overwritten job.dest (textBytes text) disk (runJob disk environment job).2) := by
  obtain ⟨failed, succeeded, hplan, -, hsucceeded⟩ := plan_of_ok h environment
  obtain ⟨disk', hwrite, hsink, hfile⟩ := Disk.write_of_writable hdest (textBytes text)
  rw [runJob, hplan]
  dsimp only
  rw [hwrite]
  exact ⟨hsucceeded, hsink, hfile⟩

theorem runJob_of_not_writable {disk : Disk} {text : String}
    (h : listingOf disk.look job = .ok text) (hdest : ¬ disk.Writable job.dest)
    (environment : Option String) : (runJob disk environment job).1.exit = 1 := by
  obtain ⟨failed, succeeded, hplan, hfailed, -⟩ := plan_of_ok h environment
  obtain ⟨e, hwrite⟩ := Disk.write_of_not_writable hdest (textBytes text)
  rw [runJob, hplan]
  dsimp only
  rw [hwrite]
  exact hfailed e

/-- **A failure of a job exits with 101 just when its listing is beyond the machine**, for which a
plain one has to lack room, and with 1 otherwise. -/
theorem exit_of_listingOf_error {disk : Disk} {f : Failure}
    (h : listingOf disk.look job = .error f) :
    f.exit = 1 ∧ (∀ s file o, Opens disk job s file →
        s.mode.render s.indent file ≠ .error (.overrun o))
      ∨ f.exit = 101 ∧ ∃ s file o, Opens disk job s file
        ∧ s.mode.render s.indent file = .error (.overrun o)
        ∧ s.mode = .debug ∧ ¬ Plain.HasRoom s.indent 0 file.main := by
  rcases f.exit_cases with ⟨hexit, hne⟩ | ⟨hexit, mode, o, rfl⟩
  · refine .inl ⟨hexit, fun s file o hopens hrender => ?_⟩
    have hlisting : listing s file = .error (.render s.mode (.overrun o)) :=
      mapError_eq_error.mpr ⟨_, hrender, rfl⟩
    rw [listingOf_of_opens hopens, hlisting] at h
    exact hne s.mode o (Except.error.inj h).symm
  · obtain ⟨s, file, hopens, -, hrender⟩ := listingOf_eq_render h
    exact .inr ⟨hexit, s, file, o, hopens, hrender, Mode.render_eq_overrun hrender⟩

/-- **A source is refused for its size just when reading it would be**, and in the same words. -/
theorem listingOf_eq_refuse_iff {s : Settings} {bytes : List UInt8} (hs : settle look job = .ok s)
    (hlook : look job.source = .ok (.file bytes)) (length limit : Nat) :
    listingOf look job = .error (.refuse job.source (.inputTooLarge length limit))
      ↔ ChunkFile.ofBytes s.load bytes = .error (.inputTooLarge length limit) := by
  rw [listingOf_of_settle hs, listingUnder, sourceBytes_file hlook,
    ChunkFile.ofBytes_eq_inputTooLarge_iff]
  by_cases hlen : s.load.maxLength < bytes.length
  · rw [if_pos hlen]
    constructor
    · intro h
      obtain ⟨-, hfault⟩ := Failure.refuse.inj (Except.error.inj h)
      obtain ⟨hlength, hlimit⟩ := Fault.inputTooLarge.inj hfault
      exact ⟨hlen, hlength.symm, hlimit.symm⟩
    · rintro ⟨-, rfl, rfl⟩
      rfl
  · rw [if_neg hlen]
    refine iff_of_false (fun h => ?_) fun h => hlen h.1
    -- what is wrong with a file that was read is said in other words
    have h : ((ChunkFile.ofBytes s.load bytes).mapError (.parse job.source) >>= listing s) = _ := h
    rcases bind_eq_error.mp h with hfile | ⟨file, -, hrender⟩
    · obtain ⟨_, -, hparse⟩ := mapError_eq_error.mp hfile
      cases hparse
    · obtain ⟨_, -, hrender⟩ := mapError_eq_error.mp hrender
      cases hrender

/-- **A run writes its listing, or nothing at all.**  If there is no listing, for whatever reason,
the disk is what it was; the run exits with 101 just when the listing breaks off because a plain one
has no room for its indentation, and with 1 otherwise.  There is a listing if the settings can be
settled, the source is a file within the limit that can be read, and that file can be listed.  The
run succeeds if there is one and the destination is a place for a file; then that place holds the
listing, under all its paths, and every other path holds what it held, be it the source, the
settings or anything else.  Only a device that stays empty is written to in vain.  And the source is
refused unread for its size just when reading it would be, in the same words. -/
theorem runJob_atomic (disk : Disk) (environment : Option String) (job : Job) :
    (∀ f, listingOf disk.look job = .error f →
      (runJob disk environment job).2 = disk
        ∧ (runJob disk environment job).1.stderr = f.message
        ∧ ((runJob disk environment job).1.exit = 1 ∧ (∀ s file o, Opens disk job s file →
            s.mode.render s.indent file ≠ .error (.overrun o))
          ∨ (runJob disk environment job).1.exit = 101 ∧ ∃ s file o, Opens disk job s file
            ∧ s.mode.render s.indent file = .error (.overrun o)
            ∧ s.mode = .debug ∧ ¬ Plain.HasRoom s.indent 0 file.main))
    ∧ (∀ text, listingOf disk.look job = .ok text ↔ Yields disk job text)
    ∧ ((runJob disk environment job).1.exit = 0
        ↔ (∃ text, Yields disk job text) ∧ disk.Writable job.dest)
    ∧ ((runJob disk environment job).1.exit = 0 → ∃ text, Yields disk job text
        ∧ (disk.IsSink job.dest → (runJob disk environment job).2 = disk)
        ∧ (¬ disk.IsSink job.dest →
          Disk.Overwritten job.dest (textBytes text) disk (runJob disk environment job).2))
    ∧ ∀ s bytes, settle disk.look job = .ok s → disk.look job.source = .ok (.file bytes) →
      ∀ length limit,
        listingOf disk.look job = .error (.refuse job.source (.inputTooLarge length limit))
          ↔ ChunkFile.ofBytes s.load bytes = .error (.inputTooLarge length limit) := by
  have hsuccess (h : (runJob disk environment job).1.exit = 0) :
      ∃ text, listingOf disk.look job = .ok text ∧ disk.Writable job.dest := by
    cases hlisting : listingOf disk.look job with
    | error f =>
      have hexit := (runJob_of_error hlisting environment).2.1
      rcases exit_of_listingOf_error hlisting with ⟨hone, -⟩ | ⟨hmore, -⟩ <;> omega
    | ok text =>
      refine ⟨text, rfl, Classical.byContradiction fun hdest => ?_⟩
      have hexit := runJob_of_not_writable hlisting hdest environment
      omega
  refine ⟨fun f hf => ?_, fun text => listingOf_eq_ok_iff, ⟨fun h => ?_, ?_⟩, fun h => ?_,
    fun s bytes hs hlook => listingOf_eq_refuse_iff hs hlook⟩
  · obtain ⟨hdisk, hexit, hstderr⟩ := runJob_of_error hf environment
    rw [hexit]
    exact ⟨hdisk, hstderr, exit_of_listingOf_error hf⟩
  · obtain ⟨text, hlisting, hdest⟩ := hsuccess h
    exact ⟨⟨text, listingOf_eq_ok_iff.mp hlisting⟩, hdest⟩
  · rintro ⟨⟨text, hyields⟩, hdest⟩
    exact (runJob_of_writable (listingOf_eq_ok_iff.mpr hyields) hdest environment).1
  · obtain ⟨text, hlisting, hdest⟩ := hsuccess h
    exact ⟨text, listingOf_eq_ok_iff.mp hlisting, (runJob_of_writable hlisting hdest environment).2⟩

/-- A disk with one script on it, whose main function has another one nested in it. -/
def solo : Disk := Disk.ofFiles [(["in"], Image.File.specimen.bytes)]

theorem resolve_solo : solo.resolve "in" = .ok ⟨["in"], false⟩ := by
  have hslash : "in".startsWith "/" = false := by decide +kernel
  -- the split is not computed by `rfl`: one step for each letter, and one for the end
  have hsplit : "in".splitOn "/" = ["in"] := by
    rw [String.splitOn, if_neg (by decide)]
    rw [String.splitOnAux, if_neg (by decide +kernel), if_neg (by decide +kernel)]
    rw [String.splitOnAux, if_neg (by decide +kernel), if_neg (by decide +kernel)]
    rw [String.splitOnAux, if_pos (by decide +kernel)]
    decide +kernel
  rw [Disk.resolve, hslash, hsplit]
  rfl

theorem look_solo : solo.look "in" = .ok (.file Image.File.specimen.bytes) := by
  rw [Disk.look, resolve_solo]
  rfl

/-- The settings may change how a script is listed, but not how it is read. -/
theorem opens_solo {job : Job} {s : Settings} (hsource : job.source = "in")
    (hs : settle solo.look job = .ok s) (hload : s.load = .default) :
    Opens solo job s (Image.File.specimen.interpret .utf8) := by
  have hread : ChunkFile.ofBytes s.load Image.File.specimen.bytes
      = .ok (Image.File.specimen.interpret .utf8) := hload ▸ ChunkFile.ofBytes_specimen
  exact ⟨hs, _, hsource ▸ look_solo, ChunkFile.length_le_of_ok hread, hread⟩

/-- A script whose listing takes its own place. -/
def inPlace : Job := ⟨0, none, "in", "in", []⟩

theorem runJob_inPlace :
    ∃ text, Yields solo inPlace text ∧ (runJob solo none inPlace).1.exit = 0
      ∧ (runJob solo none inPlace).2.held "in" = some (.file (textBytes text)) := by
  obtain ⟨-, -, hexit, hwritten, -⟩ := runJob_atomic solo none inPlace
  have hdest : solo.Writable "in" := ⟨⟨["in"], false⟩, resolve_solo, rfl, rfl, by decide⟩
  have hsink : ¬ solo.IsSink "in" := by
    rintro ⟨spot, hspot, hmem⟩
    obtain rfl := Except.ok.inj (resolve_solo.symm.trans hspot)
    exact absurd hmem (by decide)
  have hsuccess := hexit.mpr
    ⟨⟨_, Settings.default, _, opens_solo rfl rfl rfl, rfl⟩, hdest⟩
  obtain ⟨text, hyields, -, hfile⟩ := hwritten hsuccess
  exact ⟨text, hyields, hsuccess, (hfile hsink).here "in" rfl⟩

/-- A listing whose first level of indentation is wider than all memory. -/
def sprawling : Job := ⟨0, none, "in", "out", [.indent 9223372036854775808]⟩

/-- Not every failed run exits with 1. -/
theorem runJob_sprawling :
    listingOf solo.look sprawling = .error (.render .debug (.overrun .room))
      ∧ (runJob solo none sprawling).1.exit = 101 := by
  have hopens : Opens solo sprawling { Settings.default with indent := 9223372036854775808 }
      (Image.File.specimen.interpret .utf8) := opens_solo rfl rfl rfl
  have hlisting : listingOf solo.look sprawling = .error (.render .debug (.overrun .room)) := by
    rw [listingOf_of_opens hopens]
    rfl
  exact ⟨hlisting, (runJob_of_error hlisting none).2.1⟩

end Command

end LuaChunk
