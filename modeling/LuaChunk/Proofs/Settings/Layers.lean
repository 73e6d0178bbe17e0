import LuaChunk.Command.Run

/-!
# Proofs/Settings/Layers — where a setting comes from

    command line  ──over──▸  settings file  ──over──▸  built-in values

`Setting` names the settings one by one, each with its values, its place in a settings file and its
option on the command line.  A change gives a value to one of them (`given?`), so after any number
of changes a setting has the last value it was given (`get_overlay`); a file gives it the value of
its key (`read_lookup?`).  `Layered` puts the three layers together.
-/

namespace LuaChunk

/-- The settings, one by one. -/
inductive Setting where
  | threshold
  | mode
  | indent
  | maxDepth
  | maxLength
  | strictness
  | charset
  deriving DecidableEq, Repr

namespace Setting

/-- What a setting is set to. -/
def Value : Setting → Type
  | .threshold => Threshold
  | .mode => Mode
  | .indent | .maxDepth | .maxLength => Nat
  | .strictness => Strictness
  | .charset => Charset

/-- What it is set to among all settings. -/
def get : (x : Setting) → Settings → x.Value
  | .threshold, s => s.threshold
  | .mode, s => s.mode
  | .indent, s => s.indent
  | .maxDepth, s => s.load.maxDepth
  | .maxLength, s => s.load.maxLength
  | .strictness, s => s.load.strictness
  | .charset, s => s.load.charset

/-- There are no other settings. -/
theorem ext_get {s t : Settings} (h : ∀ x : Setting, x.get s = x.get t) : s = t := by
  obtain ⟨threshold, mode, indent, maxDepth, maxLength, strictness, charset⟩ := s
  obtain rfl : threshold = t.threshold := h .threshold
  obtain rfl : mode = t.mode := h .mode
  obtain rfl : indent = t.indent := h .indent
  obtain rfl : maxDepth = t.load.maxDepth := h .maxDepth
  obtain rfl : maxLength = t.load.maxLength := h .maxLength
  obtain rfl : strictness = t.load.strictness := h .strictness
  obtain rfl : charset = t.load.charset := h .charset
  rfl

/-! ## Changes -/

/-- The value that a change gives to a setting, unless it changes another one. -/
def given? : (x : Setting) → Change → Option x.Value
  | .mode, .mode m => some m
  | .indent, .indent n => some n
  | .charset, .charset c => some c
  | .maxDepth, .maxDepth n => some n
  | .strictness, .strictness t => some t
  | _, _ => none

end Setting

/-- The setting that a change changes. -/
def Change.setting : Change → Setting
  | .mode _ => .mode
  | .indent _ => .indent
  | .charset _ => .charset
  | .maxDepth _ => .maxDepth
  | .strictness _ => .strictness

namespace Setting

theorem given?_eq_none {x : Setting} {c : Change} (h : x ≠ c.setting) : x.given? c = none := by
  unfold given?
  split
  case h_6 => rfl
  all_goals exact absurd rfl h

/-- **A change gives one setting a value**, and leaves the others as they are. -/
theorem get_change (x : Setting) (s : Settings) (c : Change) :
    x.get (s.change c) = (x.given? c).getD (x.get s) := by
  cases x <;> cases c <;> rfl

theorem get_change_of_ne {x : Setting} {c : Change} (s : Settings) (h : x ≠ c.setting) :
    x.get (s.change c) = x.get s := by
  rw [get_change, given?_eq_none h, Option.getD_none]

/-- **After any changes a setting has the last value it was given.** -/
theorem get_overlay (x : Setting) (s : Settings) (changes : List Change) :
    x.get (s.overlay changes) = (changes.filterMap x.given?).getLastD (x.get s) := by
  induction changes generalizing s with
  | nil => rfl
  | cons c changes ih =>
    refine (ih (s.change c)).trans ?_
    rw [get_change, List.filterMap_cons]
    cases x.given? c with
    | none => rfl
    | some a => rw [List.getLastD_cons, Option.getD_some]

/-- The last one wins, so only the order of changes of the same setting counts. -/
theorem overlay_congr {changes changes' : List Change} (s : Settings)
    (h : ∀ x : Setting, changes.filterMap x.given? = changes'.filterMap x.given?) :
    s.overlay changes = s.overlay changes' :=
  ext_get fun x => by rw [get_overlay, get_overlay, h]

/-- **Changes of different settings commute**, anywhere among others. -/
theorem overlay_swap {c d : Change} (s : Settings) (before after : List Change)
    (h : c.setting ≠ d.setting) :
    s.overlay (before ++ c :: d :: after) = s.overlay (before ++ d :: c :: after) := by
  refine overlay_congr s fun x => ?_
  rw [List.filterMap_append, List.filterMap_append]
  congr 1
  by_cases hx : x = c.setting
  · have hd : x.given? d = none := given?_eq_none (hx ▸ h)
    simp only [List.filterMap_cons, hd]
  · simp only [List.filterMap_cons, given?_eq_none hx]

end Setting

/-! ## Settings files -/

namespace Settings

/-- The keys of the sections, in the order in which a list would give their values. -/
def sectionKeys : String → Option (List String)
  | "logger" => some ["level_filter"]
  | "parse" => some ["max_depth", "max_input_len", "self_check", "encoding"]
  | _ => none

/-- The keys of a document. -/
def documentKeys : List String := ["logger", "mode", "indent_width", "parse"]

/-- The fields of a section of a document; a section that is absent has none. -/
def fieldsOf? (doc : Toml.Entries) (name : String) : Option Toml.Entries :=
  match doc.lookup name with
  | none => some []
  | some v => fields? ((sectionKeys name).getD []) v

end Settings

namespace Setting

/-- The section that a setting is in; two are in none. -/
def home : Setting → Option String
  | .threshold => some "logger"
  | .mode | .indent => none
  | .maxDepth | .maxLength | .strictness | .charset => some "parse"

/-- The key of a setting. -/
def key : Setting → String
  | .threshold => "level_filter"
  | .mode => "mode"
  | .indent => "indent_width"
  | .maxDepth => "max_depth"
  | .maxLength => "max_input_len"
  | .strictness => "self_check"
  | .charset => "encoding"

/-- The value of a setting that a value in a document stands for. -/
def read : (x : Setting) → Toml.Value → Option x.Value
  | .threshold => Settings.choice? Threshold.ofName?
  | .mode => Settings.choice? (Settings.exactly Mode.all Mode.name)
  | .indent | .maxDepth | .maxLength => Settings.natural?
  | .strictness => Settings.choice? (Settings.exactly Strictness.all Strictness.name)
  | .charset => Settings.choice? (Settings.exactly Charset.all Charset.name)

/-- The fields that a setting is looked up in: those of its section, or of the whole document. -/
def fields? (x : Setting) (doc : Toml.Entries) : Option Toml.Entries :=
  match x.home with
  | none => some doc
  | some name => Settings.fieldsOf? doc name

/-- What a document has for a setting. -/
def lookup? (x : Setting) (doc : Toml.Entries) : Option Toml.Value :=
  (x.fields? doc).bind (List.lookup x.key)

end Setting

namespace Settings

/-- A record that is absent might as well be there without fields. -/
theorem exists_fieldsOf? {α : Type} {doc : Toml.Entries} {name : String} {names : List String}
    {f : Toml.Entries → Option α} {absent a : α} (hnames : sectionKeys name = some names)
    (hempty : f [] = some absent)
    (h : field doc name (fun v => fields? names v >>= f) absent = some a) :
    ∃ fs, fieldsOf? doc name = some fs ∧ f fs = some a := by
  unfold field at h
  unfold fieldsOf?
  cases hv : doc.lookup name with
  | none =>
    rw [hv] at h
    exact ⟨[], rfl, hempty.trans h⟩
  | some v =>
    rw [hv] at h
    obtain ⟨fs, hfs, h⟩ := Option.bind_eq_some_iff.mp h
    refine ⟨fs, ?_, h⟩
    rw [hnames]
    exact hfs

/-- The options for reading files, from the fields of a record. -/
def loadOf (absent : LoadOptions) (fs : Toml.Entries) : Option LoadOptions := do
  return {
    maxDepth := ← field fs "max_depth" natural? absent.maxDepth
    maxLength := ← field fs "max_input_len" natural? absent.maxLength
    strictness := ← field fs "self_check" (choice? (exactly Strictness.all Strictness.name))
      absent.strictness
    charset := ← field fs "encoding" (choice? (exactly Charset.all Charset.name)) absent.charset }

/-- **Each setting of an accepted document is read in its own place**, if the document has it. -/
theorem exists_fields_of_ofEntries? {doc : Toml.Entries} {s : Settings}
    (h : ofEntries? doc = some s) (x : Setting) :
    ∃ fs, x.fields? doc = some fs
      ∧ field fs x.key x.read (x.get default) = some (x.get s) := by
  obtain ⟨threshold, hthreshold, h⟩ := Option.bind_eq_some_iff.mp h
  obtain ⟨mode, hmode, h⟩ := Option.bind_eq_some_iff.mp h
  obtain ⟨indent, hindent, h⟩ := Option.bind_eq_some_iff.mp h
  obtain ⟨load, hload, h⟩ := Option.bind_eq_some_iff.mp h
  obtain rfl := Option.some.inj h
  have hlogger := exists_fieldsOf? (f := fun fs => field fs "level_filter"
    (choice? Threshold.ofName?) default.threshold) rfl rfl hthreshold
  obtain ⟨fs, hfs, hload⟩ := exists_fieldsOf? (f := loadOf default.load) rfl rfl hload
  obtain ⟨maxDepth, hmaxDepth, hload⟩ := Option.bind_eq_some_iff.mp hload
  obtain ⟨maxLength, hmaxLength, hload⟩ := Option.bind_eq_some_iff.mp hload
  obtain ⟨strictness, hstrictness, hload⟩ := Option.bind_eq_some_iff.mp hload
  obtain ⟨charset, hcharset, hload⟩ := Option.bind_eq_some_iff.mp hload
  obtain rfl := Option.some.inj hload
  cases x with
  | threshold => exact hlogger
  | mode => exact ⟨doc, rfl, hmode⟩
  | indent => exact ⟨doc, rfl, hindent⟩
  | maxDepth => exact ⟨fs, hfs, hmaxDepth⟩
  | maxLength => exact ⟨fs, hfs, hmaxLength⟩
  | strictness => exact ⟨fs, hfs, hstrictness⟩
  | charset => exact ⟨fs, hfs, hcharset⟩

/-- …and has its built-in value otherwise. -/
theorem read_lookup? {doc : Toml.Entries} {s : Settings} (h : ofEntries? doc = some s)
    (x : Setting) :
    (∀ v, x.lookup? doc = some v → x.read v = some (x.get s))
      ∧ (x.lookup? doc = none → x.get s = x.get default) := by
  obtain ⟨fs, hfs, hfield⟩ := exists_fields_of_ofEntries? h x
  rw [Setting.lookup?, hfs, Option.bind_some]
  unfold field at hfield
  cases hv : fs.lookup x.key with
  | none =>
    rw [hv] at hfield
    exact ⟨nofun, fun _ => (Option.some.inj hfield).symm⟩
  | some v =>
    rw [hv] at hfield
    exact ⟨fun _ hw => Option.some.inj hw ▸ hfield, nofun⟩

/-! ## Keys that name no setting -/

/-- The entries under some keys. -/
def only (names : List String) (t : Toml.Entries) : Toml.Entries :=
  t.filter fun e => names.contains e.1

theorem lookup_only {names : List String} {name : String} (h : name ∈ names) (t : Toml.Entries) :
    (only names t).lookup name = t.lookup name := by
  induction t with
  | nil => rfl
  | cons e t ih =>
    obtain ⟨k, v⟩ := e
    by_cases hk : name = k
    · subst hk
      have hkeep : only names ((name, v) :: t) = (name, v) :: only names t :=
        List.filter_cons_of_pos (List.contains_iff_mem.mpr h)
      rw [hkeep, List.lookup_cons_self, List.lookup_cons_self]
    · have hskip : ∀ u : Toml.Entries, ((k, v) :: u).lookup name = u.lookup name := fun u => by
        rw [List.lookup_cons, beq_false_of_ne hk]
      rw [hskip, ← ih, only, List.filter_cons]
      split
      · exact hskip _
      · rfl

theorem field_only {α : Type} {names : List String} {name : String} (h : name ∈ names)
    (t : Toml.Entries) (read : Toml.Value → Option α) (absent : α) :
    field (only names t) name read absent = field t name read absent := by
  rw [field, field, lookup_only h]

/-- A record without what its keys do not ask for. -/
def pruneRecord (names : List String) : Toml.Value → Toml.Value
  | .table origin entries => .table origin (only names entries)
  | .array items => .array (items.take names.length)
  | .tables items => .tables (items.take names.length)
  | v => v

/-- A document without what names no setting. -/
def prune (doc : Toml.Entries) : Toml.Entries :=
  (only documentKeys doc).map fun e =>
    (e.1, (sectionKeys e.1).elim e.2 fun names => pruneRecord names e.2)

theorem only_zip (names : List String) (items : List Toml.Value) :
    only names (names.zip items) = names.zip items :=
  List.filter_eq_self.mpr fun _ he => List.contains_iff_mem.mpr (List.of_mem_zip he).1

theorem zip_take_length (names : List String) (items : List Toml.Value) :
    names.zip (items.take names.length) = names.zip items := by
  induction names generalizing items with
  | nil => rfl
  | cons name names ih =>
    cases items with
    | nil => rfl
    | cons v items =>
      rw [List.length_cons, List.take_succ_cons, List.zip_cons_cons, List.zip_cons_cons, ih]

theorem fields?_pruneRecord (names : List String) (v : Toml.Value) :
    fields? names (pruneRecord names v) = (fields? names v).map (only names) := by
  have hzip (items : List Toml.Value) :
      names.zip (items.take names.length) = only names (names.zip items) := by
    rw [only_zip, zip_take_length]
  cases v with
  | table origin entries => rfl
  | array items => exact congrArg some (hzip items)
  | tables items => exact congrArg some (hzip items)
  | datetime => rfl
  | string | integer | float | boolean => rfl

theorem lookup_prune {name : String} (h : name ∈ documentKeys) (doc : Toml.Entries) :
    (prune doc).lookup name = (doc.lookup name).map fun v =>
      (sectionKeys name).elim v fun names => pruneRecord names v := by
  have hmap (t : Toml.Entries) (f : String → Toml.Value → Toml.Value) :
      (t.map fun e => (e.1, f e.1 e.2)).lookup name = (t.lookup name).map (f name) := by
    induction t with
    | nil => rfl
    | cons e t ih =>
      rw [List.map_cons, List.lookup_cons, List.lookup_cons, ih]
      cases hname : name == e.1 with
      | false => rfl
      | true => rw [eq_of_beq hname, Option.map_some]
  rw [prune, hmap _ fun k v => (sectionKeys k).elim v fun names => pruneRecord names v,
    lookup_only h]

/-- A value that is no record is left as it is. -/
theorem field_prune {α : Type} (name : String) (h : name ∈ documentKeys)
    (hname : sectionKeys name = none) (doc : Toml.Entries) (read : Toml.Value → Option α)
    (absent : α) :
    field (prune doc) name read absent = field doc name read absent := by
  rw [field, field, lookup_prune h, hname]
  cases doc.lookup name <;> rfl

/-- A record is only asked for its keys. -/
theorem field_prune_record {α : Type} {name : String} {names : List String}
    (h : name ∈ documentKeys) (hname : sectionKeys name = some names) {f : Toml.Entries → Option α}
    (hf : ∀ fs, f (only names fs) = f fs) (doc : Toml.Entries) (absent : α) :
    field (prune doc) name (fun v => fields? names v >>= f) absent
      = field doc name (fun v => fields? names v >>= f) absent := by
  rw [field, field, lookup_prune h, hname]
  cases doc.lookup name with
  | none => rfl
  | some v =>
    change fields? names (pruneRecord names v) >>= f = fields? names v >>= f
    rw [fields?_pruneRecord]
    cases fields? names v with
    | none => rfl
    | some fs => exact hf fs

/-- **Keys that name no setting make no difference**, neither to what is accepted nor to what it
says. -/
theorem ofEntries?_prune (doc : Toml.Entries) : ofEntries? (prune doc) = ofEntries? doc := by
  have hlogger : field (prune doc) "logger" (threshold? default.threshold) default.threshold
      = field doc "logger" (threshold? default.threshold) default.threshold :=
    field_prune_record (by decide) rfl (fun fs => field_only (by decide) fs _ _) doc _
  have hloadOf (fs : Toml.Entries) :
      loadOf default.load (only ["max_depth", "max_input_len", "self_check", "encoding"] fs)
        = loadOf default.load fs := by
    simp (disch := decide) only [loadOf, field_only]
  have hload : field (prune doc) "parse" (load? default.load) default.load
      = field doc "parse" (load? default.load) default.load :=
    field_prune_record (f := loadOf default.load) (by decide) rfl hloadOf doc _
  rw [ofEntries?, ofEntries?, hlogger, hload, field_prune "mode" (by decide) rfl,
    field_prune "indent_width" (by decide) rfl]

end Settings

/-! ## The command line -/

open Command

namespace Setting

/-- The value that the command line gives to a setting. -/
def flag? : (x : Setting) → Given → Option x.Value
  | .threshold, _ => none
  | .mode, g => g.mode
  | .indent, g => g.indent
  | .maxDepth, g => g.maxDepth
  | .maxLength, _ => none
  | .strictness, g => if g.lenient then some Strictness.lenient else none
  | .charset, g => g.charset

theorem filterMap_toList {α β γ : Type} (o : Option α) (f : α → β) (h : β → Option γ) :
    (o.map f).toList.filterMap h = (o.bind fun a => h (f a)).toList := by
  cases o with
  | none => rfl
  | some a => cases hb : h (f a) <;> simp [hb]

/-- Each setting is given at most once, so the order of the changes plays no part. -/
theorem filterMap_changes (x : Setting) (g : Given) :
    g.changes.filterMap x.given? = (x.flag? g).toList := by
  have hlenient : (if g.lenient then [Change.strictness .lenient] else []).filterMap x.given?
      = (if g.lenient then x.given? (.strictness .lenient) else none).toList := by
    cases g.lenient with
    | false => rfl
    | true =>
      rw [if_pos rfl, if_pos rfl]
      cases x <;> rfl
  simp only [Given.changes, List.filterMap_append, filterMap_toList, hlenient]
  cases x <;> simp [given?, flag?]
  all_goals exact congrArg Option.toList (Option.bind_fun_some _)

theorem getLastD_toList {α : Type} (o : Option α) (a : α) : o.toList.getLastD a = o.getD a := by
  cases o <;> rfl

/-- **The command line decides what it gives**, and nothing else. -/
theorem get_overlay_changes (x : Setting) (s : Settings) (g : Given) :
    x.get (s.overlay g.changes) = (x.flag? g).getD (x.get s) := by
  rw [get_overlay, filterMap_changes, getLastD_toList]

/-- **Where a setting comes from**: the command line if it was given there, or else the file if it
has the key, or else it is built in. -/
structure Layered (x : Setting) (g : Given) (doc : Toml.Entries) (s : Settings) : Prop where
  of_flag : ∀ a, x.flag? g = some a → x.get s = a
  of_file : x.flag? g = none → ∀ v, x.lookup? doc = some v → x.read v = some (x.get s)
  of_default : x.flag? g = none → x.lookup? doc = none → x.get s = x.get Settings.default

theorem layered_overlay {doc : Toml.Entries} {base : Settings}
    (h : Settings.ofEntries? doc = some base) (x : Setting) (g : Given) :
    Layered x g doc (base.overlay g.changes) := by
  have hget := x.get_overlay_changes base g
  obtain ⟨hfile, hdefault⟩ := Settings.read_lookup? h x
  refine ⟨fun a ha => ?_, fun hnone v hv => ?_, fun hnone hv => ?_⟩
  · rw [hget, ha, Option.getD_some]
  · rw [hget, hnone, Option.getD_none]
    exact hfile v hv
  · rw [hget, hnone, Option.getD_none]
    exact hdefault hv

end Setting

namespace Command

/-- The document that settings are taken from; without a settings file it is empty. -/
def Consults (look : Look) (config : Option String) (doc : Toml.Entries) : Prop :=
  match config with
  | none => doc = []
  | some path => ∃ text, configText look path = .ok text ∧ Toml.parse? text = some doc

theorem configText_of_utf8 {look : Look} {path text : String} {bytes : List UInt8}
    (hlook : look path = .ok (.file bytes)) (hform : Charset.utf8.malformed bytes = false)
    (htext : Charset.utf8.decode bytes = text) : configText look path = .ok text := by
  rw [configText, hlook]
  dsimp only
  rw [hform, htext]
  rfl

/-- **A job settles on the settings of its document**, with its own changes made to them. -/
theorem settle_of_consults {look : Look} {job : Job} {doc : Toml.Entries} {base : Settings}
    (hdoc : Consults look job.config doc) (h : Settings.ofEntries? doc = some base) :
    settle look job = .ok (base.overlay job.changes) := by
  have hbase : baseSettings look job.config = .ok base := by
    unfold Consults at hdoc
    split at hdoc
    next hconfig =>
      rw [hconfig, baseSettings]
      subst hdoc
      exact congrArg Except.ok (Option.some.inj h)
    next path hconfig =>
      obtain ⟨text, htext, hparse⟩ := hdoc
      have hread : Settings.ofText? text = some base := by
        rw [Settings.ofText?, hparse]
        exact h
      rw [hconfig, baseSettings, htext]
      simp only [bind, Except.bind, hread]
  rw [settle, hbase]
  rfl

theorem changes_of_finish {before g : Given} {job : Job} (h : finish before g = .disassemble job) :
    job.changes = g.changes := by
  unfold finish at h
  split at h
  · cases h
    rfl
  · cases h

/-- **Each setting comes from the highest layer that has it.**  The settings of a job are those of
the command line, or else those of the settings file, where a section may be a list of the values of
its keys, or else those built in.  No option is for the threshold or the length of files, and the
one for the self-check only makes it lenient; keys that name no setting make no difference.  After
any changes a setting has the last value it was given, a change touches one setting, none of the
two without an option, and changes of different settings commute. -/
theorem settings_layered :
    (∀ (look : Look) (before g : Given) (job : Job) (doc : Toml.Entries),
      finish before g = .disassemble job → Consults look job.config doc →
      (Settings.ofEntries? doc).isSome →
        ∃ s, settle look job = .ok s ∧ ∀ x : Setting, x.Layered g doc s)
    ∧ (∀ g : Given, Setting.threshold.flag? g = none ∧ Setting.maxLength.flag? g = none
        ∧ ∀ a, Setting.strictness.flag? g = some a → a = Strictness.lenient)
    ∧ (∀ doc, Settings.ofEntries? (Settings.prune doc) = Settings.ofEntries? doc)
    ∧ (∀ (base : Settings) (changes : List Change) (x : Setting),
        x.get (base.overlay changes) = (changes.filterMap x.given?).getLastD (x.get base))
    ∧ (∀ (base : Settings) (c : Change) (x : Setting),
        x ≠ c.setting → x.get (base.change c) = x.get base)
    ∧ (∀ c : Change, c.setting ≠ .threshold ∧ c.setting ≠ .maxLength)
    ∧ ∀ (base : Settings) (c d : Change) (earlier later : List Change), c.setting ≠ d.setting →
        base.overlay (earlier ++ c :: d :: later) = base.overlay (earlier ++ d :: c :: later) := by
  refine ⟨fun look before g job doc hjob hdoc haccepted => ?_, fun g => ⟨rfl, rfl, fun a ha => ?_⟩,
    Settings.ofEntries?_prune, fun base changes x => x.get_overlay base changes,
    fun base c x hx => x.get_change_of_ne base hx, fun c => by cases c <;> exact ⟨nofun, nofun⟩,
    fun base c d earlier later h => Setting.overlay_swap base earlier later h⟩
  · obtain ⟨base, hbase⟩ := Option.isSome_iff_exists.mp haccepted
    refine ⟨base.overlay job.changes, settle_of_consults hdoc hbase, fun x => ?_⟩
    rw [changes_of_finish hjob]
    exact Setting.layered_overlay hbase x g
  · unfold Setting.flag? at ha
    dsimp only at ha
    split at ha
    · exact (Option.some.inj ha).symm
    · cases ha

/-- A disk where every file holds one text. -/
def shelf (text : String) : Look := fun _ => .ok (.file (textBytes text))

/-- A settings file with some settings and a key that names none. -/
def partialText : String :=
  "mode = 'yaml'\nx = 1\n[parse]\nencoding = 'sjis'\nmax_depth = 9\nself_check = 'strict'"

def partialDocument : Toml.Entries :=
  [("mode", .string "yaml"), ("x", .integer 1),
    ("parse", .table .header [("encoding", .string "sjis"), ("max_depth", .integer 9),
      ("self_check", .string "strict")])]

/-- A command line that overrides two of its settings. -/
def partialFlags : Given := { maxDepth := some 7, lenient := true, words := ["a", "b"] }

def partialJob : Job := ⟨0, some "c", "a", "b", partialFlags.changes⟩

theorem settings_layered_partial :
    finish { config := some "c" } partialFlags = .disassemble partialJob
      ∧ Consults (shelf partialText) partialJob.config partialDocument
      ∧ ∃ s, settle (shelf partialText) partialJob = .ok s
        ∧ s.mode = .yaml ∧ s.load.charset = .sjis ∧ s.load.maxDepth = 7
        ∧ s.load.strictness = .lenient ∧ s.indent = 4 ∧ s.threshold = .warn := by
  have hdoc : Consults (shelf partialText) partialJob.config partialDocument :=
    ⟨partialText, configText_of_utf8 rfl (by decide +kernel) (by decide +kernel), rfl⟩
  obtain ⟨s, hs, hlayered⟩ := settings_layered.1 (shelf partialText) { config := some "c" }
    partialFlags partialJob partialDocument rfl hdoc rfl
  refine ⟨rfl, hdoc, s, hs, ?_, ?_, ?_, ?_, ?_, ?_⟩
  · exact (Option.some.inj ((hlayered .mode).of_file rfl (.string "yaml") rfl)).symm
  · exact (Option.some.inj ((hlayered .charset).of_file rfl (.string "sjis") rfl)).symm
  · exact (hlayered .maxDepth).of_flag _ rfl
  · exact (hlayered .strictness).of_flag _ rfl
  · exact (hlayered .indent).of_default rfl rfl
  · exact (hlayered .threshold).of_default rfl rfl

/-- A list in the place of a section sets settings whose keys are nowhere in the file. -/
theorem settings_by_position :
    ¬ ∀ (look : Look) (before g : Given) (job : Job) (doc : Toml.Entries) (s : Settings),
      finish before g = .disassemble job → Consults look job.config doc →
      settle look job = .ok s → g.maxDepth = none →
      (∀ origin entries, doc.lookup "parse" = some (.table origin entries) →
        entries.lookup "max_depth" = none) →
      s.load.maxDepth = Settings.default.load.maxDepth := by
  intro h
  have hdoc : Consults (shelf "parse = [3, 4]") (some "c")
      [("parse", .array [.integer 3, .integer 4])] :=
    ⟨"parse = [3, 4]", configText_of_utf8 rfl (by decide +kernel) (by decide +kernel), rfl⟩
  have hsettle : settle (shelf "parse = [3, 4]") ⟨0, some "c", "a", "b", []⟩
      = .ok ⟨.warn, .debug, 4, ⟨3, 4, .strict, .utf8⟩⟩ := settle_of_consults hdoc rfl
  have hdefault := h (shelf "parse = [3, 4]") { config := some "c" } { words := ["a", "b"] } _ _ _
    rfl hdoc hsettle rfl nofun
  exact absurd hdefault (by decide)

end Command

end LuaChunk
