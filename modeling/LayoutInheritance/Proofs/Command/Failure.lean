import LayoutInheritance.Proofs.Data.Json
import LayoutInheritance.Proofs.Disk.Reading
import LayoutInheritance.Proofs.Inheritance.Accounting
import LayoutInheritance.Proofs.Inheritance.Refusal
import LayoutInheritance.Proofs.Options.Precedence

/-! Why a document is not processed, from the options to the last layout. Most failures can be reported. For each of the
others there is something among what the program is given that is to blame: a value of the configuration, an encoding, a
text that opens like a marked section or holds a number of too many digits, or files with too much in them for the stack. -/

namespace LayoutInheritance

namespace Failure

/-- Issues, refusals of the disk, and bytes that are no text. -/
def isReported : Failure → Bool
  | issue _ => true
  | file fault => fault.isReported
  | malformed _ | yaml _ | tooDeep => false

/-- There are no numbers among what a failure tells. -/
def Wordy : Failure → Prop
  | issue i => ∀ e ∈ i.details, e.2.Wordy
  | file _ | malformed _ | yaml _ | tooDeep => True

end Failure

variable {e : Failure}

/-! ### Documents -/

theorem MarkupFault.wordy_failure (fault : MarkupFault) : fault.failure.Wordy := by
  cases fault with
  | unsupported => exact nofun
  | malformed => trivial

theorem Store.wordy_of_merge {s : Store} {layout template : List NodeId} {i : Issue}
    (h : (s.merge layout template).issue? = some i) : (Failure.issue i).Wordy := by
  unfold merge at h
  split at h
  · cases h
    exact nofun
  · cases h
    exact nofun
  · obtain ⟨left, -, rfl⟩ := Option.map_eq_some_iff.1 h
    intro entry hm
    rw [List.mem_singleton.1 hm]
    exact .text left.1

namespace Resolver

variable {c : Resolver} {call : Call} {r r' : Run}

theorem wordy_circular (chain : List String) (l : Option Location) : (Failure.issue (.circular chain l)).Wordy := by
  intro entry hm
  rw [List.mem_singleton.1 hm]
  refine .list fun d hd => ?_
  obtain ⟨path, -, rfl⟩ := List.mem_map.1 hd
  exact .text path

/-- What stops a resolution that has asked for some layouts: an issue that tells words, or one of these layouts, which
is not read or no markup. -/
inductive Stopped (c : Resolver) (asked : List (String × String)) : Failure → Prop
  | issue {i} : (Failure.issue i).Wordy → Stopped c asked (.issue i)
  | unread {path fault} : path ∈ asked.map Prod.fst → c.library.read path c.encoding = .error fault →
      Stopped c asked (.file fault)
  | unparsed {path text fault} : path ∈ asked.map Prod.fst → c.library.read path c.encoding = .ok text →
      Markup.parse text (some path) = .error fault → Stopped c asked fault.failure

theorem mem_loads_note (r : Run) (path encoding : String) (document : Option String) :
    path ∈ (r.note [.loading path encoding document]).loads.map Prod.fst := by
  simp [Run.loads]

theorem Resolves.stopped (h : c.Resolves call r (.error e) r') : c.Stopped r'.loads e := by
  generalize hout : Except.error e = out at h
  induction h with
  | nil | keep | inside | load => cases hout
  | stop _ ih | insideStop _ _ _ ih | layoutStop _ _ _ ih | templateStop _ _ _ _ _ ih | loadStop _ _ _ ih =>
    exact ih hout
  | @cons _ _ _ _ _ _ out _ _ _ _ ih =>
    cases out with
    | error e => exact ih hout
    | ok after => cases hout
  | noSource =>
    cases hout
    exact .issue nofun
  | circular =>
    cases hout
    exact .issue (wordy_circular _ _)
  | merge _ _ _ _ hm =>
    subst hout
    rw [Step.run_merge] at hm
    split at hm
    · next issue hissue =>
      cases hm
      exact .issue (Store.wordy_of_merge hissue)
    · cases hm
  | @unread document path r _ hr =>
    cases hout
    exact .unread (mem_loads_note r path c.encoding document) hr
  | @unparsed document path r _ _ _ hr hp =>
    cases hout
    obtain ⟨fault, hfault, rfl⟩ := parse_of_run hp
    refine .unparsed ?_ hr hfault
    rw [(gains_parse hp).loads, List.append_nil]
    exact mem_loads_note r path c.encoding document

end Resolver

namespace Setting

variable {setting : Setting} {filename : Option String} {text : String} {p : Processed}

/-- What makes a document fail: an issue that tells words, or its own text or that of a layout that it has asked for. -/
inductive Fails (setting : Setting) (filename : Option String) (text : String) (p : Processed) : Failure → Prop
  | issue {i} : (Failure.issue i).Wordy → Fails setting filename text p (.issue i)
  | unread {path fault} : path ∈ p.run.loads.map Prod.fst →
      setting.library.read path (setting.flattening filename).encoding = .error fault →
      Fails setting filename text p (.file fault)
  | own {reason} : Markup.IllFormed text reason → Fails setting filename text p (.malformed reason)
  | layout {path source reason} : path ∈ p.run.loads.map Prod.fst →
      setting.library.read path (setting.flattening filename).encoding = .ok source → Markup.IllFormed source reason →
      Fails setting filename text p (.malformed reason)

theorem fails_of_processes (hp : setting.Processes filename text p) (he : p.outcome = .error e) :
    setting.Fails filename text p e := by
  cases hp with
  | flattened => cases he
  | unparsed hparse =>
    cases he
    obtain ⟨fault, hfault, rfl⟩ := Resolver.parse_of_run hparse
    rcases Markup.issue_or_illFormed hfault with ⟨issue, hissue⟩ | ⟨reason, hill, hreason⟩
    · rw [hissue]
      exact .issue (hissue ▸ fault.wordy_failure)
    · rw [hreason]
      exact .own hill
  | stopped hparse hr =>
    cases he
    cases hr.stopped with
    | issue hw => exact .issue hw
    | unread hm hread => exact .unread hm hread
    | @unparsed path source fault hm hread hfault =>
      rcases Markup.issue_or_illFormed hfault with ⟨issue, hissue⟩ | ⟨reason, hill, hreason⟩
      · rw [hissue]
        exact .issue (hissue ▸ fault.wordy_failure)
      · rw [hreason]
        exact .layout hm hread hill

end Setting

/-! ### Options -/

/-- An issue of the configuration tells texts. -/
theorem wordy_config (message : String) (texts : List (String × String)) :
    (Failure.issue (.config message (texts.map fun e => (e.1, .text e.2)))).Wordy := by
  intro entry hm
  obtain ⟨e, -, rfl⟩ := List.mem_map.1 hm
  exact .text e.2

namespace Disk

variable {d : Disk} {c : ConfigReader} {cwd : Path} {path : String} {sect : Section}

/-- A configuration that is not read is reported, unless one of its values cannot be. -/
theorem readSection_error (h : d.readSection c cwd path = .error e) :
    e.Wordy ∧ (e.isReported ∨
      ∃ fault, d.readYaml c.document cwd path = .error (.text fault) ∧ fault ≠ .malformed ∧ e = .yaml fault) := by
  simp only [readSection] at h
  split at h
  · cases h
    exact ⟨wordy_config _ [("path", _)], .inl rfl⟩
  · next fault _ hy =>
    cases h
    exact ⟨trivial, .inl (readYaml_error hy)⟩
  · cases h
    exact ⟨wordy_config _ [("path", _)], .inl rfl⟩
  · next fault hne hy =>
    cases h
    exact ⟨trivial, .inr ⟨fault, hy, fun hm => hne (hm ▸ rfl), rfl⟩⟩
  · split at h
    · cases h
    · cases h
      exact ⟨wordy_config _ [], .inl rfl⟩
    · split at h <;> cases h
      exact ⟨wordy_config _ [("path", _), ("field", _)], .inl rfl⟩

theorem configured_of_readSection (h : d.readSection c cwd path = .ok sect) :
    Options.Configured d c cwd (some path) sect := by
  cases hy : d.readYaml c.document cwd path with
  | error fault =>
    simp only [readSection, hy] at h
    split at h
    · cases h
    · cases h
    · cases h
    · cases h
    · next heq => cases heq
  | ok document => exact .file hy ((readSection_eq_ok_iff hy).1 h)

end Disk

namespace Surroundings

variable {s : Surroundings} {file : String} {a : Arguments} {o : Options}

/-- The options that a command runs with. -/
def options (s : Surroundings) (a : Arguments) : Except Failure Options :=
  (Options.load s.disk s.reader s.cwd s.environment {} a.config?).outcome.bind a.overlay

/-- The files that a command reads for its document: this one, and the layouts that are asked for. -/
def Reads (s : Surroundings) (file : String) (a : Arguments) (path : String) : Prop :=
  path = file ∨ path ∈ (s.process file a).run.loads.map Prod.fst

/-- What is to blame for a failure that is not reported. -/
inductive Blames (s : Surroundings) (file : String) (a : Arguments) : Failure → Prop
  /-- The configuration has a value that cannot be. -/
  | value {path fault} : a.config? = some path →
      s.disk.readYaml s.reader.document s.cwd path = .error (.text fault) → fault ≠ .malformed →
      Blames s file a (.yaml fault)
  /-- The name of an encoding holds a null character. -/
  | null {sect name} : Options.Configured s.disk s.reader s.cwd a.config? sect →
      Options.Checked (Options.chosen s.cwd s.environment {} a.config? sect) a.encoding? name → Encoding.hasNull name →
      Blames s file a (.file .nullInEncoding)
  /-- A file is not read in the encoding, whatever its bytes are. -/
  | encoding {o path place bytes fault} : s.options a = .ok o → s.Reads file a path →
      s.disk.find s.cwd (Path.ofString path) = (place, .file bytes) →
      Encoding.Refuses s.codecs o.encoding bytes fault → Blames s file a (.file fault)
  /-- A file opens like a marked section, or it holds a number of too many digits. -/
  | markup {o path text reason} : s.options a = .ok o → s.Reads file a path →
      s.disk.readText s.codecs s.cwd path o.encoding = .ok text → Markup.IllFormed text reason →
      Blames s file a (.malformed reason)
  /-- There is more in the files than the stack has room for. -/
  | deep : s.stack.room < (s.workload file a (s.process file a).run).flatten.length → Blames s file a .tooDeep

/-- A section results from the configuration, or there are no options. -/
theorem configured_cases (s : Surroundings) (a : Arguments) :
    (∃ sect, Options.Configured s.disk s.reader s.cwd a.config? sect) ∨
      ∃ path e, a.config? = some path ∧ s.disk.readSection s.reader s.cwd path = .error e ∧ s.options a = .error e := by
  cases hpath : a.config? with
  | none => exact .inl ⟨{}, .none⟩
  | some path =>
    cases hr : s.disk.readSection s.reader s.cwd path with
    | ok sect => exact .inl ⟨sect, Disk.configured_of_readSection hr⟩
    | error e =>
      refine .inr ⟨path, e, rfl, hr, ?_⟩
      simp only [options, hpath, Options.load, hr]
      rfl

theorem options_error (h : s.options a = .error e) : e.Wordy ∧ (e.isReported ∨ s.Blames file a e) := by
  rcases configured_cases s a with ⟨sect, hc⟩ | ⟨path, e', hpath, hread, he⟩
  · rcases Options.loaded_cases hc s.environment {} a with ⟨-, ho⟩ | ⟨name, hchecked, hn, ho⟩ | ⟨name, -, -, ho⟩
    · exact nomatch h.symm.trans ho
    · cases h.symm.trans ho
      exact ⟨trivial, .inr (.null hc hchecked hn)⟩
    · cases h.symm.trans ho
      exact ⟨wordy_config _ [("encoding", name)], .inl rfl⟩
  · cases h.symm.trans he
    obtain ⟨hw, hr | ⟨fault, hy, hne, rfl⟩⟩ := Disk.readSection_error hread
    · exact ⟨hw, .inl hr⟩
    · exact ⟨hw, .inr (.value hpath hy hne)⟩

/-- The encoding of the options is checked. -/
theorem isKnown_of_options (h : s.options a = .ok o) :
    Encoding.isKnown o.encoding ∧ Encoding.hasNull o.encoding = false := by
  rcases configured_cases s a with ⟨sect, hc⟩ | ⟨_, _, -, -, he⟩
  · rcases Options.loaded_cases hc s.environment {} a with ⟨hchecked, ho⟩ | ⟨_, -, -, ho⟩ | ⟨_, -, -, ho⟩
    · cases h.symm.trans ho
      exact hchecked _ (Options.checked_getD _ _)
    · exact nomatch h.symm.trans ho
    · exact nomatch h.symm.trans ho
  · exact nomatch h.symm.trans he

/-! ### Files -/

theorem readText_blames (ho : s.options a = .ok o) {path : String} {fault : FileFault} (hpath : s.Reads file a path)
    (h : s.disk.readText s.codecs s.cwd path o.encoding = .error fault) :
    fault.isReported ∨ s.Blames file a (.file fault) := by
  obtain ⟨hk, hn⟩ := isKnown_of_options ho
  rcases Disk.readText_error hk hn h with hr | ⟨place, bytes, hfind, hrefuses⟩
  · exact .inl hr
  · exact .inr (.encoding ho hpath hfind hrefuses)

/-- The setting in which a command processes its document. -/
def setting (s : Surroundings) (o : Options) : Setting :=
  { library := Library.ofDisk s.disk s.codecs s.cwd, cwd := s.cwd, options := o }

/-- What a layout is read for is what is in its file. -/
theorem readText_of_read {d : Disk} {codecs : Codecs} {cwd : Path} {path encoding text : String}
    (h : (Library.ofDisk d codecs cwd).read path encoding = .ok text) :
    d.readText codecs cwd path encoding = .ok text := by
  cases hr : d.readText codecs cwd path encoding with
  | error => simp [Library.ofDisk, hr, bind, Except.bind] at h
  | ok found =>
    by_cases hp : path ∈ d.filePaths
    · simp only [Library.ofDisk, hr, bind, Except.bind, hp, if_true] at h
      exact h
    · simp [Library.ofDisk, hr, hp, bind, Except.bind, throw, throwThe, MonadExceptOf.throw] at h

theorem readText_of_read_error {d : Disk} {codecs : Codecs} {cwd : Path} {path encoding : String} {fault : FileFault}
    (h : (Library.ofDisk d codecs cwd).read path encoding = .error fault) :
    d.readText codecs cwd path encoding = .error fault ∨ fault = .textMissing path := by
  rcases error_of_bind h with hr | ⟨text, -, h⟩
  · exact .inl hr
  · split at h <;> cases h
    exact .inr rfl

theorem processFile_run (o : Options) {text : String}
    (h : s.disk.readText s.codecs s.cwd file o.encoding = .ok text) :
    ((s.setting o).processFile s.disk s.codecs file).run {} = (((s.setting o).processed (some file) text).outcome,
      ((s.setting o).processed (some file) text).run) := by
  have hread : s.disk.readText s.codecs (s.setting o).cwd file (s.setting o).options.encoding = .ok text := h
  simp only [Setting.processFile, hread]
  rfl

/-! ### Attempts -/

theorem attempt_of_options_error (h : s.options a = .error e) : (s.attempt file a).outcome = .error e := by
  rw [options] at h
  simp only [attempt, h]

theorem attempt_of_unread (ho : s.options a = .ok o) {fault : FileFault}
    (h : s.disk.readText s.codecs s.cwd file o.encoding = .error fault) :
    (s.attempt file a).outcome = .error (.file fault) := by
  rw [options] at ho
  simp only [attempt, ho, Setting.processFile, h]
  rfl

theorem attempt_of_read (ho : s.options a = .ok o) {text : String}
    (h : s.disk.readText s.codecs s.cwd file o.encoding = .ok text) :
    (s.attempt file a).outcome = ((s.setting o).processed (some file) text).document?.map Markup.renderAll ∧
      (s.attempt file a).run = ((s.setting o).processed (some file) text).run := by
  have hattempt : (s.attempt file a).outcome = (((s.setting o).processed (some file) text).outcome.map fun tree =>
      Markup.renderAll (((s.setting o).processed (some file) text).run.store.document tree)) ∧
      (s.attempt file a).run = ((s.setting o).processed (some file) text).run := by
    have hrun := processFile_run o h
    rw [setting] at hrun ⊢
    rw [options] at ho
    simp only [attempt, ho, hrun, and_self]
  refine ⟨hattempt.1.trans ?_, hattempt.2⟩
  rw [Processed.document?]
  cases ((s.setting o).processed (some file) text).outcome <;> rfl

/-- The end of the stack changes nothing but the outcome. -/
theorem process_run (s : Surroundings) (file : String) (a : Arguments) :
    (s.process file a).run = (s.attempt file a).run := by
  rw [process]
  split <;> rfl

theorem process_loading (s : Surroundings) (file : String) (a : Arguments) :
    (s.process file a).loading = (s.attempt file a).loading := by
  rw [process]
  split <;> rfl

/-- A command does what comes of its document, unless there is more in the files than the stack has room for. -/
theorem process_outcome (s : Surroundings) (file : String) (a : Arguments) :
    (s.process file a).outcome = (s.attempt file a).outcome ∨
      s.stack.room < (s.workload file a (s.process file a).run).flatten.length ∧
        (s.process file a).outcome = .error .tooDeep := by
  rw [process_run, process]
  split
  · next hover =>
    refine .inr ⟨Nat.lt_of_not_le fun hroom => ?_, rfl⟩
    exact nomatch hover.symm.trans (s.stack.overflows_eq_false _ hroom)
  · exact .inl rfl

/-- A command fails with what is reported, or there is something to blame, as far as its stack does not run out. -/
theorem attempt_error (h : (s.attempt file a).outcome = .error e) : e.Wordy ∧ (e.isReported ∨ s.Blames file a e) := by
  cases ho : s.options a with
  | error e' =>
    cases h.symm.trans (attempt_of_options_error ho)
    exact options_error ho
  | ok o =>
    cases ht : s.disk.readText s.codecs s.cwd file o.encoding with
    | error fault =>
      cases h.symm.trans (attempt_of_unread ho ht)
      exact ⟨trivial, readText_blames ho (.inl rfl) ht⟩
    | ok text =>
      obtain ⟨houtcome, hrun⟩ := attempt_of_read ho ht
      rw [← process_run] at hrun
      rw [houtcome] at h
      cases hp : ((s.setting o).processed (some file) text).outcome with
      | ok tree =>
        rw [Processed.document?, hp] at h
        cases h
      | error e' =>
        rw [Processed.document?, hp] at h
        cases h
        cases Setting.fails_of_processes ((s.setting o).processes (some file) text) hp with
        | issue hw => exact ⟨hw, .inl rfl⟩
        | @unread path fault hm hread =>
          refine ⟨trivial, ?_⟩
          rcases readText_of_read_error hread with hr | rfl
          · exact readText_blames ho (.inr (hrun ▸ hm)) hr
          · exact .inl rfl
        | own hill => exact ⟨trivial, .inr (.markup ho (.inl rfl) ht hill)⟩
        | layout hm hread hill =>
          exact ⟨trivial, .inr (.markup ho (.inr (hrun ▸ hm)) (readText_of_read hread) hill)⟩

/-- A command fails with what is reported, or there is something to blame. -/
theorem process_error (h : (s.process file a).outcome = .error e) : e.Wordy ∧ (e.isReported ∨ s.Blames file a e) := by
  rcases process_outcome s file a with hattempt | ⟨hroom, hdeep⟩
  · exact attempt_error (hattempt.symm.trans h)
  · cases h.symm.trans hdeep
    exact ⟨trivial, .inr (.deep hroom)⟩

end Surroundings

end LayoutInheritance
