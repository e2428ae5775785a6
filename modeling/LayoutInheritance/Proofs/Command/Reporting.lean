import LayoutInheritance.Proofs.Command.Failure

/-! How a command ends. It ends well, or with one report after what it has logged, and then nothing is printed or
written; or a failure that is not reported goes through. Such a failure has its cause in what the program was given, or
the result could not be written. -/

namespace LayoutInheritance

variable {e : Failure}

/-! ### Reports -/

namespace Failure

/-- The word that reports use for the kind of a failure. -/
def code : Failure → String
  | issue i => i.code
  | file _ | malformed _ | yaml _ | tooDeep => fileErrorCode

/-- What a report tells. -/
def entries (e : Failure) : List (String × Data) :=
  [("error", .text e.code), ("message", .text e.message)] ++
    match e with
    | issue i => [("context", .map i.context)]
    | file _ | malformed _ | yaml _ | tooDeep => []

/-- One report and nothing else: a message, or one JSON object. -/
inductive Reports (e : Failure) : (json : Bool) → String → Prop
  | message : Reports e false ("Error: " ++ e.message ++ "\n")
  | object {text : String} : Json.Stands text.toList (.map e.entries) → Reports e true (text ++ "\n")

theorem wordy_putNew {d : Dictionary String Data} (h : ∀ e ∈ d, e.2.Wordy) (key s : String) :
    ∀ e ∈ d.putNew key (.text s), e.2.Wordy := by
  rw [Dictionary.putNew]
  split
  · exact h
  · intro entry hm
    rcases List.mem_append.1 hm with hm | hm
    · exact h entry hm
    · rw [List.mem_singleton.1 hm]
      exact .text s

theorem wordy_context {i : Issue} (h : (issue i).Wordy) : ∀ e ∈ i.context, e.2.Wordy := by
  have hnamed :
      ∀ e ∈ (if i.isInheritance then i.details.putNew "plugin" (.text i.plugin) else i.details), e.2.Wordy := by
    split
    · exact wordy_putNew h _ _
    · exact h
  rw [Issue.context]
  cases i.location? with
  | none => exact hnamed
  | some l => exact wordy_putNew hnamed _ _

theorem Wordy.entries (h : e.Wordy) : (Data.map e.entries).Wordy := by
  refine .map fun entry hm => ?_
  rcases List.mem_append.1 hm with hm | hm
  · rcases List.mem_cons.1 hm with rfl | hm
    · exact .text _
    · rw [List.mem_singleton.1 hm]
      exact .text _
  · cases e with
    | issue i =>
      rw [List.mem_singleton.1 hm]
      exact .map (wordy_context h)
    | file | malformed | yaml | tooDeep => exact nomatch hm

end Failure

namespace Reporter

theorem failed?_eq_none (r : Reporter) (h : e.isReported = false) : r.failed? e = none := by
  cases e with
  | issue => exact nomatch h
  | file fault => cases fault <;> first | rfl | exact nomatch h
  | malformed | yaml | tooDeep => rfl

theorem failed?_eq (r : Reporter) (h : e.isReported) :
    r.failed? e = some (r.line e.entries ("Error: " ++ e.message)) := by
  cases e with
  | issue => rfl
  | file fault => cases fault <;> first | rfl | exact nomatch h
  | malformed | yaml | tooDeep => exact nomatch h

theorem reports_line (h : e.Wordy) (json : Bool) :
    e.Reports json (({ json } : Reporter).line e.entries ("Error: " ++ e.message)) := by
  cases json with
  | false => exact .message
  | true => exact .object (h.entries.stands 2 0)

end Reporter

/-! ### Log lines -/

namespace Log.State

variable {s : State} {records : List Record}

/-- Records below the level leave no trace. -/
theorem foldl_log_below (cwd : Path) (time : String) (h : ∀ r ∈ records, r.level < s.setup.threshold) :
    records.foldl (fun s r => s.log cwd time r) s = s := by
  induction records with
  | nil => rfl
  | cons r rest ih =>
    have hlog : s.log cwd time r = s := by
      have hlevel : ¬ s.setup.threshold ≤ r.level := Int.not_le.2 (h r (List.mem_cons_self ..))
      simp [log, Setup.handlersFor, hlevel]
    rw [List.foldl_cons, hlog]
    exact ih fun r hr => h r (List.mem_cons_of_mem _ hr)

end Log.State

theorem Event.level_of_record? {event : Event} {r : Log.Record} (h : event.record? = some r) : r.level = Log.debug := by
  cases event <;> cases h <;> rfl

theorem Options.level_of_load {d : Disk} {c : ConfigReader} {cwd : Path} {env : Environment} {base : Options}
    {path? : Option String} {r : Log.Record} (h : r ∈ (load d c cwd env base path?).records) : r.level = Log.debug := by
  unfold load at h
  dsimp only at h
  split at h
  · exact nomatch h
  · split at h
    · exact nomatch h
    · rw [List.mem_singleton.1 h]
      rfl

namespace Surroundings

variable {s : Surroundings} {file : String} {a : Arguments}

/-- All that a command logs is for those who look closely. -/
theorem level_of_records {r : Log.Record} (h : r ∈ (s.process file a).records) : r.level = Log.debug := by
  have hloading :
      (s.process file a).loading = (Options.load s.disk s.reader s.cwd s.environment {} a.config?).records := by
    rw [process_loading, attempt]
    dsimp only
    split <;> rfl
  rcases List.mem_append.1 h with h | h
  · exact Options.level_of_load (hloading ▸ h)
  · obtain ⟨event, -, hr⟩ := List.mem_filterMap.1 h
    exact Event.level_of_record? hr

theorem logged_warning (s : Surroundings) (file : String) (a : Arguments) :
    s.logged "WARNING" (s.process file a).records = "" := by
  have hlevel : Log.levelOf "WARNING" = Log.warning := by decide +kernel
  have hthreshold : (Log.State.configure { disk := s.disk } s.cwd "WARNING" none).1.setup.threshold =
      if Log.levelOf "WARNING" = 0 then Log.warning else Log.levelOf "WARNING" := rfl
  rw [logged, Log.State.foldl_log_below]
  · rfl
  · intro r hr
    rw [level_of_records hr, hthreshold, hlevel]
    decide

end Surroundings

/-! ### Ends -/

namespace Command

variable {command : Command} {s : Surroundings} {file html : String} {a : Arguments} {fault : FileFault}

/-- The result cannot be written to its file. -/
def Unwritten (command : Command) (s : Surroundings) (a : Arguments) (e : Failure) : Prop :=
  command = .render ∧ ∃ path fault, target? a = some path ∧ s.disk.Unwritable s.cwd (Path.ofString path) fault ∧
    e = .file fault

theorem write_eq_error {d : Disk} {cwd p : Path} {bytes : List UInt8} :
    d.write cwd p bytes = .error fault ↔ d.openFile cwd p = .error fault := by
  refine ⟨fun h => ?_, fun h => ?_⟩
  · rcases error_of_bind h with hopen | ⟨_, -, h⟩
    · exact hopen
    · cases h
  · rw [Disk.write, h]
    rfl

/-- Whether a result is written does not depend on it. -/
theorem written_eq_error : written s a html = .error fault ↔
    ∃ path, target? a = some path ∧ s.disk.Unwritable s.cwd (Path.ofString path) fault := by
  rw [written]
  cases target? a with
  | none => exact iff_of_false nofun nofun
  | some path =>
    obtain ⟨d, fault?, hd⟩ : ∃ d fault?, s.disk.makeDirectories s.cwd (Path.ofString path).parent = (d, fault?) :=
      ⟨_, _, rfl⟩
    simp only [hd]
    cases fault? with
    | none =>
      rw [write_eq_error]
      refine ⟨fun h => ⟨path, rfl, .file hd h⟩, ?_⟩
      rintro ⟨_, hpath, h⟩
      cases hpath
      cases h with
      | directory hd' => cases hd.symm.trans hd'
      | file hd' h =>
        cases hd.symm.trans hd'
        exact h
    | some fault' =>
      refine ⟨fun h => ⟨path, rfl, .directory (Except.error.inj h ▸ hd)⟩, ?_⟩
      rintro ⟨_, hpath, h⟩
      cases hpath
      cases h with
      | directory hd' =>
        cases hd.symm.trans hd'
        rfl
      | file hd' => cases hd.symm.trans hd'

/-- Once its document is processed, a command fails only where its result cannot be written. -/
theorem run_eq_error (command : Command) (h : (s.process file a).outcome = .ok html) :
    command.run s file a = .error e ↔ command.Unwritten s a e := by
  cases command with
  | deps =>
    refine iff_of_false (fun he => ?_) fun hu => nomatch hu.1
    simp only [run, h] at he
    cases he
  | render =>
    simp only [run, h]
    constructor
    · intro he
      rcases error_of_bind he with hw | ⟨_, -, he⟩
      · obtain ⟨fault, hfault, rfl⟩ := exists_of_mapError hw
        obtain ⟨path, hpath, hu⟩ := written_eq_error.1 hfault
        exact ⟨rfl, path, fault, hpath, hu, rfl⟩
      · cases he
    · rintro ⟨-, path, fault, hpath, hu, rfl⟩
      rw [written_eq_error.2 ⟨path, hpath, hu⟩]
      rfl

theorem code_of_run {o : Outcome} (h : (s.process file a).outcome = .ok html) (ho : command.run s file a = .ok o) :
    o.code = 0 ∧ o.errors = s.logged (if a.verbose then "DEBUG" else "WARNING") (s.process file a).records := by
  simp only [run, h] at ho
  cases command with
  | deps =>
    cases ho
    exact ⟨rfl, rfl⟩
  | render =>
    cases hw : written s a html <;> rw [hw] at ho <;> cases ho
    exact ⟨rfl, rfl⟩

/-- A command whose document is not processed ends with one report. -/
theorem run_of_reported (command : Command) (h : (s.process file a).outcome = .error e) (he : e.isReported) :
    ∃ report, e.Reports a.json report ∧ command.run s file a = .ok
      { code := 1
        errors := s.logged (if a.verbose then "DEBUG" else "WARNING") (s.process file a).records ++ report
        disk := s.disk } := by
  refine ⟨_, Reporter.reports_line (Surroundings.process_error h).1 a.json, ?_⟩
  simp only [run, h, Reporter.failed?_eq _ he]

theorem run_of_unreported (command : Command) (h : (s.process file a).outcome = .error e) (he : e.isReported = false) :
    command.run s file a = .error e := by
  simp only [run, h, Reporter.failed?_eq_none _ he]

end Command

namespace Outcome

end Outcome

end LayoutInheritance
