import LayoutInheritance.Log.Setup
import LayoutInheritance.Proofs.Disk.Growth
import Mathlib.Data.List.Induction

/-! The setup of logging as a machine. Its parts are changed one after the other, and a change may stop in the middle
when a file cannot be opened. After every operation the logger at the top has the remembered handler and no other, and
what it is sent is written once. -/

namespace LayoutInheritance.Log

/-- What is done with a setup. -/
inductive Operation where
  | configure (levelName : String) (path? : Option String)
  | reset
  | log (time : String) (record : Record)

/-- Operations that were done, each with its fault if it had one. -/
abbrev Trace := List (Operation × Option FileFault)

namespace State

def step (s : State) (cwd : Path) : Operation → State × Option FileFault
  | .configure levelName path? => s.configure cwd levelName path?
  | .reset => (s.reset, none)
  | .log time record => (s.log cwd time record, none)

/-- One operation after the other. -/
def run (s : State) (cwd : Path) (ops : List Operation) : State × Trace :=
  ops.foldl (fun done op => ((done.1.step cwd op).1, done.2 ++ [(op, (done.1.step cwd op).2)])) (s, [])

/-- A target that has been opened: a file is there. -/
def Opened (d : Disk) (cwd : Path) : Target → Prop
  | .stream => True
  | .file path => ∃ place bytes, d.find cwd path = (place, .file bytes)

/-- One text more at the end of a target, and no other change. -/
inductive Appends (cwd : Path) (s : State) (text : String) : Target → State → Prop
  | stream : Appends cwd s text .stream { s with errors := s.errors ++ text }
  | file {path place bytes disk} : s.disk.find cwd path = (place, .file bytes) →
      (∀ q, disk.entry? q = if q = place then some (.file (bytes ++ Utf8.encode text.toList)) else s.disk.entry? q) →
      Appends cwd s text (.file path) { s with disk }

end State

variable {cwd : Path} {s s' : State} {setup : Setup} {h : Handler} {t : Target} {d d' : Disk}
  {fault? : Option FileFault} {ops : List Operation} {op : Operation} {trace : Trace}

/-! ### Setups -/

namespace Setup

/-- The remembered handler is the one that the logger has, and it has the level of the logger and the remembered
target. -/
structure Coherent (s : Setup) : Prop where
  attached : s.attached = s.own?.toList
  own : ∀ id ∈ s.own?, ∃ h, s.made[id]? = some h ∧ s.target? = some h.target ∧ s.level = h.level

theorem handlers_eq (ha : setup.attached = setup.own?.toList) : setup.handlers = setup.handler?.toList := by
  rw [handlers, handler?, ha]
  cases setup.own? with
  | none => rfl
  | some id =>
    rw [Option.toList_some, Option.bind_some]
    cases hid : setup.made[id]? <;> simp [hid]

theorem Coherent.exists_own (hc : setup.Coherent) (hh : h ∈ setup.handler?) : ∃ id, setup.own? = some id ∧
    setup.made[id]? = some h ∧ setup.target? = some h.target ∧ setup.level = h.level := by
  obtain ⟨id, hid, hmade⟩ := Option.bind_eq_some_iff.1 hh
  obtain ⟨g, hg, hrest⟩ := hc.own id hid
  obtain rfl : g = h := Option.some.inj (hg.symm.trans hmade)
  exact ⟨id, hid, hg, hrest⟩

/-- A setup without handlers. -/
structure Bare (s : Setup) : Prop where
  attached : s.attached = []
  own? : s.own? = none

theorem Bare.coherent (hb : setup.Bare) : setup.Coherent where
  attached := by rw [hb.attached, hb.own?, Option.toList_none]
  own id hid := by
    rw [hb.own?] at hid
    exact nomatch hid

theorem Bare.handler? (hb : setup.Bare) : setup.handler? = none := by
  rw [Setup.handler?, hb.own?, Option.bind_none]

theorem bare_detach (ha : setup.attached = setup.own?.toList) : setup.detach.Bare := by
  unfold detach
  split
  · next id hid =>
    rw [hid] at ha
    exact ⟨by simp [ha], rfl⟩
  · next hid =>
    rw [hid] at ha
    exact ⟨ha, hid⟩

theorem level_detach (s : Setup) : s.detach.level = s.level := by
  unfold detach
  split <;> rfl

theorem coherent_attach (hb : setup.Bare) (hl : setup.level = h.level) : (setup.attach h).Coherent where
  attached := congrArg (· ++ [setup.made.length]) hb.attached
  own id hid := by
    cases hid
    exact ⟨h, List.getElem?_concat_length, rfl, hl⟩

theorem handler?_attach (s : Setup) (h : Handler) : (s.attach h).handler? = some h :=
  List.getElem?_concat_length

/-- The remembered handler and the logger get the same level. -/
theorem coherent_setLevel {id : HandlerId} (hc : setup.Coherent) (hid : setup.own? = some id) (level : Int) :
    ({ setup with level } : Setup).setLevel id level |>.Coherent := by
  obtain ⟨g, hg, ht, -⟩ := hc.own id hid
  refine ⟨hc.attached, fun id' hid' => ?_⟩
  obtain rfl : id = id' := Option.some.inj (hid.symm.trans hid')
  exact ⟨{ g with level }, by simp [setLevel, hg], ht, rfl⟩

theorem handler?_setLevel {id : HandlerId} (hid : setup.own? = some id) (level : Int) :
    (({ setup with level } : Setup).setLevel id level).handler? = setup.handler?.map fun h => { h with level } := by
  simp [handler?, setLevel, hid]

end Setup

/-! ### Targets -/

namespace State

theorem Opened.mono (hg : d.Grows d') (ho : Opened d cwd t) : Opened d' cwd t := by
  cases t with
  | stream => trivial
  | file path =>
    obtain ⟨place, bytes, hfind⟩ := ho
    obtain ⟨more, hfind'⟩ := hg.find_file hfind
    exact ⟨place, _, hfind'⟩

theorem opened_spec (d : Disk) (cwd : Path) (t : Target) : d.Grows (opened d cwd t).1 ∧
    ((opened d cwd t).2 = none → Opened (opened d cwd t).1 cwd t) := by
  cases t with
  | stream => exact ⟨.refl d, fun _ => trivial⟩
  | file path =>
    have hmade := Disk.grows_makeDirectories d cwd path.parent
    rw [opened]
    split
    · next hm =>
      rw [hm] at hmade
      exact ⟨hmade, nofun⟩
    · next hm =>
      rw [hm] at hmade
      split
      · next d' ha =>
        obtain ⟨place, bytes, hopen, rfl⟩ := Disk.openFile_of_append ha
        exact ⟨hmade.trans (Disk.grows_append ha), fun _ => ⟨place, _, Disk.find_put hopen []⟩⟩
      · exact ⟨hmade, nofun⟩

/-- A text is written to a target that has been opened. -/
theorem appends_write (ho : Opened s.disk cwd t) (text : String) : s.Appends cwd text t (s.write cwd t text) := by
  cases t with
  | stream => exact .stream
  | file path =>
    obtain ⟨place, bytes, hfind⟩ := ho
    have hopen := Disk.openFile_of_find hfind
    rw [write, Disk.append_eq hopen]
    exact .file hfind (Disk.entry?_put (Disk.entry?_of_openFile hopen).1 _)

/-- Appending lets the disk and the error stream grow. -/
theorem Appends.grows {text : String} (ha : s.Appends cwd text t s') :
    s'.setup = s.setup ∧ s.disk.Grows s'.disk ∧ s.errors.toList <+: s'.errors.toList := by
  cases ha with
  | stream => exact ⟨rfl, .refl _, by simp⟩
  | @file path place bytes disk hfind hentry =>
    refine ⟨rfl, fun q e he => ?_, List.prefix_rfl⟩
    have hplace : s.disk.entry? place = some (.file bytes) :=
      Disk.entry?_of_walk (Disk.walk_of_find_entry (e := .file bytes) hfind).2.2
    change ∃ e', disk.entry? q = some e' ∧ e.Grows e'
    rw [hentry]
    split
    · next hq =>
      cases hplace.symm.trans (hq ▸ he)
      exact ⟨_, rfl, .file bytes _⟩
    · exact ⟨e, he, .refl e⟩

/-! ### Single operations -/

/-- No file can have the path. -/
def Unnameable (path? : Option String) : Prop :=
  ∃ path ∈ path?, (Path.ofString path).hasNull

/-- What an operation does. -/
inductive Effect (cwd : Path) (s : State) : Operation → State → Option FileFault → Prop
  | refused {levelName path?} : Unnameable path? → Effect cwd s (.configure levelName path?) s (some .nullInPath)
  | installed {levelName path? s'} : ¬ Unnameable path? → s'.setup.Coherent →
      s'.setup.handler? = some ⟨target cwd path?, levelOf levelName⟩ → Opened s'.disk cwd (target cwd path?) →
      s.disk.Grows s'.disk → s'.errors = s.errors → Effect cwd s (.configure levelName path?) s' none
  | failed {levelName path? s' fault} : ¬ Unnameable path? → s'.setup.Bare → s.disk.Grows s'.disk →
      s'.errors = s.errors → Effect cwd s (.configure levelName path?) s' (some fault)
  | reset {setup : Setup} : setup.Bare → Effect cwd s .reset { s with setup } none
  | written {time record h s'} : s.setup.handler? = some h → isWithin topLogger record.logger →
      s.setup.threshold ≤ record.level → s.Appends cwd (record.line time) h.target s' →
      Effect cwd s (.log time record) s' none
  | dropped {time record} :
      (isWithin topLogger record.logger → s.setup.threshold ≤ record.level → s.setup.handler? = none) →
      Effect cwd s (.log time record) s none

/-- A new handler in the place of the remembered one. -/
theorem effect_replace {levelName : String} {path? : Option String} (hn : ¬ Unnameable path?)
    (ha : s.setup.attached = s.setup.own?.toList) :
    let s₁ := { s with setup := { s.setup with level := levelOf levelName } }
    s.Effect cwd (.configure levelName path?) (s₁.replace cwd ⟨target cwd path?, levelOf levelName⟩).1
      (s₁.replace cwd ⟨target cwd path?, levelOf levelName⟩).2 := by
  intro s₁
  have hb : s₁.setup.detach.Bare := Setup.bare_detach ha
  have hspec := opened_spec s₁.disk cwd (target cwd path?)
  rw [replace]
  split
  · next ho =>
    rw [ho] at hspec
    exact .installed hn (Setup.coherent_attach hb (Setup.level_detach _)) (Setup.handler?_attach _ _) (hspec.2 rfl)
      hspec.1 rfl
  · next ho =>
    rw [ho] at hspec
    exact .failed hn hb hspec.1 rfl

theorem effect_configure (hc : s.setup.Coherent) (ho : ∀ h ∈ s.setup.handler?, Opened s.disk cwd h.target)
    (levelName : String) (path? : Option String) :
    s.Effect cwd (.configure levelName path?) (s.configure cwd levelName path?).1 (s.configure cwd levelName path?).2 := by
  rw [configure]
  split
  · next hnull =>
    exact .refused (by simpa [Unnameable, Option.any_eq_true] using hnull)
  · next hnull =>
    have hn : ¬ Unnameable path? := by simpa [Unnameable, Option.any_eq_true] using hnull
    simp only
    split
    · next id hid =>
      obtain ⟨g, hg, htarget, -⟩ := hc.own id hid
      have hh : s.setup.handler? = some g := by rw [Setup.handler?, hid, Option.bind_some, hg]
      split
      · next ht =>
        have hsame : g.target = target cwd path? := Option.some.inj (htarget.symm.trans ht)
        refine .installed hn (Setup.coherent_setLevel hc hid _) ?_ (hsame ▸ ho g hh) (.refl _) rfl
        rw [← hsame]
        exact (Setup.handler?_setLevel hid _).trans (congrArg _ hh)
      · exact effect_replace hn hc.attached
    · exact effect_replace hn hc.attached

/-- Of the levels of the logger and of its handler, the first decides. -/
theorem handlersFor_eq (hc : setup.Coherent) (r : Record) : setup.handlersFor r =
    if isWithin topLogger r.logger ∧ setup.threshold ≤ r.level then setup.handler?.toList else [] := by
  rw [Setup.handlersFor, Setup.handlers_eq hc.attached]
  simp only [Bool.and_eq_true, decide_eq_true_eq]
  split
  · next hpass =>
    refine List.filter_eq_self.2 fun h hh => decide_eq_true ?_
    obtain ⟨-, -, -, -, hlevel⟩ := hc.exists_own (Option.mem_toList.1 hh)
    have hthreshold := hpass.2
    rw [Setup.threshold] at hthreshold
    rw [← hlevel]
    split at hthreshold
    · next hzero =>
      rw [hzero]
      exact Int.le_trans (by decide) hthreshold
    · exact hthreshold
  · rfl

theorem effect_log (hc : s.setup.Coherent) (ho : ∀ h ∈ s.setup.handler?, Opened s.disk cwd h.target)
    (time : String) (record : Record) : s.Effect cwd (.log time record) (s.log cwd time record) none := by
  rw [log, handlersFor_eq hc]
  split
  · next hpass =>
    cases hh : s.setup.handler? with
    | none => exact .dropped fun _ _ => hh
    | some h => exact .written hh hpass.1 hpass.2 (appends_write (ho h hh) _)
  · next hpass => exact .dropped fun hw hl => absurd ⟨hw, hl⟩ hpass

theorem bare_reset (ha : s.setup.attached = s.setup.own?.toList) : s.reset.setup.Bare :=
  ⟨(Setup.bare_detach ha).attached, (Setup.bare_detach ha).own?⟩

theorem effect_step (hc : s.setup.Coherent) (ho : ∀ h ∈ s.setup.handler?, Opened s.disk cwd h.target)
    (op : Operation) : s.Effect cwd op (s.step cwd op).1 (s.step cwd op).2 := by
  cases op with
  | configure levelName path? => exact effect_configure hc ho levelName path?
  | reset => exact .reset (bare_reset hc.attached)
  | log time record => exact effect_log hc ho time record

/-! ### Runs -/

/-- The handler is that of the last `configure` that ended well. -/
def Configured (cwd : Path) (trace : Trace) (h : Handler) : Prop :=
  ∃ before levelName path? later, trace = before ++ (.configure levelName path?, none) :: later ∧
    h = ⟨target cwd path?, levelOf levelName⟩ ∧ ∀ levelName path?, (.configure levelName path?, none) ∉ later

theorem Configured.concat {e : Operation × Option FileFault} (hc : Configured cwd trace h)
    (he : ∀ levelName path?, e ≠ (.configure levelName path?, none)) : Configured cwd (trace ++ [e]) h := by
  obtain ⟨before, levelName, path?, later, rfl, hh, hlater⟩ := hc
  refine ⟨before, levelName, path?, later ++ [e], by simp, hh, fun n p hm => ?_⟩
  rcases List.mem_append.1 hm with hm | hm
  · exact hlater n p hm
  · exact he n p (List.mem_singleton.1 hm).symm

theorem configured_concat (cwd : Path) (trace : Trace) (levelName : String) (path? : Option String) :
    Configured cwd (trace ++ [(.configure levelName path?, none)]) ⟨target cwd path?, levelOf levelName⟩ :=
  ⟨trace, levelName, path?, [], rfl, rfl, fun _ _ => List.not_mem_nil⟩

/-- What holds after the operations of `trace`. -/
structure Handles (cwd : Path) (trace : Trace) (s : State) : Prop where
  coherent : s.setup.Coherent
  opened : ∀ h ∈ s.setup.handler?, Opened s.disk cwd h.target
  configured : ∀ h ∈ s.setup.handler?, Configured cwd trace h

theorem Handles.of_bare (hb : s.setup.Bare) : Handles cwd trace s where
  coherent := hb.coherent
  opened _ hh := nomatch hb.handler?.symm.trans hh
  configured _ hh := nomatch hb.handler?.symm.trans hh

/-- No operation with these effects is a `configure` that ended well. -/
theorem Handles.keep {e : Operation × Option FileFault} (hs : Handles cwd trace s) (hsetup : s'.setup = s.setup)
    (hg : s.disk.Grows s'.disk) (he : ∀ levelName path?, e ≠ (.configure levelName path?, none)) :
    Handles cwd (trace ++ [e]) s' where
  coherent := hsetup ▸ hs.coherent
  opened h hh := (hs.opened h (hsetup ▸ hh)).mono hg
  configured h hh := (hs.configured h (hsetup ▸ hh)).concat he

theorem Handles.effect (hs : Handles cwd trace s) (he : s.Effect cwd op s' fault?) :
    Handles cwd (trace ++ [(op, fault?)]) s' := by
  cases he with
  | refused => exact hs.keep rfl (.refl _) nofun
  | installed _ hc hh ho =>
    refine ⟨hc, fun h hm => ?_, fun h hm => ?_⟩
    · obtain rfl := Option.some.inj (hh.symm.trans hm)
      exact ho
    · obtain rfl := Option.some.inj (hh.symm.trans hm)
      exact configured_concat ..
  | failed _ hb => exact .of_bare hb
  | reset hb => exact .of_bare hb
  | written _ _ _ ha => exact hs.keep ha.grows.1 ha.grows.2.1 nofun
  | dropped => exact hs.keep rfl (.refl _) nofun

/-- No operation takes anything from what has been written. -/
theorem Effect.grows (he : s.Effect cwd op s' fault?) : s.disk.Grows s'.disk ∧ s.errors.toList <+: s'.errors.toList := by
  cases he with
  | refused | reset | dropped => exact ⟨.refl _, List.prefix_rfl⟩
  | installed _ _ _ _ hg herrors | failed _ _ hg herrors => exact ⟨hg, herrors ▸ List.prefix_rfl⟩
  | written _ _ _ ha => exact ha.grows.2

theorem run_concat (s : State) (cwd : Path) (ops : List Operation) (op : Operation) :
    s.run cwd (ops ++ [op]) = (((s.run cwd ops).1.step cwd op).1,
      (s.run cwd ops).2 ++ [(op, ((s.run cwd ops).1.step cwd op).2)]) :=
  List.foldl_concat ..

theorem handles_run (hb : s.setup.Bare) (cwd : Path) (ops : List Operation) :
    Handles cwd (s.run cwd ops).2 (s.run cwd ops).1 := by
  induction ops using List.reverseRecOn with
  | nil => exact .of_bare hb
  | append_singleton ops op ih =>
    rw [run_concat]
    exact ih.effect (effect_step ih.coherent ih.opened op)

theorem map_fst_run (s : State) (cwd : Path) (ops : List Operation) : (s.run cwd ops).2.map Prod.fst = ops := by
  induction ops using List.reverseRecOn with
  | nil => rfl
  | append_singleton ops op ih => rw [run_concat, List.map_append, ih, List.map_singleton]

theorem grows_run (hb : s.setup.Bare) (cwd : Path) (ops more : List Operation) :
    (s.run cwd ops).1.disk.Grows (s.run cwd (ops ++ more)).1.disk ∧
      (s.run cwd ops).1.errors.toList <+: (s.run cwd (ops ++ more)).1.errors.toList := by
  induction more using List.reverseRecOn with
  | nil =>
    rw [List.append_nil]
    exact ⟨.refl _, List.prefix_rfl⟩
  | append_singleton more op ih =>
    have hs := handles_run hb cwd (ops ++ more)
    obtain ⟨hdisk, herrors⟩ := (effect_step hs.coherent hs.opened op).grows
    rw [← List.append_assoc, run_concat]
    exact ⟨ih.1.trans hdisk, ih.2.trans herrors⟩

end State

end LayoutInheritance.Log
