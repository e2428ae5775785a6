import LayoutInheritance.Proofs.Inheritance.Accounting

/-! Building a document again. What comes out of a document depends on the layouts that were asked for and on
nothing else in the library. Once it has come out, these are the files of its dependencies, so it need
not be built again before one of them has changed. -/

namespace LayoutInheritance.Setting

open Resolver (parse_history gains_parse)
open Run (Alike Gains)

variable {setting : Setting} {filename : Option String} {text : String} {p p' : Processed}

theorem Processes.unique (h : setting.Processes filename text p) (h' : setting.Processes filename text p') :
    p' = p := by
  cases h with
  | unparsed hp =>
    cases h' with
    | unparsed hp' =>
      cases hp.symm.trans hp'
      rfl
    | stopped hp' => exact nomatch hp.symm.trans hp'
    | flattened hp' => exact nomatch hp.symm.trans hp'
  | stopped hp hr =>
    cases h' with
    | unparsed hp' => exact nomatch hp.symm.trans hp'
    | stopped hp' hr' =>
      cases hp.symm.trans hp'
      obtain ⟨hout, rfl⟩ := hr.unique hr'
      cases hout
      rfl
    | flattened hp' hr' =>
      cases hp.symm.trans hp'
      exact nomatch (hr.unique hr').1
  | flattened hp hr =>
    cases h' with
    | unparsed hp' => exact nomatch hp.symm.trans hp'
    | stopped hp' hr' =>
      cases hp.symm.trans hp'
      exact nomatch (hr.unique hr').1
    | flattened hp' hr' =>
      cases hp.symm.trans hp'
      obtain ⟨hout, rfl⟩ := hr.unique hr'
      cases hout
      rfl

/-- The processing of a document ends in the same way with another library, if both agree on the layouts that
were asked for. -/
theorem Processes.transfer (h : setting.Processes filename text p) {library : Library}
    (hl : p.run.ReadAlike setting.library library) :
    ({ setting with library } : Setting).Processes filename text p := by
  cases h with
  | unparsed hp => exact .unparsed hp
  | stopped hp hr =>
    obtain ⟨r₁, hr', ha⟩ := hr.transfer library setting.tracking _ (.refl _) hl
    obtain rfl := ha.eq rfl
    exact .stopped hp hr'
  | flattened hp hr =>
    obtain ⟨r₁, hr', ha⟩ := hr.transfer library setting.tracking _ (.refl _) hl
    obtain rfl := ha.eq rfl
    exact .flattened hp hr'

/-- Every file that was asked for for a document that has come out is a dependency, once for each time. -/
theorem loads_perm_dependencies (ht : setting.tracking) {tree : List NodeId}
    (ho : (setting.processed filename text).outcome = .ok tree) :
    ((setting.processed filename text).run.dependencies.map Dependency.file).Perm
      ((setting.processed filename text).run.loads.map Prod.fst) := by
  have hp := setting.processes filename text
  generalize setting.processed filename text = p at hp ho
  cases hp with
  | unparsed => exact nomatch ho
  | stopped => exact nomatch ho
  | @flattened _ r found r₁ hparse hr =>
    obtain ⟨_, os, -, -, rfl, hst, hs⟩ := Resolver.parse_stored hparse
    obtain ⟨loads, recorded, asked, hb⟩ := hr.balanced ht hst.holds (hs Store.sound_empty)
    have hopened : Gains {} (setting.opened filename r) [] [none] [] :=
      (gains_parse hparse).trans (Gains.of_history [.resolving ..] rfl)
    have hg := hopened.trans hb.gains
    change (r₁.dependencies.map Dependency.file).Perm (r₁.loads.map Prod.fst)
    rw [hg.loads, hg.dependencies]
    exact hb.balance

/-- The files that a document depends on determine what comes out of it. Two libraries that agree on the layouts
that were asked for give the same document or failure, and all that is done on the way is the same. When
there is a document, the layouts that were asked for are the files of the dependencies, so a library that
differs elsewhere makes no difference. -/
theorem depends_on_loads (setting : Setting) (filename : Option String) (text : String) :
    let done := setting.processed filename text
    (∀ library, done.run.ReadAlike setting.library library →
      ({ setting with library } : Setting).processed filename text = done) ∧
    ∀ tree, setting.tracking → done.outcome = .ok tree →
      (∀ path, path ∈ done.run.loads.map Prod.fst ↔ path ∈ done.run.dependencies.map Dependency.file) ∧
      ∀ library, (∀ path ∈ done.run.dependencies.map Dependency.file, ∀ encoding,
          library.read path encoding = setting.library.read path encoding) →
        ({ setting with library } : Setting).processed filename text = done := by
  intro done
  have same : ∀ library, done.run.ReadAlike setting.library library →
      ({ setting with library } : Setting).processed filename text = done := by
    intro library hl
    have hdone : setting.Processes filename text done := setting.processes filename text
    exact (hdone.transfer hl).unique (processes _ filename text)
  refine ⟨same, fun tree ht ho => ?_⟩
  have files := fun path => (loads_perm_dependencies ht ho).mem_iff (a := path)
  refine ⟨fun path => (files path).symm, fun library hl => same library fun l hm => ?_⟩
  exact hl l.1 ((files l.1).2 (List.mem_map_of_mem hm)) l.2

/-- Of three layouts two are asked for, one of them in a template that is dropped, and the third may change. -/
theorem depends_on_loads_dropped :
    let texts (unused : String) : Dictionary String String :=
      [("/w/b", "<p><block name=a>x</block></p>"), ("/w/c", "y"), ("/w/d", unused)]
    let text := "<extends src=b><extends src=c></extends></extends>"
    let done := (ofTexts (texts "z")).processed none text
    done.outcome.toOption = some [4] ∧ done.run.dependencies.map Dependency.file = ["/w/b", "/w/c"] ∧
      (ofTexts (texts "<extends src=d></extends>")).processed none text = done := by
  intro texts text done
  obtain ⟨hdone, hd⟩ : done.outcome.toOption = some [4] ∧
      done.run.dependencies.map Dependency.file = ["/w/b", "/w/c"] := by
    decide +kernel
  refine ⟨hdone, hd, ?_⟩
  obtain ⟨-, files⟩ := depends_on_loads (ofTexts (texts "z")) none text
  refine (files [4] rfl (ok_of_toOption hdone)).2 _ fun path hp encoding => ?_
  rw [hd] at hp
  rcases List.mem_cons.1 hp with rfl | hp
  · rfl
  · rw [List.mem_singleton.1 hp]
    rfl

end LayoutInheritance.Setting
