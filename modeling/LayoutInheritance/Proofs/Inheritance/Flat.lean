import LayoutInheritance.Proofs.Block.Unwrap
import LayoutInheritance.Proofs.Inheritance.Document

/-! Flat documents. From a document that has been processed, no mark of inheritance can be reached, on any
way through the store. Resolving and unwrapping find nothing to do in it then: each content is written as
it is, and the run has done nothing but begin. -/

namespace LayoutInheritance

open Relation (ReflTransGen)

namespace Resolver

variable {c : Resolver} {r : Run} {document : Option String} {ids : List NodeId}
  {inherit : Option String → String → Step (List NodeId)} {resolve : List NodeId → Step (List NodeId)}

theorem resolveNode_of_free {id : NodeId} (h : r.store.Free Head.isExtends id)
    (hc : (resolve (r.store.content id)).run r = (.ok (r.store.content id), r)) :
    (c.resolveNode inherit resolve document id).run r = (.ok [id], r) := by
  have hx : (r.store.head id).isExtends = false := h.self
  rw [run_resolveNode, hx, hc]
  by_cases hn : r.store.content id = []
  · simp [hn]
  · simp only [Bool.false_eq_true, if_false, if_neg hn, Store.setContent_content hn]

/-- Where nothing extends a layout, resolving changes nothing. -/
theorem resolveTo_of_free {depth : Nat} (h : ∀ x ∈ ids, r.store.Free Head.isExtends x) :
    (c.resolveTo inherit document depth ids).run r = (.ok ids, r) := by
  induction depth generalizing ids with
  | zero => rfl
  | succ depth ih =>
    rw [resolveTo]
    induction ids with
    | nil => rfl
    | cons id ids ihs =>
      have hid := h id (List.mem_cons_self ..)
      rw [flatVisit, Step.run_bind, resolveNode_of_free hid (ih fun y hy => hid.inside hy)]
      simp only [Step.run_bind, ihs fun x hx => h x (List.mem_cons_of_mem _ hx)]
      rfl

theorem resolve_of_free (h : ∀ x ∈ ids, r.store.Free Head.isExtends x) :
    (c.resolve document ids).run r = (.ok ids, r) :=
  resolveTo_of_free h

end Resolver

namespace Setting

variable {setting : Setting} {filename : Option String} {text : String} {tree : List NodeId} {r : Run}

/-- A flat document is flattened to itself. -/
theorem flatten_of_free (hx : ∀ x ∈ tree, r.store.Free Head.isExtends x)
    (hb : ∀ x ∈ tree, r.store.Free Head.isBlock x) :
    (setting.flatten filename tree).run r = (.ok tree, { setting.opened filename r with chain := r.chain }) := by
  have hr : ((setting.flattening filename).resolve filename tree).run (setting.opened filename r) =
      (.ok tree, setting.opened filename r) := Resolver.resolve_of_free hx
  have hu : r.store.unwrap tree = (r.store, tree) := Store.unwrapTo_of_free hb
  rw [run_flatten, hr]
  simp only [store_opened, hu]

/-- Nothing in a document that was processed extends a layout or is a block. -/
theorem free_of_processed (h : (setting.processed filename text).outcome = .ok tree) :
    ∀ x ∈ tree, (setting.processed filename text).run.store.Free Head.isExtends x ∧
      (setting.processed filename text).run.store.Free Head.isBlock x := by
  have hp := setting.processes filename text
  generalize setting.processed filename text = p at hp h
  cases hp with
  | unparsed => exact nomatch h
  | stopped => exact nomatch h
  | @flattened _ _ found r₁ hparse hr =>
    cases h
    obtain ⟨hs, hfound⟩ := sound_of_resolved hparse hr
    have hu := Store.Sound.unwraps_unwrap hs fun x hx => (hfound x hx).1
    intro x hx
    refine ⟨hu.partly.free (Store.Free.within ?_ (hu.within hx).1), hu.free x hx⟩
    exact fun y hy => (hfound y hy).2

/-- From a document that was processed no element that extends and no block can be reached, however its
nodes are shared. Flattening it again, with whatever options and from whatever run, reads no layout,
parses nothing, records no dependency and leaves every node as it is. -/
theorem processed_is_flat (h : (setting.processed filename text).outcome = .ok tree) :
    (∀ x, (setting.processed filename text).run.store.Within tree x →
      ((setting.processed filename text).run.store.head x).isTagNamed "extends" = false ∧
      ((setting.processed filename text).run.store.head x).isTagNamed "block" = false) ∧
    ∀ (setting' : Setting) (filename' : Option String) (r : Run),
      r.store = (setting.processed filename text).run.store →
      ∃ r', (setting'.flatten filename' tree).run r = (.ok tree, r') ∧ r'.store = r.store ∧
        r'.loads = r.loads ∧ r'.parses = r.parses ∧ r'.dependencies = r.dependencies := by
  have free := free_of_processed h
  constructor
  · intro x hx
    exact ⟨(Store.Free.within (fun y hy => (free y hy).1) hx).self,
      (Store.Free.within (fun y hy => (free y hy).2) hx).self⟩
  · intro setting' filename' r hr
    rw [← hr] at free
    refine ⟨_, flatten_of_free (fun x hx => (free x hx).1) fun x hx => (free x hx).2, rfl, ?_, ?_, ?_⟩
    · simp [Run.loads, opened]
    · simp [Run.parses, opened]
    · simp [Run.dependencies, opened]

/-- The content of a template is appended to a block of its layout, and neither leaves a mark. -/
theorem processed_is_flat_appended :
    let p := (ofTexts [("/w/b", "<p><block name=a>x</block></p>")]).processed none
      "<extends src=b><block name=a type=append>y</block></extends>"
    (∀ x, p.run.store.Within [5] x → (p.run.store.head x).isTagNamed "extends" = false ∧
      (p.run.store.head x).isTagNamed "block" = false) ∧
    ∃ r', ((ofTexts []).flatten none [5]).run p.run = (.ok [5], r') ∧ r'.store = p.run.store ∧
      r'.loads = [("/w/b", "utf-8")] := by
  have hids : ((ofTexts [("/w/b", "<p><block name=a>x</block></p>")]).processed none
      "<extends src=b><block name=a type=append>y</block></extends>").outcome.toOption = some [5] := by
    decide +kernel
  have hloads : ((ofTexts [("/w/b", "<p><block name=a>x</block></p>")]).processed none
      "<extends src=b><block name=a type=append>y</block></extends>").run.loads = [("/w/b", "utf-8")] := by
    decide +kernel
  obtain ⟨hx, hr⟩ := processed_is_flat (ok_of_toOption hids)
  obtain ⟨r', he, hs, hl, -⟩ := hr (ofTexts []) none _ rfl
  exact ⟨hx, r', he, hs, hl.trans hloads⟩

end Setting

end LayoutInheritance
