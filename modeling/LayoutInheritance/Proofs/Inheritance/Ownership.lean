import LayoutInheritance.Proofs.Block.Flattening
import LayoutInheritance.Proofs.Inheritance.Refinement

/-! Ownership. When the blocks that a merge takes from a template lie apart, each node of a document that comes
out stands in one place. The unwrapping of blocks moves nodes and doubles none, so this is a matter of the merges
alone. It fails where a template's block lies in another one and the layout has both: the inner block's
content is then linked into the layout twice. -/

namespace LayoutInheritance

namespace Store

variable {s s' : Store} {os : List Outline}

/-- Unwrapping in place unwraps what is held. -/
theorem Sound.Unwraps.holds {h : s.Sound} {found : List NodeId}
    (hu : h.Unwraps s (os.map Outline.id) s' found) (ho : s.Holds os) :
    found = (Outline.unwrappedAll os).map Outline.id ∧ s'.Holds (Outline.unwrappedAll os) := by
  obtain ⟨hfound, hdepicts⟩ := hu.depicts ho.depicts
  exact ⟨hfound, hdepicts, ho.nodup.sublist (Outline.ids_unwrappedAll_sublist os)⟩

end Store

namespace Setting

variable {setting : Setting} {filename : Option String} {text : String} {tree : List NodeId}

/-- What comes out of a document is held, each place in a node of its own, if the blocks that each merge takes
from a template lie apart. -/
theorem holds_of_processed (ha : (setting.processed filename text).run.MergesApart)
    (h : (setting.processed filename text).outcome = .ok tree) :
    ∃ os : List Outline, os.map Outline.id = tree ∧ (setting.processed filename text).run.store.Holds os := by
  have hp := setting.processes filename text
  generalize setting.processed filename text = p at hp h ha
  cases hp with
  | unparsed => exact nomatch h
  | stopped => exact nomatch h
  | @flattened _ _ found r₁ hparse hr =>
    cases h
    obtain ⟨_, os, -, -, rfl, hst, hs⟩ := Resolver.parse_stored hparse
    obtain ⟨-, hs₁, hfound⟩ := hr.change os rfl hst.holds (hs Store.sound_empty)
    have hu := Store.Sound.unwraps_unwrap hs₁ fun x hx => (hfound found rfl x hx).2.1
    obtain ⟨_, -, hm⟩ := hr.copies os rfl hst.holds (hs Store.sound_empty) trivial ha
    cases hm with
    | ok held =>
      obtain ⟨hids, hheld⟩ := hu.holds held
      exact ⟨_, hids.symm, hheld⟩

/-- No node stands in two places of a document that was processed, whatever the document, the layouts and the
options, as long as no block of a template that its layout has lies in another such block. -/
theorem processed_nodup (ha : (setting.processed filename text).run.MergesApart)
    (h : (setting.processed filename text).outcome = .ok tree) :
    (Outline.ids ((setting.processed filename text).run.store.outline tree)).Nodup := by
  obtain ⟨os, rfl, ho⟩ := holds_of_processed ha h
  rw [ho.outline_eq]
  exact ho.nodup

/-- Content is appended to a block of a layout. -/
theorem processed_nodup_appended :
    let setting := ofTexts [("/w/b", "<p><block name=a>x</block></p>")]
    let text := "<extends src=b><block name=a type=append><b>y</b></block></extends>"
    (setting.processed none text).run.MergesApart ∧ (setting.processed none text).outcome.toOption = some [6] ∧
      Outline.ids ((setting.processed none text).run.store.outline [6]) = [6, 4, 1, 0] ∧
      (Outline.ids ((setting.processed none text).run.store.outline [6])).Nodup := by
  intro setting text
  have h : (setting.processed none text).run.MergesApart ∧
      (setting.processed none text).outcome.toOption = some [6] ∧
      Outline.ids ((setting.processed none text).run.store.outline [6]) = [6, 4, 1, 0] := by
    decide +kernel
  exact ⟨h.1, h.2.1, h.2.2, processed_nodup h.1 (ok_of_toOption h.2.1)⟩

/-- A block of a template lies in another one, the layout has them side by side, and the text `y` comes to
stand in two places. -/
theorem processed_shares_nested :
    let p := (ofTexts [("/w/b", "<block name=a></block><block name=c></block>")]).processed none
      "<extends src=b><block name=a>x<block name=c>y</block></block></extends>"
    p.outcome.toOption = some [0, 1, 1] ∧ Outline.ids (p.run.store.outline [0, 1, 1]) = [0, 1, 1] ∧
      ¬ (Outline.ids (p.run.store.outline [0, 1, 1])).Nodup := by
  intro p
  have h : p.outcome.toOption = some [0, 1, 1] ∧ Outline.ids (p.run.store.outline [0, 1, 1]) = [0, 1, 1] := by
    decide +kernel
  refine ⟨h.1, h.2, ?_⟩
  rw [h.2]
  decide

end Setting

end LayoutInheritance
