import LayoutInheritance.Proofs.Block.Unwrap
import LayoutInheritance.Proofs.Inheritance.Graph
import Mathlib.Data.List.Dedup

/-! Termination. The recursion of a resolution has exactly one outcome, whatever the layouts extend, and no
bound has a part in it. On the way no path is in progress twice, so there are never more in progress than
the library has, and the main document. What comes out has no node inside itself, so that unwrapping it
and showing it end as well. -/

namespace LayoutInheritance

open Relation (ReflTransGen TransGen)

/-- Nothing lies inside itself, so that going through the nodes `ids` ends: more depth makes no difference. -/
structure Store.Ends (s : Store) (ids : List NodeId) : Prop where
  acyclic : ∀ x, ¬ TransGen s.Inside x x
  unwrap : ∀ depth ≥ s.size, Store.unwrapTo depth s ids = s.unwrap ids
  outline : ∀ depth ≥ s.size, ids.map (s.outlineTo depth) = s.outline ids

theorem Store.Sound.ends {s : Store} {ids : List NodeId} (h : s.Sound) (hids : ∀ x ∈ ids, x < s.size) :
    s.Ends ids where
  acyclic := h.not_inside_self
  unwrap _ hd := unwrapTo_eq_unwrap h hids hd
  outline depth hd := by
    rw [Store.outline]
    exact List.map_congr_left fun x hx => outlineTo_eq (h.shallow (hids x hx)) hd

namespace Resolver

variable {c : Resolver} {start : List String} {main : List Markup} {layouts : List String}

/-- The layouts in progress are different paths of the library. -/
theorem Along.length_chain_le {p : Call × Run} (h : c.Along start main layouts p) :
    p.2.chain.length ≤ start.length + c.library.paths.dedup.length := by
  have hn := h.nodup
  rw [h.chain] at hn
  have hsub : layouts ⊆ c.library.paths.dedup := fun path hp => List.mem_dedup.2 (h.paths path hp)
  have hlen := ((List.nodup_append'.1 hn).2.1.subperm hsub).length_le
  rw [h.chain, List.length_append]
  omega

end Resolver

namespace Setting

variable {setting : Setting} {filename : Option String} {text : String} {tree : List NodeId} {r : Run}

theorem length_chainFor_le : (setting.chainFor filename).length ≤ 1 := by
  unfold chainFor
  split <;> simp

theorem chain_of_calls (h : (Step.parse text none).run {} = (.ok tree, r)) {p : Resolver.Call × Run}
    (hp : ReflTransGen (setting.flattening filename).Calls (setting.first filename tree r) p) :
    p.2.chain.Nodup ∧ p.2.chain.length ≤ setting.library.paths.dedup.length + 1 := by
  obtain ⟨main, -, ha⟩ := along_first setting filename h
  obtain ⟨layouts, hl⟩ := Resolver.along_of_calls hp ha
  have hlen := hl.length_chain_le
  have hstart : (setting.chainFor filename).length ≤ 1 := length_chainFor_le
  have hpaths : (setting.flattening filename).library.paths = setting.library.paths := rfl
  rw [hpaths] at hlen
  exact ⟨hl.nodup, by omega⟩

/-- The resolution of a document ends, with nodes or with a failure, by the rules of its recursion alone.
Throughout, the layouts in progress are different, and no more than the library has beside the main
document. Where it ends with nodes, nothing lies inside itself, before the blocks are unwrapped and
after. -/
theorem resolution_ends (setting : Setting) (filename : Option String) (text : String) :
    (∃ fault, Markup.parse text none = .error fault ∧
      (setting.processed filename text).outcome = .error fault.failure) ∨
    ∃ tree r out r₁, (Step.parse text none).run {} = (.ok tree, r) ∧
      (∀ out' r', (setting.flattening filename).Resolves (.tree filename tree) (setting.opened filename r) out' r' ↔
        out' = out ∧ r' = r₁) ∧
      (∀ p, ReflTransGen (setting.flattening filename).Calls (setting.first filename tree r) p →
        p.2.chain.Nodup ∧ p.2.chain.length ≤ setting.library.paths.dedup.length + 1) ∧
      match out with
      | .error e => (setting.processed filename text).outcome = .error e
      | .ok found => r₁.store.Ends found ∧
        ∃ result, (setting.processed filename text).outcome = .ok result ∧
          (setting.processed filename text).run.store = (r₁.store.unwrap found).1 ∧
          result = (r₁.store.unwrap found).2 ∧ (setting.processed filename text).run.store.Ends result := by
  have hp := setting.processes filename text
  generalize setting.processed filename text = p at hp ⊢
  cases hp with
  | unparsed h =>
    rw [Step.run_parse] at h
    split at h
    · next fault hf =>
      cases h
      exact .inl ⟨fault, hf, rfl⟩
    · cases h
  | stopped h hr =>
    refine .inr ⟨_, _, _, _, h, fun out' r' => ⟨fun h' => h'.unique hr, ?_⟩, fun p => chain_of_calls h, rfl⟩
    rintro ⟨rfl, rfl⟩
    exact hr
  | @flattened _ _ found r₁ h hr =>
    refine .inr ⟨_, _, _, _, h, fun out' r' => ⟨fun h' => h'.unique hr, ?_⟩, fun p => chain_of_calls h, ?_⟩
    · rintro ⟨rfl, rfl⟩
      exact hr
    · obtain ⟨_, os, -, -, rfl, hst, hs⟩ := Resolver.parse_stored h
      obtain ⟨-, hs₁, hfound⟩ := hr.change os rfl hst.holds (hs Store.sound_empty)
      have hlt : ∀ x ∈ found, x < r₁.store.size := fun x hx => (hfound found rfl x hx).2.1
      have hu := Store.Sound.unwraps_unwrap hs₁ hlt
      refine ⟨hs₁.ends hlt, _, rfl, rfl, rfl, hu.partly.sound.ends fun x hx => ?_⟩
      rw [hu.partly.size]
      exact (hu.within hx).1.of_closed (P := fun x => x < r₁.store.size) (fun x _ => hs₁.closed x) hlt

end Setting

end LayoutInheritance
