import LayoutInheritance.Proofs.Inheritance.Document
import Mathlib.Data.List.Chain

/-! The graph of documents. A document leads to each layout that an element somewhere in it extends. Every
recursive call of a resolution works on the nodes of one document, and the layouts in progress are a walk
through the graph from the main document to that one, on which no path comes twice. -/

namespace LayoutInheritance

open Outline (ids partsAll)
open Relation (ReflTransGen)

namespace Markup

mutual

/-- The sources of the layouts that elements extend, at any depth. -/
def sources : Markup → List String
  | leaf h => h.source?.toList
  | branch h content => h.source?.toList ++ sourcesAll content

def sourcesAll : List Markup → List String
  | [] => []
  | m :: rest => m.sources ++ sourcesAll rest

end

end Markup

mutual

theorem Outline.mem_sources {source : String} : ∀ {o : Outline},
    source ∈ o.markup.sources ↔ ∃ p ∈ o.parts, p.head.source? = some source
  | .leaf id h => by simp [Outline.markup, Markup.sources, Outline.parts, Outline.head]
  | .branch id h content => by
    simp [Outline.markup, Markup.sources, Outline.parts, Outline.head, @Outline.mem_sourcesAll source content]

theorem Outline.mem_sourcesAll {source : String} : ∀ {os : List Outline},
    source ∈ Markup.sourcesAll (Outline.markupAll os) ↔ ∃ p ∈ partsAll os, p.head.source? = some source
  | [] => by simp [Outline.markupAll, Markup.sourcesAll, partsAll]
  | o :: os => by
    simp [Outline.markupAll, Markup.sourcesAll, partsAll, or_and_right, exists_or,
      Outline.mem_sources (o := o), @Outline.mem_sourcesAll source os]

end

/-- A document that takes part in an inheritance. -/
inductive Document where
  | main
  | layout (path : String)

/-- The document that comes last when the layouts at `paths` follow the main document. -/
def Document.last (paths : List String) : Document :=
  (paths.map layout).getLastD main

namespace Resolver

/-- What a document reads as, if it can be read. -/
def contents? (c : Resolver) (main : List Markup) : Document → Option (List Markup)
  | .main => some main
  | .layout path =>
    match c.library.read path c.encoding with
    | .ok text => (Markup.parse text (some path)).toOption
    | .error _ => none

/-- A document has an element, at any depth, that extends a layout. -/
def Extends (c : Resolver) (main : List Markup) (d e : Document) : Prop :=
  ∃ document source, c.contents? main d = some document ∧ source ∈ Markup.sourcesAll document ∧
    e = .layout (c.layoutPath source)

variable {c : Resolver} {start : List String} {main : List Markup} {layouts : List String}

theorem contents?_layout {path text : String} {document : List Markup}
    (hread : c.library.read path c.encoding = .ok text)
    (hparse : Markup.parse text (some path) = .ok document) :
    c.contents? main (.layout path) = some document := by
  rw [contents?, hread]
  exact congrArg Except.toOption hparse

/-! ### Calls -/

/-- The recursive calls that a call makes. Each of them finds the run as the calls before it left it. -/
inductive Calls (c : Resolver) : Call × Run → Call × Run → Prop
  | first {document id ids r} : Calls c (.tree document (id :: ids), r) (.node document id, r)
  | rest {document id ids r here r₁} : c.Resolves (.node document id) r (.ok here) r₁ →
      Calls c (.tree document (id :: ids), r) (.tree document ids, r₁)
  | inside {document id r} : (r.store.head id).isExtends = false →
      Calls c (.node document id, r) (.tree document (r.store.content id), r)
  | layout {document id r source} : (r.store.head id).source? = some source → c.layoutPath source ∉ r.chain →
      Calls c (.node document id, r) (.layout document (c.layoutPath source), r)
  | template {document id r source layout r₁} : (r.store.head id).source? = some source →
      c.layoutPath source ∉ r.chain →
      c.Resolves (.layout document (c.layoutPath source)) r (.ok layout) r₁ →
      Calls c (.node document id, r)
        (.tree document (r₁.store.content id), c.recorded r₁ (c.layoutPath source) document)
  | load {document path r text tree r₁} : c.library.read path c.encoding = .ok text →
      (Step.parse text (some path)).run (r.note [.loading path c.encoding document]) = (.ok tree, r₁) →
      Calls c (.layout document path, r) (.tree (some path) tree, r₁.enter path)

/-- How a call stands in the graph of documents: `layouts` lead from the main document to the one whose
nodes the call works on. -/
structure Along (c : Resolver) (start : List String) (main : List Markup) (layouts : List String)
    (p : Call × Run) : Prop where
  sound : p.2.store.Sound
  chain : p.2.chain = start ++ layouts
  nodup : p.2.chain.Nodup
  paths : ∀ path ∈ layouts, path ∈ c.library.paths
  walk : List.IsChain (c.Extends main) (.main :: layouts.map .layout)
  held : ∃ os : List Outline, os.map Outline.id = p.1.roots ∧ p.2.store.Holds os ∧
    ∀ o ∈ partsAll os, ∀ source, o.head.source? = some source →
      c.Extends main (.last layouts) (.layout (c.layoutPath source))
  asked : ∀ document path, p.1 = .layout document path →
    path ∉ p.2.chain ∧ c.Extends main (.last layouts) (.layout path)

theorem walk_append {path : String} (h : List.IsChain (c.Extends main) (.main :: layouts.map .layout))
    (hp : c.Extends main (.last layouts) (.layout path)) :
    List.IsChain (c.Extends main) (.main :: (layouts ++ [path]).map .layout) := by
  rw [List.map_append, ← List.cons_append, List.isChain_append]
  refine ⟨h, List.isChain_singleton _, ?_⟩
  intro d hd e he
  cases he
  rw [List.getLast?_cons] at hd
  cases hd
  rw [Document.last, List.getLastD_eq_getLast?] at hp
  exact hp

/-- A call on nodes of the same document, with the same layouts in progress. -/
theorem Along.same {p q : Call × Run} (hp : c.Along start main layouts p) (hs : q.2.store.Sound)
    (hc : q.2.chain = p.2.chain) (os : List Outline) (hid : os.map Outline.id = q.1.roots)
    (ho : q.2.store.Holds os)
    (he : ∀ o ∈ partsAll os, ∀ source, o.head.source? = some source →
      c.Extends main (.last layouts) (.layout (c.layoutPath source)))
    (ha : ∀ document path, q.1 = .layout document path →
      path ∉ q.2.chain ∧ c.Extends main (.last layouts) (.layout path)) : c.Along start main layouts q where
  sound := hs
  chain := hc.trans hp.chain
  nodup := hc ▸ hp.nodup
  paths := hp.paths
  walk := hp.walk
  held := ⟨os, hid, ho, he⟩
  asked := ha

/-- A call stands in the graph as the calls do that it makes. -/
theorem Calls.along {p q : Call × Run} (h : c.Calls p q) (hp : c.Along start main layouts p) :
    ∃ layouts', c.Along start main layouts' q := by
  obtain ⟨os, hid, ho, he⟩ := hp.held
  cases h with
  | first =>
    obtain ⟨o, os, rfl, rfl, -⟩ := List.map_eq_cons_iff.1 hid
    refine ⟨layouts, hp.same hp.sound rfl [o] rfl ho.first ?_ fun _ _ h => by cases h⟩
    intro p hm
    rw [partsAll, partsAll, List.append_nil] at hm
    exact he p (List.mem_append_left _ hm)
  | rest hr =>
    obtain ⟨o, os, rfl, rfl, hid'⟩ := List.map_eq_cons_iff.1 hid
    obtain ⟨hc, hs, -⟩ := hr.change [o] rfl ho.first hp.sound
    refine ⟨layouts, hp.same hs hr.chain os hid' (hc.holds_rest ho) ?_ fun _ _ h => by cases h⟩
    intro p hm
    exact he p (List.mem_append_right _ hm)
  | inside hx =>
    obtain ⟨o, rfl, rfl⟩ := List.map_eq_singleton_iff.1 hid
    refine ⟨layouts, hp.same hp.sound rfl o.content ho.root.content.symm ho.content ?_ fun _ _ h => by cases h⟩
    intro p hm
    apply he p
    rw [partsAll, Outline.parts_eq]
    exact List.mem_append_left _ (List.mem_cons_of_mem _ hm)
  | layout hs hn =>
    obtain ⟨o, rfl, rfl⟩ := List.map_eq_singleton_iff.1 hid
    refine ⟨layouts, hp.same hp.sound rfl [] rfl (.nil _) (fun _ h => absurd h List.not_mem_nil) ?_⟩
    intro _ _ heq
    cases heq
    rw [ho.root.head] at hs
    exact ⟨hn, he o (Outline.mem_partsAll_of_mem (List.mem_singleton_self o)) _ hs⟩
  | @template _ _ _ _ _ r₁ hs hn hr =>
    obtain ⟨o, rfl, rfl⟩ := List.map_eq_singleton_iff.1 hid
    obtain ⟨hc, hs₁, -⟩ := hr.change [] rfl (.nil _) hp.sound
    have held := hc.holds_all ho
    refine ⟨layouts, hp.same (by rwa [store_recorded]) (by rw [chain_recorded]; exact hr.chain)
      o.content held.root.content.symm (by rw [store_recorded]; exact held.content) ?_ fun _ _ h => by cases h⟩
    intro p hm
    apply he p
    rw [partsAll, Outline.parts_eq]
    exact List.mem_append_left _ (List.mem_cons_of_mem _ hm)
  | @load _ path _ text _ r₁ hread hparse =>
    obtain ⟨document, os, hd, rfl, rfl, hst, hs⟩ := parse_stored hparse
    obtain ⟨hn, hx⟩ := hp.asked _ _ rfl
    have hchain : r₁.chain = start ++ layouts := (parse_chain hparse).trans hp.chain
    have hnodup : (r₁.chain ++ [path]).Nodup := by
      rw [parse_chain hparse]
      exact List.nodup_append'.2 ⟨hp.nodup, List.nodup_singleton path, by simpa using hn⟩
    have hlast : Document.last (layouts ++ [path]) = .layout path := by simp [Document.last]
    refine ⟨layouts ++ [path], hs hp.sound, ?_, hnodup, ?_, walk_append hp.walk hx, ⟨os, rfl, hst.holds, ?_⟩,
      fun _ _ h => by cases h⟩
    · change r₁.chain ++ [path] = _
      rw [hchain, List.append_assoc]
    · intro path' hm
      rcases List.mem_append.1 hm with hm | hm
      · exact hp.paths path' hm
      · rw [List.mem_singleton.1 hm]
        exact c.library.mem_paths _ _ _ hread
    · intro o hm source hs
      rw [hlast]
      exact ⟨_, source, contents?_layout hread hd, Outline.mem_sourcesAll.2 ⟨o, hm, hs⟩, rfl⟩

/-- So do all calls of a run. -/
theorem along_of_calls {p q : Call × Run} (h : ReflTransGen c.Calls p q) (hp : c.Along start main layouts p) :
    ∃ layouts', c.Along start main layouts' q := by
  induction h with
  | refl => exact ⟨layouts, hp⟩
  | tail _ hq ih =>
    obtain ⟨layouts', ha⟩ := ih
    exact hq.along ha

end Resolver

namespace Setting

variable {text : String} {tree : List NodeId} {r : Run}

/-- The call that resolves a whole document. -/
def first (setting : Setting) (filename : Option String) (tree : List NodeId) (r : Run) :
    Resolver.Call × Run :=
  (.tree filename tree, setting.opened filename r)

/-- The first call stands at the main document. -/
theorem along_first (setting : Setting) (filename : Option String)
    (h : (Step.parse text none).run {} = (.ok tree, r)) :
    ∃ main, Markup.parse text none = .ok main ∧
      (setting.flattening filename).Along (setting.chainFor filename) main [] (setting.first filename tree r) := by
  obtain ⟨_, os, hd, rfl, rfl, hst, hs⟩ := Resolver.parse_stored h
  have nodup : (setting.chainFor filename).Nodup := by
    unfold chainFor
    split
    · exact List.nodup_nil
    · exact List.nodup_nil
    · exact List.nodup_singleton _
  refine ⟨_, hd, ?_⟩
  constructor
  · exact hs Store.sound_empty
  · exact (List.append_nil _).symm
  · exact nodup
  · exact fun _ h => absurd h List.not_mem_nil
  · exact List.isChain_singleton _
  · refine ⟨os, rfl, hst.holds, ?_⟩
    intro o hm source hs
    exact ⟨_, source, rfl, Outline.mem_sourcesAll.2 ⟨o, hm, hs⟩, rfl⟩
  · intro _ _ h
    cases h

end Setting

end LayoutInheritance
