import LayoutInheritance.Proofs.Block.Layers
import LayoutInheritance.Proofs.Inheritance.Flat
import LayoutInheritance.Proofs.Inheritance.Refinement

/-! Chains of documents, each of which extends the one before. Level by level, a template changes the contents of
the blocks of the first document, so the last document resolves to the first one with the content of each block
folded over the levels. -/

namespace LayoutInheritance

open Outline (ids partsAll)

namespace Markup

/-- Nothing in the documents extends a layout. -/
def Independent (ms : List Markup) : Prop :=
  ∀ m ∈ nodesAll ms, m.head.isExtends = false

instance (ms : List Markup) : Decidable (Independent ms) :=
  inferInstanceAs (Decidable (∀ m ∈ nodesAll ms, m.head.isExtends = false))

end Markup

mutual

theorem Outline.nodes_markup : ∀ o : Outline, o.markup.nodes = o.parts.map Outline.markup
  | .leaf _ _ => rfl
  | .branch id h content => by
    rw [markup, Markup.nodes, nodesAll_markup content, parts, List.map_cons, markup]

theorem Outline.nodesAll_markup : ∀ os : List Outline, Markup.nodesAll (markupAll os) = (partsAll os).map markup
  | [] => rfl
  | o :: os => by
    rw [markupAll, Markup.nodesAll, nodes_markup o, nodesAll_markup os, partsAll, List.map_append]

end

open Markup (Independent SideBySide refillAll overridden blockNames)

namespace Resolver

/-- The documents of a chain: the first one, and from then on elements that extend. -/
def chained (base : List Markup) (element : ℕ → Markup) : ℕ → List Markup
  | 0 => base
  | i + 1 => [element i]

/-- What the content of a block has become after so many levels. -/
def contentAfter (element : ℕ → Markup) (name : String) (content? : Option (List Markup)) : ℕ → Option (List Markup)
  | 0 => content?
  | i + 1 => overridden (element i).content name (contentAfter element name content? i)

/-- Documents that extend one another: the first `n` of them are layouts, each at a path of its own. The first
extends nothing, and its blocks lie side by side. Each of the others is one element whose source leads to the
document before, and the blocks in its template lie side by side and are among those of the first. -/
structure Chain (c : Resolver) (base : List Markup) (element : ℕ → Markup) (path : ℕ → String) (n : ℕ) : Prop where
  independent : Independent base
  blocks : SideBySide base
  source : ∀ i < n, ∃ source, (element i).head.source? = some source ∧ c.layoutPath source = path i
  template : ∀ i < n, Independent (element i).content ∧ SideBySide (element i).content ∧
    blockNames (element i).content ⊆ blockNames base
  read : ∀ i < n, ∃ text, c.library.read (path i) c.encoding = .ok text ∧
    Markup.parse text (some (path i)) = .ok (chained base element i)
  distinct : ∀ i < n, ∀ j < n, path i = path j → i = j

variable {c : Resolver} {base : List Markup} {element : ℕ → Markup} {path : ℕ → String} {n : ℕ}
  {r r₁ : Run} {document : Option String} {os : List Outline} {o : Outline}

theorem resolves_independent (ho : r.store.Holds os) (hs : r.store.Sound) (hp : Independent (Outline.markupAll os)) :
    c.Resolves (.tree document (os.map Outline.id)) r (.ok (os.map Outline.id)) r := by
  refine (follows_resolve ho hs).of_run (resolve_of_free fun x hx => ?_)
  refine Store.Free.of_closed (P := (· ∈ ids os)) (fun x hx y hy => ho.closed hx hy) (fun x hx => ?_) ?_
  · obtain ⟨p, hp', rfl⟩ := List.mem_map.1 hx
    rw [(ho.shows p hp').head, ← Outline.head_markup]
    exact hp p.markup (Outline.nodesAll_markup os ▸ List.mem_map_of_mem hp')
  · obtain ⟨p, hp', rfl⟩ := List.mem_map.1 hx
    exact Outline.mem_ids_of_mem hp'

/-- A call comes to nodes that hold a document, and these are among `N` or new. -/
def Yields (c : Resolver) (call : Call) (r : Run) (N : List NodeId) (found : List Markup) : Prop :=
  ∃ os r', c.Resolves call r (.ok (os.map Outline.id)) r' ∧ r'.store.Holds os ∧ Outline.markupAll os = found ∧
    ∀ x ∈ ids os, x ∈ N ∨ r.store.size ≤ x

/-- A merge that fills the blocks of a refilled document once more. -/
theorem exists_merge {ls ts : List Outline} {f : String → Option (List Markup) → Option (List Markup)}
    (hl : r.store.Holds ls) (ht : r.store.Holds ts) (hd : ∀ x ∈ ids ls, x ∉ ids ts) (hs : r.store.Sound)
    (hm : Outline.markupAll ls = refillAll f base) (hf : Markup.Preserving f) (hb : Markup.TaggedAll base)
    (hside : SideBySide base) (htb : Markup.TaggedAll (Outline.markupAll ts)) (hts : SideBySide (Outline.markupAll ts))
    (hn : blockNames (Outline.markupAll ts) ⊆ blockNames base) :
    ∃ os r', (Step.merge (ls.map Outline.id) (ts.map Outline.id)).run r = (.ok (os.map Outline.id), r') ∧
      r'.store.Holds os ∧
      Outline.markupAll os =
        refillAll (fun name content? => overridden (Outline.markupAll ts) name (f name content?)) base ∧
      ∀ x ∈ ids os, x ∈ ids ls ∨ x ∈ ids ts := by
  have hmerges := Store.merges hl ht hd hs
  have hfilled := Markup.merge_refillAll hf hb hside hts hn
  rw [← hm] at hfilled
  obtain ⟨hnone, hresult⟩ := hmerges.result _ hfilled
  obtain ⟨os, hid, hmarkup, held, hregion⟩ := hresult (SideBySide.apartAll _ _ _ htb hts)
  rcases hrun : (Step.merge (ls.map Outline.id) (ts.map Outline.id)).run r with ⟨out, r'⟩
  have hout : out = .ok (os.map Outline.id) := by
    rw [Step.run_merge, hnone] at hrun
    rw [hid]
    exact (congrArg Prod.fst hrun).symm
  exact ⟨os, r', by rw [hout], (merge_run hrun).2.2 ▸ held, hmarkup, hregion⟩

namespace Chain

theorem preserving (hc : Chain c base element path n) {i : ℕ} (hi : i ≤ n) :
    Markup.Preserving fun name content? => contentAfter element name content? i := by
  induction i with
  | zero => exact fun _ _ h => h
  | succ i ih => exact (ih (Nat.le_of_succ_le hi)).overridden (hc.template i hi).2.1

/-- The first document, with the contents of its blocks after so many levels. -/
def folded (base : List Markup) (element : ℕ → Markup) (i : ℕ) : List Markup :=
  refillAll (fun name content? => contentAfter element name content? i) base

/-- A layout of the chain is loaded, and resolved with its path in progress. -/
theorem yields_layout {i : ℕ} {text : String} {found : List Markup} (hs : r.store.Sound)
    (hread : c.library.read (path i) c.encoding = .ok text)
    (hparse : Markup.parse text (some (path i)) = .ok (chained base element i))
    (ih : ∀ {r₁ : Run} {os : List Outline}, r₁.chain = r.chain ++ [path i] → r₁.store.Holds os → r₁.store.Sound →
      Outline.markupAll os = chained base element i →
      c.Yields (.tree (some (path i)) (os.map Outline.id)) r₁ (ids os) found) :
    c.Yields (.layout document (path i)) r [] found := by
  rcases hrun : (Step.parse text (some (path i))).run (r.note [.loading (path i) c.encoding document]) with ⟨out, r₁⟩
  obtain ⟨tree, rfl⟩ : ∃ tree, out = .ok tree := by
    have hd : (Markup.read text (some (path i))).document = .ok (chained base element i) := hparse
    rw [Step.run_parse, hd] at hrun
    exact ⟨_, (congrArg Prod.fst hrun).symm⟩
  obtain ⟨_, os, hd, rfl, rfl, hst, hs₁⟩ := parse_stored hrun
  have hchain : (r₁.enter (path i)).chain = r.chain ++ [path i] := chain_enter hrun
  obtain ⟨os', r₂, hres, held, hfound, hregion⟩ := ih hchain hst.holds (hs₁ hs)
    (Except.ok.inj (hd.symm.trans hparse))
  refine ⟨os', _, .load hread hrun hres, held, hfound, fun x hx => .inr ?_⟩
  rcases hregion x hx with hx | hx
  · exact hst.fresh x hx
  · exact hst.size_le.trans hx

/-- What the last document of a chain resolves to. -/
theorem yields (hc : Chain c base element path n) {i : ℕ} (hi : i ≤ n) (ho : r.store.Holds os) (hs : r.store.Sound)
    (hm : Outline.markupAll os = chained base element i) (ht : Markup.TaggedAll (chained base element i))
    (hp : ∀ j < i, path j ∉ r.chain) :
    c.Yields (.tree document (os.map Outline.id)) r (ids os) (folded base element i) := by
  induction i generalizing r os document with
  | zero =>
    refine ⟨os, r, resolves_independent ho hs (hm ▸ hc.independent), ho, ?_, fun x hx => .inl hx⟩
    exact hm.trans (Markup.refillAll_self base).symm
  | succ i ih =>
    obtain ⟨o, rfl, he⟩ : ∃ o, os = [o] ∧ o.markup = element i := by
      rw [Outline.markupAll_eq_map] at hm
      obtain ⟨o, rfl, he⟩ := List.map_eq_singleton_iff.1 hm
      exact ⟨o, rfl, he⟩
    obtain ⟨source, hsource, hpath⟩ := hc.source i hi
    obtain ⟨text, hread, hparse⟩ := hc.read i hi
    obtain ⟨hind, hside, hnames⟩ := hc.template i hi
    rw [← he, Outline.head_markup] at hsource
    rw [← he, Outline.content_markup] at hind hside hnames
    have htagged : Markup.TaggedAll (Outline.markupAll o.content) := by
      rw [← Outline.content_markup, he]
      exact ht.1.content?
    rw [← ho.root.head] at hsource
    have hopen : c.layoutPath source ∉ r.chain := hpath ▸ hp i (Nat.lt_succ_self i)
    obtain ⟨ls, r₁, hlayout, hl, hlm, hlr⟩ := yields_layout hs hread hparse
      fun hchain ho₁ hs₁ hm₁ => ih (Nat.le_of_succ_le hi) ho₁ hs₁ hm₁ (Markup.tagged_of_read hparse) fun j hj => by
        rw [hchain, List.mem_append, List.mem_singleton, not_or]
        exact ⟨hp j (hj.trans (Nat.lt_succ_self i)), fun he => hj.ne (hc.distinct j (hj.trans hi) i hi he)⟩
    rw [← hpath] at hlayout
    obtain ⟨hchange, hs₁, -⟩ := hlayout.change [] rfl (.nil _) hs
    have held := hchange.holds_all ho
    set r₂ := c.recorded r₁ (c.layoutPath source) document
    have hstore : r₂.store = r₁.store := store_recorded ..
    have htemplate : c.Resolves (.tree document (r₁.store.content o.id)) r₂ (.ok (o.content.map Outline.id)) r₂ := by
      rw [held.root.content]
      exact resolves_independent (hstore ▸ held.content) (hstore ▸ hs₁) hind
    -- the layout's nodes are new, and the template's are not
    have hapart : ∀ x ∈ ids ls, x ∉ ids o.content := fun x hx hx' =>
      not_le.2 (ho.content.lt_size hx') ((hlr x hx).resolve_left List.not_mem_nil)
    have hbase : Markup.TaggedAll base := by
      obtain ⟨_, -, hparse₀⟩ := hc.read 0 (Nat.zero_lt_of_lt hi)
      exact Markup.tagged_of_read hparse₀
    obtain ⟨os', r₃, hmerge, held', hfound, hregion⟩ := exists_merge (hstore ▸ hl) (hstore ▸ held.content) hapart
      (hstore ▸ hs₁) hlm (hc.preserving (Nat.le_of_succ_le hi)) hbase hc.blocks htagged hside hnames
    refine ⟨os', r₃, ?_, held', ?_, fun x hx => ?_⟩
    · have hnode := Resolves.merge hsource hopen hlayout htemplate hmerge
      have htree := Resolves.cons hnode .nil
      rwa [Except.map, List.append_nil] at htree
    · rw [hfound, ← Outline.content_markup, he]
      rfl
    · rw [Outline.mem_ids_singleton]
      exact (hregion x hx).elim (fun hx => .inr ((hlr x hx).resolve_left List.not_mem_nil)) fun hx => .inl (.inr hx)

end Chain

end Resolver

namespace Setting

variable {setting : Setting} {filename : Option String} {text : String} {base : List Markup} {element : ℕ → Markup}
  {path : ℕ → String} {n : ℕ}

/-- A chain of documents of any length resolves to its first document with each block's content folded over the
levels: a level that has no block of the name leaves the content as it is, and another puts its own in the place
of it, before it or after it. Nothing outside of the blocks changes. -/
theorem resolved_chain (hc : Resolver.Chain (setting.resolver filename) base element path n)
    (hp : ∀ i < n, path i ∉ setting.chainFor filename)
    (ht : Markup.parse text none = .ok (Resolver.chained base element n)) :
    (setting.resolved filename text).document? =
      .ok (refillAll (fun name content? => Resolver.contentAfter element name content? n) base) := by
  rcases hrun : (Step.parse text none).run {} with ⟨out, r⟩
  obtain ⟨tree, rfl⟩ : ∃ tree, out = .ok tree := by
    have hd : (Markup.read text none).document = .ok (Resolver.chained base element n) := ht
    rw [Step.run_parse, hd] at hrun
    exact ⟨_, (congrArg Prod.fst hrun).symm⟩
  obtain ⟨_, os, hd, rfl, rfl, hst, hs⟩ := Resolver.parse_stored hrun
  have hyields : (setting.resolver filename).Yields (.tree filename (os.map Outline.id))
      { r with chain := setting.chainFor filename } (Outline.ids os) (Resolver.Chain.folded base element n) :=
    hc.yields le_rfl hst.holds (hs Store.sound_empty) (Except.ok.inj (hd.symm.trans ht)) (Markup.tagged_of_read ht) hp
  obtain ⟨os', r₁, hres, held, hfound, -⟩ := hyields
  have hfollows : (setting.resolver filename).Follows (.tree filename (os.map Outline.id))
      ((setting.resolver filename).resolve filename (os.map Outline.id))
      { r with chain := setting.chainFor filename } :=
    Resolver.follows_resolve hst.holds (hs Store.sound_empty)
  have hresolve : ((setting.resolver filename).resolve filename (os.map Outline.id)).run
      { r with chain := setting.chainFor filename } = (.ok (os'.map Outline.id), r₁) :=
    Prod.ext (hfollows.unique hres).1 (hfollows.unique hres).2
  rw [resolved_of_parse hrun, Processed.document?, hresolve]
  exact congrArg Except.ok (held.document_eq.trans hfound)

theorem eq_ok_singleton {x : Except MarkupFault (List Markup)} (h : x.toOption.map List.length = some 1) :
    x = .ok [(x.toOption.getD []).headD default] := by
  cases x with
  | error e => exact nomatch h
  | ok ms =>
    obtain ⟨m, rfl⟩ := List.length_eq_one_iff.1 (Option.some.inj h)
    rfl

/-- Three documents. The block `a` is overridden at both levels, and the block `b` at none. -/
theorem resolved_chain_two :
    let setting := ofTexts [("/w/a", "<p><block name=a>x</block>|<block name=b>y</block></p>"),
      ("/w/b", "<extends src=a><block name=a type=append>z</block></extends>")]
    let text := "<extends src=b><block name=a type=prepend>w</block></extends>"
    ∃ base element path, Resolver.Chain (setting.resolver none) base element path 2 ∧
      (∀ i < 2, path i ∉ setting.chainFor none) ∧
      Markup.parse text none = .ok (Resolver.chained base element 2) ∧
      (setting.resolved none text).document? =
        .ok (refillAll (fun name content? => Resolver.contentAfter element name content? 2) base) ∧
      (setting.resolved none text).document?.toOption.map Markup.renderAll =
        some "<p><block name=\"a\">wxz</block>|<block name=\"b\">y</block></p>" := by
  intro setting text
  let base := Markup.parse "<p><block name=a>x</block>|<block name=b>y</block></p>" (some "/w/a")
  let middle := Markup.parse "<extends src=a><block name=a type=append>z</block></extends>" (some "/w/b")
  have hbase : base.toOption.map List.length = some 1 := by decide +kernel
  have hmiddle : middle.toOption.map List.length = some 1 := by decide +kernel
  have hmain : (Markup.parse text none).toOption.map List.length = some 1 := by decide +kernel
  let element (i : ℕ) : Markup := ((if i = 0 then middle else Markup.parse text none).toOption.getD []).headD default
  let path (i : ℕ) : String := if i = 0 then "/w/a" else "/w/b"
  have hplain : Independent [(base.toOption.getD []).headD default] ∧
      SideBySide [(base.toOption.getD []).headD default] := by decide +kernel
  have hc : Resolver.Chain (setting.resolver none) [(base.toOption.getD []).headD default] element path 2 := by
    refine ⟨hplain.1, hplain.2, ?_, ?_, ?_, by decide⟩
    · have hsource : ∀ i < 2, (element i).head.source? = some (if i = 0 then "a" else "b") ∧
          (setting.resolver none).layoutPath (if i = 0 then "a" else "b") = path i := by decide +kernel
      exact fun i hi => ⟨_, hsource i hi⟩
    · decide +kernel
    · rintro (_ | _ | i) hi
      · exact ⟨_, rfl, eq_ok_singleton hbase⟩
      · exact ⟨_, rfl, eq_ok_singleton hmiddle⟩
      · omega
  have hp : ∀ i < 2, path i ∉ setting.chainFor none := fun i _ => List.not_mem_nil
  have ht := eq_ok_singleton hmain
  exact ⟨_, element, path, hc, hp, ht, resolved_chain hc hp ht, by decide +kernel⟩

end Setting

end LayoutInheritance
