import LayoutInheritance.Proofs.Inheritance.Bounds
import LayoutInheritance.Proofs.Inheritance.Shift

/-! What a document comes to, whatever else is in the store and however its nodes are shared. A layout comes to what
it comes to on its own; an element that extends it, to the layout with the contents of its blocks substituted. This
is a function of the document and of the library, and a larger library can only give more documents. -/

namespace LayoutInheritance

open Outline (ids partsAll)

theorem ok_of_bind {α β : Type} {x : Except Failure α} {f : α → Except Failure β} {b : β} (h : x >>= f = .ok b) :
    ∃ a, x = .ok a ∧ f a = .ok b := by
  cases x with
  | error e => exact nomatch h
  | ok a => exact ⟨a, rfl, h⟩

/-! ### Merging shared nodes -/

/-- The layout with the template merged into it. -/
def merged (layout : List Outline) (template : List Markup) : Except Failure (List Markup) :=
  match (Markup.merge (Outline.markupAll layout) template).2 with
  | .error issue => .error (.issue issue)
  | .ok _ => .ok (substitution layout template)

theorem merged_renameAll {f : NodeId → NodeId} (hf : Function.Injective f) (layout : List Outline)
    (template : List Markup) : merged (Outline.renameAll f layout) template = merged layout template := by
  rw [merged, Outline.markupAll_renameAll, substitution_renameAll hf, merged]

namespace Store

variable {s : Store} {os ts : List Outline}

theorem Depicts.within (h : s.Depicts os) {x : NodeId} (hx : s.Within (os.map Outline.id) x) : x ∈ ids os := by
  refine hx.of_closed (P := (· ∈ ids os)) (fun x hx y hy => h.closed hx hy) fun id hid => ?_
  obtain ⟨o, ho, rfl⟩ := List.mem_map.1 hid
  exact Outline.mem_ids_of_mem ho

/-- The issue of a merge is a matter of what the layout and the template show. -/
theorem issue_of_merge (hs : s.Sound) (ho : s.Depicts os) (ht : s.Depicts ts) (hd : ∀ x ∈ ids os, x ∉ ids ts) :
    (s.merge (os.map Outline.id) (ts.map Outline.id)).issue? =
      match (Markup.merge (Outline.markupAll os) (Outline.markupAll ts)).2 with
      | .error issue => some issue
      | .ok _ => none := by
  have hos := blocks_of_outline (ho.outline_eq hs)
  have hts := blocks_of_outline (ht.outline_eq hs)
  cases hb : Outline.table os with
  | error l =>
    rw [merge, Markup.merge, hos, Outline.blocks_markup, hb]
    rfl
  | ok blocks =>
    cases hov : Outline.table ts with
    | error l =>
      rw [merge, Markup.merge, hos, hts, Outline.blocks_markup, Outline.blocks_markup, hb, hov]
      rfl
    | ok overrides =>
      have hf := filled_of_perm (ho.outline_eq hs) hd hb hov (List.Perm.refl _)
      rw [hb] at hos
      rw [hov] at hts
      rw [merge_of_blocks hos hts, copy_of_tables hb hov]
      simp only
      rw [hf.unclaimed, List.head?_filter]
      simp only [Dictionary.has_mapValues]
      rw [Dictionary.find?_mapValues Outline.id overrides fun k => !blocks.has k]
      cases hfind : overrides.find? fun e => !blocks.has e.1 with
      | none => rfl
      | some e =>
        have hm : e.2 ∈ partsAll ts := Outline.mem_table hov (List.mem_of_find?_eq_some hfind)
        simp only [Option.map_some, hf.head, (ht e.2 hm).head]

/-- A merge of a layout and a template that have no node in common, though each may have shared ones. -/
structure Merged (s : Store) (os ts : List Outline) (m : Merge) : Prop where
  sound : m.store.Sound
  size : m.store.size = s.size
  head : ∀ x, m.store.head x = s.head x
  frame : ∀ x ∉ ids os, m.store.content? x = s.content? x
  issue? : m.issue? = match (Markup.merge (Outline.markupAll os) (Outline.markupAll ts)).2 with
    | .error issue => some issue
    | .ok _ => none
  result : m.issue? = none → ∃ after : List Outline, after.map Outline.id = os.map Outline.id ∧
    Outline.markupAll after = substitution os (Outline.markupAll ts) ∧ m.store.Depicts after ∧
    ∀ x ∈ ids after, x ∈ ids os ∨ x ∈ ids ts

theorem Depicts.merged (hs : s.Sound) (ho : s.Depicts os) (ht : s.Depicts ts) (hd : ∀ x ∈ ids os, x ∉ ids ts) :
    s.Merged os ts (s.merge (os.map Outline.id) (ts.map Outline.id)) := by
  have hg : s.Grafts (os.map Outline.id) (ts.map Outline.id) _ := merge_grafts
    fun x hx hx' => hd x (ho.within hx) (ht.within hx')
  refine ⟨?_, hg.size, hg.head, fun x hx => hg.frame x fun hw => hx (ho.within hw), issue_of_merge hs ho ht hd, ?_⟩
  · refine hg.sound hs (P := (· ∈ ids ts)) (fun x hx y hy => ht.closed hx hy) (fun id hid => ?_) ?_
    · obtain ⟨t, hm, rfl⟩ := List.mem_map.1 hid
      exact Outline.mem_ids_of_mem hm
    · exact fun x hx hw => hd x (ho.within hw) hx
  · intro hm
    obtain ⟨_, _, hb, hov, hstore, -⟩ := blocks_of_merge hm
    obtain ⟨blocks, htable, rfl⟩ := table_of_blocks (ho.outline_eq hs) hb
    obtain ⟨overrides, htable', rfl⟩ := table_of_blocks (ht.outline_eq hs) hov
    have hf := filled_of_perm (ho.outline_eq hs) hd htable htable' (List.Perm.refl _)
    have hsub := hstore ▸ substitutes_of_filled ho ht (ho.outline_eq hs) htable htable' hf
    obtain ⟨after, ha⟩ := hsub.exists_substituted ho ht hd os fun _ hp => hp
    exact ⟨after, ha.ids, ha.markup, ha.depicts, ha.region⟩

end Store

/-! ### Larger libraries -/

/-- All that can be read in `library` can be read, and is the same. -/
def Library.Extends (library' library : Library) : Prop :=
  ∀ path encoding text, library.read path encoding = .ok text → library'.read path encoding = .ok text

namespace Resolver

variable {c : Resolver} {r r' : Run} {out : Except Failure (List NodeId)} {document : Option String}
  {path : String} {chain : List String} {library : Library}

/-- What comes to nodes does so with a larger library. -/
theorem Resolves.extend {call : Call} (h : c.Resolves call r out r') (hl : library.Extends c.library) :
    ∀ found, out = .ok found → ({ c with library } : Resolver).Resolves call r out r' := by
  induction h with
  | nil => exact fun _ _ => .nil
  | @cons _ _ _ _ _ _ out _ _ _ ih₁ ih₂ =>
    intro found hf
    cases out with
    | error e => exact nomatch hf
    | ok after => exact .cons (ih₁ _ rfl) (ih₂ _ rfl)
  | keep hx hc => exact fun _ _ => .keep hx hc
  | inside hx hc _ ih => exact fun _ _ => .inside hx hc (ih _ rfl)
  | merge hsrc hp _ _ hm ih₁ ih₂ => exact fun _ _ => .merge hsrc hp (ih₁ _ rfl) (ih₂ _ rfl) hm
  | load hr hp _ ih => exact fun _ _ => .load (hl _ _ _ hr) hp (ih _ rfl)
  | _ => exact fun _ hf => nomatch hf

/-! ### Layouts -/

/-- What a layout comes to when it is loaded on its own while `chain` is in progress. -/
def loaded (c : Resolver) (document : Option String) (chain : List String) (path : String) :
    Except Failure (List Outline) :=
  let (out, r) := (c.inherited (c.library.paths.length + 1) document path).run { chain }
  out.map r.store.outline

theorem follows_loaded (document : Option String) (hp : path ∉ chain) :
    c.Follows (.layout document path) (c.inherited (c.library.paths.length + 1) document path) { chain } :=
  follows_inherited _ document path _ (Nat.lt_succ_of_le (List.length_filter_le ..)) hp Store.sound_empty

theorem exists_loaded (document : Option String) (hp : path ∉ chain) : ∃ out r,
    c.Resolves (.layout document path) { chain } out r ∧ c.loaded document chain path = out.map r.store.outline :=
  ⟨_, _, follows_loaded document hp, rfl⟩

/-- A layout comes to the same wherever it is loaded. -/
theorem Resolves.loaded (h : c.Resolves (.layout document path) r out r') (hs : r.store.Sound) (hp : path ∉ r.chain) :
    (∃ e, c.loaded document r.chain path = .error e ∧ out = .error e) ∨
    ∃ layout, c.loaded document r.chain path = .ok layout ∧
      out = .ok ((Outline.renameAll (· + r.store.size) layout).map Outline.id) ∧
      r'.store.Depicts (Outline.renameAll (· + r.store.size) layout) := by
  obtain ⟨out₀, r₀, h₀, hloaded⟩ := c.exists_loaded document hp
  obtain ⟨t, ht, hshift⟩ := h₀.shift [] rfl (.nil _) Store.sound_empty (t := r)
    ⟨.empty _, rfl, (List.append_nil _).symm⟩
  obtain ⟨rfl, rfl⟩ := h.unique ht
  obtain ⟨-, hs₁, hresult⟩ := h.change [] rfl (.nil _) hs
  obtain ⟨-, hs₀, hresult₀⟩ := h₀.change [] rfl (.nil _) Store.sound_empty
  rw [hloaded]
  cases out₀ with
  | error e => exact .inl ⟨e, rfl, rfl⟩
  | ok found =>
    have houtline := hshift.store.outline hs₀ fun x hx => (hresult₀ found rfl x hx).2.1
    refine .inr ⟨_, rfl, ?_, ?_⟩
    · rw [← houtline, Store.ids_outline]
      rfl
    · rw [← houtline]
      exact hs₁.depicts_outline fun x hx => (hresult _ rfl x hx).2.1

theorem loaded_extend {layout : List Outline} (hl : library.Extends c.library) (hp : path ∉ chain)
    (h : c.loaded document chain path = .ok layout) :
    ({ c with library } : Resolver).loaded document chain path = .ok layout := by
  obtain ⟨out, r, hr, hloaded⟩ := c.exists_loaded document hp
  obtain ⟨out', r', hr', hloaded'⟩ := ({ c with library } : Resolver).exists_loaded document hp
  rw [hloaded] at h
  cases out with
  | error e => exact nomatch h
  | ok found =>
    obtain ⟨rfl, rfl⟩ := hr'.unique (hr.extend hl found rfl)
    rw [hloaded', h]

/-! ### Documents -/

/-- What an element that extends a layout comes to, where `template` is what its content comes to. -/
def expansion (c : Resolver) (document : Option String) (chain : List String) (h : Head Markup)
    (template : Except Failure (List Markup)) : Except Failure (List Markup) :=
  match h.attribute? "src" with
  | none => .error (.issue (.missingSource (some h.location)))
  | some source =>
    if c.layoutPath source ∈ chain then
      .error (.issue (.circular (chain ++ [c.layoutPath source]) (some h.location)))
    else do
      let layout ← c.loaded document chain (c.layoutPath source)
      merged layout (← template)

mutual

/-- What a node comes to while `chain` is in progress. -/
def meaning (c : Resolver) (document : Option String) (chain : List String) : Markup → Except Failure (List Markup)
  | .leaf h => if h.isExtends then c.expansion document chain h (.ok []) else .ok [.leaf h]
  | .branch h content =>
    if h.isExtends then c.expansion document chain h (c.meaningAll document chain content)
    else do
      let content ← c.meaningAll document chain content
      return [.branch h content]

def meaningAll (c : Resolver) (document : Option String) (chain : List String) :
    List Markup → Except Failure (List Markup)
  | [] => .ok []
  | m :: rest => do
    let here ← c.meaning document chain m
    let after ← c.meaningAll document chain rest
    return here ++ after

end

variable {o : Outline}

theorem meaningAll_cons (m : Markup) (rest : List Markup) :
    c.meaningAll document chain (m :: rest) = (do
      let here ← c.meaning document chain m
      let after ← c.meaningAll document chain rest
      return here ++ after) := by
  rw [meaningAll]

theorem meaningAll_singleton (m : Markup) : c.meaningAll document chain [m] = c.meaning document chain m := by
  rw [meaningAll_cons, meaningAll]
  cases c.meaning document chain m with
  | error e => rfl
  | ok here => exact congrArg Except.ok (List.append_nil here)

theorem meaningAll_first (os : List Outline) : c.meaningAll document chain (Outline.markupAll (o :: os)) = (do
    let here ← c.meaningAll document chain (Outline.markupAll [o])
    let after ← c.meaningAll document chain (Outline.markupAll os)
    return here ++ after) := by
  rw [Outline.markupAll, meaningAll_cons, Outline.markupAll_singleton, meaningAll_singleton]

theorem meaning_extends (hx : o.head.isExtends) : c.meaningAll document chain (Outline.markupAll [o]) =
    c.expansion document chain o.head (c.meaningAll document chain (Outline.markupAll o.content)) := by
  rw [Outline.markupAll_singleton, meaningAll_singleton]
  cases o with
  | leaf id h => exact if_pos hx
  | branch id h content =>
    rw [Outline.markup, meaning]
    exact if_pos hx

theorem meaning_kept {id : NodeId} {h : Head Markup} {content : List Outline} (hx : h.isExtends = false) :
    c.meaningAll document chain (Outline.markupAll [.branch id h content]) = (do
      let content ← c.meaningAll document chain (Outline.markupAll content)
      return [.branch h content]) := by
  rw [Outline.markupAll_singleton, meaningAll_singleton, Outline.markup, meaning]
  exact if_neg (Bool.eq_false_iff.1 hx)

theorem expansion_extend {h : Head Markup} {template template' : Except Failure (List Markup)} {ms : List Markup}
    (hl : library.Extends c.library) (ht : ∀ ms, template = .ok ms → template' = .ok ms)
    (hm : c.expansion document chain h template = .ok ms) :
    ({ c with library } : Resolver).expansion document chain h template' = .ok ms := by
  unfold expansion at hm ⊢
  cases hsrc : h.attribute? "src" with
  | none =>
    rw [hsrc] at hm
    exact nomatch hm
  | some source =>
    rw [hsrc] at hm
    have hpath : ({ c with library } : Resolver).layoutPath source = c.layoutPath source := rfl
    by_cases hp : c.layoutPath source ∈ chain
    · simp only [if_pos hp] at hm
      exact nomatch hm
    · simp only [hpath, if_neg hp] at hm ⊢
      obtain ⟨layout, hlayout, hm⟩ := ok_of_bind hm
      obtain ⟨ts, hts, hm⟩ := ok_of_bind hm
      rw [loaded_extend hl hp hlayout, ht ts hts]
      exact hm

mutual

theorem meaning_extend (hl : library.Extends c.library) : ∀ (m : Markup) (ms : List Markup),
    c.meaning document chain m = .ok ms → ({ c with library } : Resolver).meaning document chain m = .ok ms
  | .leaf h, ms, hm => by
    rw [meaning] at hm ⊢
    split at hm
    · next he =>
      rw [if_pos he]
      exact expansion_extend hl (fun _ h => h) hm
    · next he =>
      rw [if_neg he]
      exact hm
  | .branch h content, ms, hm => by
    have ih := meaningAll_extend hl content
    rw [meaning] at hm ⊢
    split at hm
    · next he =>
      rw [if_pos he]
      exact expansion_extend hl ih hm
    · next he =>
      rw [if_neg he]
      obtain ⟨inner, hi, hm⟩ := ok_of_bind hm
      rw [ih inner hi]
      exact hm

/-- What documents come to, they come to with a larger library. -/
theorem meaningAll_extend (hl : library.Extends c.library) : ∀ ms found : List Markup,
    c.meaningAll document chain ms = .ok found →
      ({ c with library } : Resolver).meaningAll document chain ms = .ok found
  | [], _, hm => hm
  | m :: rest, found, hm => by
    rw [meaningAll] at hm ⊢
    obtain ⟨here, hh, hm⟩ := ok_of_bind hm
    obtain ⟨after, ha, hm⟩ := ok_of_bind hm
    rw [meaning_extend hl m here hh, meaningAll_extend hl rest after ha]
    exact hm

end

end Resolver

end LayoutInheritance
