import LayoutInheritance.Block.Collect
import LayoutInheritance.Proofs.Dictionary
import LayoutInheritance.Proofs.Store.Outline

/-! Collected blocks as one flat pass. The blocks of a tree are visited in an order in which the inside of a
tag comes before the tag, and collecting enters them one after the other, whatever their nesting. The
block that stands for a name is the one of that name that is visited last. -/

namespace LayoutInheritance

variable {α β : Type}

theorem Head.isTag_of_isBlock {h : Head Markup} (hb : h.isBlock) : h.isTag := by
  rw [Head.isBlock, isTagNamed, Bool.and_eq_true] at hb
  exact hb.1

/-! ### Entering blocks by name -/

/-- Enters blocks under their names, one after the other. A block without a name is refused with its
place. -/
def enterAll (found : Dictionary String α) : List (Head Markup × α) → Except Location (Dictionary String α)
  | [] => .ok found
  | (h, a) :: rest =>
    match h.attribute? "name" with
    | some name => enterAll (found.put name a) rest
    | none => .error h.location

/-- The last entry of a name. -/
def latest? (name : String) : List (Head Markup × α) → Option α
  | [] => none
  | (h, a) :: rest => (latest? name rest).or (if h.attribute? "name" = some name then some a else none)

theorem latest?_append (name : String) (es es' : List (Head Markup × α)) :
    latest? name (es ++ es') = (latest? name es').or (latest? name es) := by
  induction es with
  | nil => rw [List.nil_append, latest?, Option.or_none]
  | cons e es ih =>
    obtain ⟨h, a⟩ := e
    rw [List.cons_append, latest?, ih, latest?, Option.or_assoc]

theorem mem_of_latest? {name : String} {es : List (Head Markup × α)} {a : α} (h : latest? name es = some a) :
    ∃ hd, (hd, a) ∈ es ∧ hd.attribute? "name" = some name := by
  induction es with
  | nil => exact nomatch h
  | cons e es ih =>
    obtain ⟨hd, b⟩ := e
    rw [latest?, Option.or_eq_some_iff] at h
    rcases h with h | ⟨-, h⟩
    · obtain ⟨hd', hm, hn⟩ := ih h
      exact ⟨hd', List.mem_cons_of_mem _ hm, hn⟩
    · split at h
      · next hn =>
        cases h
        exact ⟨hd, List.mem_cons_self .., hn⟩
      · exact nomatch h

theorem latest?_ne_none_iff {name : String} {es : List (Head Markup × α)} :
    latest? name es ≠ none ↔ ∃ e ∈ es, e.1.attribute? "name" = some name := by
  induction es with
  | nil => simp [latest?]
  | cons e es ih =>
    obtain ⟨hd, a⟩ := e
    rw [latest?, ne_eq, Option.or_eq_none_iff, not_and_or, ← ne_eq, ih]
    simp [or_comm]

theorem enterAll_append (found : Dictionary String α) (es es' : List (Head Markup × α)) :
    enterAll found (es ++ es') = enterAll found es >>= fun found => enterAll found es' := by
  induction es generalizing found with
  | nil => rfl
  | cons e es ih =>
    obtain ⟨h, a⟩ := e
    rw [List.cons_append, enterAll, enterAll]
    cases h.attribute? "name" with
    | none => rfl
    | some name => exact ih _

theorem enterAll_map (f : α → β) (found : Dictionary String α) (es : List (Head Markup × α)) :
    enterAll (found.mapValues f) (es.map fun e => (e.1, f e.2)) = (enterAll found es).map (·.mapValues f) := by
  induction es generalizing found with
  | nil => rfl
  | cons e es ih =>
    obtain ⟨h, a⟩ := e
    rw [List.map_cons, enterAll, enterAll]
    cases h.attribute? "name" with
    | none => rfl
    | some name =>
      simp only
      rw [← ih, Dictionary.mapValues_put]

theorem nodup_enterAll {found table : Dictionary String α} {es : List (Head Markup × α)}
    (h : enterAll found es = .ok table)
    (hf : (Dictionary.keys found).Nodup) : (Dictionary.keys table).Nodup := by
  induction es generalizing found with
  | nil =>
    cases h
    exact hf
  | cons e es ih =>
    obtain ⟨hd, a⟩ := e
    rw [enterAll] at h
    split at h
    · exact ih h (Dictionary.nodup_put hf _ _)
    · exact nomatch h

/-- What the table holds was entered under its own name. -/
theorem mem_enterAll {found table : Dictionary String α} {es : List (Head Markup × α)}
    (h : enterAll found es = .ok table) {e : String × α} (he : e ∈ table) :
    e ∈ found ∨ ∃ hd, (hd, e.2) ∈ es ∧ hd.attribute? "name" = some e.1 := by
  induction es generalizing found with
  | nil =>
    cases h
    exact .inl he
  | cons e' es ih =>
    obtain ⟨hd, a⟩ := e'
    rw [enterAll] at h
    split at h
    · next name hn =>
      rcases ih h with hf | ⟨hd', hm, hn'⟩
      · rcases Dictionary.mem_put hf with rfl | hf
        · exact .inr ⟨hd, List.mem_cons_self .., hn⟩
        · exact .inl hf
      · exact .inr ⟨hd', List.mem_cons_of_mem _ hm, hn'⟩
    · exact nomatch h

theorem get?_enterAll {found table : Dictionary String α} {es : List (Head Markup × α)}
    (h : enterAll found es = .ok table) (name : String) :
    table.get? name = (latest? name es).or (found.get? name) := by
  induction es generalizing found with
  | nil =>
    cases h
    rfl
  | cons e es ih =>
    obtain ⟨hd, a⟩ := e
    rw [enterAll] at h
    split at h
    · next key hk =>
      rw [ih h, Dictionary.get?_put, latest?, Option.or_assoc, hk]
      by_cases hn : name = key
      · simp [hn]
      · simp [hn, Ne.symm hn]
    · exact nomatch h

/-- Nested collection agrees with the flat one. -/
theorem enterAll_update {inner : Dictionary String α} (found : Dictionary String α)
    {es : List (Head Markup × α)} {start : Dictionary String α} (hs : (Dictionary.keys start).Nodup)
    (h : enterAll start es = .ok inner) : enterAll (found.update start) es = .ok (found.update inner) := by
  induction es generalizing start with
  | nil =>
    cases h
    rfl
  | cons e es ih =>
    obtain ⟨hd, a⟩ := e
    rw [enterAll] at h ⊢
    split at h
    · next name hn =>
      rw [← Dictionary.update_put _ hs]
      exact ih (Dictionary.nodup_put hs _ _) h
    · exact nomatch h

theorem enterAll_error {found start : Dictionary String α} {es : List (Head Markup × α)} {l : Location}
    (h : enterAll start es = .error l) : enterAll found es = .error l := by
  induction es generalizing found start with
  | nil => exact nomatch h
  | cons e es ih =>
    obtain ⟨hd, a⟩ := e
    rw [enterAll] at h ⊢
    split at h
    · exact ih h
    · exact h

namespace Outline

/-! ### Visiting the blocks -/

mutual

/-- The blocks of an outline, what lies in a tag before the tag itself. -/
def visited : Outline → List Outline
  | leaf id h => if h.isBlock then [leaf id h] else []
  | branch id h content =>
    (if h.isTag then visitedAll content else []) ++ if h.isBlock then [branch id h content] else []

def visitedAll : List Outline → List Outline
  | [] => []
  | o :: rest => o.visited ++ visitedAll rest

end

theorem visited_eq (o : Outline) :
    o.visited = (if o.head.isTag then visitedAll o.content else []) ++ if o.head.isBlock then [o] else [] := by
  cases o with
  | leaf id h =>
    change (if h.isBlock then [leaf id h] else []) = (if h.isTag then [] else []) ++ _
    rw [ite_self]
    rfl
  | branch id h content => rfl

/-- An outline as it is entered, as a node. -/
def entry (o : Outline) : Head Markup × NodeId :=
  (o.head, o.id)

mutual

theorem visited_subset_parts : ∀ {o p : Outline}, p ∈ o.visited → p ∈ o.parts ∧ p.head.isBlock
  | leaf id h, p, hp => by
    rw [visited] at hp
    split at hp
    · next hb =>
      rw [List.mem_singleton.1 hp]
      exact ⟨mem_parts_self _, hb⟩
    · exact nomatch hp
  | branch id h content, p, hp => by
    rw [visited, List.mem_append] at hp
    rcases hp with hp | hp
    · split at hp
      · have := visitedAll_subset_partsAll hp
        exact ⟨List.mem_cons_of_mem _ this.1, this.2⟩
      · exact nomatch hp
    · split at hp
      · next hb =>
        rw [List.mem_singleton.1 hp]
        exact ⟨mem_parts_self _, hb⟩
      · exact nomatch hp

theorem visitedAll_subset_partsAll : ∀ {os : List Outline} {p : Outline}, p ∈ visitedAll os →
    p ∈ partsAll os ∧ p.head.isBlock
  | [], _, hp => nomatch hp
  | o :: os, p, hp => by
    rw [visitedAll, List.mem_append] at hp
    rcases hp with hp | hp
    · exact ⟨List.mem_append_left _ (visited_subset_parts hp).1, (visited_subset_parts hp).2⟩
    · exact ⟨List.mem_append_right _ (visitedAll_subset_partsAll hp).1, (visitedAll_subset_partsAll hp).2⟩

end

theorem enter_eq (found : BlockTable) (o : Outline) :
    enter found o.id o.head = enterAll found ((if o.head.isBlock then [o] else []).map entry) := by
  unfold enter
  split
  · cases ha : o.head.attribute? "name" with
    | none => simp [entry, enterAll, ha]
    | some name => simp [entry, enterAll, ha]
  · rfl

mutual

theorem collectInto_eq (found : BlockTable) : ∀ o : Outline,
    collectInto found o = enterAll found (o.visited.map entry)
  | leaf id h => enter_eq found (leaf id h)
  | branch id h content => by
    have own (found : BlockTable) :
        enterAll found ((if h.isBlock then [branch id h content] else []).map entry) = enter found id h :=
      (enter_eq found (branch id h content)).symm
    rw [collectInto, visited, List.map_append, enterAll_append]
    simp only [own]
    by_cases ht : h.isTag
    · simp only [ht, if_true, collectAll_eq [] content]
      cases hc : enterAll [] ((visitedAll content).map entry) with
      | ok inner =>
        have flat : enterAll (found.update []) ((visitedAll content).map entry) = .ok (found.update inner) :=
          enterAll_update found List.nodup_nil hc
        rw [show found.update [] = found from rfl] at flat
        rw [flat]
        rfl
      | error l =>
        rw [enterAll_error hc]
        rfl
    · simp only [ht]
      rfl

/-- Collecting enters the visited blocks one after the other. -/
theorem collectAll_eq (found : BlockTable) : ∀ os : List Outline,
    collectAll found os = enterAll found ((visitedAll os).map entry)
  | [] => rfl
  | o :: os => by
    rw [collectAll, collectInto_eq found o, visitedAll, List.map_append, enterAll_append]
    cases enterAll found (o.visited.map entry) with
    | ok found => exact collectAll_eq found os
    | error l => rfl

end

end Outline

namespace Store

variable {s : Store} {tree : List NodeId}

/-! ### The blocks of a store -/

theorem outlineTo_parts (s : Store) (depth : Nat) (id : NodeId) :
    ∀ p ∈ (s.outlineTo depth id).parts, Relation.ReflTransGen s.Inside p.id id ∧ p.head = s.head p.id := by
  induction depth generalizing id with
  | zero =>
    intro p hp
    rw [outlineTo, Outline.parts, List.mem_singleton] at hp
    subst hp
    exact ⟨.refl, rfl⟩
  | succ depth ih =>
    intro p hp
    rw [outlineTo] at hp
    split at hp
    · rw [Outline.parts, List.mem_singleton] at hp
      subst hp
      exact ⟨.refl, rfl⟩
    · next ids hc =>
      rw [Outline.parts, List.mem_cons] at hp
      rcases hp with rfl | hp
      · exact ⟨.refl, rfl⟩
      · obtain ⟨o, ho, hp⟩ := Outline.mem_partsAll.1 hp
        obtain ⟨x, hx, rfl⟩ := List.mem_map.1 ho
        have inside : s.Inside x id := by rw [Inside, content, hc]; exact hx
        exact ⟨(ih x p hp).1.tail inside, (ih x p hp).2⟩

theorem mem_outline {p : Outline} (hp : p ∈ Outline.partsAll (s.outline tree)) :
    s.Within tree p.id ∧ p.head = s.head p.id := by
  obtain ⟨o, ho, hp⟩ := Outline.mem_partsAll.1 hp
  obtain ⟨x, hx, rfl⟩ := List.mem_map.1 ho
  have hpx := outlineTo_parts s _ x p hp
  exact ⟨⟨x, hx, hpx.1⟩, hpx.2⟩

theorem blocks_eq (s : Store) (tree : List NodeId) :
    s.blocks tree = enterAll [] ((Outline.visitedAll (s.outline tree)).map Outline.entry) :=
  Outline.collectAll_eq [] _

theorem nodup_blocks {table : BlockTable} (h : s.blocks tree = .ok table) :
    (Dictionary.keys table).Nodup := by
  rw [blocks_eq] at h
  exact nodup_enterAll h List.nodup_nil

/-- A collected block lies in the tree and has the name under which it was collected. -/
theorem mem_blocks {table : BlockTable} (h : s.blocks tree = .ok table) {e : String × NodeId}
    (he : e ∈ table) :
    s.Within tree e.2 ∧ (s.head e.2).isBlock ∧ (s.head e.2).attribute? "name" = some e.1 := by
  rcases mem_enterAll (blocks_eq s tree ▸ h) he with hf | ⟨hd, hm, hn⟩
  · exact nomatch hf
  · obtain ⟨p, hp, hpe⟩ := List.mem_map.1 hm
    obtain ⟨hd', hid⟩ := Prod.mk.inj hpe
    have hv := Outline.visitedAll_subset_partsAll hp
    have hx := mem_outline hv.1
    rw [← hid, ← hx.2]
    exact ⟨hx.1, hv.2, hd' ▸ hn⟩

/-- Blocks of different names are different nodes. -/
theorem nodup_blocks_nodes {table : BlockTable} (h : s.blocks tree = .ok table) :
    (table.map Prod.snd).Nodup := by
  have hk : (table.map fun e => some e.1).Nodup := by
    have := (nodup_blocks h).map (Option.some_injective String)
    rwa [Dictionary.keys, List.map_map] at this
  have he :
      table.map (fun e => some e.1) = (table.map Prod.snd).map fun id => (s.head id).attribute? "name" := by
    rw [List.map_map]
    exact List.map_congr_left fun e he => (mem_blocks h he).2.2.symm
  rw [he] at hk
  exact hk.of_map

end Store

end LayoutInheritance
