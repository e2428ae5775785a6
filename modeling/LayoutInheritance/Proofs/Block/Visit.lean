import LayoutInheritance.Proofs.Block.Collect
import LayoutInheritance.Proofs.Store.Shared

/-! The visit of the blocks of a tree, told on the graph of nodes. What lies in a tag is visited before the tag
itself, and nothing but tags is looked into. Collecting is one insertion after the other along this visit: the names
come in the order in which they are first met, and each stands for the block that is met last. A block without a
name stops it, and the first one that is met is the one that is reported. -/

namespace LayoutInheritance

open Outline (partsAll visitedAll)
open Relation (ReflTransGen)

/-- The name that a block is entered under. -/
def Head.label (h : Head Markup) : String :=
  (h.attribute? "name").getD ""

/-- Whether a block has a name. -/
def Head.isLabelled (h : Head Markup) : Bool :=
  h.hasAttribute "name"

theorem Head.attribute?_name (h : Head Markup) :
    h.attribute? "name" = if h.isLabelled then some h.label else none := by
  unfold isLabelled label hasAttribute attribute? Dictionary.has
  cases Dictionary.get? h.attributes "name" <;> simp

/-- Entering blocks is inserting them under their names, unless one has no name. -/
theorem enterAll_eq {α : Type} (found : Dictionary String α) (es : List (Head Markup × α)) :
    enterAll found es = match es.find? fun e => !e.1.isLabelled with
      | some e => .error e.1.location
      | none => .ok (found.update (es.map fun e => (e.1.label, e.2))) := by
  induction es generalizing found with
  | nil => rfl
  | cons e es ih =>
    obtain ⟨h, a⟩ := e
    rw [enterAll, List.find?_cons, Head.attribute?_name]
    cases h.isLabelled with
    | false => rfl
    | true => exact ih (found.put h.label a)

namespace Store

variable {s : Store} {tree found found' : List NodeId} {x y : NodeId}

/-- The nodes that a visit finds in a node: it looks into tags alone. -/
def inner (s : Store) (x : NodeId) : List NodeId :=
  if (s.head x).isTag then s.content x else []

/-- A visit of the nodes of a tree, from left to right, meets the blocks `found`, in this order. -/
inductive Visits (s : Store) : (tree found : List NodeId) → Prop
  | nil : s.Visits [] []
  | cons {x rest inside after} : s.Visits (s.inner x) inside → s.Visits rest after →
      s.Visits (x :: rest) (inside ++ (if (s.head x).isBlock then [x] else []) ++ after)

/-- A node that can be reached from a tree through the contents of tags. -/
def Reaches (s : Store) (tree : List NodeId) (x : NodeId) : Prop :=
  ∃ id ∈ tree, ReflTransGen (fun y x => y ∈ s.inner x) x id

theorem Visits.unique (h : s.Visits tree found) (h' : s.Visits tree found') : found = found' := by
  induction h generalizing found' with
  | nil =>
    cases h'
    rfl
  | cons _ _ ih ih' =>
    cases h' with
    | cons h h' => rw [ih h, ih' h']

theorem reaches_nil : ¬ s.Reaches [] x :=
  fun h => List.not_mem_nil h.choose_spec.1

theorem reaches_cons {rest : List NodeId} :
    s.Reaches (y :: rest) x ↔ x = y ∨ s.Reaches (s.inner y) x ∨ s.Reaches rest x := by
  constructor
  · rintro ⟨id, hid, hx⟩
    rcases List.mem_cons.1 hid with rfl | hid
    · rcases ReflTransGen.cases_tail hx with rfl | ⟨z, hxz, hz⟩
      · exact .inl rfl
      · exact .inr (.inl ⟨z, hz, hxz⟩)
    · exact .inr (.inr ⟨id, hid, hx⟩)
  · rintro (rfl | ⟨z, hz, hxz⟩ | ⟨id, hid, hx⟩)
    · exact ⟨_, List.mem_cons_self .., .refl⟩
    · exact ⟨y, List.mem_cons_self .., hxz.tail hz⟩
    · exact ⟨id, List.mem_cons_of_mem _ hid, hx⟩

theorem Reaches.within (h : s.Reaches tree x) : s.Within tree x := by
  have inside : ∀ y z, y ∈ s.inner z → s.Inside y z := by
    intro y z hy
    rw [inner] at hy
    split at hy
    · exact hy
    · exact nomatch hy
  obtain ⟨id, hid, hx⟩ := h
  exact ⟨id, hid, ReflTransGen.mono inside _ _ hx⟩

/-- A visit meets the blocks that can be reached through tags. -/
theorem Visits.mem_iff (h : s.Visits tree found) : x ∈ found ↔ s.Reaches tree x ∧ (s.head x).isBlock := by
  induction h with
  | nil => simp [reaches_nil]
  | @cons y rest inside after _ _ ih ih' =>
    have hself : x ∈ (if (s.head y).isBlock then [y] else []) ↔ x = y ∧ (s.head x).isBlock := by
      split
      · next hb => rw [List.mem_singleton]; exact ⟨fun h => ⟨h, h ▸ hb⟩, And.left⟩
      · next hb => simpa using fun h : x = y => h ▸ Bool.eq_false_iff.2 hb
    rw [List.mem_append, List.mem_append, ih, ih', hself, reaches_cons, ← or_and_right, ← or_and_right,
      or_comm (a := s.Reaches _ x), or_assoc]

theorem visits_cons {o : Outline} {os : List Outline} (hr : s.Shows o)
    (hi : s.Visits (o.content.map Outline.id) ((visitedAll o.content).map Outline.id))
    (h : s.Visits (os.map Outline.id) ((visitedAll os).map Outline.id)) :
    s.Visits ((o :: os).map Outline.id) ((visitedAll (o :: os)).map Outline.id) := by
  have hinner : s.Visits (s.inner o.id) ((if o.head.isTag then visitedAll o.content else []).map Outline.id) := by
    rw [inner, hr.head, hr.content]
    split
    · exact hi
    · exact .nil
  have hv := Visits.cons hinner h
  rw [hr.head] at hv
  rw [visitedAll, Outline.visited_eq, List.map_append, List.map_append]
  cases hb : o.head.isBlock <;> simpa [hb] using hv

mutual

theorem visits_content : ∀ {o : Outline}, s.Depicts [o] →
    s.Visits (o.content.map Outline.id) ((visitedAll o.content).map Outline.id)
  | .leaf _ _, _ => .nil
  | .branch _ _ _, ho => visits_outlines (ho.content (Outline.mem_partsAll_of_mem (List.mem_singleton_self _)))

/-- A visit of depicted nodes meets the blocks of their outlines. -/
theorem visits_outlines : ∀ {os : List Outline}, s.Depicts os →
    s.Visits (os.map Outline.id) ((visitedAll os).map Outline.id)
  | [], _ => .nil
  | _ :: _, ho =>
    visits_cons (ho.shows (List.mem_cons_self ..)) (visits_content (Depicts.left (a := [_]) ho))
      (visits_outlines (Depicts.right (a := [_]) ho))

end

/-- The blocks of a visit, each under its name. -/
def entries (s : Store) (found : List NodeId) : List (String × NodeId) :=
  found.map fun x => ((s.head x).label, x)

/-- The names of the blocks of a visit. -/
def labels (s : Store) (found : List NodeId) : List String :=
  found.map fun x => (s.head x).label

/-- The block of a visit that is met last under a name. -/
def lastOf? (s : Store) (found : List NodeId) (name : String) : Option NodeId :=
  found.reverse.find? fun x => (s.head x).label == name

/-- The first block of a visit that has no name. -/
def firstUnlabelled? (s : Store) (found : List NodeId) : Option NodeId :=
  found.find? fun x => !(s.head x).isLabelled

theorem keys_entries (s : Store) (found : List NodeId) : Dictionary.keys (s.entries found) = s.labels found := by
  rw [entries, Dictionary.keys, List.map_map]
  rfl

theorem get?_entries (s : Store) (found : List NodeId) (name : String) :
    (Dictionary.ofList (s.entries found)).get? name = s.lastOf? found name := by
  rw [Dictionary.get?_ofList, entries, ← List.map_reverse, List.find?_map, Option.map_map]
  exact Option.map_id_apply

/-- A tree without cycles has a visit, and collecting enters the blocks that it meets. -/
theorem exists_visits (ha : s.Acyclic tree) : ∃ found, s.Visits tree found ∧
    s.blocks tree = match s.firstUnlabelled? found with
      | some x => .error (s.head x).location
      | none => .ok (Dictionary.ofList (s.entries found)) := by
  have hd := ha.depicts_outline
  refine ⟨(visitedAll (s.outline tree)).map Outline.id, ?_, ?_⟩
  · simpa only [ids_outline] using visits_outlines hd
  · have hentry : (visitedAll (s.outline tree)).map Outline.entry =
        ((visitedAll (s.outline tree)).map Outline.id).map fun x => (s.head x, x) := by
      rw [List.map_map]
      refine List.map_congr_left fun o ho => ?_
      rw [Function.comp_apply, (hd o (Outline.visitedAll_subset_partsAll ho).1).head, Outline.entry]
    rw [blocks_eq, hentry, enterAll_eq, List.find?_map, firstUnlabelled?]
    simp only [Function.comp_def]
    cases List.find? (fun x => !(s.head x).isLabelled) ((visitedAll (s.outline tree)).map Outline.id) with
    | some x => rfl
    | none => simp only [Option.map_none, List.map_map, entries, Dictionary.ofList, Function.comp_def]

/-- Collecting the blocks of a tree without cycles, in which nodes may stand in several places, is one insertion after
the other along its visit: each block in turn under its name, so that the names come in the order in which they are
first met, and each stands for its block that is met last. Where blocks have no name, the first of them that is met is
refused with its place. The store is only read. -/
theorem blocks_eq_ofList (ha : s.Acyclic tree) : ∃ found, s.Visits tree found ∧
    (∀ found', s.Visits tree found' → found' = found) ∧
    match found.find? fun x => !(s.head x).isLabelled with
    | some x => s.blocks tree = .error (s.head x).location
    | none => ∃ table, s.blocks tree = .ok table ∧
      table = Dictionary.ofList (found.map fun x => ((s.head x).label, x)) ∧
      Dictionary.keys table = (found.map fun x => (s.head x).label).eraseDups ∧
      ∀ name, table.get? name = found.reverse.find? fun x => (s.head x).label == name := by
  obtain ⟨found, hv, hb⟩ := exists_visits ha
  refine ⟨found, hv, fun _ h => h.unique hv, ?_⟩
  rw [firstUnlabelled?] at hb
  split at hb
  · exact hb
  · exact ⟨_, hb, rfl, (Dictionary.keys_ofList _).trans (by rw [keys_entries, labels]), s.get?_entries found⟩

/-- The block `b` at node 0 stands in two contents and gives way to the block `b` around both of them. -/
theorem blocks_eq_ofList_shared :
    let named (name : String) := (Markup.tag blockTag [("name", name)]).head
    let s : Store := ⟨#[⟨named "b", none⟩, ⟨named "a", some [0]⟩, ⟨named "b", some [1, 0]⟩]⟩
    s.Acyclic [2] ∧ s.Visits [2] [0, 1, 0, 2] ∧ s.blocks [2] = .ok [("b", 2), ("a", 1)] := by
  intro named s
  have ha : s.Acyclic [2] := (sound_of_older (by decide +kernel)).acyclic_of_lt (by decide +kernel)
  have h₀ : s.Visits [0] ([] ++ [0] ++ []) := .cons .nil .nil
  have h₁ : s.Visits [1, 0] ([0] ++ [1] ++ [0]) := .cons h₀ h₀
  have hv : s.Visits [2] ([0, 1, 0] ++ [2] ++ []) := .cons h₁ .nil
  obtain ⟨found, -, hu, hb⟩ := blocks_eq_ofList ha
  rw [← hu _ hv] at hb
  obtain ⟨table, hb, rfl, -⟩ : ∃ table, _ := hb
  exact ⟨ha, hv, hb⟩

end Store

end LayoutInheritance
