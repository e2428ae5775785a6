import LayoutInheritance.Proofs.Block.Substitution
import LayoutInheritance.Proofs.Markup.Plain

/-! Blocks apart from places. Where the nodes of a template stand in their text has no part in which blocks it has and
what they hold. So what is merged from it does not depend on that, and the issue of a merge that fails only by the
place that it points to. -/

namespace LayoutInheritance

open Markup (unplaced unplacedAll unplacedHead unplacedAttributes)

/-! ### Single nodes -/

namespace Head

variable (h : Head Markup)

@[simp] theorem isTag_unplaced : (unplacedHead h).isTag = h.isTag := by
  cases h
  rfl

@[simp] theorem isTagNamed_unplaced (name : String) : (unplacedHead h).isTagNamed name = h.isTagNamed name := by
  cases h
  rfl

@[simp] theorem isBlock_unplaced : (unplacedHead h).isBlock = h.isBlock :=
  h.isTagNamed_unplaced blockTag

@[simp] theorem attribute?_unplaced (key : String) : (unplacedHead h).attribute? key = h.attribute? key := by
  obtain ⟨kind, name, attributes, value, location⟩ := h
  have hmap : unplacedAttributes attributes = Dictionary.mapValues unplacedAll attributes := by
    rw [Markup.unplacedAttributes_eq_map]
    exact List.map_congr_left fun a _ => by rw [Markup.unplacedAttribute]
  rw [attribute?, unplacedHead, hmap, Dictionary.get?_mapValues, Option.map_map, attribute?]
  refine Option.map_congr fun parts _ => ?_
  cases parts with
  | nil => rfl
  | cons part rest =>
    obtain ⟨⟨⟩⟩ | ⟨⟨⟩, content⟩ := part <;> rfl

@[simp] theorem ofHead_unplaced : BlockType.ofHead (unplacedHead h) = BlockType.ofHead h := by
  rw [BlockType.ofHead, attribute?_unplaced, BlockType.ofHead]

end Head

namespace Markup

@[simp] theorem head_unplaced (m : Markup) : m.unplaced.head = unplacedHead m.head := by
  cases m <;> rfl

@[simp] theorem content_unplaced (m : Markup) : m.unplaced.content = unplacedAll m.content := by
  cases m <;> rfl

theorem unplacedAll_append (as bs : List Markup) : unplacedAll (as ++ bs) = unplacedAll as ++ unplacedAll bs := by
  rw [unplacedAll_eq_map, unplacedAll_eq_map, unplacedAll_eq_map, List.map_append]

/-- Lists of nodes that differ in places alone, node by node. -/
theorem forall₂_unplaced {as bs : List Markup} :
    List.Forall₂ (fun a b : Markup => a.unplaced = b.unplaced) as bs ↔ unplacedAll as = unplacedAll bs := by
  rw [unplacedAll_eq_map, unplacedAll_eq_map, ← List.forall₂_eq_eq_eq, List.forall₂_map_left_iff,
    List.forall₂_map_right_iff]

/-! ### Visits -/

mutual

theorem visited_unplaced : ∀ m : Markup, m.unplaced.visited = unplacedAll m.visited
  | leaf h => by
    rw [unplaced, visited, visited, h.isBlock_unplaced]
    split <;> rfl
  | branch h content => by
    rw [unplaced, visited, visited, unplacedAll_append, h.isBlock_unplaced, h.isTag_unplaced,
      visitedAll_unplaced content]
    congr 1
    · split <;> rfl
    · split <;> rfl

theorem visitedAll_unplaced : ∀ ms : List Markup, visitedAll (unplacedAll ms) = unplacedAll (visitedAll ms)
  | [] => rfl
  | m :: ms => by
    rw [unplacedAll, visitedAll, visitedAll, unplacedAll_append, visited_unplaced m, visitedAll_unplaced ms]

end

/-! ### Templates with the same blocks -/

/-- The templates have the same blocks, which are visited in the same order, apart from the places of their nodes. -/
def SameBlocks (template template' : List Markup) : Prop :=
  unplacedAll (visitedAll template) = unplacedAll (visitedAll template')

variable {template template' : List Markup}

theorem latest?_unplaced (name : String) (ms : List Markup) :
    latest? name ((unplacedAll ms).map fun m => (m.head, m)) =
      (latest? name (ms.map fun m => (m.head, m))).map unplaced := by
  induction ms with
  | nil => rfl
  | cons m ms ih =>
    rw [unplacedAll, List.map_cons, latest?, ih, List.map_cons, latest?, Option.map_or, head_unplaced,
      Head.attribute?_unplaced]
    congr 1
    split <;> rfl

theorem last?_unplaced (name : String) (ms : List Markup) :
    latest? name ((unplacedAll (visitedAll ms)).map fun m => (m.head, m)) = (last? name ms).map unplaced :=
  latest?_unplaced name _

/-- A table of blocks, or the place of a block without a name, with all locations forgotten. -/
def unplacedTable : Except Location (Dictionary String Markup) → Except Location (Dictionary String Markup)
  | .error _ => .error {}
  | .ok table => .ok (table.mapValues unplaced)

theorem enterAll_unplaced (found : Dictionary String Markup) (ms : List Markup) :
    enterAll (found.mapValues unplaced) ((unplacedAll ms).map fun m => (m.head, m)) =
      unplacedTable (enterAll found (ms.map fun m => (m.head, m))) := by
  induction ms generalizing found with
  | nil => rfl
  | cons m ms ih =>
    rw [unplacedAll, List.map_cons, enterAll, head_unplaced, Head.attribute?_unplaced, List.map_cons, enterAll]
    cases m.head.attribute? "name" with
    | none =>
      obtain ⟨⟨⟩⟩ | ⟨⟨⟩, content⟩ := m <;> rfl
    | some name =>
      simp only
      rw [← ih, Dictionary.mapValues_put]

theorem SameBlocks.table (h : SameBlocks template template') :
    unplacedTable (blocks template) = unplacedTable (blocks template') := by
  have hentered := enterAll_unplaced [] (visitedAll template)
  rw [h, enterAll_unplaced [] (visitedAll template')] at hentered
  exact hentered.symm

/-- The last blocks of a name differ in the places of their nodes alone. -/
theorem SameBlocks.last? (h : SameBlocks template template') (name : String) :
    (last? name template).map unplaced = (last? name template').map unplaced := by
  rw [← last?_unplaced, h, last?_unplaced]

end Markup

/-! ### Merges -/

/-- The issue with its location forgotten. -/
def Issue.unplaced : Issue → Issue
  | general message context => general message context
  | config message context => config message context
  | markup message l => markup message (l.map fun _ => {})
  | inheritance message l plugin context => inheritance message (l.map fun _ => {}) plugin context
  | missingSource l => missingSource (l.map fun _ => {})
  | missingBlockName l => missingBlockName (l.map fun _ => {})
  | unmatchedBlock name l => unmatchedBlock name (l.map fun _ => {})
  | circular chain l => circular chain (l.map fun _ => {})

namespace Markup

variable {template template' : List Markup}

/-- The issue of a merge, if there is one. -/
def issue? (layout template : List Markup) : Option Issue :=
  match (merge layout template).2 with
  | .error issue => some issue
  | .ok _ => none

/-- The issue of a merge is a matter of the blocks of the template, but for the place that it points to. -/
theorem issue?_unplaced (layout template : List Markup) : (issue? layout template).map Issue.unplaced =
    match blocks layout, unplacedTable (blocks template) with
    | .ok found, .ok table => (table.find? fun e => !found.has e.1).map fun e => .unmatchedBlock e.1 (some {})
    | _, _ => some (.missingBlockName (some {})) := by
  unfold issue? merge
  cases blocks layout with
  | error l => rfl
  | ok found =>
    cases blocks template with
    | error l => rfl
    | ok table =>
      simp only [unplacedTable]
      rw [Dictionary.find?_mapValues unplaced table fun name => !found.has name]
      cases table.find? fun e => !found.has e.1 <;> rfl

/-- Templates with the same blocks fail to be merged for the same reason. -/
theorem SameBlocks.issue? (h : SameBlocks template template') (layout : List Markup) :
    (issue? layout template).map Issue.unplaced = (issue? layout template').map Issue.unplaced := by
  rw [issue?_unplaced, issue?_unplaced, h.table]

end Markup

end LayoutInheritance
