import LayoutInheritance.Store.Basic
import Mathlib.Order.WellFounded
import Mathlib.Tactic.Common

/-! The store as a graph. A sound store names only stored nodes in its contents, gives contents to tags
alone, and has no node inside itself. A change keeps the graph free of cycles when all that it adds to
contents lies in a part of the store that is closed and that the change leaves alone. -/

namespace LayoutInheritance.Store

open Relation

variable {s s' : Store} {x y : NodeId}

/-! ### Reading and writing -/

theorem head_eq (s : Store) (x : NodeId) : s.head x = ((s.cells[x]?).getD default).head := by
  simp [head]

theorem content?_eq (s : Store) (x : NodeId) : s.content? x = ((s.cells[x]?).getD default).content := by
  simp [content?]

theorem content?_of_size_le (h : s.size ≤ x) : s.content? x = none := by
  rw [content?_eq, Array.getElem?_eq_none h]
  rfl

theorem lt_size_of_content? (h : s.content? x ≠ none) : x < s.size := by
  by_contra hx
  exact h (content?_of_size_le (not_lt.1 hx))

theorem content_eq_of_content? (h : s'.content? x = s.content? x) : s'.content x = s.content x := by
  rw [content, content, h]

theorem content?_ne_none (h : s.content x ≠ []) : s.content? x ≠ none := by
  intro hn
  exact h (by rw [content, hn]; rfl)

theorem content?_of_content (h : s.content x ≠ []) : s.content? x = some (s.content x) := by
  obtain ⟨ids, hi⟩ := Option.ne_none_iff_exists'.1 (content?_ne_none h)
  rw [content, hi]
  rfl

@[simp] theorem size_setContent (s : Store) (id : NodeId) (content : List NodeId) :
    (s.setContent id content).size = s.size := by
  simp [size, setContent]

@[simp] theorem head_setContent (s : Store) (id : NodeId) (content : List NodeId) (x : NodeId) :
    (s.setContent id content).head x = s.head x := by
  rw [head_eq, head_eq, setContent, Array.getElem?_modify]
  split
  · next h =>
    subst h
    cases s.cells[id]? <;> rfl
  · rfl

theorem content?_setContent (s : Store) (id : NodeId) (content : List NodeId) (x : NodeId) :
    (s.setContent id content).content? x = if x = id ∧ id < s.size then some content else s.content? x := by
  rw [content?_eq, content?_eq, setContent, Array.getElem?_modify]
  by_cases hx : id = x
  · subst hx
    by_cases hs : id < s.size
    · have hc : s.cells[id]? = some s.cells[id] := Array.getElem?_eq_getElem hs
      simp [hs, hc]
    · have hc : s.cells[id]? = none := Array.getElem?_eq_none (by simpa [size] using hs)
      simp [hs, hc]
  · simp [hx, Ne.symm hx]

theorem content?_setContent_self {id : NodeId} (h : id < s.size) (content : List NodeId) :
    (s.setContent id content).content? id = some content := by
  simp [content?_setContent, h]

theorem content?_setContent_ne {id : NodeId} (h : x ≠ id) (content : List NodeId) :
    (s.setContent id content).content? x = s.content? x := by
  simp [content?_setContent, h]

theorem content_setContent_self {id : NodeId} (h : id < s.size) (content : List NodeId) :
    (s.setContent id content).content id = content := by
  rw [Store.content, content?_setContent_self h]
  rfl

theorem content_setContent_ne {id : NodeId} (h : x ≠ id) (content : List NodeId) :
    (s.setContent id content).content x = s.content x :=
  content_eq_of_content? (content?_setContent_ne h content)

/-- Writing the content that is there changes nothing. -/
theorem setContent_content {id : NodeId} (h : s.content id ≠ []) : s.setContent id (s.content id) = s := by
  have hc := content?_of_content h
  obtain ⟨cells⟩ := s
  simp only [setContent, mk.injEq]
  apply Array.ext_getElem?
  intro i
  rw [Array.getElem?_modify]
  split
  · next hi =>
    subst hi
    rw [content?_eq] at hc
    cases hg : cells[id]? with
    | none => rfl
    | some cell =>
      simp only [hg, Option.getD_some] at hc
      simp only [Option.map_some, Option.some.injEq]
      rw [← hc]
  · rfl

@[simp] theorem size_create (s : Store) (h : Head Markup) (content : Option (List NodeId)) :
    (s.create h content).1.size = s.size + 1 := by
  simp [create, size]

theorem head_create (s : Store) (h : Head Markup) (content : Option (List NodeId)) (x : NodeId) :
    (s.create h content).1.head x = if x = s.size then h else s.head x := by
  rw [head_eq, head_eq, create, Array.getElem?_push]
  by_cases hx : x = s.size
  · simp [hx, size]
  · simp [hx, show x ≠ s.cells.size from hx]

theorem content?_create (s : Store) (h : Head Markup) (content : Option (List NodeId)) (x : NodeId) :
    (s.create h content).1.content? x = if x = s.size then content else s.content? x := by
  rw [content?_eq, content?_eq, create, Array.getElem?_push]
  by_cases hx : x = s.size
  · simp [hx, size]
  · simp [hx, show x ≠ s.cells.size from hx]

/-! ### Inside -/

/-- `y` stands in the content of `x`. -/
def Inside (s : Store) (y x : NodeId) : Prop :=
  y ∈ s.content x

/-- A node that can be reached from a tree through contents, at any depth. -/
def Within (s : Store) (tree : List NodeId) (x : NodeId) : Prop :=
  ∃ id ∈ tree, ReflTransGen s.Inside x id

/-- No node satisfies `p` that can be reached from `x`, not even `x` itself. -/
def Free (s : Store) (p : Head Markup → Bool) (x : NodeId) : Prop :=
  ∀ y, ReflTransGen s.Inside y x → p (s.head y) = false

variable {p : Head Markup → Bool}

/-- A closed set of nodes that do not satisfy `p` is free of `p`. -/
theorem Free.of_closed {P : NodeId → Prop} (hc : ∀ x, P x → ∀ y ∈ s.content x, P y)
    (hp : ∀ x, P x → p (s.head x) = false) (hx : P x) : s.Free p x := by
  intro y hy
  apply hp
  induction hy using ReflTransGen.head_induction_on with
  | refl => exact hx
  | head hyz _ ih => exact hc _ ih _ hyz

theorem Free.self (h : s.Free p x) : p (s.head x) = false :=
  h x .refl

theorem Free.inside (h : s.Free p x) (hy : y ∈ s.content x) : s.Free p y :=
  fun z hz => h z (hz.tail hy)

/-- What lies in a closed part of the store stays free when that part is left alone. -/
theorem Free.frame {P : NodeId → Prop} (hc : ∀ x, P x → ∀ y ∈ s.content x, P y)
    (hh : ∀ x, P x → s'.head x = s.head x) (hs : ∀ x, P x → s'.content? x = s.content? x)
    (hx : P x) (h : s.Free p x) : s'.Free p x := by
  apply Free.of_closed (P := fun x => P x ∧ s.Free p x)
  · intro x ⟨hx, h⟩ y hy
    rw [content_eq_of_content? (hs x hx)] at hy
    exact ⟨hc x hx y hy, h.inside hy⟩
  · intro x ⟨hx, h⟩
    rw [hh x hx]
    exact h.self
  · exact ⟨hx, h⟩

theorem Within.below {tree : List NodeId} (hx : s.Within tree x) (hy : ReflTransGen s.Inside y x) :
    s.Within tree y := by
  obtain ⟨id, hid, hx⟩ := hx
  exact ⟨id, hid, hy.trans hx⟩

theorem Free.within {tree : List NodeId} (h : ∀ id ∈ tree, s.Free p id) (hx : s.Within tree x) : s.Free p x := by
  obtain ⟨id, hid, hx⟩ := hx
  exact fun y hy => h id hid y (hy.trans hx)

theorem Within.of_closed {P : NodeId → Prop} {tree : List NodeId} {x : NodeId}
    (hc : ∀ x, P x → ∀ y ∈ s.content x, P y) (ht : ∀ id ∈ tree, P id) (hx : s.Within tree x) : P x := by
  obtain ⟨id, hid, hx⟩ := hx
  induction hx using ReflTransGen.head_induction_on with
  | refl => exact ht id hid
  | head hyz _ ih => exact hc _ ih _ hyz

/-! ### Soundness -/

structure Sound (s : Store) : Prop where
  closed : ∀ x, ∀ y ∈ s.content x, y < s.size
  tagged : ∀ x, s.content x ≠ [] → (s.head x).isTag
  acyclic : WellFounded s.Inside

theorem Sound.not_inside_self (h : s.Sound) (x : NodeId) : ¬ TransGen s.Inside x x :=
  h.acyclic.transGen.irrefl.irrefl x

/-- No cycle comes about when contents only gain nodes of `P`, which are closed and have gained nothing. -/
theorem acyclic_of_grafts (h : WellFounded s.Inside) {P : NodeId → Prop}
    (hP : ∀ x, P x → ∀ y ∈ s'.content x, P y ∧ y ∈ s.content x)
    (hx : ∀ x, ∀ y ∈ s'.content x, y ∈ s.content x ∨ P y) : WellFounded s'.Inside := by
  have below : ∀ x, P x → Acc s'.Inside x := by
    intro x
    induction x using h.induction with
    | _ x ih =>
      intro hx
      exact ⟨x, fun y hy => ih y (hP x hx y hy).2 (hP x hx y hy).1⟩
  refine ⟨fun x => ?_⟩
  induction x using h.induction with
  | _ x ih =>
    refine ⟨x, fun y hy => ?_⟩
    rcases hx x y hy with hs | hp
    · exact ih y hs
    · exact below y hp

theorem sound_empty : Sound {} where
  closed _ _ hy := nomatch hy
  tagged _ hx := absurd rfl hx
  acyclic := ⟨fun x => ⟨x, fun _ hy => nomatch hy⟩⟩

/-- A store in which tags alone have contents, and contents name older nodes alone. -/
theorem sound_of_older (h : ∀ x < s.size, (s.content x ≠ [] → (s.head x).isTag) ∧ ∀ y ∈ s.content x, y < x) :
    s.Sound := by
  have lt_size : ∀ x, s.content x ≠ [] → x < s.size := fun x hx => lt_size_of_content? (content?_ne_none hx)
  have older : ∀ x, ∀ y ∈ s.content x, y < x ∧ x < s.size := by
    intro x y hy
    have hx := lt_size x (List.ne_nil_of_mem hy)
    exact ⟨(h x hx).2 y hy, hx⟩
  constructor
  · intro x y hy
    exact (older x y hy).1.trans (older x y hy).2
  · exact fun x hx => (h x (lt_size x hx)).1 hx
  · exact Subrelation.wf (fun hy => (older _ _ hy).1) Nat.lt_wfRel.wf

/-- Setting the content of a tag to nodes of a closed part that it does not belong to. -/
theorem Sound.setContent (h : s.Sound) {id : NodeId} {content : List NodeId} {P : NodeId → Prop}
    (hc : ∀ x, P x → ∀ y ∈ s.content x, P y) (hid : ¬ P id) (hP : ∀ y ∈ content, P y)
    (hs : ∀ y ∈ content, y < s.size) (ht : (s.head id).isTag) : (s.setContent id content).Sound := by
  have cases : ∀ x y, y ∈ (s.setContent id content).content x → y ∈ s.content x ∨ x = id ∧ y ∈ content := by
    intro x y hy
    rw [Store.content, content?_setContent] at hy
    split at hy
    · next hx => exact .inr ⟨hx.1, hy⟩
    · exact .inl hy
  constructor
  · intro x y hy
    rw [size_setContent]
    rcases cases x y hy with hy | ⟨-, hy⟩
    · exact h.closed x y hy
    · exact hs y hy
  · intro x hx
    rw [head_setContent]
    by_cases hi : x = id
    · exact hi ▸ ht
    · rw [content_setContent_ne hi] at hx
      exact h.tagged x hx
  · apply acyclic_of_grafts h.acyclic (P := P)
    · intro x hx y hy
      have hi : x ≠ id := fun he => hid (he ▸ hx)
      rw [content_setContent_ne hi] at hy
      exact ⟨hc x hx y hy, hy⟩
    · intro x y hy
      rcases cases x y hy with hy | ⟨-, hy⟩
      · exact .inl hy
      · exact .inr (hP y hy)

theorem Sound.create (h : s.Sound) {hd : Head Markup} {content : Option (List NodeId)}
    (hs : ∀ y ∈ content.getD [], y < s.size) (ht : content.getD [] ≠ [] → hd.isTag) :
    (s.create hd content).1.Sound := by
  have old : ∀ x, x ≠ s.size → (s.create hd content).1.content x = s.content x := by
    intro x hx
    apply content_eq_of_content?
    simp [content?_create, hx]
  have new : (s.create hd content).1.content s.size = content.getD [] := by
    simp [Store.content, content?_create]
  have cases : ∀ x y, y ∈ (s.create hd content).1.content x → y < s.size := by
    intro x y hy
    by_cases hx : x = s.size
    · rw [hx, new] at hy
      exact hs y hy
    · rw [old x hx] at hy
      exact h.closed x y hy
  constructor
  · intro x y hy
    rw [size_create]
    exact Nat.lt_succ_of_lt (cases x y hy)
  · intro x hx
    rw [head_create]
    by_cases hi : x = s.size
    · rw [if_pos hi]
      rw [hi, new] at hx
      exact ht hx
    · rw [if_neg hi]
      rw [old x hi] at hx
      exact h.tagged x hx
  · apply acyclic_of_grafts h.acyclic (P := fun x => x < s.size)
    · intro x hx y hy
      rw [old x (Nat.ne_of_lt hx)] at hy
      exact ⟨h.closed x y hy, hy⟩
    · intro x y hy
      exact .inr (cases x y hy)

end LayoutInheritance.Store
