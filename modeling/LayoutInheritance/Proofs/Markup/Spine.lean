import LayoutInheritance.Proofs.Markup.Location
import LayoutInheritance.Proofs.Markup.Plain
import Mathlib.Data.List.Chain

/-! The right edge of a document: its last node, the last child of that, and so on. A document that grows there keeps
all its nodes where they are. -/

namespace LayoutInheritance

namespace Markup

/-- The last node has the first of the heads `hs`, its last child the next one, and so on. The innermost of them has
the children `siblings`; without any heads these are the nodes themselves. -/
inductive Spine : (hs : List (Head Markup)) → List Markup → (siblings : List Markup) → Prop
  | nil {ms} : Spine [] ms ms
  | cons {h hs before content siblings} : Spine hs content siblings →
      Spine (h :: hs) (before ++ [.branch h content]) siblings

/-- Changes the nodes that are `depth` levels down, always inside the last node. -/
def onSpine (f : List Markup → List Markup) : (depth : ℕ) → List Markup → List Markup
  | 0, ms => f ms
  | depth + 1, ms =>
    match ms.getLast? with
    | some (.branch h content) => ms.dropLast ++ [.branch h (onSpine f depth content)]
    | _ => ms

variable {f : List Markup → List Markup} {depth : ℕ} {before content ms siblings : List Markup} {h : Head Markup}
  {hs : List (Head Markup)} {m n : Markup}

theorem onSpine_concat :
    onSpine f (depth + 1) (before ++ [.branch h content]) = before ++ [.branch h (onSpine f depth content)] := by
  rw [onSpine, List.getLast?_concat, List.dropLast_concat]

/-- Before the innermost nodes there are as many others as before. -/
theorem Spine.headsAll (h : Spine hs ms siblings) :
    ∃ outer, headsAll ms = outer ++ headsAll siblings ∧
      ∀ f, Markup.headsAll (onSpine f hs.length ms) = outer ++ Markup.headsAll (f siblings) := by
  induction h with
  | nil => exact ⟨[], rfl, fun f => rfl⟩
  | @cons h hs before content siblings _ ih =>
    obtain ⟨outer, hms, hf⟩ := ih
    refine ⟨Markup.headsAll before ++ h :: outer, ?_, fun f => ?_⟩
    · rw [headsAll_append, headsAll_branch, hms, List.append_assoc, List.cons_append]
    · rw [List.length_cons, onSpine_concat, headsAll_append, headsAll_branch, hf, List.append_assoc, List.cons_append]

/-! ### Regular documents -/

/-- No two neighbours are texts. -/
def TextsApart (ms : List Markup) : Prop :=
  ms.IsChain fun m n => m.isText → n.isText = false

/-- Only a tag that is not void has a content, in which texts are apart; and a text is not empty. -/
structure Regular (m : Markup) : Prop where
  content : ∀ content, m.content? = some content → m.head.isTag ∧ m.head.isVoid = false ∧ TextsApart content
  text : m.isText → ∃ value, m.head.value = some value ∧ value ≠ ""

/-- All nodes are regular, and texts are apart. -/
structure RegularAll (ms : List Markup) : Prop where
  apart : TextsApart ms
  nodes : ∀ m ∈ nodesAll ms, m.Regular

theorem textsApart_concat :
    TextsApart (before ++ [m]) ↔ TextsApart before ∧ ∀ n ∈ before.getLast?, n.isText → m.isText = false := by
  simp [TextsApart, List.isChain_append]

theorem nodesAll_singleton (m : Markup) : nodesAll [m] = m.nodes := by
  rw [nodesAll, nodesAll, List.append_nil]

theorem regularAll_concat : RegularAll (before ++ [m]) ↔
    RegularAll before ∧ (∀ n ∈ before.getLast?, n.isText → m.isText = false) ∧ ∀ n ∈ m.nodes, n.Regular := by
  constructor
  · rintro ⟨hapart, hnodes⟩
    rw [textsApart_concat] at hapart
    rw [nodesAll_append, nodesAll_singleton] at hnodes
    exact ⟨⟨hapart.1, fun n hn => hnodes n (List.mem_append_left _ hn)⟩, hapart.2,
      fun n hn => hnodes n (List.mem_append_right _ hn)⟩
  · rintro ⟨hbefore, hlast, hm⟩
    refine ⟨textsApart_concat.2 ⟨hbefore.apart, hlast⟩, fun n hn => ?_⟩
    rw [nodesAll_append, nodesAll_singleton, List.mem_append] at hn
    exact hn.elim (hbefore.nodes n) (hm n)

theorem isText_of_isTag (ht : m.head.isTag) : m.isText = false := by
  rw [isText, of_decide_eq_true ht]
  rfl

theorem regular_branch : (∀ n ∈ (branch h content).nodes, n.Regular) ↔
    h.isTag ∧ h.isVoid = false ∧ RegularAll content := by
  rw [nodes, List.forall_mem_cons]
  constructor
  · rintro ⟨hself, hnodes⟩
    obtain ⟨htag, hvoid, hapart⟩ := hself.content content rfl
    exact ⟨htag, hvoid, hapart, hnodes⟩
  · rintro ⟨htag, hvoid, hapart, hnodes⟩
    refine ⟨⟨fun content' hc => ?_, fun ht => ?_⟩, hnodes⟩
    · cases hc
      exact ⟨htag, hvoid, hapart⟩
    · exact absurd ht (by simp [isText_of_isTag (m := .branch h content) htag])

/-- The innermost nodes of a regular document are regular, and so is the document with other ones in their place. -/
theorem RegularAll.onSpine (hr : RegularAll ms) (h : Spine hs ms siblings) :
    RegularAll siblings ∧ (RegularAll (f siblings) → RegularAll (onSpine f hs.length ms)) := by
  induction h with
  | nil => exact ⟨hr, id⟩
  | @cons h hs before content siblings _ ih =>
    obtain ⟨hbefore, hlast, hm⟩ := regularAll_concat.1 hr
    obtain ⟨htag, hvoid, hcontent⟩ := regular_branch.1 hm
    obtain ⟨hsiblings, hf⟩ := ih hcontent
    refine ⟨hsiblings, fun hr' => ?_⟩
    rw [List.length_cons, onSpine_concat]
    exact regularAll_concat.2 ⟨hbefore, hlast, regular_branch.2 ⟨htag, hvoid, hf hr'⟩⟩

/-! ### Places in a document -/

/-- The node at a place, which is given by the numbers of the children on the way there. -/
def nodeAt? : (place : List ℕ) → List Markup → Option Markup
  | [], _ => none
  | [i], ms => ms[i]?
  | i :: place, ms => ms[i]?.bind fun m => nodeAt? place (m.content?.getD [])

/-- The head is the same, but that a text may have gone on. -/
def Continues (h h' : Head Markup) : Prop :=
  h' = h ∨ h.kind = .text ∧ ∃ more, h' = { h with value := some (h.value.getD "" ++ more) }

theorem Continues.trans {h h' h'' : Head Markup} (h₁ : Continues h h') (h₂ : Continues h' h'') : Continues h h'' := by
  rcases h₁ with rfl | ⟨hk, more, rfl⟩
  · exact h₂
  · rcases h₂ with rfl | ⟨-, more', rfl⟩
    · exact .inr ⟨hk, more, rfl⟩
    · exact .inr ⟨hk, more ++ more', by simp [String.append_assoc]⟩

/-- Every node stands where it stood, and the last text may have gone on. -/
def Keeps (ms ms' : List Markup) : Prop :=
  ∀ place m, nodeAt? place ms = some m → ∃ m', nodeAt? place ms' = some m' ∧ Continues m.head m'.head

theorem Keeps.refl (ms : List Markup) : Keeps ms ms :=
  fun _ m hm => ⟨m, hm, .inl rfl⟩

theorem Keeps.trans {ms₁ ms₂ ms₃ : List Markup} (h₁ : Keeps ms₁ ms₂) (h₂ : Keeps ms₂ ms₃) : Keeps ms₁ ms₃ := by
  intro place m hm
  obtain ⟨m₂, hm₂, hc₂⟩ := h₁ place m hm
  obtain ⟨m₃, hm₃, hc₃⟩ := h₂ place m₂ hm₂
  exact ⟨m₃, hm₃, hc₂.trans hc₃⟩

theorem nodeAt?_cons (i : ℕ) (place : List ℕ) (ms : List Markup) : nodeAt? (i :: place) ms =
    ms[i]?.bind fun m => if place = [] then some m else nodeAt? place (m.content?.getD []) := by
  cases place with
  | nil => simp [nodeAt?]
  | cons j place => rfl

/-- What comes after the nodes makes no difference to them. -/
theorem keeps_append (ms more : List Markup) : Keeps ms (ms ++ more) := by
  intro place m hm
  refine ⟨m, ?_, .inl rfl⟩
  cases place with
  | nil => exact nomatch hm
  | cons i place =>
    rw [nodeAt?_cons] at hm ⊢
    obtain ⟨n, hn, hm⟩ := Option.bind_eq_some_iff.1 hm
    obtain ⟨hi, -⟩ := List.getElem?_eq_some_iff.1 hn
    rw [List.getElem?_append_left hi, hn]
    exact hm

/-- Only the last node changes. -/
theorem keeps_concat (hh : Continues m.head n.head) (hc : Keeps (m.content?.getD []) (n.content?.getD [])) :
    Keeps (before ++ [m]) (before ++ [n]) := by
  intro place k hk
  cases place with
  | nil => exact nomatch hk
  | cons i place =>
    by_cases hi : i < before.length
    · refine ⟨k, ?_, .inl rfl⟩
      rw [nodeAt?_cons] at hk ⊢
      rwa [List.getElem?_append_left hi] at hk ⊢
    · simp only [nodeAt?_cons, List.getElem?_append_right (not_lt.1 hi), List.getElem?_singleton] at hk ⊢
      by_cases hzero : i - before.length = 0
      · rw [if_pos hzero, Option.bind_some] at hk ⊢
        by_cases hp : place = []
        · rw [if_pos hp] at hk ⊢
          cases hk
          exact ⟨n, rfl, hh⟩
        · rw [if_neg hp] at hk ⊢
          exact hc place k hk
      · rw [if_neg hzero] at hk
        exact nomatch hk

/-- A document whose innermost nodes are kept is kept. -/
theorem Spine.keeps (h : Spine hs ms siblings) (hf : Keeps siblings (f siblings)) :
    Keeps ms (onSpine f hs.length ms) := by
  induction h with
  | nil => exact hf
  | cons _ ih =>
    rw [List.length_cons, onSpine_concat]
    exact keeps_concat (.inl rfl) (ih hf)

end Markup

end LayoutInheritance
