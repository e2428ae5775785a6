import LayoutInheritance.Markup.Reader

/-! The nodes of a document, and the shape of one that was read: whatever its tokens, only tags have a content.
The builder keeps this of its finished nodes, and its open elements are tags. -/

namespace LayoutInheritance

namespace Markup

mutual

/-- The node and all nodes below it, in document order. -/
def nodes : Markup → List Markup
  | leaf h => [leaf h]
  | branch h content => branch h content :: nodesAll content

def nodesAll : List Markup → List Markup
  | [] => []
  | m :: rest => m.nodes ++ nodesAll rest

end

mutual

/-- Only tags have a content. -/
def Tagged : Markup → Prop
  | leaf _ => True
  | branch h content => h.isTag ∧ TaggedAll content

def TaggedAll : List Markup → Prop
  | [] => True
  | m :: rest => Tagged m ∧ TaggedAll rest

end

theorem taggedAll_iff {ms : List Markup} : TaggedAll ms ↔ ∀ m ∈ ms, m.Tagged := by
  induction ms with
  | nil => simp [TaggedAll]
  | cons m ms ih => simp [TaggedAll, ih]

theorem Tagged.content? {m : Markup} (h : m.Tagged) : TaggedAll (m.content?.getD []) := by
  cases m with
  | leaf h' => trivial
  | branch h' content => exact h.2

end Markup

open Markup (TaggedAll)

namespace Builder

structure Shaped (b : Builder) : Prop where
  root : ∀ m ∈ b.root, m.Tagged
  opened : ∀ e ∈ b.opened, e.head.isTag ∧ ∀ m ∈ e.children, m.Tagged

variable {b : Builder}

theorem Shaped.mapChildren (h : b.Shaped) {f : List Markup → List Markup}
    (hf : ∀ ms, (∀ m ∈ ms, m.Tagged) → ∀ m ∈ f ms, m.Tagged) : (b.mapChildren f).Shaped := by
  unfold Builder.mapChildren
  split
  · exact ⟨hf _ h.root, h.opened⟩
  · next e outer he =>
    have ho := h.opened
    rw [he] at ho
    refine ⟨h.root, fun e' he' => ?_⟩
    rcases List.mem_cons.1 he' with rfl | he'
    · exact ⟨(ho e (by simp)).1, hf _ (ho e (by simp)).2⟩
    · exact ho e' (List.mem_cons_of_mem _ he')

theorem Shaped.add (h : b.Shaped) {m : Markup} (hm : m.Tagged) : (b.add m).Shaped := by
  apply h.mapChildren
  intro ms hms m' hm'
  rcases List.mem_cons.1 hm' with rfl | hm'
  · exact hm
  · exact hms m' hm'

theorem tagged_addText (value : String) (l : Location) (ms : List Markup) (hms : ∀ m ∈ ms, m.Tagged) :
    ∀ m ∈ addText value l ms, m.Tagged := by
  have text : (Markup.text value l).Tagged := trivial
  intro m hm
  unfold addText at hm
  split at hm
  · next h rest =>
    split at hm
    · rcases List.mem_cons.1 hm with rfl | hm
      · trivial
      · exact hms m (List.mem_cons_of_mem _ hm)
    · rcases List.mem_cons.1 hm with rfl | hm
      · exact text
      · exact hms m hm
  · rcases List.mem_cons.1 hm with rfl | hm
    · exact text
    · exact hms m hm

theorem Shaped.closeInnermost (h : b.Shaped) : b.closeInnermost.Shaped := by
  unfold Builder.closeInnermost
  split
  · exact h
  · next e outer he =>
    have ho := h.opened
    rw [he] at ho
    have inner : Shaped { b with opened := outer } := ⟨h.root, fun e' he' => ho e' (List.mem_cons_of_mem _ he')⟩
    apply inner.add
    refine ⟨(ho e (by simp)).1, Markup.taggedAll_iff.2 fun m hm => ?_⟩
    exact (ho e (by simp)).2 m (List.mem_reverse.1 hm)

theorem Shaped.closeMany (h : b.Shaped) (count : Nat) : (b.closeMany count).Shaped := by
  induction count generalizing b with
  | zero => exact h
  | succ count ih => exact ih h.closeInnermost

theorem Shaped.push (h : b.Shaped) (token : Token) (p : Position) : (b.push token p).Shaped := by
  cases token with
  | opening name attributes closed =>
    simp only [Builder.push]
    split
    · exact h.add trivial
    · refine ⟨h.root, fun e he => ?_⟩
      rcases List.mem_cons.1 he with rfl | he
      · exact ⟨rfl, fun m hm => nomatch hm⟩
      · exact h.opened e he
  | closing name =>
    simp only [Builder.push, close]
    split
    · exact h.closeMany _
    · exact ⟨h.root, h.opened⟩
  | text value => exact h.mapChildren (tagged_addText _ _)
  | reference body => exact h.mapChildren (tagged_addText _ _)
  | comment value => exact h.add trivial
  | doctype value => exact h.add trivial

theorem Shaped.pushAll (h : b.Shaped) (tokens : List (Token × Position)) : (b.pushAll tokens).Shaped := by
  induction tokens generalizing b with
  | nil => exact h
  | cons t tokens ih => exact ih (h.push t.1 t.2)

theorem Shaped.tree (h : b.Shaped) : TaggedAll b.tree :=
  Markup.taggedAll_iff.2 fun m hm => (h.closeMany _).root m (List.mem_reverse.1 hm)

end Builder

theorem Reader.shaped_advance {r : Reader} (h : r.builder.Shaped) (atEnd : Bool) (part : List Char) :
    (r.advance atEnd part).1.builder.Shaped := by
  simp only [Reader.advance]
  split
  · exact h.pushAll _
  · exact h.pushAll _

/-- Only the tags of a document that was read have a content. -/
theorem Markup.tagged_of_read {text : String} {filename : Option String} {document : List Markup}
    (h : (Markup.read text filename).document = .ok document) : TaggedAll document := by
  have start : (Reader.start filename).builder.Shaped := ⟨fun _ hm => (nomatch hm), fun _ he => (nomatch he)⟩
  have fed := Reader.shaped_advance start false text.toList
  simp only [Markup.read, Reader.feed] at h
  split at h
  · exact nomatch h
  · next r hr =>
    rw [hr] at fed
    have done := Reader.shaped_advance fed true []
    simp only [Reader.finish] at h
    generalize r.advance true [] = final at h done
    obtain ⟨r', fault?⟩ := final
    cases fault? with
    | some fault => exact nomatch h
    | none =>
      cases h
      exact done.tree

end LayoutInheritance
