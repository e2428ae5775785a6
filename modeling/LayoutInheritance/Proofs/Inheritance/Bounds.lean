import LayoutInheritance.Proofs.Inheritance.Effects

/-! The bounds of the resolution are never met. The depth of a tree is bounded by the store, since the
tree is held in nodes of its own, and the number of layouts in progress by the library, since each of them
was read from a path of its own. So what the resolution does, it does by the rules of the recursion alone,
and a whole document is processed by them. -/

namespace LayoutInheritance

open Outline (ids partsAll)

namespace Resolver

variable {c : Resolver} {r : Run} {document : Option String}
  {inherit : Option String → String → Step (List NodeId)} {resolve : List NodeId → Step (List NodeId)}

/-- What a step does in a run is what the rules give for a call. -/
def Follows (c : Resolver) (call : Call) (step : Step (List NodeId)) (r : Run) : Prop :=
  c.Resolves call r (step.run r).1 (step.run r).2

theorem Follows.of_run {call : Call} {step : Step (List NodeId)} {out : Except Failure (List NodeId)}
    {r₁ : Run}
    (h : c.Follows call step r) (hr : step.run r = (out, r₁)) : c.Resolves call r out r₁ := by
  unfold Follows at h
  rwa [hr] at h

/-! ### Single nodes -/

theorem run_expand (id : NodeId) (r : Run) :
    (c.expand inherit resolve document id).run r =
      match (r.store.head id).attribute? "src" with
      | none => (.error (.issue (.missingSource (some (r.store.head id).location))), r)
      | some source =>
        if c.layoutPath source ∈ r.chain then
          (.error (.issue (.circular (r.chain ++ [c.layoutPath source]) (some (r.store.head id).location))), r)
        else
          match (inherit document (c.layoutPath source)).run r with
          | (.error e, r₁) => (.error e, r₁)
          | (.ok layout, r₁) =>
            match (resolve (r₁.store.content id)).run (c.recorded r₁ (c.layoutPath source) document) with
            | (.error e, r₂) => (.error e, r₂)
            | (.ok template, r₂) => (Step.merge layout template).run r₂ := by
  rw [expand, Step.run_bind, Step.run_get]
  simp only
  cases hs : (r.store.head id).attribute? "src" with
  | none => rfl
  | some source =>
    simp only [Step.run_bind, Step.run_get]
    by_cases hp : c.layoutPath source ∈ r.chain
    · simp only [if_pos hp]
      rfl
    · simp only [if_neg hp, Step.run_bind]
      rcases (inherit document (c.layoutPath source)).run r with ⟨e | layout, r₁⟩
      · rfl
      · unfold recorded
        cases c.tracking with
        | false =>
          simp only [Bool.false_eq_true, if_false, Step.run_bind, Step.run_get]
          rcases (resolve (r₁.store.content id)).run r₁ with ⟨e | template, r₂⟩ <;> rfl
        | true =>
          simp only [if_true, Step.run_bind, Step.run_note, Step.run_get, Run.store_note]
          rcases (resolve (r₁.store.content id)).run
            (r₁.note [.depends ⟨c.layoutPath source, document⟩]) with ⟨e | template, r₂⟩ <;> rfl

theorem run_resolveNode (id : NodeId) (r : Run) :
    (c.resolveNode inherit resolve document id).run r =
      if (r.store.head id).isExtends then (c.expand inherit resolve document id).run r
      else if r.store.content id = [] then (.ok [id], r)
      else
        match (resolve (r.store.content id)).run r with
        | (.error e, r₁) => (.error e, r₁)
        | (.ok content, r₁) => (.ok [id], { r₁ with store := r₁.store.setContent id content }) := by
  rw [resolveNode, Step.run_bind, Step.run_get]
  simp only [Head.isExtends]
  by_cases he : (r.store.head id).isTagNamed extendsTag
  · simp only [he, if_true]
  · simp only [he, Bool.false_eq_true, if_false]
    cases hc : r.store.content id with
    | nil => rfl
    | cons x xs =>
      simp only [List.isEmpty_cons, Bool.false_eq_true, if_false, reduceCtorEq, Step.run_bind]
      rcases (resolve (x :: xs)).run r with ⟨e | content, r₁⟩ <;> rfl

variable {o : Outline}

theorem follows_expand (ho : r.store.Holds [o]) (hs : r.store.Sound) (he : o.head.isExtends)
    (hi : ∀ path ∉ r.chain, c.Follows (.layout document path) (inherit document path) r)
    (ht : ∀ r₁ : Run, r₁.chain = r.chain → r₁.store.Holds o.content → r₁.store.Sound →
      c.Follows (.tree document (o.content.map Outline.id)) (resolve (o.content.map Outline.id)) r₁) :
    c.Follows (.node document o.id) (c.expand inherit resolve document o.id) r := by
  have hh : r.store.head o.id = o.head := ho.root.head
  unfold Follows
  rw [run_expand, hh]
  cases hsrc : o.head.attribute? "src" with
  | none => exact hh ▸ .noSource (hh ▸ he) (hh ▸ hsrc)
  | some source =>
    have hsource : (r.store.head o.id).source? = some source := by
      rw [hh, Head.source?_eq_some]
      exact ⟨he, hsrc⟩
    by_cases hp : c.layoutPath source ∈ r.chain
    · simp only [if_pos hp]
      exact hh ▸ .circular hsource hp
    · simp only [if_neg hp]
      rcases hrun : (inherit document (c.layoutPath source)).run r with ⟨e | layout, r₁⟩
      · exact .layoutStop hsource hp ((hi _ hp).of_run hrun)
      · have hl := (hi _ hp).of_run hrun
        obtain ⟨hc₁, hs₁, -⟩ := hl.change [] rfl (.nil _) hs
        have held := hc₁.holds_all ho
        have htemplate := ht (c.recorded r₁ (c.layoutPath source) document)
          (by rw [chain_recorded]; exact hl.chain) (by rw [store_recorded]; exact held.content)
          (by rw [store_recorded]; exact hs₁)
        rw [← held.root.content] at htemplate
        simp only
        rcases hrun' : (resolve (r₁.store.content o.id)).run (c.recorded r₁ (c.layoutPath source) document) with
          ⟨e | template, r₂⟩
        · exact .templateStop hsource hp hl (htemplate.of_run hrun')
        · exact .merge hsource hp hl (htemplate.of_run hrun') rfl

theorem follows_resolveNode (ho : r.store.Holds [o]) (hs : r.store.Sound)
    (hi : ∀ path ∉ r.chain, c.Follows (.layout document path) (inherit document path) r)
    (ht : ∀ r₁ : Run, r₁.chain = r.chain → r₁.store.Holds o.content → r₁.store.Sound →
      c.Follows (.tree document (o.content.map Outline.id)) (resolve (o.content.map Outline.id)) r₁) :
    c.Follows (.node document o.id) (c.resolveNode inherit resolve document o.id) r := by
  by_cases he : (r.store.head o.id).isExtends
  · unfold Follows
    rw [run_resolveNode, if_pos he]
    exact follows_expand ho hs (ho.root.head ▸ he) hi ht
  · have he' : (r.store.head o.id).isExtends = false := by simpa using he
    unfold Follows
    rw [run_resolveNode, if_neg he]
    by_cases hc : r.store.content o.id = []
    · rw [if_pos hc]
      exact .keep he' hc
    · rw [if_neg hc]
      have hinside := ht r rfl ho.content hs
      rw [← ho.root.content] at hinside
      rcases hrun : (resolve (r.store.content o.id)).run r with ⟨e | content, r₁⟩
      · exact .insideStop he' hc (hinside.of_run hrun)
      · exact .inside he' hc (hinside.of_run hrun)

/-! ### Trees -/

/-- Visiting nodes follows the rules when visiting each of them does. The nodes that are visited later are
still held then. -/
theorem follows_flatVisit {visit : NodeId → Step (List NodeId)} {chain : List String} {os : List Outline}
    (hv : ∀ o ∈ os, ∀ r : Run, r.chain = chain → r.store.Holds [o] → r.store.Sound →
      c.Follows (.node document o.id) (visit o.id) r)
    (hr : r.chain = chain) (ho : r.store.Holds os) (hs : r.store.Sound) :
    c.Follows (.tree document (os.map Outline.id)) (flatVisit visit (os.map Outline.id)) r := by
  induction os generalizing r with
  | nil => exact .nil
  | cons o os ih =>
    have hvisit := hv o (List.mem_cons_self ..) r hr ho.first hs
    unfold Follows
    rw [List.map_cons, flatVisit, Step.run_bind]
    rcases hrun : (visit o.id).run r with ⟨e | here, r₁⟩
    · exact .stop (hvisit.of_run hrun)
    · have hfirst := hvisit.of_run hrun
      obtain ⟨hc₁, hs₁, -⟩ := hfirst.change [o] rfl ho.first hs
      have held := hc₁.holds_rest ho
      have hrest := ih (fun o' ho' => hv o' (List.mem_cons_of_mem _ ho')) (hfirst.chain.trans hr) held hs₁
      simp only [Step.run_bind]
      rcases hrun' : (flatVisit visit (os.map Outline.id)).run r₁ with ⟨e | after, r₂⟩
      · exact .cons hfirst (hrest.of_run hrun')
      · exact .cons hfirst (hrest.of_run hrun')

/-- The depth is never met by a tree with no more places. -/
theorem follows_resolveTo {chain : List String} (hi : ∀ r : Run, r.chain = chain → r.store.Sound →
      ∀ path ∉ chain, c.Follows (.layout document path) (inherit document path) r) (depth : Nat) :
    ∀ (os : List Outline) (r : Run), (partsAll os).length ≤ depth → r.chain = chain → r.store.Holds os →
      r.store.Sound → c.Follows (.tree document (os.map Outline.id))
        (c.resolveTo inherit document depth (os.map Outline.id)) r := by
  induction depth with
  | zero =>
    intro os r hd _ _ _
    cases os with
    | nil => exact .nil
    | cons o os =>
      simp only [partsAll, Outline.parts_eq, List.cons_append, List.length_cons] at hd
      omega
  | succ depth ih =>
    intro os r hd hr ho hs
    rw [resolveTo]
    refine follows_flatVisit  ?_ hr ho hs
    intro o hm r hr ho hs
    refine follows_resolveNode ho hs (fun path hp => hi r hr hs path (hr ▸ hp)) ?_
    intro r₁ hr₁ ho₁ hs₁
    refine ih o.content r₁ ?_ (hr₁.trans hr) ho₁ hs₁
    have hl := Outline.length_parts_le hm
    rw [Outline.parts_eq, List.length_cons] at hl
    omega

theorem follows_resolveWith {os : List Outline} (hi : ∀ r₁ : Run, r₁.chain = r.chain → r₁.store.Sound →
      ∀ path ∉ r.chain, c.Follows (.layout document path) (inherit document path) r₁)
    (ho : r.store.Holds os) (hs : r.store.Sound) :
    c.Follows (.tree document (os.map Outline.id)) (c.resolveWith inherit document (os.map Outline.id)) r :=
  follows_resolveTo hi r.store.size os r ho.length_le rfl ho hs

/-! ### Layouts -/

/-- The paths of the library at which no layout is in progress. -/
def unopened (c : Resolver) (chain : List String) : List String :=
  c.library.paths.filter (· ∉ chain)

theorem unopened_append_lt {chain : List String} {path : String} (hp : path ∈ c.library.paths)
    (hc : path ∉ chain) : (c.unopened (chain ++ [path])).length < (c.unopened chain).length := by
  have hm : path ∈ c.unopened chain := List.mem_filter.2 ⟨hp, by simpa using hc⟩
  have hf : c.unopened (chain ++ [path]) = (c.unopened chain).filter (· ≠ path) := by
    rw [unopened, unopened, List.filter_filter]
    apply List.filter_congr
    intro x _
    by_cases hx : x = path <;> simp [hx]
  rw [hf, List.length_filter_lt_length_iff_exists]
  exact ⟨path, hm, by simp⟩

/-- The bound on layouts in progress is never met when it is more than the paths that are left. -/
theorem follows_inherited (more : Nat) :
    ∀ (document : Option String) (path : String) (r : Run), (c.unopened r.chain).length < more →
      path ∉ r.chain → r.store.Sound → c.Follows (.layout document path) (c.inherited more document path) r := by
  induction more with
  | zero =>
    intro _ _ r hm
    omega
  | succ more ih =>
    intro document path r hm hp hs
    unfold Follows
    rw [inherited, loadLayout, Step.run_bind, Step.run_note]
    simp only
    cases hr : c.library.read path c.encoding with
    | error fault => exact .unread hr
    | ok text =>
      simp only [Step.run_bind]
      rcases hparse : (Step.parse text (some path)).run (r.note [.loading path c.encoding document]) with
        ⟨e | tree, r₁⟩
      · exact .unparsed hr hparse
      · obtain ⟨_, os, -, -, rfl, hst, hs₁⟩ := parse_stored hparse
        have hchain : (r₁.enter path).chain = r.chain ++ [path] := chain_enter hparse
        have hl := unopened_append_lt (c.library.mem_paths _ _ _ hr) hp
        have hlayout : c.Follows (.tree (some path) (os.map Outline.id))
            (c.resolveWith (c.inherited more) (some path) (os.map Outline.id)) (r₁.enter path) := by
          refine follows_resolveWith ?_ hst.holds (hs₁ hs)
          intro r₂ hc₂ hs₂ path' hp'
          refine ih (some path) path' r₂ ?_ (hc₂ ▸ hp') hs₂
          rw [hc₂, hchain]
          omega
        simp only [Step.run_within]
        rcases hrun : (c.resolveWith (c.inherited more) (some path) (os.map Outline.id)).run (r₁.enter path) with
          ⟨e | found, r₂⟩
        · exact .loadStop hr hparse (hlayout.of_run hrun)
        · exact .load hr hparse (hlayout.of_run hrun)

/-- The resolution of a tree follows the rules. -/
theorem follows_resolve {os : List Outline} (ho : r.store.Holds os) (hs : r.store.Sound) :
    c.Follows (.tree document (os.map Outline.id)) (c.resolve document (os.map Outline.id)) r := by
  refine follows_resolveWith ?_ ho hs
  intro r₁ hr₁ hs₁ path hp
  refine follows_inherited _ document path r₁ ?_ (hr₁ ▸ hp) hs₁
  exact Nat.lt_succ_of_le (List.length_filter_le ..)

end Resolver

end LayoutInheritance
