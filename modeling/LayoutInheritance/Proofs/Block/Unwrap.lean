import LayoutInheritance.Block.Unwrap
import LayoutInheritance.Proofs.Store.Depth

/-! Unwrapping in place. What a node gives way to is said by the graph of the store that is unwrapped: a block
gives way to what its content gives way to, and any other node keeps its place. Unwrapping sets each content
to that, and as this stays the same however often it is done, a node that stands in several places comes
out the same in all of them. -/

namespace LayoutInheritance.Store

open Relation

variable {s s' t : Store} {x y : NodeId} {ids : List NodeId}

namespace Sound

/-- The nodes that a node gives way to. -/
noncomputable def gives (h : s.Sound) : NodeId → List NodeId :=
  h.acyclic.fix fun x ih =>
    if (s.head x).isBlock then (s.content x).attach.flatMap fun y => ih y.1 y.2 else [x]

theorem gives_eq (h : s.Sound) (x : NodeId) :
    h.gives x = if (s.head x).isBlock then (s.content x).flatMap h.gives else [x] := by
  rw [gives, WellFounded.fix_eq]
  split
  · rw [List.flatMap_subtype fun y _ => rfl, List.unattach_attach]
  · rfl

theorem gives_of_not_block (h : s.Sound) (hb : (s.head x).isBlock = false) : h.gives x = [x] := by
  rw [gives_eq, hb]
  rfl

theorem gives_of_block (h : s.Sound) (hb : (s.head x).isBlock) :
    h.gives x = (s.content x).flatMap h.gives := by
  rw [gives_eq, if_pos hb]

/-- A node gives way to nodes that are not blocks, and that lie in it. -/
theorem of_mem_gives (h : s.Sound) (hy : y ∈ h.gives x) :
    (s.head y).isBlock = false ∧ ReflTransGen s.Inside y x := by
  induction x using h.acyclic.induction with
  | _ x ih =>
    cases hb : (s.head x).isBlock with
    | false =>
      rw [h.gives_of_not_block hb, List.mem_singleton] at hy
      subst hy
      exact ⟨hb, .refl⟩
    | true =>
      rw [h.gives_of_block hb, List.mem_flatMap] at hy
      obtain ⟨z, hz, hy⟩ := hy
      obtain ⟨hy, hyz⟩ := ih z hz hy
      exact ⟨hy, hyz.tail hz⟩

theorem gives_idem (h : s.Sound) (x : NodeId) : (h.gives x).flatMap h.gives = h.gives x := by
  have hs : ∀ y ∈ h.gives x, h.gives y = [y] := fun y hy => h.gives_of_not_block (h.of_mem_gives hy).1
  rw [List.flatMap_congr hs]
  exact List.flatMap_singleton' _

/-- What is not a block and lies in a node lies in one that it gives way to. -/
theorem exists_mem_gives (h : s.Sound) (hb : (s.head y).isBlock = false) (hy : ReflTransGen s.Inside y x) :
    ∃ z ∈ h.gives x, ReflTransGen s.Inside y z := by
  induction hy with
  | refl => exact ⟨y, by rw [h.gives_of_not_block hb]; exact List.mem_singleton_self y, .refl⟩
  | @tail w x hyw hwx ih =>
    cases hx : (s.head x).isBlock with
    | false =>
      rw [h.gives_of_not_block hx]
      exact ⟨x, List.mem_singleton_self x, hyw.tail hwx⟩
    | true =>
      obtain ⟨z, hz, hyz⟩ := ih
      rw [h.gives_of_block hx]
      exact ⟨z, List.mem_flatMap.2 ⟨w, hwx, hz⟩, hyz⟩

/-- The content of a node once all in it has given way. -/
noncomputable def unwrapped? (h : s.Sound) (x : NodeId) : Option (List NodeId) :=
  (s.content? x).map (·.flatMap h.gives)

/-! ### Stores between the two -/

/-- Some contents are unwrapped, and all others are as they were. -/
structure Partly (h : s.Sound) (t : Store) : Prop where
  size : t.size = s.size
  head : ∀ x, t.head x = s.head x
  content? : ∀ x, t.content? x = s.content? x ∨ t.content? x = h.unwrapped? x

variable {h : s.Sound}

theorem Partly.refl (h : s.Sound) : h.Partly s where
  size := rfl
  head _ := rfl
  content? _ := .inl rfl

theorem Partly.content (ht : h.Partly t) (x : NodeId) :
    t.content x = s.content x ∨ t.content x = (s.content x).flatMap h.gives := by
  rcases ht.content? x with hx | hx
  · exact .inl (content_eq_of_content? hx)
  · refine .inr ?_
    rw [Store.content, Store.content, hx, unwrapped?]
    cases s.content? x <;> rfl

theorem Partly.flatMap_gives (ht : h.Partly t) (x : NodeId) :
    (t.content x).flatMap h.gives = (s.content x).flatMap h.gives := by
  rcases ht.content x with hx | hx
  · rw [hx]
  · rw [hx, List.flatMap_assoc]
    exact List.flatMap_congr fun y _ => h.gives_idem y

theorem Partly.unwrapped? (ht : h.Partly t) (x : NodeId) :
    h.unwrapped? x = (t.content? x).map (·.flatMap h.gives) := by
  rcases ht.content? x with hx | hx
  · rw [hx]
    rfl
  · rw [hx, Sound.unwrapped?, Option.map_map]
    refine congrArg (Option.map · _) ?_
    funext content
    simp only [Function.comp_apply, List.flatMap_assoc]
    exact (List.flatMap_congr fun y _ => h.gives_idem y).symm

theorem Partly.inside (ht : h.Partly t) (hy : y ∈ t.content x) : TransGen s.Inside y x := by
  rcases ht.content x with hx | hx
  · rw [hx] at hy
    exact .single hy
  · rw [hx, List.mem_flatMap] at hy
    obtain ⟨z, hz, hy⟩ := hy
    exact .tail' (h.of_mem_gives hy).2 hz

theorem Partly.reflTransGen (ht : h.Partly t) (hy : ReflTransGen t.Inside y x) :
    ReflTransGen s.Inside y x := by
  induction hy with
  | refl => exact .refl
  | tail _ hz ih => exact ih.trans (ht.inside hz).to_reflTransGen

theorem Partly.sound (ht : h.Partly t) : t.Sound where
  closed x y hy := by
    obtain ⟨z, hz, -⟩ := TransGen.head'_iff.1 (ht.inside hy)
    exact (h.closed z y hz).trans_eq ht.size.symm
  tagged x hx := by
    rw [ht.head]
    apply h.tagged
    intro hn
    obtain ⟨y, hy⟩ := List.exists_mem_of_ne_nil _ hx
    obtain ⟨z, -, hz⟩ := TransGen.tail'_iff.1 (ht.inside hy)
    rw [Inside, hn] at hz
    exact nomatch hz
  acyclic := Subrelation.wf (fun hy => ht.inside hy) h.acyclic.transGen

/-- What is free stays free. -/
theorem Partly.free (ht : h.Partly t) {p : Head Markup → Bool} (hx : s.Free p x) : t.Free p x := by
  intro y hy
  rw [ht.head]
  exact hx y (ht.reflTransGen hy)

/-! ### Unwrapping nodes -/

/-- The nodes `ids` are unwrapped in the store `t`: they give way to `found`, all that lies in these is
unwrapped, and nothing is changed elsewhere. -/
structure Unwraps (h : s.Sound) (t : Store) (ids : List NodeId) (t' : Store)
    (found : List NodeId) : Prop where
  found : found = ids.flatMap h.gives
  partly : h.Partly t'
  step : ∀ x, t'.content? x = t.content? x ∨ t'.content? x = h.unwrapped? x
  done : ∀ x, s.Within ids x → (s.head x).isBlock = false → t'.content? x = h.unwrapped? x
  frame : ∀ x, ¬ s.Within ids x → t'.content? x = t.content? x

theorem Unwraps.nil (ht : h.Partly t) : h.Unwraps t [] t [] where
  found := rfl
  partly := ht
  step _ := .inl rfl
  done _ hx := nomatch hx.choose_spec.1
  frame _ _ := rfl

theorem Unwraps.cons {t₁ t₂ : Store} {here after : List NodeId} (h₁ : h.Unwraps t [x] t₁ here)
    (h₂ : h.Unwraps t₁ ids t₂ after) : h.Unwraps t (x :: ids) t₂ (here ++ after) where
  found := by
    rw [h₁.found, h₂.found, List.flatMap_singleton, List.flatMap_cons]
  partly := h₂.partly
  step y := by
    rcases h₂.step y with hy | hy
    · rw [hy]
      exact h₁.step y
    · exact .inr hy
  done y hy hb := by
    obtain ⟨z, hz, hyz⟩ := hy
    rcases List.mem_cons.1 hz with rfl | hz
    · have hd := h₁.done y ⟨z, List.mem_singleton_self z, hyz⟩ hb
      rcases h₂.step y with hy | hy
      · rw [hy, hd]
      · exact hy
    · exact h₂.done y ⟨z, hz, hyz⟩ hb
  frame y hy := by
    rw [h₂.frame y fun hw => hy ?_, h₁.frame y fun hw => hy ?_]
    · obtain ⟨z, hz, hyz⟩ := hw
      exact ⟨z, List.mem_cons.2 (.inl (List.mem_singleton.1 hz)), hyz⟩
    · obtain ⟨z, hz, hyz⟩ := hw
      exact ⟨z, List.mem_cons_of_mem _ hz, hyz⟩

theorem unwraps_flatVisit {visit : Store → NodeId → Store × List NodeId}
    (hv : ∀ x ∈ ids, ∀ t, h.Partly t → h.Unwraps t [x] (visit t x).1 (visit t x).2) (ht : h.Partly t) :
    h.Unwraps t ids (flatVisit visit t ids).1 (flatVisit visit t ids).2 := by
  induction ids generalizing t with
  | nil => exact .nil ht
  | cons x ids ih =>
    have h₁ := hv x (List.mem_cons_self ..) t ht
    have h₂ := ih (fun y hy => hv y (List.mem_cons_of_mem _ hy)) h₁.partly
    exact h₁.cons h₂

/-- A content that lies in a partly unwrapped store leads to the same nodes, blocks apart. -/
theorem Partly.within_iff (ht : h.Partly t) (hb : (s.head y).isBlock = false) :
    s.Within (t.content x) y ↔ s.Within (s.content x) y := by
  rcases ht.content x with hx | hx
  · rw [hx]
  · rw [hx]
    constructor
    · rintro ⟨z, hz, hyz⟩
      obtain ⟨w, hw, hz⟩ := List.mem_flatMap.1 hz
      exact ⟨w, hw, hyz.trans (h.of_mem_gives hz).2⟩
    · rintro ⟨w, hw, hyw⟩
      obtain ⟨z, hz, hyz⟩ := h.exists_mem_gives hb hyw
      exact ⟨z, List.mem_flatMap.2 ⟨w, hw, hz⟩, hyz⟩

theorem Partly.within_self (ht : h.Partly t) (hy : s.Within (t.content x) y) : s.Within [x] y := by
  obtain ⟨z, hz, hyz⟩ := hy
  exact ⟨x, List.mem_singleton_self x, hyz.trans (ht.inside hz).to_reflTransGen⟩

/-- Nothing is to be done for a node without content, and nothing lies in it but blocks. -/
theorem unwraps_unwrapNode_empty {within : Store → List NodeId → Store × List NodeId} (ht : h.Partly t)
    (hc : t.content x = []) : h.Unwraps t [x] (unwrapNode within t x).1 (unwrapNode within t x).2 := by
  have hu : unwrapNode within t x = (t, if (s.head x).isBlock then [] else [x]) := by
    simp [unwrapNode, hc, ht.head]
  have hx : t.content? x = h.unwrapped? x := by
    rw [ht.unwrapped?]
    cases hx : t.content? x with
    | none => rfl
    | some content =>
      rw [Store.content, hx] at hc
      cases hc
      rfl
  rw [hu]
  refine ⟨?_, ht, fun _ => .inl rfl, ?_, fun _ _ => rfl⟩
  · rw [List.flatMap_singleton, h.gives_eq, ← ht.flatMap_gives, hc]
    rfl
  · intro y hy hb
    obtain ⟨z, hz, hyz⟩ := hy
    rw [List.mem_singleton] at hz
    subst hz
    rcases ReflTransGen.cases_tail hyz with rfl | ⟨w, hyw, hw⟩
    · exact hx
    · have hin := (ht.within_iff hb).2 ⟨w, hw, hyw⟩
      rw [hc] at hin
      exact absurd hin.choose_spec.1 List.not_mem_nil

theorem unwrapNode_content {within : Store → List NodeId → Store × List NodeId} (ht : h.Partly t)
    (hc : t.content x ≠ []) (hlt : x < (within t (t.content x)).1.size) :
    unwrapNode within t x = ((within t (t.content x)).1.setContent x (within t (t.content x)).2,
      if (s.head x).isBlock then (within t (t.content x)).2 else [x]) := by
  have htag : (t.head x).isTag := ht.sound.tagged x hc
  have hcond : ((s.head x).isTag && !(t.content x).isEmpty) = true := by
    rw [← ht.head, htag]
    simpa using hc
  unfold unwrapNode
  simp only [ht.head, if_pos hcond]
  rw [content_setContent_self hlt]

/-- One node is unwrapped once its content has been. -/
theorem unwraps_unwrapNode {within : Store → List NodeId → Store × List NodeId} (ht : h.Partly t)
    (hw : h.Unwraps t (t.content x) (within t (t.content x)).1 (within t (t.content x)).2) :
    h.Unwraps t [x] (unwrapNode within t x).1 (unwrapNode within t x).2 := by
  by_cases hc : t.content x = []
  · exact unwraps_unwrapNode_empty ht hc
  have hlt : x < t.size := lt_size_of_content? (content?_ne_none hc)
  have hlt₁ : x < (within t (t.content x)).1.size := by rwa [hw.partly.size, ← ht.size]
  rw [unwrapNode_content ht hc hlt₁]
  set t₁ := (within t (t.content x)).1
  set found := (within t (t.content x)).2
  have hfound : found = (s.content x).flatMap h.gives := by
    rw [hw.found, ht.flatMap_gives]
  have hself : (t₁.setContent x found).content? x = h.unwrapped? x := by
    rw [content?_setContent_self hlt₁, ht.unwrapped?, content?_of_content hc, Option.map_some, hw.found]
  have hother : ∀ y, y ≠ x → (t₁.setContent x found).content? y = t₁.content? y :=
    fun y hy => content?_setContent_ne hy found
  constructor
  · rw [List.flatMap_singleton, h.gives_eq, hfound]
  · refine ⟨?_, fun y => ?_, fun y => ?_⟩
    · rw [size_setContent, hw.partly.size]
    · rw [head_setContent, hw.partly.head]
    · by_cases hy : y = x
      · exact .inr (hy ▸ hself)
      · rw [hother y hy]
        exact hw.partly.content? y
  · intro y
    by_cases hy : y = x
    · exact .inr (hy ▸ hself)
    · rw [hother y hy]
      exact hw.step y
  · intro y hy hb
    by_cases hyx : y = x
    · exact hyx ▸ hself
    · rw [hother y hyx]
      obtain ⟨z, hz, hyz⟩ := hy
      rw [List.mem_singleton] at hz
      subst hz
      obtain ⟨w, hyw, hwx⟩ := (ReflTransGen.cases_tail hyz).resolve_left fun he => hyx he.symm
      exact hw.done y ((ht.within_iff hb).2 ⟨w, hwx, hyw⟩) hb
  · intro y hy
    have hyx : y ≠ x := fun he => hy ⟨x, List.mem_singleton_self x, he ▸ .refl⟩
    rw [hother y hyx]
    exact hw.frame y fun hin => hy (ht.within_self hin)

theorem Partly.shallow (ht : h.Partly t) {depth : Nat} (hx : s.Shallow (depth + 1) x) :
    ∀ y ∈ t.content x, s.Shallow depth y := by
  intro y hy
  obtain ⟨z, hyz, hz⟩ := TransGen.tail'_iff.1 (ht.inside hy)
  exact (hx z hz).inside hyz

/-- The depth is enough when the store that is unwrapped is not deeper. -/
theorem unwraps_unwrapTo {depth : Nat} (ht : h.Partly t) (hd : ∀ x ∈ ids, s.Shallow depth x) :
    h.Unwraps t ids (unwrapTo depth t ids).1 (unwrapTo depth t ids).2 := by
  induction depth generalizing t ids with
  | zero =>
    cases ids with
    | nil => exact .nil ht
    | cons x ids => exact (hd x (List.mem_cons_self ..)).elim
  | succ depth ih =>
    refine unwraps_flatVisit (fun x hx t ht => ?_) ht
    exact unwraps_unwrapNode ht (ih ht (ht.shallow (hd x hx)))

/-! ### Depth -/

theorem flatVisit_congr {visit visit' : Store → NodeId → Store × List NodeId}
    (hv : ∀ x ∈ ids, ∀ t, h.Partly t → visit' t x = visit t x ∧ h.Partly (visit t x).1) (ht : h.Partly t) :
    flatVisit visit' t ids = flatVisit visit t ids := by
  induction ids generalizing t with
  | nil => rfl
  | cons x ids ih =>
    obtain ⟨hx, ht₁⟩ := hv x (List.mem_cons_self ..) t ht
    simp only [flatVisit, hx]
    rw [ih (fun y hy => hv y (List.mem_cons_of_mem _ hy)) ht₁]

/-- More depth makes no difference. -/
theorem unwrapTo_eq {depth depth' : Nat} (ht : h.Partly t) (hd : ∀ x ∈ ids, s.Shallow depth x)
    (hle : depth ≤ depth') : unwrapTo depth' t ids = unwrapTo depth t ids := by
  induction depth generalizing t ids depth' with
  | zero =>
    cases ids with
    | nil => cases depth' <;> rfl
    | cons x ids => exact (hd x (List.mem_cons_self ..)).elim
  | succ depth ih =>
    obtain ⟨depth', rfl⟩ := Nat.exists_eq_add_of_le' (Nat.one_le_of_lt hle)
    refine flatVisit_congr (fun x hx t ht => ?_) ht
    have hc := ht.shallow (hd x hx)
    refine ⟨?_, (unwraps_unwrapNode ht (unwraps_unwrapTo ht hc)).partly⟩
    simp only [unwrapNode, ih ht hc (Nat.le_of_succ_le_succ hle)]

/-! ### Unwrapping a store -/

/-- Unwrapping is bounded by the size of the store, and no less would be done without that bound. -/
theorem unwrapTo_eq_unwrap (h : s.Sound) (hids : ∀ x ∈ ids, x < s.size) {depth : Nat} (hd : s.size ≤ depth) :
    unwrapTo depth s ids = s.unwrap ids :=
  unwrapTo_eq (.refl h) (fun x hx => h.shallow (hids x hx)) hd

theorem unwraps_unwrap (h : s.Sound) (hids : ∀ x ∈ ids, x < s.size) :
    h.Unwraps s ids (s.unwrap ids).1 (s.unwrap ids).2 :=
  unwraps_unwrapTo (.refl h) fun x hx => h.shallow (hids x hx)

variable {found : List NodeId}

theorem Unwraps.within (hu : h.Unwraps t ids s' found) (hx : x ∈ found) :
    s.Within ids x ∧ (s.head x).isBlock = false := by
  rw [hu.found, List.mem_flatMap] at hx
  obtain ⟨z, hz, hx⟩ := hx
  exact ⟨⟨z, hz, (h.of_mem_gives hx).2⟩, (h.of_mem_gives hx).1⟩

/-- In what comes out of unwrapping there is no block at any depth. -/
theorem Unwraps.free (hu : h.Unwraps t ids s' found) : ∀ x ∈ found, s'.Free Head.isBlock x := by
  intro x hx
  apply Free.of_closed (P := fun x => s.Within ids x ∧ (s.head x).isBlock = false)
  · intro x hx y hy
    have hc : s'.content x = (s.content x).flatMap h.gives := by
      rw [Store.content, Store.content, hu.done x hx.1 hx.2, Sound.unwrapped?]
      cases s.content? x <;> rfl
    rw [hc, List.mem_flatMap] at hy
    obtain ⟨z, hz, hy⟩ := hy
    obtain ⟨w, hw, hxw⟩ := hx.1
    exact ⟨⟨w, hw, ((h.of_mem_gives hy).2.tail hz).trans hxw⟩, (h.of_mem_gives hy).1⟩
  · intro x hx
    rw [hu.partly.head]
    exact hx.2
  · exact hu.within hx

end Sound

/-- Where there are no blocks, unwrapping changes nothing. -/
theorem unwrapTo_of_free {depth : Nat} (hids : ∀ x ∈ ids, s.Free Head.isBlock x) :
    unwrapTo depth s ids = (s, ids) := by
  induction depth generalizing ids with
  | zero => rfl
  | succ depth ih =>
    have node : ∀ x, s.Free Head.isBlock x → unwrapNode (unwrapTo depth) s x = (s, [x]) := by
      intro x hx
      have hb : (s.head x).isBlock = false := hx.self
      simp only [unwrapNode, hb, ih fun y hy => hx.inside hy, Bool.false_eq_true, if_false, Prod.mk.injEq,
        and_true]
      split
      · next hc =>
        apply setContent_content
        rintro hn
        simp [hn] at hc
      · rfl
    rw [unwrapTo]
    induction ids with
    | nil => rfl
    | cons x ids ihs =>
      simp only [flatVisit, node x (hids x (List.mem_cons_self ..)),
        ihs fun y hy => hids y (List.mem_cons_of_mem _ hy), List.singleton_append]

end LayoutInheritance.Store
