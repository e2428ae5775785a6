import LayoutInheritance.Proofs.Inheritance.Retry

/-! One resolver for many documents. However the resolution of a document ends, the layouts in progress are those from
before, and the nodes that it leaves behind have no part in the next one. So each document is answered as by a resolver
that has just been made, whatever came before it. -/

namespace LayoutInheritance

/-- A document that is given to a resolver. It has just been read from a text; `name` is what it is called where it is
the parent of a dependency, and the library is as it is by then. -/
structure Order where
  text : String
  filename : Option String
  tree : List Markup
  read : Markup.parse text filename = .ok tree
  name : Option String
  library : Library

/-- The run `r` when the document has been read into its store. -/
def Order.start (o : Order) (r : Run) : Run :=
  { r with store := (r.store.addAll o.tree).1 }

/-- The nodes that the document is read into. -/
def Order.nodes (o : Order) (r : Run) : List NodeId :=
  (r.store.addAll o.tree).2

/-- What a resolver makes of a document: the outcome, the layouts in progress after it, and all that has been done for
it, in order. -/
structure Answer where
  outcome : Except Failure (List Markup)
  chain : List String
  done : List Event

namespace Resolver

/-- Resolves a document. The run goes on after a failure. -/
def answer (c : Resolver) (r : Run) (o : Order) : Answer × Run :=
  let ended := (({ c with library := o.library } : Resolver).resolve o.name (o.nodes r)).run (o.start r)
  (⟨ended.1.map ended.2.store.document, ended.2.chain, ended.2.history.drop r.history.length⟩, ended.2)

/-- Resolves documents, one after the other. -/
def answers (c : Resolver) : Run → List Order → List Answer
  | _, [] => []
  | r, o :: rest => (c.answer r o).1 :: c.answers (c.answer r o).2 rest

variable {c : Resolver} {r t : Run} {k : ℕ} {before : List Event} {os os' : List Outline}

/-- Among other nodes a resolution comes to the same, and does the same on the way. -/
theorem resolve_shifted (document : Option String) (h : Run.Shifted k before r t) (ho : r.store.Holds os)
    (hs : r.store.Sound) (ho' : t.store.Holds os') (hs' : t.store.Sound)
    (hid : os'.map Outline.id = (os.map Outline.id).map (· + k)) :
    let done := (c.resolve document (os.map Outline.id)).run r
    let done' := (c.resolve document (os'.map Outline.id)).run t
    done'.1.map done'.2.store.document = done.1.map done.2.store.document ∧ Run.Shifted k before done.2 done'.2 := by
  intro done done'
  have hr : c.Resolves (.tree document (os.map Outline.id)) r done.1 done.2 := follows_resolve ho hs
  have hr' : c.Resolves (.tree document (os'.map Outline.id)) t done'.1 done'.2 := follows_resolve ho' hs'
  obtain ⟨-, hsound, hresult⟩ := hr.change os rfl ho hs
  obtain ⟨t', ht, hafter⟩ := hr.shift os rfl ho hs h
  rw [Call.shift, ← hid] at ht
  obtain ⟨hout, hrun⟩ := hr'.unique ht
  rw [hout, hrun]
  refine ⟨?_, hafter⟩
  cases hfound : done.1 with
  | error e => rfl
  | ok found =>
    have hlt : ∀ x ∈ found, x < done.2.store.size := fun x hx => (hresult found hfound x hx).2.1
    exact congrArg Except.ok (hafter.store.document hsound hlt)

/-- A document that is read into a sound store stands there in new nodes. -/
theorem exists_held (o : Order) (hs : r.store.Sound) : ∃ os : List Outline,
    os.map Outline.id = o.nodes r ∧ (o.start r).store.Holds os ∧ (o.start r).store.Sound := by
  obtain ⟨os, hm, hid, hst⟩ := Store.stored_addAll r.store o.tree
  exact ⟨os, hid, hst.holds, hst.sound hs (hm ▸ Markup.tagged_of_read o.read)⟩

/-- A document is answered as in a run in which nothing has been done, with the same layouts in progress; and it leaves
these as they are. -/
theorem answer_eq (c : Resolver) (hs : r.store.Sound) (o : Order) :
    (c.answer r o).1 = (c.answer { chain := r.chain } o).1 ∧ (c.answer r o).2.chain = r.chain ∧
      (c.answer r o).2.store.Sound := by
  obtain ⟨os, hid, ho, hsound⟩ := exists_held (r := { chain := r.chain }) o Store.sound_empty
  obtain ⟨os', hid', ho', hsound'⟩ := exists_held o hs
  obtain ⟨hids, hstores⟩ := (Store.Shifted.empty r.store).addAll o.tree
  have hstart : Run.Shifted r.store.size r.history (o.start { chain := r.chain }) (o.start r) :=
    ⟨hstores, rfl, (List.append_nil _).symm⟩
  obtain ⟨houtcome, hafter⟩ := resolve_shifted (c := { c with library := o.library }) o.name hstart ho hsound ho' hsound'
    (by rw [hid, hid']; exact hids)
  have hr' : Resolves { c with library := o.library } (.tree o.name (os'.map Outline.id)) (o.start r) _ _ :=
    follows_resolve ho' hsound'
  rw [hid, hid'] at houtcome hafter
  rw [hid'] at hr'
  refine ⟨?_, hr'.chain, (hr'.change os' hid' ho' hsound').2.1⟩
  simp only [answer, houtcome, hafter.chain, hafter.history, List.drop_left]
  rfl

/-- One document after the other is answered in this way. -/
theorem answers_eq (c : Resolver) (hs : r.store.Sound) (orders : List Order) :
    c.answers r orders = orders.map fun o => (c.answer { chain := r.chain } o).1 := by
  induction orders generalizing r with
  | nil => rfl
  | cons o rest ih =>
    obtain ⟨hanswer, hchain, hsound⟩ := c.answer_eq hs o
    rw [answers, hanswer, ih hsound, hchain, List.map_cons]

end Resolver

/-- A resolver may be used again after any outcome. Of documents that are resolved one after the other, each with a
library of its own and each with whatever outcome, every one finds the layouts in progress that a new resolver begins
with, and is answered as by a new one: with the same document or failure, and with the same done on the way. -/
theorem Setting.resolver_reusable (setting : Setting) (filename : Option String) (orders : List Order) :
    let c := setting.resolver filename
    let new : Run := { chain := setting.chainFor filename }
    c.answers new orders = orders.map (fun o => (c.answer new o).1) ∧
      ∀ a ∈ c.answers new orders, a.chain = new.chain := by
  intro c new
  have hanswers : c.answers new orders = orders.map fun o => (c.answer new o).1 :=
    c.answers_eq Store.sound_empty orders
  refine ⟨hanswers, fun a ha => ?_⟩
  rw [hanswers] at ha
  obtain ⟨o, -, rfl⟩ := List.mem_map.1 ha
  exact (c.answer_eq (r := new) Store.sound_empty o).2.1

end LayoutInheritance
