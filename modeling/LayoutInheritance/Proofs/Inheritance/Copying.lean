import LayoutInheritance.Proofs.Block.Copying
import LayoutInheritance.Proofs.Inheritance.Bounds

/-! Resolution by copies. On documents that are never changed, an element that extends a layout gives way to
the filled copy of the resolved layout, and the chain of layouts in progress is handed down. There are no
nodes, no store and no bounds in it: a layout may be opened only when no layout at its path is in progress,
so fewer and fewer paths are left. -/

namespace LayoutInheritance

/-- A step on documents. What has been done stays when it fails. -/
abbrev Trace (α : Type) := ExceptT Failure (StateM (List Event)) α

def Trace.note (events : List Event) : Trace Unit :=
  modify (· ++ events)

theorem Trace.run_note (events done : List Event) : (note events).run done = (.ok (), done ++ events) := rfl

/-- Fills the blocks of a copy of the layout. -/
def Markup.fillCopy (layout template : List Markup) : Trace (List Markup) := do
  let m := Markup.merge layout template
  Trace.note (.merging layout template :: m.1.map fun f => .merged f.1 f.2)
  match m.2 with
  | .error issue => throw (.issue issue)
  | .ok found => return found

namespace Resolver

/-- What an extending element gives way to. The layout is resolved first, by `inherit`, then the element's
own content, by `resolve`. -/
def copyExpand (c : Resolver) (inherit : String → Location → Trace (List Markup)) (document : Option String)
    (h : Head Markup) (resolve : Trace (List Markup)) : Trace (List Markup) :=
  match h.attribute? "src" with
  | none => throw (.issue (.missingSource (some h.location)))
  | some source => do
    let layout ← inherit (c.layoutPath source) h.location
    if c.tracking then Trace.note [.depends ⟨c.layoutPath source, document⟩]
    let template ← resolve
    Markup.fillCopy layout template

mutual

/-- What one node gives way to. -/
def copyNode (c : Resolver) (inherit : String → Location → Trace (List Markup)) (document : Option String) :
    Markup → Trace (List Markup)
  | .leaf h =>
    if h.isExtends then c.copyExpand inherit document h (return []) else return [.leaf h]
  | .branch h content =>
    if h.isExtends then c.copyExpand inherit document h (copyAll c inherit document content)
    else do
      let content ← copyAll c inherit document content
      return [.branch h content]

def copyAll (c : Resolver) (inherit : String → Location → Trace (List Markup)) (document : Option String) :
    List Markup → Trace (List Markup)
  | [] => return []
  | m :: rest => do
    let here ← copyNode c inherit document m
    let after ← copyAll c inherit document rest
    return here ++ after

end

/-- The resolved layout at a path that an element at `l` extends. -/
def copyLayout (c : Resolver) (document : Option String) (chain : List String) (path : String)
    (l : Location) :
    Trace (List Markup) :=
  if _ : path ∈ chain then throw (.issue (.circular (chain ++ [path]) (some l)))
  else do
    Trace.note [.loading path c.encoding document]
    match _ : c.library.read path c.encoding with
    | .error fault => throw (.file fault)
    | .ok text =>
      Trace.note (Step.parseEvents text (some path))
      match Markup.parse text (some path) with
      | .error fault => throw fault.failure
      | .ok tree =>
        Trace.note [.entered path]
        let found ← c.copyAll (copyLayout c (some path) (chain ++ [path])) (some path) tree
        Trace.note [.left path]
        return found
termination_by (c.unopened chain).length
decreasing_by exact unopened_append_lt (c.library.mem_paths _ _ _ ‹_›) ‹_›

/-- Resolves all inheritance in a document. -/
def copy (c : Resolver) (document : Option String) (chain : List String) (ms : List Markup) :
    Trace (List Markup) :=
  c.copyAll (c.copyLayout document chain) document ms

/-! ### What the steps do -/

variable {c : Resolver} {document : Option String} {chain : List String}

theorem run_copyLayout {path : String} (hc : path ∉ chain) (l : Location) (done : List Event) :
    (c.copyLayout document chain path l).run done =
      match c.library.read path c.encoding with
      | .error fault => (.error (.file fault), done ++ [.loading path c.encoding document])
      | .ok text =>
        match Markup.parse text (some path) with
        | .error fault => (.error fault.failure,
            done ++ [.loading path c.encoding document] ++ Step.parseEvents text (some path))
        | .ok tree =>
          match (c.copy (some path) (chain ++ [path]) tree).run (done ++ [.loading path c.encoding document] ++
            Step.parseEvents text (some path) ++ [.entered path]) with
          | (.error e, after) => (.error e, after)
          | (.ok found, after) => (.ok found, after ++ [.left path]) := by
  rw [copyLayout, dif_neg hc, Step.run_bind, Trace.run_note]
  simp only
  split
  · next fault hr =>
    rw [hr]
    rfl
  · next text hr =>
    rw [hr, Step.run_bind, Trace.run_note]
    simp only
    cases Markup.parse text (some path) with
    | error fault => rfl
    | ok tree =>
      simp only [Step.run_bind, Trace.run_note, copy]
      generalize (c.copyAll (c.copyLayout (some path) (chain ++ [path])) (some path) tree).run _ = result
      obtain ⟨e | found, after⟩ := result
      · rfl
      · rfl

theorem run_copy_singleton (m : Markup) (done : List Event) :
    (c.copy document chain [m]).run done = (c.copyNode (c.copyLayout document chain) document m).run done := by
  rw [copy, copyAll, Step.run_bind]
  rcases (c.copyNode (c.copyLayout document chain) document m).run done with ⟨e | here, after⟩
  · rfl
  · simp only [copyAll, Step.run_bind, Step.run_pure, List.append_nil]

theorem run_copy_cons (m : Markup) (ms : List Markup) (done : List Event) :
    (c.copy document chain (m :: ms)).run done =
      match (c.copy document chain [m]).run done with
      | (.error e, after) => (.error e, after)
      | (.ok here, after) =>
        match (c.copy document chain ms).run after with
        | (.error e, after) => (.error e, after)
        | (.ok rest, after) => (.ok (here ++ rest), after) := by
  rw [run_copy_singleton, copy, copyAll, Step.run_bind]
  rcases (c.copyNode (c.copyLayout document chain) document m).run done with ⟨e | here, after⟩
  · rfl
  · simp only [copy, Step.run_bind]
    rcases (c.copyAll (c.copyLayout document chain) document ms).run after with ⟨e | rest, after⟩
    · rfl
    · rfl

/-- A node that extends nothing keeps its place. -/
theorem run_copy_kept {o : Outline} (hx : o.head.isExtends = false) (done : List Event) :
    (c.copy document chain [o.markup]).run done =
      match (c.copy document chain (Outline.markupAll o.content)).run done with
      | (.error e, after) => (.error e, after)
      | (.ok content, after) => (.ok [.ofContent? o.head (o.content?.map fun _ => content)], after) := by
  rw [run_copy_singleton]
  cases o with
  | leaf id h =>
    have hx' : h.isExtends = false := hx
    rw [Outline.markup, copyNode, hx']
    rfl
  | branch id h content =>
    have hx' : h.isExtends = false := hx
    rw [Outline.markup, copyNode, hx', copy, show (Outline.branch id h content).content = content from rfl]
    simp only [Bool.false_eq_true, if_false, Step.run_bind]
    rcases (c.copyAll (c.copyLayout document chain) document (Outline.markupAll content)).run done with
      ⟨e | content, after⟩
    · rfl
    · rfl

theorem run_copyExpand (h : Head Markup) (resolve : Trace (List Markup)) (done : List Event) :
    (c.copyExpand (c.copyLayout document chain) document h resolve).run done =
      match h.attribute? "src" with
      | none => (.error (.issue (.missingSource (some h.location))), done)
      | some source =>
        match (c.copyLayout document chain (c.layoutPath source) h.location).run done with
        | (.error e, after) => (.error e, after)
        | (.ok layout, after) =>
          match resolve.run (after ++ if c.tracking then [.depends ⟨c.layoutPath source, document⟩] else []) with
          | (.error e, after) => (.error e, after)
          | (.ok template, after) => (Markup.fillCopy layout template).run after := by
  rw [copyExpand]
  cases h.attribute? "src" with
  | none => rfl
  | some source =>
    simp only [Step.run_bind]
    rcases (c.copyLayout document chain (c.layoutPath source) h.location).run done with ⟨e | layout, after⟩
    · rfl
    · cases c.tracking with
      | false =>
        simp only [Bool.false_eq_true, if_false, Step.run_bind, List.append_nil]
        rcases resolve.run after with ⟨e | template, after⟩ <;> rfl
      | true =>
        simp only [if_true, Step.run_bind, Trace.run_note]
        generalize resolve.run _ = result
        obtain ⟨e | template, after⟩ := result <;> rfl

theorem run_copy_extends {o : Outline} (hx : o.head.isExtends) (done : List Event) :
    (c.copy document chain [o.markup]).run done =
      match o.head.attribute? "src" with
      | none => (.error (.issue (.missingSource (some o.head.location))), done)
      | some source =>
        match (c.copyLayout document chain (c.layoutPath source) o.head.location).run done with
        | (.error e, after) => (.error e, after)
        | (.ok layout, after) =>
          match (c.copy document chain (Outline.markupAll o.content)).run
            (after ++ if c.tracking then [.depends ⟨c.layoutPath source, document⟩] else []) with
          | (.error e, after) => (.error e, after)
          | (.ok template, after) => (Markup.fillCopy layout template).run after := by
  rw [run_copy_singleton]
  cases o with
  | leaf id h =>
    have hx' : h.isExtends = true := hx
    rw [Outline.markup, copyNode, hx']
    exact run_copyExpand h (return []) done
  | branch id h content =>
    have hx' : h.isExtends = true := hx
    rw [Outline.markup, copyNode, hx']
    exact run_copyExpand h _ done

theorem run_fillCopy (layout template : List Markup) (done : List Event) :
    (Markup.fillCopy layout template).run done =
      ((Markup.merge layout template).2.mapError Failure.issue,
        done ++ .merging layout template :: (Markup.merge layout template).1.map fun f => .merged f.1 f.2) := by
  rw [Markup.fillCopy, Step.run_bind, Trace.run_note]
  cases (Markup.merge layout template).2 with
  | error issue => rfl
  | ok found => rfl

end Resolver

end LayoutInheritance
