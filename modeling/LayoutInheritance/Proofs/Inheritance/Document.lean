import LayoutInheritance.Proofs.Inheritance.Bounds

/-! A whole document. It is read into an empty store, its resolution begins with a chain of its own, and
what it gives way to is unwrapped. Whatever the document, the library and the options, its processing
ends in one of three ways. -/

namespace LayoutInheritance

open Resolver (Call)

theorem ok_of_toOption {ε α : Type} {x : Except ε α} {a : α} (h : x.toOption = some a) : x = .ok a := by
  cases x with
  | error => exact nomatch h
  | ok => exact congrArg _ (Option.some.inj h)

namespace Setting

variable {setting : Setting} {filename : Option String} {text : String}

/-- The resolver that a document is flattened with: its root is filled in. -/
def flattening (setting : Setting) (filename : Option String) : Resolver :=
  { setting with options := setting.options.resolveFor setting.cwd filename : Setting }.resolver filename

/-- Documents in the directory `/w` with layouts in memory. -/
def ofTexts (texts : Dictionary String String) : Setting where
  library := .ofTexts texts
  cwd := Path.ofString "/w"

/-- The run `r` when the resolution of a whole document begins in it. -/
def opened (setting : Setting) (filename : Option String) (r : Run) : Run :=
  { r.note [.resolving filename ((setting.options.resolveFor setting.cwd filename).rootFor filename).text] with
    chain := setting.chainFor filename }

@[simp] theorem store_opened (r : Run) : (setting.opened filename r).store = r.store := rfl

theorem run_flatten (tree : List NodeId) (r : Run) :
    (setting.flatten filename tree).run r =
      match ((setting.flattening filename).resolve filename tree).run (setting.opened filename r) with
      | (.error e, r₁) => (.error e, { r₁ with chain := r.chain })
      | (.ok found, r₁) =>
        (.ok (r₁.store.unwrap found).2, { r₁ with store := (r₁.store.unwrap found).1, chain := r.chain }) := by
  have hr : ((({ setting with options := setting.options.resolveFor setting.cwd filename } : Setting).resolve
      filename tree).run (r.note [.resolving filename
        ((setting.options.resolveFor setting.cwd filename).rootFor filename).text])) =
      ((((setting.flattening filename).resolve filename tree).run (setting.opened filename r)).1,
        { (((setting.flattening filename).resolve filename tree).run (setting.opened filename r)).2 with
          chain := r.chain }) := rfl
  rw [flatten, Step.run_bind, Step.run_note]
  simp only [Step.run_bind, hr]
  rcases ((setting.flattening filename).resolve filename tree).run (setting.opened filename r) with
    ⟨e | found, r₁⟩
  · rfl
  · rfl

/-- The ways in which the processing of a document ends. -/
inductive Processes (setting : Setting) (filename : Option String) (text : String) : Processed → Prop
  | unparsed {e r} : (Step.parse text none).run {} = (.error e, r) →
      Processes setting filename text ⟨.error e, r⟩
  | stopped {tree r e r₁} : (Step.parse text none).run {} = (.ok tree, r) →
      (setting.flattening filename).Resolves (.tree filename tree) (setting.opened filename r) (.error e) r₁ →
      Processes setting filename text ⟨.error e, { r₁ with chain := [] }⟩
  | flattened {tree r found r₁} : (Step.parse text none).run {} = (.ok tree, r) →
      (setting.flattening filename).Resolves (.tree filename tree) (setting.opened filename r) (.ok found) r₁ →
      Processes setting filename text
        ⟨.ok (r₁.store.unwrap found).2, { r₁ with store := (r₁.store.unwrap found).1, chain := [] }⟩

theorem processes (setting : Setting) (filename : Option String) (text : String) :
    setting.Processes filename text (setting.processed filename text) := by
  rw [processed, process, Step.run_bind]
  rcases hp : (Step.parse text none).run {} with ⟨e | tree, r⟩
  · exact .unparsed hp
  · obtain ⟨_, os, -, -, rfl, hst, hs⟩ := Resolver.parse_stored hp
    have hf : (setting.flattening filename).Follows (.tree filename (os.map Outline.id))
        ((setting.flattening filename).resolve filename (os.map Outline.id)) (setting.opened filename r) :=
      Resolver.follows_resolve hst.holds (hs Store.sound_empty)
    have hc : r.chain = [] := Resolver.parse_chain hp
    simp only [run_flatten, hc]
    rcases hr : ((setting.flattening filename).resolve filename (os.map Outline.id)).run
      (setting.opened filename r) with ⟨e | found, r₁⟩
    · exact .stopped hp (hf.of_run hr)
    · exact .flattened hp (hf.of_run hr)

/-- The nodes that a document gives way to are stored, in a sound store, and nothing in them extends a layout. -/
theorem sound_of_resolved {tree found : List NodeId} {r r₁ : Run} (hp : (Step.parse text none).run {} = (.ok tree, r))
    (hr : (setting.flattening filename).Resolves (.tree filename tree) (setting.opened filename r) (.ok found) r₁) :
    r₁.store.Sound ∧ ∀ x ∈ found, x < r₁.store.size ∧ r₁.store.Free Head.isExtends x := by
  obtain ⟨_, os, -, -, rfl, hst, hs⟩ := Resolver.parse_stored hp
  obtain ⟨-, hs₁, hfound⟩ := hr.change os rfl hst.holds (hs Store.sound_empty)
  exact ⟨hs₁, fun x hx => (hfound found rfl x hx).2⟩

end Setting

end LayoutInheritance
