import LayoutInheritance.Proofs.Inheritance.Document
import LayoutInheritance.Proofs.Inheritance.Resumption

/-! Trying again. When a resolution has failed because a layout is missing, it may be repeated on the same tree as soon
as the layout is there, and comes to what it comes to on a tree that has just been read. -/

namespace LayoutInheritance

open Outline (ids heightAll)

/-- More texts make a larger library. -/
theorem Library.extends_ofTexts {texts texts' : Dictionary String String}
    (h : ∀ path text, texts.get? path = some text → texts'.get? path = some text) :
    (Library.ofTexts texts').Extends (.ofTexts texts) := by
  intro path encoding text hr
  simp only [ofTexts] at hr ⊢
  cases hg : texts.get? path with
  | none =>
    rw [hg] at hr
    cases hr
  | some text' =>
    rw [hg] at hr
    rw [h path text' hg]
    exact hr

namespace Resolver

variable {c : Resolver} {document : Option String} {os : List Outline} {r : Run} {library : Library}

/-- What resolving a tree comes to: a document or a failure. -/
def comesTo (c : Resolver) (document : Option String) (tree : List NodeId) (r : Run) : Except Failure (List Markup) :=
  let (out, r') := (c.resolve document tree).run r
  out.map r'.store.document

theorem Resumable.of_holds (ho : r.store.Holds os) (hs : r.store.Sound) :
    c.Resumable document r.chain (fun _ => False) os r where
  sound := hs
  chain_eq := rfl
  nodup := ho.nodup
  old _ hx := ⟨ho.lt_size hx, id⟩
  ready := .of_holds ho

/-- However a resolution has ended, its tree may be resolved again, with a larger library. -/
theorem Resumable.again_of_holds (document : Option String) (ho : r.store.Holds os) (hs : r.store.Sound)
    (hl : library.Extends c.library) :
    ({ c with library } : Resolver).Resumable document r.chain (fun x => r.store.size ≤ x) os
      ((c.resolve document (os.map Outline.id)).run r).2 := by
  have h : c.Resumable document r.chain (fun _ => False) os r := .of_holds ho hs
  have hr := h.resolved ((Outline.heightAll_le_length os).trans ho.length_le)
  refine ⟨hr.sound, hr.chain_eq, ho.nodup, fun x hx => ?_, ?_⟩
  · exact ⟨(ho.lt_size hx).trans_le hr.alters.size_le, not_le.2 (ho.lt_size hx)⟩
  · exact hr.ready.imp (fun ms found => meaningAll_extend hl ms found) fun x _ hx => hx.resolve_left id

/-- Resolving a tree again comes to what resolving a fresh one with the same document comes to. -/
theorem comesTo_again {s : Run} {os' : List Outline} (hl : library.Extends c.library) (ho : r.store.Holds os)
    (hs : r.store.Sound) (ho' : s.store.Holds os') (hs' : s.store.Sound) (hchain : s.chain = r.chain)
    (hm : Outline.markupAll os' = Outline.markupAll os) :
    ({ c with library } : Resolver).comesTo document (os.map Outline.id)
        ((c.resolve document (os.map Outline.id)).run r).2 =
      ({ c with library } : Resolver).comesTo document (os'.map Outline.id) s := by
  have hheight : heightAll os ≤ r.store.size := (Outline.heightAll_le_length os).trans ho.length_le
  have hfirst : c.Resumable document r.chain (fun _ => False) os r := .of_holds ho hs
  have hgrown := (hfirst.resolved hheight).alters.size_le
  have hagain := (Resumable.again_of_holds document ho hs hl).resolved (hheight.trans hgrown)
  have hfresh : ({ c with library } : Resolver).Resumable document s.chain (fun _ => False) os' s :=
    .of_holds ho' hs'
  have hfreshly := hfresh.resolved ((Outline.heightAll_le_length os').trans ho'.length_le)
  exact hagain.document_eq.trans (hm ▸ hchain ▸ hfreshly.document_eq.symm)

end Resolver

theorem ok_of_run {α : Type} {x : Except Failure α × Run} {a : α} (h : x.1.toOption = some a) : x = (.ok a, x.2) :=
  Prod.ext (ok_of_toOption h) rfl

namespace Setting

/-- A resolution may be tried again on the same tree. Whether it has failed or not, and however far it had come, with
a library that has all that the old one had, and maybe more, it comes to the same document as on a tree that is read
afresh, wherever that is, or to the same failure. -/
theorem resolution_retried {setting : Setting} {library : Library} {filename document name : Option String}
    {text : String} {tree tree' : List NodeId} {r s s₁ : Run} (hl : library.Extends setting.library)
    (hp : (Step.parse text name).run {} = (.ok tree, r)) (hs : s.store.Sound)
    (hp' : (Step.parse text name).run s = (.ok tree', s₁)) :
    let tried := ((setting.resolver filename).resolve document tree).run { r with chain := setting.chainFor filename }
    let resolver := ({ setting with library } : Setting).resolver filename
    resolver.comesTo document tree tried.2 =
      resolver.comesTo document tree' { s₁ with chain := setting.chainFor filename } := by
  obtain ⟨ms, os, hd, rfl, rfl, hst, hsound⟩ := Resolver.parse_stored hp
  obtain ⟨_, os', hd', rfl, rfl, hst', hsound'⟩ := Resolver.parse_stored hp'
  exact Resolver.comesTo_again (c := setting.resolver filename) (r := { r with chain := setting.chainFor filename })
    (s := { s₁ with chain := setting.chainFor filename }) hl hst.holds (hsound Store.sound_empty) hst'.holds
    (hsound' hs) rfl (Except.ok.inj (hd'.symm.trans hd))

/-- The layout `b` is missing at first. Until then, the content of `p` has been replaced by the layout `a`. -/
theorem resolution_retried_missing :
    let texts := [("/w/a", "<b>1</b>")]
    let setting := ofTexts texts
    let library := Library.ofTexts (("/w/b", "2") :: texts)
    let read := (Step.parse "<p><extends src=a></extends></p><extends src=b></extends>" none).run {}
    let start := { read.2 with chain := setting.chainFor none }
    let tried := ((setting.resolver none).resolve none [1, 2]).run start
    let resolver := ({ setting with library } : Setting).resolver none
    read.1.toOption = some [1, 2] ∧
      (match tried.1 with
        | .error (.file (.textMissing path)) => some path
        | _ => none) = some "/w/b" ∧
      Markup.renderAll (tried.2.store.document [1, 2]) = "<p><b>1</b></p><extends src=\"b\"></extends>" ∧
      (resolver.comesTo none [1, 2] tried.2).toOption.map Markup.renderAll = some "<p><b>1</b></p>2" ∧
      resolver.comesTo none [1, 2] tried.2 = resolver.comesTo none [1, 2] start := by
  intro texts setting library read start tried resolver
  have h : read.1.toOption = some [1, 2] ∧
      (match tried.1 with
        | .error (.file (.textMissing path)) => some path
        | _ => none) = some "/w/b" ∧
      Markup.renderAll (tried.2.store.document [1, 2]) = "<p><b>1</b></p><extends src=\"b\"></extends>" ∧
      (resolver.comesTo none [1, 2] tried.2).toOption.map Markup.renderAll = some "<p><b>1</b></p>2" := by
    decide +kernel
  have hp : read = (.ok [1, 2], read.2) := ok_of_run h.1
  have hmissing : Dictionary.get? texts "/w/b" = none := by decide +kernel
  have hl : library.Extends setting.library :=
    Library.extends_ofTexts fun path text hget => by
      have hne : path ≠ "/w/b" := fun he => nomatch (he ▸ hget).symm.trans hmissing
      rw [Dictionary.get?_cons, if_neg (by simpa using hne)]
      exact hget
  exact ⟨h.1, h.2.1, h.2.2.1, h.2.2.2, resolution_retried hl hp Store.sound_empty hp⟩

end Setting

end LayoutInheritance
