import LayoutInheritance.Proofs.Inheritance.Graph

/-! Circular inheritance. A chain that is refused is a walk through the graph of documents that comes back
to a layout in progress, and to no other before. A document that is resolved leads to no cycle: each layout
that it leads to is settled, which means that the layouts that this one extends are settled in turn. -/

namespace LayoutInheritance

open Outline (ids partsAll)
open Relation (ReflTransGen TransGen)

namespace Resolver

variable {c : Resolver} {start : List String} {main : List Markup} {layouts : List String} {path : String}
  {call : Call} {r r' : Run} {out : Except Failure (List NodeId)}

/-! ### Soundness -/

variable {chain : List String} {l : Option Location}

theorem parse_ne_circular {text : String} {filename : Option String}
    (h : (Step.parse text filename).run r = (out, r')) : out ≠ .error (.issue (.circular chain l)) := by
  rw [Step.run_parse] at h
  rintro rfl
  split at h
  · next fault _ => cases fault <;> cases h
  · cases h

theorem merge_ne_circular {layout template : List NodeId}
    (h : (Step.merge layout template).run r = (out, r')) : out ≠ .error (.issue (.circular chain l)) := by
  have hi : (r.store.merge layout template).issue? ≠ some (.circular chain l) := by
    unfold Store.merge
    split
    · simp
    · simp
    · next blocks overrides _ _ =>
      cases (Filling.fillAll { store := r.store, unclaimed := overrides } blocks).unclaimed.head? <;> simp
  rw [Step.run_merge] at h
  rintro rfl
  split at h
  · next issue hs =>
    cases h
    exact hi hs
  · exact nomatch h

/-- The call, or one that it makes, comes upon an element that extends a layout in progress. -/
def Meets (c : Resolver) (chain : List String) (p : Call × Run) : Prop :=
  ∃ document id r source, ReflTransGen c.Calls p (.node document id, r) ∧
    (r.store.head id).source? = some source ∧ c.layoutPath source ∈ r.chain ∧
    chain = r.chain ++ [c.layoutPath source]

theorem Meets.of_calls {p q : Call × Run} (hq : c.Meets chain q) (h : c.Calls p q) : c.Meets chain p := by
  obtain ⟨document, id, r, source, hr, hs⟩ := hq
  exact ⟨document, id, r, source, .head h hr, hs⟩

/-- A circular chain is refused where an element extends a layout in progress. -/
theorem Resolves.meets (h : c.Resolves call r out r') (he : out = .error (.issue (.circular chain l))) :
    c.Meets chain (call, r) := by
  induction h with
  | nil | keep | inside | load => exact nomatch he
  | stop _ ih => exact (ih he).of_calls .first
  | @cons _ _ _ _ _ _ out _ hr _ _ ih =>
    cases out with
    | error e => exact (ih he).of_calls (.rest hr)
    | ok after => exact nomatch he
  | insideStop hx _ _ ih => exact (ih he).of_calls (.inside hx)
  | noSource => exact nomatch he
  | circular hs hm =>
    cases he
    exact ⟨_, _, _, _, .refl, hs, hm, rfl⟩
  | layoutStop hs hn _ ih => exact (ih he).of_calls (.layout hs hn)
  | templateStop hs hn hl _ _ ih => exact (ih he).of_calls (.template hs hn hl)
  | merge _ _ _ _ hm => exact absurd he (merge_ne_circular hm)
  | unread => exact nomatch he
  | unparsed _ hp => exact absurd he (parse_ne_circular hp)
  | loadStop hr hp _ ih => exact (ih he).of_calls (.load hr hp)

/-- A chain that begins with `start` and goes on through the graph of documents, and whose last path is the
only one that comes twice. -/
structure Closes (c : Resolver) (start : List String) (main : List Markup) (chain : List String) : Prop where
  walk : ∃ layouts, layouts ≠ [] ∧ chain = start ++ layouts ∧
    List.IsChain (c.Extends main) (.main :: layouts.map .layout)
  closes : ∃ earlier last, chain = earlier ++ [last] ∧ last ∈ earlier ∧ earlier.Nodup

theorem Meets.closes {p : Call × Run} (h : c.Meets chain p) (hp : c.Along start main layouts p) :
    c.Closes start main chain := by
  obtain ⟨document, id, r, source, hr, hs, hm, rfl⟩ := h
  obtain ⟨layouts', ha⟩ := along_of_calls hr hp
  obtain ⟨os, hid, ho, he⟩ := ha.held
  obtain ⟨o, rfl, rfl⟩ := List.map_eq_singleton_iff.1 hid
  rw [ho.root.head] at hs
  have hedge := he o (Outline.mem_partsAll_of_mem (List.mem_singleton_self o)) source hs
  refine ⟨⟨layouts' ++ [c.layoutPath source], by simp, ?_, walk_append ha.walk hedge⟩, ?_⟩
  · rw [← List.append_assoc, ← ha.chain]
  · exact ⟨r.chain, _, rfl, hm, ha.nodup⟩

/-! ### Completeness -/

/-- A layout can be resolved when `chain` are in progress, as far as its inheritance goes. -/
inductive Settled (c : Resolver) : List String → String → Prop
  | intro {chain path text document} : path ∉ chain → c.library.read path c.encoding = .ok text →
      Markup.parse text (some path) = .ok document →
      (∀ source ∈ Markup.sourcesAll document, Settled c (chain ++ [path]) (c.layoutPath source)) →
      Settled c chain path

/-- Each layout that a resolved tree extends is settled, and so is each layout that was resolved. -/
theorem Resolves.settled (h : c.Resolves call r out r') :
    ∀ found, out = .ok found → r.store.Sound →
      (∀ os : List Outline, os.map Outline.id = call.roots → r.store.Holds os →
        ∀ o ∈ partsAll os, ∀ source, o.head.source? = some source → c.Settled r.chain (c.layoutPath source)) ∧
      ∀ document path, call = .layout document path → path ∉ r.chain → c.Settled r.chain path := by
  induction h with
  | nil =>
    intro _ _ _
    refine ⟨fun os hid _ o ho => ?_, fun _ _ h => by cases h⟩
    rw [List.map_eq_nil_iff.1 hid] at ho
    exact absurd ho List.not_mem_nil
  | @cons _ _ _ r here r₁ out _ hr _ ih ih' =>
    intro found he hs
    refine ⟨fun os hid ho => ?_, fun _ _ h => by cases h⟩
    obtain ⟨o, os, rfl, rfl, hid'⟩ := List.map_eq_cons_iff.1 hid
    obtain ⟨hc, hs₁, -⟩ := hr.change [o] rfl ho.first hs
    have held := hc.holds_rest ho
    intro p hp source hsrc
    rw [partsAll, List.mem_append] at hp
    rcases hp with hp | hp
    · refine (ih here rfl hs).1 [o] rfl ho.first p ?_ source hsrc
      rwa [partsAll, partsAll, List.append_nil]
    · cases out with
      | error e => cases he
      | ok after =>
        rw [← hr.chain]
        exact (ih' after rfl hs₁).1 os hid' held p hp source hsrc
  | keep hx hc =>
    intro _ _ _
    refine ⟨fun os hid ho p hp source hsrc => ?_, fun _ _ h => by cases h⟩
    obtain ⟨o, rfl, rfl⟩ := List.map_eq_singleton_iff.1 hid
    rw [ho.root.content, List.map_eq_nil_iff] at hc
    simp only [partsAll, Outline.parts_eq, hc, List.append_nil, List.mem_singleton] at hp
    subst hp
    rw [ho.root.head] at hx
    exact absurd (Head.source?_eq_some.1 hsrc).1 (by simp [hx])
  | inside hx hc _ ih =>
    intro _ _ hs
    refine ⟨fun os hid ho p hp source hsrc => ?_, fun _ _ h => by cases h⟩
    obtain ⟨o, rfl, rfl⟩ := List.map_eq_singleton_iff.1 hid
    simp only [partsAll, Outline.parts_eq, List.append_nil, List.mem_cons] at hp
    rcases hp with rfl | hp
    · rw [ho.root.head] at hx
      exact absurd (Head.source?_eq_some.1 hsrc).1 (by simp [hx])
    · exact (ih _ rfl hs).1 o.content ho.root.content.symm ho.content p hp source hsrc
  | @merge _ _ _ _ layout r₁ template _ _ _ hx hn hr _ _ ih ih' =>
    intro _ _ hs
    refine ⟨fun os hid ho p hp source hsrc => ?_, fun _ _ h => by cases h⟩
    obtain ⟨o, rfl, rfl⟩ := List.map_eq_singleton_iff.1 hid
    simp only [partsAll, Outline.parts_eq, List.append_nil, List.mem_cons] at hp
    rcases hp with rfl | hp
    · rw [ho.root.head, hsrc] at hx
      cases hx
      exact (ih layout rfl hs).2 _ _ rfl hn
    · obtain ⟨hc, hs₁, -⟩ := hr.change [] rfl (.nil _) hs
      have held := hc.holds_all ho
      rw [store_recorded, chain_recorded, hr.chain] at ih'
      exact (ih' template rfl hs₁).1 o.content held.root.content.symm held.content p hp source hsrc
  | @load _ path _ text _ r₁ found _ hread hparse _ ih =>
    intro _ _ hs
    refine ⟨fun os hid _ p hp => ?_, fun _ _ heq hn => ?_⟩
    · rw [List.map_eq_nil_iff.1 hid] at hp
      exact absurd hp List.not_mem_nil
    · cases heq
      obtain ⟨document, os, hd, rfl, hid, hst, hs₁⟩ := parse_stored hparse
      refine .intro hn hread hd fun source hsrc => ?_
      obtain ⟨p, hp, hsrc⟩ := Outline.mem_sourcesAll.1 hsrc
      have hsettled := (ih found rfl (hs₁ hs)).1 os hid hst.holds p hp source hsrc
      rwa [chain_enter hparse] at hsettled
  | _ =>
    intro _ he
    cases he

/-- What a settled layout extends is settled, with one more layout in progress. -/
theorem Settled.extends (h : c.Settled chain path) {e : Document} (he : c.Extends main (.layout path) e) :
    ∃ path', e = .layout path' ∧ c.Settled (chain ++ [path]) path' := by
  cases h with
  | intro hn hread hparse hsettled =>
    obtain ⟨document, source, hd, hs, rfl⟩ := he
    rw [contents?_layout hread hparse] at hd
    cases hd
    exact ⟨_, rfl, hsettled source hs⟩

theorem Settled.not_mem (h : c.Settled chain path) : path ∉ chain := by
  cases h with
  | intro hn => exact hn

/-- From a settled layout nothing leads on forever. -/
theorem Settled.acc (h : c.Settled chain path) (main : List Markup) :
    Acc (fun e d => c.Extends main d e) (.layout path) := by
  induction h with
  | intro hn hread hparse hsettled ih =>
    refine ⟨_, fun e he => ?_⟩
    obtain ⟨document, source, hd, hs, rfl⟩ := he
    rw [contents?_layout hread hparse] at hd
    cases hd
    exact ih source hs

theorem Settled.not_cycle (h : c.Settled chain path) (main : List Markup) :
    ¬ TransGen (c.Extends main) (.layout path) (.layout path) := by
  have acc : ∀ d, Acc (TransGen fun e d => c.Extends main d e) d → ¬ TransGen (c.Extends main) d d := by
    intro d ha
    induction ha with
    | intro d _ ih => exact fun hc => ih d (Relation.transGen_swap.2 hc) hc
  exact acc _ (h.acc main).transGen

/-- Wherever a settled layout leads, that is settled too, with more layouts in progress. -/
theorem Settled.of_reflTransGen (h : c.Settled chain path) {d : Document}
    (hd : ReflTransGen (c.Extends main) (.layout path) d) :
    ∃ path' more, d = .layout path' ∧ c.Settled (chain ++ more) path' := by
  induction hd with
  | refl => exact ⟨path, [], rfl, by rwa [List.append_nil]⟩
  | tail _ he ih =>
    obtain ⟨path', more, rfl, h'⟩ := ih
    obtain ⟨path'', rfl, h''⟩ := h'.extends he
    exact ⟨path'', more ++ [path'], rfl, by rwa [← List.append_assoc]⟩

end Resolver

namespace Setting

variable {setting : Setting} {filename : Option String} {text : String} {main : List Markup}

theorem chainFor_eq {name : String} (hf : filename = some name) (hn : name ≠ "") :
    setting.chainFor filename = [(setting.cwd.absolute (Path.ofString name)).text] := by
  subst hf
  simp [chainFor]

theorem closes_of_circular {chain : List String} {l : Option Location}
    (h : (setting.processed filename text).outcome = .error (.issue (.circular chain l))) :
    ∃ main, Markup.parse text none = .ok main ∧
      (setting.flattening filename).Closes (setting.chainFor filename) main chain := by
  have hp := setting.processes filename text
  generalize setting.processed filename text = p at hp h
  cases hp with
  | unparsed hparse =>
    cases h
    exact absurd rfl (Resolver.parse_ne_circular hparse)
  | flattened => exact nomatch h
  | stopped hparse hr =>
    cases h
    obtain ⟨main, hm, ha⟩ := along_first setting filename hparse
    exact ⟨main, hm, (hr.meets rfl).closes ha⟩

theorem settled_of_ok {tree : List NodeId} (h : (setting.processed filename text).outcome = .ok tree) :
    ∃ main, Markup.parse text none = .ok main ∧
      ∀ path, TransGen ((setting.flattening filename).Extends main) .main (.layout path) →
        ∃ more, (setting.flattening filename).Settled (setting.chainFor filename ++ more) path := by
  have hp := setting.processes filename text
  generalize setting.processed filename text = p at hp h
  cases hp with
  | unparsed => exact nomatch h
  | stopped => exact nomatch h
  | flattened hparse hr =>
    obtain ⟨_, os, hd, rfl, rfl, hst, hs⟩ := Resolver.parse_stored hparse
    have hsettled := (hr.settled _ rfl (hs Store.sound_empty)).1 os rfl hst.holds
    refine ⟨_, hd, fun path hx => ?_⟩
    obtain ⟨e, ⟨_, source, hd', hsrc, rfl⟩, hx⟩ := TransGen.head'_iff.1 hx
    cases hd'
    obtain ⟨o, ho, hsrc⟩ := Outline.mem_sourcesAll.1 hsrc
    obtain ⟨path', more, hpath, hp'⟩ := (hsettled o ho source hsrc).of_reflTransGen hx
    cases hpath
    exact ⟨more, hp'⟩

/-- Circular inheritance is found exactly. A chain that is refused goes through the graph of documents from
the main document on, and comes back to one of its own paths, and to no other. A document that is resolved
leads to no cycle, and not to itself. -/
theorem detects_cycles (setting : Setting) (filename : Option String) (text : String) :
    (∀ chain l, (setting.processed filename text).outcome = .error (.issue (.circular chain l)) →
      ∃ main, Markup.parse text none = .ok main ∧
        (setting.flattening filename).Closes (setting.chainFor filename) main chain ∧
        (∀ name, filename = some name → name ≠ "" →
          chain.head? = some (setting.cwd.absolute (Path.ofString name)).text) ∧
        (filename = none ∨ filename = some "" → ∃ path, chain.head? = some path ∧
          (setting.flattening filename).Extends main .main (.layout path))) ∧
    ∀ tree, (setting.processed filename text).outcome = .ok tree →
      ∃ main, Markup.parse text none = .ok main ∧
        ∀ path, TransGen ((setting.flattening filename).Extends main) .main (.layout path) →
          ¬ TransGen ((setting.flattening filename).Extends main) (.layout path) (.layout path) ∧
          ∀ name, filename = some name → name ≠ "" →
            path ≠ (setting.cwd.absolute (Path.ofString name)).text := by
  constructor
  · intro chain l h
    obtain ⟨main, hm, hc⟩ := closes_of_circular h
    obtain ⟨layouts, hl, hchain, hw⟩ := hc.walk
    refine ⟨main, hm, hc, ?_, ?_⟩
    · intro name hf hn
      rw [hchain, chainFor_eq hf hn]
      rfl
    · intro hf
      have hs : setting.chainFor filename = [] := by
        rcases hf with rfl | rfl <;> rfl
      rw [hchain, hs, List.nil_append]
      cases layouts with
      | nil => exact absurd rfl hl
      | cons path rest => exact ⟨path, rfl, hw.rel⟩
  · intro tree h
    obtain ⟨main, hm, hx⟩ := settled_of_ok h
    refine ⟨main, hm, fun path hp => ?_⟩
    obtain ⟨more, hsettled⟩ := hx path hp
    refine ⟨hsettled.not_cycle main, fun name hf hn he => ?_⟩
    apply hsettled.not_mem
    rw [chainFor_eq hf hn, he]
    exact List.mem_append_left _ (List.mem_singleton_self _)

/-- The layouts of the cycle that an outcome reports. -/
def cycle? {α : Type} : Except Failure α → Option (List String)
  | .error (.issue (.circular chain _)) => some chain
  | _ => none

theorem eq_circular_of_cycle? {α : Type} {x : Except Failure α} {chain : List String} (h : cycle? x = some chain) :
    ∃ l, x = .error (.issue (.circular chain l)) := by
  unfold cycle? at h
  split at h
  · next l =>
    cases h
    exact ⟨l, rfl⟩
  · cases h

/-- A layout that extends itself is refused, and one that extends nothing is not. -/
theorem detects_cycles_pair :
    let setting := ofTexts [("/w/a", "<extends src=a></extends>"), ("/w/b", "<p>x</p>")]
    (∃ main, Markup.parse "<extends src=a></extends>" none = .ok main ∧
      (setting.flattening none).Closes [] main ["/w/a", "/w/a"]) ∧
    ∃ main, Markup.parse "<extends src=b></extends>" none = .ok main ∧
      ∀ path, TransGen ((setting.flattening (some "m")).Extends main) .main (.layout path) →
        ¬ TransGen ((setting.flattening (some "m")).Extends main) (.layout path) (.layout path) ∧
          path ≠ "/w/m" := by
  intro setting
  have refused : ∃ l, (setting.processed none "<extends src=a></extends>").outcome =
      .error (.issue (.circular ["/w/a", "/w/a"] l)) := eq_circular_of_cycle? (by decide +kernel)
  have resolved : (setting.processed (some "m") "<extends src=b></extends>").outcome.toOption = some [2] := by
    decide +kernel
  constructor
  · obtain ⟨l, h⟩ := refused
    obtain ⟨main, hm, hc, -⟩ := (detects_cycles setting none "<extends src=a></extends>").1 _ l h
    exact ⟨main, hm, hc⟩
  · obtain ⟨main, hm, hx⟩ := (detects_cycles setting (some "m") "<extends src=b></extends>").2 [2]
      (ok_of_toOption resolved)
    refine ⟨main, hm, fun path hp => ⟨(hx path hp).1, ?_⟩⟩
    have hw : (setting.cwd.absolute (Path.ofString "m")).text = "/w/m" := by decide
    exact hw ▸ (hx path hp).2 "m" rfl (by decide)

end Setting

end LayoutInheritance
