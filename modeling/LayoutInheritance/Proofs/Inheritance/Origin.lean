import LayoutInheritance.Proofs.Block.Unwrap
import LayoutInheritance.Proofs.Block.Visit
import LayoutInheritance.Proofs.Inheritance.Accounting
import LayoutInheritance.Proofs.Inheritance.Document
import LayoutInheritance.Proofs.Path.Walk
import LayoutInheritance.Proofs.Store.Heads

/-! Where the nodes of a result and the places of its issues come from. A run makes nodes by reading texts and in no
other way, and whatever it does to a node afterwards, it keeps all but the content. So each node of the result stands as
it was read, in the main document or in a layout that the run has loaded, and carries the file of that. An issue of
inheritance, at whatever depth of layouts it comes up, is placed at one of these nodes. -/

namespace LayoutInheritance

namespace Markup

/-- All nodes of a document carry the file that it was read for. -/
theorem filename_of_parse {text : String} {filename : Option String} {document : List Markup}
    (h : parse text filename = .ok document) {m : Markup} (hm : m ∈ nodesAll document) :
    m.head.location.filename = filename := by
  rw [parse, read] at h
  split at h
  · cases h
  · next r hfeed =>
    obtain ⟨r', fault?, hfinish⟩ : ∃ r' fault?, r.finish = (r', fault?) := ⟨_, _, rfl⟩
    rw [hfinish] at h
    cases fault? with
    | some fault => cases h
    | none =>
      cases h
      have hread := ((Reader.reads_start filename).advance hfeed).advance hfinish
      have hhead : m.head ∈ r'.builder.heads := Builder.headsAll_tree _ ▸ List.mem_map_of_mem hm
      obtain ⟨_, _, -, -, hl⟩ := (hread.orderly.stands m.head hhead).place
      rw [hl]

end Markup

/-! ### What a merge reports -/

theorem Filling.heads_fillAll (f : Filling) (blocks : BlockTable) :
    (f.fillAll blocks).store.heads = f.store.heads ∧ ∀ e ∈ (f.fillAll blocks).unclaimed, e ∈ f.unclaimed := by
  induction blocks generalizing f with
  | nil => exact ⟨rfl, fun _ he => he⟩
  | cons b blocks ih =>
    have hfill : (f.fill b.1 b.2).store.heads = f.store.heads ∧ ∀ e ∈ (f.fill b.1 b.2).unclaimed, e ∈ f.unclaimed := by
      unfold fill
      split
      · exact ⟨rfl, fun _ he => he⟩
      · exact ⟨Store.heads_setContent .., fun _ he => (List.mem_filter.1 he).1⟩
    obtain ⟨hheads, hsub⟩ := ih (f.fill b.1 b.2)
    exact ⟨hheads.trans hfill.1, fun e he => hfill.2 e (hsub e he)⟩

namespace Store

variable {s : Store} {tree layout template : List NodeId}

theorem heads_merge (s : Store) (layout template : List NodeId) : (s.merge layout template).store.heads = s.heads := by
  unfold merge
  split
  · rfl
  · rfl
  · exact (Filling.heads_fillAll _ _).1

theorem exists_unlabelled_of_blocks {l : Location} (h : s.blocks tree = .error l) :
    ∃ hd ∈ s.heads, hd.isBlock ∧ hd.location = l := by
  rw [blocks_eq, enterAll_eq] at h
  split at h
  · next e he =>
    obtain ⟨p, hp, rfl⟩ := List.mem_map.1 (List.mem_of_find?_eq_some he)
    have hv := Outline.visitedAll_subset_partsAll hp
    have hhead := (mem_outline hv.1).2
    have hb : (s.head p.id).isBlock := hhead ▸ hv.2
    cases h
    exact ⟨_, head_mem_heads_of_isTagNamed hb, hb, by rw [← hhead, Outline.entry]⟩
  · cases h

/-- An issue of a merge is placed at a block. -/
theorem location?_merge {i : Issue} (h : (s.merge layout template).issue? = some i) :
    ∃ hd ∈ s.heads, hd.isBlock ∧ i.location? = some hd.location := by
  unfold merge at h
  split at h
  · next l hb =>
    cases h
    obtain ⟨hd, hm, hblock, rfl⟩ := exists_unlabelled_of_blocks hb
    exact ⟨hd, hm, hblock, rfl⟩
  · next l _ ho =>
    cases h
    obtain ⟨hd, hm, hblock, rfl⟩ := exists_unlabelled_of_blocks ho
    exact ⟨hd, hm, hblock, rfl⟩
  · next blocks overrides _ ho =>
    obtain ⟨left, hleft, rfl⟩ := Option.map_eq_some_iff.1 h
    obtain ⟨hheads, hsub⟩ := Filling.heads_fillAll { store := s, unclaimed := overrides } blocks
    obtain ⟨-, hblock, -⟩ := mem_blocks ho (hsub left (List.mem_of_mem_head? hleft))
    exact ⟨_, head_mem_heads_of_isTagNamed hblock, hblock, by rw [← head_eq_of_heads hheads]; rfl⟩

end Store

/-! ### What a resolution reads -/

namespace Resolver

variable {c : Resolver} {r r' r₁ r₂ : Run} {call : Call} {out : Except Failure (List NodeId)}
  {file : Option String} {document : List Markup} {read read' : List (Option String × List Markup)}

/-- The document was read from the layout `file`, which the run has loaded. -/
def Loaded (c : Resolver) (r : Run) (file : Option String) (document : List Markup) : Prop :=
  ∃ source text, file = some (c.layoutPath source) ∧ (c.layoutPath source, c.encoding) ∈ r.loads ∧
    c.library.read (c.layoutPath source) c.encoding = .ok text ∧
    Markup.parse text (some (c.layoutPath source)) = .ok document

theorem Loaded.mono (h : c.Loaded r file document) (hr : r.history <+: r'.history) : c.Loaded r' file document := by
  obtain ⟨source, text, hfile, hloads, hread⟩ := h
  exact ⟨source, text, hfile, (hr.filterMap _).subset hloads, hread⟩

/-- From one run to a later one, the documents `read` have been read from layouts, and the nodes made are theirs. -/
structure Reads (c : Resolver) (r r' : Run) (read : List (Option String × List Markup)) : Prop where
  heads : r'.store.heads = r.store.heads ++ read.flatMap fun d => Markup.postorderAll d.2
  loaded : ∀ d ∈ read, c.Loaded r' d.1 d.2
  history : r.history <+: r'.history

theorem Reads.none (hh : r'.store.heads = r.store.heads) (hr : r.history <+: r'.history) : c.Reads r r' [] :=
  ⟨by simpa using hh, fun _ hd => absurd hd List.not_mem_nil, hr⟩

theorem Reads.trans (h : c.Reads r r₁ read) (h' : c.Reads r₁ r₂ read') : c.Reads r r₂ (read ++ read') where
  heads := by rw [h'.heads, h.heads, List.flatMap_append, List.append_assoc]
  loaded d hd := (List.mem_append.1 hd).elim (fun hd => (h.loaded d hd).mono h'.history) (h'.loaded d)
  history := h.history.trans h'.history

/-- What follows makes no nodes. -/
theorem Reads.congr (h : c.Reads r r₁ read) (hh : r₂.store.heads = r₁.store.heads) (hr : r₁.history <+: r₂.history) :
    c.Reads r r₂ read :=
  ⟨hh.trans h.heads, fun d hd => (h.loaded d hd).mono hr, h.history.trans hr⟩

theorem heads_parse {text : String} {tree : List NodeId} (h : (Step.parse text file).run r = (.ok tree, r₁)) :
    ∃ document, Markup.parse text file = .ok document ∧
      r₁.store.heads = r.store.heads ++ Markup.postorderAll document := by
  rw [Step.run_parse] at h
  split at h
  · cases h
  · next document hd =>
    cases h
    exact ⟨document, hd, Store.heads_addAll ..⟩

/-- A layout is loaded and read. -/
theorem reads_layout {source text : String} {tree : List NodeId} {document : Option String}
    (hr : c.library.read (c.layoutPath source) c.encoding = .ok text)
    (hp : (Step.parse text (some (c.layoutPath source))).run
      (r.note [.loading (c.layoutPath source) c.encoding document]) = (.ok tree, r₁)) :
    ∃ d, c.Reads r (r₁.enter (c.layoutPath source)) [d] ∧
      (r₁.enter (c.layoutPath source)).parses = r.parses ++ [d.1] := by
  obtain ⟨doc, hdoc, hheads⟩ := heads_parse hp
  have hg := (gains_opened hp).trans (Run.gains_enter r₁ (c.layoutPath source))
  refine ⟨(some (c.layoutPath source), doc), ⟨?_, ?_, ?_⟩, hg.parses⟩
  · rw [List.flatMap_singleton]
    exact hheads
  · intro d hd
    rw [List.mem_singleton.1 hd]
    refine ⟨source, text, rfl, ?_, hr, hdoc⟩
    rw [hg.loads]
    exact List.mem_append_right _ (List.mem_singleton_self _)
  · simp only [Run.enter, Run.note, parse_history hp, List.append_assoc]
    exact List.prefix_append _ _

theorem parses_recorded (r : Run) (path : String) (document : Option String) :
    (c.recorded r path document).parses = r.parses := by
  unfold recorded
  split <;> simp [Run.parses]

theorem Reads.recorded (h : c.Reads r r₁ read) (path : String) (document : Option String) :
    c.Reads r (c.recorded r₁ path document) read :=
  h.congr (by rw [store_recorded]) prefix_recorded

/-- All nodes that a call makes are those of layouts that it loads. -/
theorem Resolves.reads (h : c.Resolves call r out r') : (∀ path ∈ call.asked, ∃ source, path = c.layoutPath source) →
    ∃ read, c.Reads r r' read ∧ (out.isOk → r'.parses = r.parses ++ read.map Prod.fst) := by
  have unasked : ∀ path ∈ ([] : List String), ∃ source, path = c.layoutPath source :=
    fun _ hp => absurd hp List.not_mem_nil
  induction h with
  | nil | keep | noSource | circular => exact fun _ => ⟨[], .none rfl List.prefix_rfl, by simp⟩
  | stop _ ih | insideStop _ _ _ ih => exact fun _ => ih unasked
  | layoutStop _ _ _ ih => exact fun _ => ih (by simp [Call.asked])
  | @cons _ _ _ _ _ _ out _ _ _ ih₁ ih₂ =>
    intro _
    obtain ⟨read, hread, hparses⟩ := ih₁ unasked
    obtain ⟨read', hread', hparses'⟩ := ih₂ unasked
    refine ⟨read ++ read', hread.trans hread', fun hok => ?_⟩
    have hok' : out.isOk := by cases out <;> first | rfl | exact hok
    rw [hparses' hok', hparses rfl, List.map_append, List.append_assoc]
  | inside _ _ _ ih =>
    intro _
    obtain ⟨read, hread, hparses⟩ := ih unasked
    exact ⟨read, hread.congr (Store.heads_setContent ..) List.prefix_rfl, hparses⟩
  | templateStop _ _ _ _ ih₁ ih₂ =>
    intro _
    obtain ⟨read, hread, -⟩ := ih₁ (by simp [Call.asked])
    obtain ⟨read', hread', -⟩ := ih₂ unasked
    exact ⟨read ++ read', (hread.recorded _ _).trans hread', fun hok => absurd hok Bool.false_ne_true⟩
  | merge _ _ _ _ hm ih₁ ih₂ =>
    intro _
    obtain ⟨read, hread, hparses⟩ := ih₁ (by simp [Call.asked])
    obtain ⟨read', hread', hparses'⟩ := ih₂ unasked
    obtain ⟨-, hhistory, hstore⟩ := merge_run hm
    refine ⟨read ++ read', ((hread.recorded _ _).trans hread').congr ?_ ?_, fun _ => ?_⟩
    · rw [hstore, Store.heads_merge]
    · rw [hhistory]
      exact List.prefix_append _ _
    · rw [(gains_merge hm).parses, hparses' rfl, parses_recorded, hparses rfl, List.map_append, List.append_nil,
        List.append_assoc]
  | unread => exact fun _ => ⟨[], .none rfl (List.prefix_append _ _), fun hok => absurd hok Bool.false_ne_true⟩
  | unparsed _ hp =>
    refine fun _ => ⟨[], .none ?_ ?_, fun hok => absurd hok Bool.false_ne_true⟩
    · rw [Step.run_parse] at hp
      split at hp <;> cases hp
      rfl
    · rw [parse_history hp]
      exact (List.prefix_append _ _).trans (List.prefix_append _ _)
  | load hr hp _ ih =>
    intro ha
    obtain ⟨source, rfl⟩ := ha _ (List.mem_singleton_self _)
    obtain ⟨d, hd, hparsed⟩ := reads_layout hr hp
    obtain ⟨read, hread, hparses⟩ := ih unasked
    refine ⟨d :: read, (hd.trans hread).congr rfl (List.prefix_append _ _), fun _ => ?_⟩
    rw [(Run.gains_leave ..).parses, hparses rfl, hparsed, List.append_nil, List.append_assoc]
    rfl
  | loadStop hr hp _ ih =>
    intro ha
    obtain ⟨source, rfl⟩ := ha _ (List.mem_singleton_self _)
    obtain ⟨d, hd, -⟩ := reads_layout hr hp
    obtain ⟨read, hread, -⟩ := ih unasked
    exact ⟨d :: read, (hd.trans hread).congr rfl List.prefix_rfl, fun hok => absurd hok Bool.false_ne_true⟩

theorem isInheritance_of_parse {text : String} {i : Issue}
    (h : (Step.parse text file).run r = (.error (.issue i), r₁)) : ¬ i.isInheritance := by
  rw [Step.run_parse] at h
  split at h
  · next fault _ =>
    obtain ⟨he, -⟩ := Prod.mk.inj h
    cases fault <;> cases he
    exact Bool.false_ne_true
  · cases h

/-- An issue of inheritance that stops a call is placed at an element that extends, or at a block. -/
theorem Resolves.blames {i : Issue} (h : c.Resolves call r (.error (.issue i)) r') (hi : i.isInheritance) :
    ∃ hd ∈ r'.store.heads, (hd.isExtends ∨ hd.isBlock) ∧ i.location? = some hd.location := by
  generalize hout : Except.error (Failure.issue i) = out at h
  induction h with
  | nil | keep | inside | unread | load => cases hout
  | stop _ ih | insideStop _ _ _ ih | layoutStop _ _ _ ih | templateStop _ _ _ _ _ ih => exact ih hout
  | @cons _ _ _ _ _ _ out _ _ _ _ ih =>
    cases out with
    | error e => exact ih hout
    | ok after => cases hout
  | noSource he _ =>
    cases hout
    exact ⟨_, Store.head_mem_heads_of_isTagNamed he, .inl he, rfl⟩
  | circular hs _ =>
    cases hout
    have he := (Head.source?_eq_some.1 hs).1
    exact ⟨_, Store.head_mem_heads_of_isTagNamed he, .inl he, rfl⟩
  | merge _ _ _ _ hm =>
    subst hout
    have hstore := (merge_run hm).2.2
    rw [Step.run_merge] at hm
    split at hm
    · next issue hissue =>
      cases hm
      obtain ⟨hd, hmem, hblock, hl⟩ := Store.location?_merge hissue
      exact ⟨hd, by rwa [Store.heads_merge], .inr hblock, hl⟩
    · cases hm
  | unparsed _ hp =>
    cases hout
    exact absurd hi (isInheritance_of_parse hp)
  | loadStop _ _ _ ih => exact ih hout

end Resolver

/-- The place of the issue of inheritance that has stopped a document, if that has. -/
def Processed.place? (p : Processed) : Option Location :=
  match p.outcome with
  | .error (.issue i) => if i.isInheritance then i.location? else none
  | _ => none

theorem Processed.exists_issue {p : Processed} {l : Location} (h : p.place? = some l) :
    ∃ i, p.outcome = .error (.issue i) ∧ i.isInheritance ∧ i.location? = some l := by
  obtain ⟨outcome, run⟩ := p
  unfold place? at h
  split at h
  · next i hi =>
    split at h
    · next hinheritance => exact ⟨i, hi, hinheritance, h⟩
    · exact nomatch h
  · exact nomatch h

namespace Setting

variable {setting : Setting} {filename : Option String} {text : String} {r r₁ : Run} {file : Option String}
  {document : List Markup} {tree : List NodeId} {out : Except Failure (List NodeId)}

/-- A document that has been read in a run: the main one, which has no file, or a layout. -/
def Parsed (setting : Setting) (filename : Option String) (text : String) (r : Run) (file : Option String)
    (document : List Markup) : Prop :=
  file = none ∧ Markup.parse text none = .ok document ∨ (setting.flattening filename).Loaded r file document

theorem Parsed.filename_eq (h : setting.Parsed filename text r file document) {m : Markup}
    (hm : m ∈ Markup.nodesAll document) : m.head.location.filename = file := by
  rcases h with ⟨rfl, hd⟩ | ⟨source, text, rfl, -, -, hd⟩
  · exact Markup.filename_of_parse hd hm
  · exact Markup.filename_of_parse hd hm

/-- The file of a layout is an absolute path. -/
theorem Parsed.absolute (h : setting.Parsed filename text r file document) (hc : setting.cwd.isAbsolute) :
    ∀ path, file = some path → path.toList.head? = some '/' := by
  rintro path rfl
  rcases h with ⟨hn, -⟩ | ⟨source, text, hp, -⟩
  · exact nomatch hn
  · cases hp
    exact Path.head?_text (Path.isAbsolute_absolute hc _)

/-- The nodes of a run are those of the documents that it has read, in the order in which it has read them. -/
theorem exists_parsed (hp : (Step.parse text none).run {} = (.ok tree, r))
    (hr : (setting.flattening filename).Resolves (.tree filename tree) (setting.opened filename r) out r₁) :
    ∃ read : List (Option String × List Markup), r₁.store.heads = read.flatMap (fun d => Markup.postorderAll d.2) ∧
      (∀ d ∈ read, setting.Parsed filename text r₁ d.1 d.2) ∧ (out.isOk → r₁.parses = read.map Prod.fst) := by
  obtain ⟨document, hd, hheads⟩ := Resolver.heads_parse hp
  obtain ⟨read, hread, hparses⟩ := hr.reads nofun
  refine ⟨(none, document) :: read, ?_, ?_, fun hok => ?_⟩
  · rw [hread.heads, store_opened, hheads]
    rfl
  · rintro d (_ | ⟨_, hd'⟩)
    · exact .inl ⟨rfl, hd⟩
    · exact .inr (hread.loaded d hd')
  · have hopened : (setting.opened filename r).parses = r.parses := by simp [Run.parses, opened]
    rw [hparses hok, hopened, (Resolver.gains_parse hp).parses]
    rfl

/-- A head of the store is that of a node of a document that was read. -/
theorem exists_node {read : List (Option String × List Markup)} {s : Store} {hd : Head Markup}
    (hs : s.heads = read.flatMap fun d => Markup.postorderAll d.2) (hm : hd ∈ s.heads) :
    ∃ d ∈ read, ∃ m ∈ Markup.nodesAll d.2, m.head = hd := by
  rw [hs, List.mem_flatMap] at hm
  obtain ⟨d, hd, hm⟩ := hm
  exact ⟨d, hd, Markup.mem_postorderAll.1 hm⟩

/-- Whatever the document, the layouts and the options, all nodes of a run are nodes of the documents that it has
read, in the order in which they were made: those of the main document, which have no file, and those of the layouts
that it has loaded, which carry the absolute path of their layout. Each node in the result is one of them, with its
kind, name, attributes, value and location as they were read. And an issue of inheritance is placed at an element
that extends, or at a block, of the main document or of a layout that the run has loaded. -/
theorem processed_origins (setting : Setting) (filename : Option String) (text : String) :
    let p := setting.processed filename text
    (∀ tree, p.outcome = .ok tree → ∃ read : List (Option String × List Markup), read.map Prod.fst = p.run.parses ∧
      (∀ d ∈ read, setting.Parsed filename text p.run d.1 d.2) ∧
      p.run.store.heads = read.flatMap (fun d => Markup.postorderAll d.2) ∧
      ∀ x, p.run.store.Within tree x → x < p.run.store.size ∧ ∃ d ∈ read, ∃ m ∈ Markup.nodesAll d.2,
        p.run.store.head x = m.head ∧ m.head.location.filename = d.1) ∧
    (∀ i, p.outcome = .error (.issue i) → i.isInheritance → ∃ file document,
      setting.Parsed filename text p.run file document ∧ ∃ m ∈ Markup.nodesAll document,
        (m.head.isExtends ∨ m.head.isBlock) ∧ i.location? = some m.head.location ∧
          m.head.location.filename = file) ∧
    (setting.cwd.isAbsolute → ∀ file document, setting.Parsed filename text p.run file document →
      ∀ path, file = some path → path.toList.head? = some '/') := by
  intro p
  have hp : setting.Processes filename text p := setting.processes filename text
  refine ⟨fun tree h => ?_, fun i h hi => ?_, fun hc file document hd => hd.absolute hc⟩
  · generalize p = p at hp h
    cases hp with
    | unparsed | stopped => cases h
    | @flattened _ _ found r₁ hparse hr =>
      cases h
      obtain ⟨hs, hfound⟩ := sound_of_resolved hparse hr
      have hlt : ∀ x ∈ found, x < r₁.store.size := fun x hx => (hfound x hx).1
      have hu := Store.Sound.unwraps_unwrap hs hlt
      obtain ⟨read, hheads, hparsed, hparses⟩ := exists_parsed hparse hr
      have hheads' : (r₁.store.unwrap found).1.heads = read.flatMap fun d => Markup.postorderAll d.2 :=
        (Store.heads_congr hu.partly.size hu.partly.head).trans hheads
      refine ⟨read, (hparses rfl).symm, hparsed, hheads', fun x hx => ?_⟩
      have hx' : x < (r₁.store.unwrap found).1.size := by
        refine (hu.partly.sound.acyclic_of_lt fun y hy => ?_).lt_size x hx
        rw [hu.partly.size]
        exact (hs.acyclic_of_lt hlt).lt_size y (hu.within hy).1
      obtain ⟨d, hd, m, hm, hhead⟩ := exists_node hheads' (Store.head_mem_heads hx')
      exact ⟨hx', d, hd, m, hm, hhead.symm, (hparsed d hd).filename_eq hm⟩
  · generalize p = p at hp h
    cases hp with
    | unparsed hparse =>
      cases h
      exact absurd hi (Resolver.isInheritance_of_parse hparse)
    | flattened => cases h
    | stopped hparse hr =>
      cases h
      obtain ⟨read, hheads, hparsed, -⟩ := exists_parsed hparse hr
      obtain ⟨hd, hmem, hkind, hl⟩ := hr.blames hi
      obtain ⟨d, hd, m, hm, rfl⟩ := exists_node hheads hmem
      exact ⟨d.1, d.2, hparsed d hd, m, hm, hkind, hl, (hparsed d hd).filename_eq hm⟩

/-- A block of the layout `b` that its own layout `c` lacks; and a document in which nodes of `c` and of the main
document stand together. -/
theorem processed_origins_nested :
    let setting := ofTexts [("/w/b", "<extends src=c><block name=a>x</block>\n<block name=d></block></extends>"),
      ("/w/c", "<p><block name=a></block></p>")]
    let text := "<extends src=b></extends>"
    let text' := "<extends src=c><block name=a>y</block></extends>"
    (setting.processed none text).place? = some ⟨some "/w/b", 2, 1⟩ ∧
    (∃ document, setting.Parsed none text (setting.processed none text).run (some "/w/b") document ∧
      ∃ m ∈ Markup.nodesAll document, (m.head.isExtends ∨ m.head.isBlock) ∧
        m.head.location = ⟨some "/w/b", 2, 1⟩) ∧
    (setting.processed none text').outcome.toOption = some [4] ∧
    (setting.processed none text').run.parses = [none, some "/w/c"] ∧
    ∀ x, (setting.processed none text').run.store.Within [4] x →
      ((setting.processed none text').run.store.head x).location.filename ∈
        (setting.processed none text').run.parses := by
  intro setting text text'
  have h : (setting.processed none text).place? = some ⟨some "/w/b", 2, 1⟩ ∧
      (setting.processed none text').outcome.toOption = some [4] ∧
      (setting.processed none text').run.parses = [none, some "/w/c"] := by
    decide +kernel
  obtain ⟨-, hfailed, -⟩ := processed_origins setting none text
  obtain ⟨hdone, -⟩ := processed_origins setting none text'
  refine ⟨h.1, ?_, h.2.1, h.2.2, fun x hx => ?_⟩
  · obtain ⟨i, hi, hinheritance, hl⟩ := Processed.exists_issue h.1
    obtain ⟨file, document, hparsed, m, hm, hkind, hl', rfl⟩ := hfailed i hi hinheritance
    have hlocation : m.head.location = ⟨some "/w/b", 2, 1⟩ := Option.some.inj (hl'.symm.trans hl)
    rw [hlocation] at hparsed
    exact ⟨document, hparsed, m, hm, hkind, hlocation⟩
  · obtain ⟨read, hread, -, -, hnodes⟩ := hdone [4] (ok_of_toOption h.2.1)
    obtain ⟨-, d, hd, m, -, hhead, hfile⟩ := hnodes x hx
    rw [hhead, hfile, ← hread]
    exact List.mem_map_of_mem hd

end Setting

end LayoutInheritance
