import LayoutInheritance.Proofs.Dictionary
import LayoutInheritance.Proofs.Markup.Place
import LayoutInheritance.Proofs.Markup.Shape

/-! The places of nodes. The nodes of a growing document, in document order, are a list to which each token adds one
head at the end, or a piece of text to the head that is there, or nothing: closing an element moves no node. So the
nodes stand in the order of the tokens that they were made from, each at the place of its first token. -/

namespace LayoutInheritance

namespace Location

/-- Earlier in a text. -/
def Before (l l' : Location) : Prop :=
  l.line < l'.line ∨ l.line = l'.line ∧ l.column < l'.column

end Location

/-- The source of a node begins like this: a tag has its name after the angle bracket, in some case, and a text has the
first character of its value. -/
def Head.Begins (cs : List Char) (h : Head Markup) : Prop :=
  match h.kind with
  | .tag => ∃ letters rest, cs = '<' :: (letters ++ rest) ∧ h.name = some (Text.lower (String.ofList letters))
  | .text => ∃ c value, h.value = some (String.ofList (c :: value)) ∧ cs.head? = some c
  | .comment | .doctype => cs.head? = some '<'

/-- A node says where in the text its source begins, and so do the parts of its attributes. -/
structure Head.Stands (text : List Char) (filename : Option String) (h : Head Markup) : Prop where
  place : ∃ before after, text = before ++ after ∧ h.Begins after ∧ h.location =
    ⟨filename, 1 + before.count '\n', 1 + (before.reverse.takeWhile (· ≠ '\n')).length⟩
  attributes : ∀ a ∈ h.attributes, ∀ part ∈ a.2, part.head.location = h.location

theorem Head.Begins.append {cs : List Char} {h : Head Markup} (hb : h.Begins cs) (more : List Char) :
    h.Begins (cs ++ more) := by
  unfold Head.Begins at *
  split at hb
  · obtain ⟨letters, rest, rfl, hn⟩ := hb
    exact ⟨letters, rest ++ more, by simp, hn⟩
  · obtain ⟨c, value, hv, hc⟩ := hb
    exact ⟨c, value, hv, by rw [List.head?_append, hc]; rfl⟩
  · rw [List.head?_append, hb]
    rfl
  · rw [List.head?_append, hb]
    rfl

theorem Head.Stands.append {text : List Char} {filename : Option String} {h : Head Markup} (hs : h.Stands text filename)
    (more : List Char) : h.Stands (text ++ more) filename := by
  obtain ⟨⟨before, after, rfl, hb, hl⟩, ha⟩ := hs
  exact ⟨⟨before, after ++ more, List.append_assoc .., hb.append more, hl⟩, ha⟩

namespace Reader

/-- Reads a text that comes in parts. -/
def feedAll (r : Reader) : List String → Except MarkupFault Reader
  | [] => .ok r
  | part :: parts =>
    match r.feed part with
    | (r, none) => feedAll r parts
    | (_, some fault) => .error fault

/-- The document, when the text has ended. -/
def close (r : Reader) : Except MarkupFault (List Markup) :=
  match r.finish with
  | (r, none) => .ok r.builder.tree
  | (_, some fault) => .error fault

end Reader

/-- Reads a document from a text that comes in parts. -/
def Markup.parseParts (parts : List String) (filename : Option String := none) : Except MarkupFault (List Markup) :=
  (Reader.start filename).feedAll parts >>= Reader.close

/-- A text in one part. -/
theorem Markup.parseParts_singleton (text : String) (filename : Option String) :
    parseParts [text] filename = parse text filename := by
  rw [parse, read, parseParts, Reader.feedAll]
  rcases (Reader.start filename).feed text with ⟨r, _ | fault⟩
  · change r.close = _
    simp only [Reader.close]
    rcases r.finish with ⟨r, _ | fault⟩ <;> rfl
  · rfl

namespace Markup

theorem nodesAll_append (as bs : List Markup) : nodesAll (as ++ bs) = nodesAll as ++ nodesAll bs := by
  induction as with
  | nil => rfl
  | cons m as ih => rw [List.cons_append, nodesAll, ih, nodesAll, List.append_assoc]

/-- The heads of all nodes, in document order. -/
def headsAll (ms : List Markup) : List (Head Markup) :=
  (nodesAll ms).map head

theorem headsAll_append (as bs : List Markup) : headsAll (as ++ bs) = headsAll as ++ headsAll bs := by
  rw [headsAll, nodesAll_append, List.map_append]
  rfl

theorem headsAll_leaf (h : Head Markup) : headsAll [leaf h] = [h] := rfl

theorem headsAll_branch (h : Head Markup) (content : List Markup) :
    headsAll [branch h content] = h :: headsAll content := by
  rw [headsAll, nodesAll, nodesAll, nodes, List.append_nil, List.map_cons]
  rfl

end Markup

open Markup (headsAll headsAll_append headsAll_leaf headsAll_branch)

namespace Builder

variable {b : Builder}

/-- The children of the innermost open element, last first. -/
def innermost (b : Builder) : List Markup :=
  match b.opened with
  | [] => b.root
  | e :: _ => e.children

/-- The heads of an open element and of all nodes in it so far. -/
def openHeads (e : OpenElement) : List (Head Markup) :=
  e.head :: headsAll e.children.reverse

/-- The heads that come before those in the innermost open element. -/
def outerHeads (b : Builder) : List (Head Markup) :=
  match b.opened with
  | [] => []
  | e :: outer => headsAll b.root.reverse ++ outer.reverse.flatMap openHeads ++ [e.head]

/-- The heads of all nodes so far, in document order. -/
def heads (b : Builder) : List (Head Markup) :=
  b.outerHeads ++ headsAll b.innermost.reverse

theorem heads_eq (b : Builder) : b.heads = headsAll b.root.reverse ++ b.opened.reverse.flatMap openHeads := by
  rw [heads, outerHeads, innermost]
  cases b.opened with
  | nil => simp
  | cons e outer => simp [openHeads]

theorem heads_mapChildren (b : Builder) (f : List Markup → List Markup) :
    (b.mapChildren f).heads = b.outerHeads ++ headsAll (f b.innermost).reverse := by
  rw [heads, outerHeads, outerHeads, innermost, innermost, mapChildren]
  cases b.opened <;> rfl

theorem heads_add (b : Builder) (m : Markup) : (b.add m).heads = b.heads ++ headsAll [m] := by
  rw [add, heads_mapChildren, heads, List.reverse_cons, headsAll_append, List.append_assoc]

/-- Closing an element moves no node. -/
theorem heads_closeInnermost (b : Builder) : b.closeInnermost.heads = b.heads := by
  rw [closeInnermost]
  split
  · rfl
  · next e outer he =>
    rw [heads_add, heads_eq, heads_eq, headsAll_branch, he]
    simp [openHeads]

theorem heads_closeMany (b : Builder) (count : ℕ) : (b.closeMany count).heads = b.heads := by
  induction count generalizing b with
  | zero => rfl
  | succ count ih => rw [closeMany, ih, heads_closeInnermost]

theorem length_opened_mapChildren (b : Builder) (f : List Markup → List Markup) :
    (b.mapChildren f).opened.length = b.opened.length := by
  rw [mapChildren]
  split
  · rfl
  · next he => simp [he]

theorem opened_closeMany (b : Builder) : (b.closeMany b.opened.length).opened = [] := by
  induction hn : b.opened.length generalizing b with
  | zero => exact List.length_eq_zero_iff.1 hn
  | succ count ih =>
    rw [closeMany]
    apply ih
    rw [closeInnermost]
    split
    · next he =>
      rw [he] at hn
      exact nomatch hn
    · next e outer he =>
      rw [he] at hn
      rw [add, length_opened_mapChildren]
      exact Nat.succ.inj hn

theorem headsAll_tree (b : Builder) : headsAll b.tree = b.heads := by
  rw [tree, ← heads_closeMany b b.opened.length, heads_eq, opened_closeMany, List.reverse_nil, List.flatMap_nil,
    List.append_nil]

theorem filename_mapChildren (b : Builder) (f : List Markup → List Markup) :
    (b.mapChildren f).filename = b.filename := by
  rw [mapChildren]
  split <;> rfl

theorem filename_closeMany (b : Builder) (count : ℕ) : (b.closeMany count).filename = b.filename := by
  induction count generalizing b with
  | zero => rfl
  | succ count ih =>
    rw [closeMany, ih, closeInnermost]
    split
    · rfl
    · exact filename_mapChildren ..

theorem filename_push (b : Builder) (t : Token) (p : Position) : (b.push t p).filename = b.filename := by
  cases t with
  | opening name attributes closed =>
    simp only [push]
    split
    · exact filename_mapChildren ..
    · rfl
  | closing name =>
    simp only [push, close]
    split
    · exact filename_closeMany ..
    · rfl
  | text | reference | comment | doctype => exact filename_mapChildren ..

/-! ### One more token -/

/-- The head of the text node that a text begins. -/
def textHead (value : String) (location : Location) : Head Markup :=
  { kind := .text, value, location }

/-- A text either begins a node or goes on with the one before it. -/
inductive Joins (value : String) (location : Location) : List (Head Markup) → List (Head Markup) → Prop
  | begun {hs} : Joins value location hs (hs ++ [textHead value location])
  | joined {hs h} : h.kind = .text →
      Joins value location (hs ++ [h]) (hs ++ [{ h with value := some (h.value.getD "" ++ value) }])

theorem joins_addText (value : String) (location : Location) (ms : List Markup) :
    Joins value location (headsAll ms.reverse) (headsAll (addText value location ms).reverse) := by
  have begun : Joins value location (headsAll ms.reverse) (headsAll (Markup.text value location :: ms).reverse) := by
    rw [List.reverse_cons, headsAll_append]
    exact .begun
  unfold addText
  split
  · split
    · next hk =>
      rw [List.reverse_cons, List.reverse_cons, headsAll_append, headsAll_append]
      exact .joined hk
    · exact begun
  · exact begun

theorem Joins.after {value : String} {location : Location} {hs hs' : List (Head Markup)}
    (h : Joins value location hs hs') (before : List (Head Markup)) : Joins value location (before ++ hs) (before ++ hs') := by
  cases h with
  | begun =>
    rw [← List.append_assoc]
    exact .begun
  | joined hk =>
    rw [← List.append_assoc, ← List.append_assoc]
    exact .joined hk

theorem joins_text (b : Builder) (value : String) (location : Location) :
    Joins value location b.heads (b.mapChildren (addText value location)).heads := by
  rw [heads_mapChildren]
  exact (joins_addText value location b.innermost).after _

/-- What a token does to the heads of the nodes: it adds one at the end, it goes on with the text there, or it adds
none. -/
inductive Extends (t : Token) (l : Location) : List (Head Markup) → List (Head Markup) → Prop
  | opening {hs name attributes closed} : t = .opening name attributes closed →
      Extends t l hs (hs ++ [tagHead name attributes l])
  | closing {hs} : Extends t l hs hs
  | text {hs hs' value} : t = .text value → Joins value l hs hs' → Extends t l hs hs'
  | reference {hs hs' body} : t = .reference body → Joins ("&" ++ body ++ ";") l hs hs' → Extends t l hs hs'
  | comment {hs value} : t = .comment value → Extends t l hs (hs ++ [{ kind := .comment, value, location := l }])
  | doctype {hs value} : t = .doctype value → Extends t l hs (hs ++ [{ kind := .doctype, value, location := l }])

theorem extends_push (b : Builder) (t : Token) (p : Position) : Extends t (b.place p) b.heads (b.push t p).heads := by
  cases t with
  | opening name attributes closed =>
    simp only [push]
    split
    · rw [heads_add]
      exact .opening rfl
    · have hopen : (Builder.heads { b with opened := { head := tagHead name attributes (b.place p) } :: b.opened }) =
          b.heads ++ [tagHead name attributes (b.place p)] := by
        rw [heads_eq, heads_eq]
        simp [openHeads, headsAll, Markup.nodesAll]
      rw [hopen]
      exact .opening rfl
  | closing name =>
    simp only [push, close]
    split
    · rw [heads_closeMany]
      exact .closing
    · exact .closing
  | text value => exact .text rfl (joins_text b value _)
  | reference body => exact .reference rfl (joins_text b _ _)
  | comment value =>
    simp only [push]
    rw [heads_add]
    exact .comment rfl
  | doctype value =>
    simp only [push]
    rw [heads_add]
    exact .doctype rfl

/-- The parts of a tag's attributes stand where the tag does. -/
theorem location_of_tagHead {name : String} {attributes : List (String × String)} {l : Location} :
    ∀ a ∈ (tagHead name attributes l).attributes, ∀ part ∈ a.2, part.head.location = l := by
  intro a ha part hpart
  obtain ⟨_, -, rfl⟩ := List.mem_map.1 (Dictionary.mem_ofList ha)
  rw [List.mem_singleton.1 hpart]
  rfl

end Builder

/-! ### Nodes in order -/

/-- The location of a place in the text of a file. -/
def Position.location (p : Position) (filename : Option String) : Location :=
  ⟨filename, p.line, p.column⟩

theorem Position.Before.location {p q : Position} (h : p.Before q) (filename : Option String) :
    (p.location filename).Before (q.location filename) :=
  h.imp Int.ofNat_lt.2 fun h => ⟨congrArg Int.ofNat h.1, Int.ofNat_lt.2 h.2⟩

theorem Location.Before.trans {l l' l'' : Location} (h : l.Before l') (h' : l'.Before l'') : l.Before l'' := by
  unfold Location.Before at *
  omega

/-- The heads stand in the text, one after the other and before the place `bound`. -/
structure Orderly (text : List Char) (filename : Option String) (bound : Position) (hs : List (Head Markup)) :
    Prop where
  stands : ∀ h ∈ hs, h.Stands text filename
  increasing : (hs.map Head.location).Pairwise Location.Before
  bounded : ∀ h ∈ hs, h.location.Before (bound.location filename)

namespace Orderly

variable {text later before after : List Char} {filename : Option String} {p q : Position} {hs : List (Head Markup)}
  {h : Head Markup}

theorem nil : Orderly text filename p [] :=
  ⟨nofun, List.Pairwise.nil, nofun⟩

theorem mono (ho : Orderly text filename p hs) (hq : p.Before q) : Orderly text filename q hs :=
  ⟨ho.stands, ho.increasing, fun h hm => (ho.bounded h hm).trans (hq.location filename)⟩

theorem append (ho : Orderly text filename p hs) (more : List Char) : Orderly (text ++ more) filename p hs :=
  ⟨fun h hm => (ho.stands h hm).append more, ho.increasing, ho.bounded⟩

/-- A node that begins at the bound comes last. -/
theorem concat (ho : Orderly text filename p hs) (hh : h.Stands text filename) (hl : h.location = p.location filename)
    (c : Char) : Orderly text filename (p.next c) (hs ++ [h]) := by
  constructor
  · intro k hk
    rcases List.mem_append.1 hk with hk | hk
    · exact ho.stands k hk
    · exact List.mem_singleton.1 hk ▸ hh
  · rw [List.map_append, List.pairwise_append]
    refine ⟨ho.increasing, List.pairwise_singleton _ _, fun l hl₁ l' hl₂ => ?_⟩
    obtain ⟨k, hk, rfl⟩ := List.mem_map.1 hl₁
    rw [List.mem_singleton.1 hl₂, hl]
    exact ho.bounded k hk
  · intro k hk
    rcases List.mem_append.1 hk with hk | hk
    · exact (ho.mono (p.before_next c)).bounded k hk
    · rw [List.mem_singleton.1 hk, hl]
      exact (p.before_next c).location filename

/-- More text does not move a node. -/
theorem join (ho : Orderly text filename p (hs ++ [h])) (hk : h.kind = .text) (value : String) :
    Orderly text filename p (hs ++ [{ h with value := some (h.value.getD "" ++ value) }]) := by
  have hlast := ho.stands h (List.mem_append_right _ (List.mem_singleton_self h))
  have hmap : (hs ++ [{ h with value := some (h.value.getD "" ++ value) }]).map Head.location =
      (hs ++ [h]).map Head.location := by
    rw [List.map_append, List.map_append]
    rfl
  constructor
  · intro k hm
    rcases List.mem_append.1 hm with hm | hm
    · exact ho.stands k (List.mem_append_left _ hm)
    · rw [List.mem_singleton.1 hm]
      obtain ⟨before, after, htext, hbegins, hl⟩ := hlast.place
      refine ⟨⟨before, after, htext, ?_, hl⟩, hlast.attributes⟩
      rw [Head.Begins, hk] at hbegins
      obtain ⟨c, first, hvalue, hc⟩ := hbegins
      simp only [Head.Begins, hk]
      refine ⟨c, first ++ value.toList, ?_, hc⟩
      simp [hvalue, String.append_assoc]
  · rw [hmap]
    exact ho.increasing
  · intro k hm
    have hin : k.location ∈ (hs ++ [h]).map Head.location := hmap ▸ List.mem_map_of_mem hm
    obtain ⟨k', hm', hl⟩ := List.mem_map.1 hin
    exact hl ▸ ho.bounded k' hm'

theorem stands_at (hb : h.Begins after) (htext : text = before ++ after) (hp : p = ({} : Position).after before)
    (hl : h.location = p.location filename) (ha : ∀ a ∈ h.attributes, ∀ part ∈ a.2, part.head.location = h.location) :
    h.Stands text filename := by
  refine ⟨⟨before, after, htext, hb, ?_⟩, ha⟩
  rw [hl, hp, Position.after_eq]
  rfl

/-- A piece of text at the bound. -/
theorem joins {value : String} {hs' : List (Head Markup)} (ho : Orderly text filename p hs)
    (hj : Builder.Joins value (p.location filename) hs hs') (hv : value.toList.head? ≠ none)
    (hb : value.toList.head? = after.head?) (htext : text = before ++ after) (hp : p = ({} : Position).after before)
    (c : Char) : Orderly text filename (p.next c) hs' := by
  cases hj with
  | begun =>
    refine ho.concat (stands_at ?_ htext hp rfl ?_) rfl c
    · obtain ⟨d, hd⟩ := Option.ne_none_iff_exists'.1 hv
      obtain ⟨rest, hrest⟩ := List.head?_eq_some_iff.1 hd
      exact ⟨d, rest, by rw [← hrest, String.ofList_toList]; rfl, hb ▸ hd⟩
    · exact fun _ ha => nomatch ha
  | joined hk => exact (ho.join hk value).mono (p.before_next c)

/-- A token at the bound. -/
theorem push {b : Builder} {t : Token} (ho : Orderly text b.filename p b.heads) (hb : t.Begins after)
    (htext : text = before ++ after) (hp : p = ({} : Position).after before) (c : Char) :
    Orderly text b.filename (p.next c) (b.push t p).heads := by
  have hextends := Builder.extends_push b t p
  generalize (b.push t p).heads = hs' at hextends
  cases hextends with
  | opening ht =>
    subst ht
    obtain ⟨letters, rest, hafter, rfl⟩ := hb
    refine ho.concat (stands_at ?_ htext hp rfl Builder.location_of_tagHead) rfl c
    exact ⟨letters, rest, hafter, rfl⟩
  | closing => exact ho.mono (p.before_next c)
  | text ht hj =>
    subst ht
    exact ho.joins hj hb.1 hb.2 htext hp c
  | reference ht hj =>
    subst ht
    refine ho.joins hj ?_ ?_ htext hp c
    · simp
    · simp [show after.head? = some '&' from hb]
  | comment ht =>
    subst ht
    refine ho.concat (stands_at ?_ htext hp rfl ?_) rfl c
    · exact hb
    · exact fun _ ha => nomatch ha
  | doctype ht =>
    subst ht
    refine ho.concat (stands_at ?_ htext hp rfl ?_) rfl c
    · exact hb
    · exact fun _ ha => nomatch ha

/-- The tokens of a scan. -/
theorem pushAll {cs : List Char} {ts : List (Token × Position)} (hl : Located later p cs ts) :
    ∀ (before : List Char) {b : Builder}, text = before ++ (cs ++ later) → p = ({} : Position).after before →
      Orderly text b.filename p b.heads → Orderly text b.filename (p.after cs) (b.pushAll ts).heads := by
  induction hl with
  | @nil p cs =>
    intro _ b _ _ ho
    by_cases hcs : cs = []
    · rwa [hcs]
    · exact ho.mono (p.before_after hcs)
  | @skip p c cs ts _ ih =>
    intro before b htext hp ho
    refine ih (before ++ [c]) ?_ ?_ (ho.mono (p.before_next c))
    · rw [htext, List.append_assoc]
      rfl
    · rw [Position.after_append, ← hp]
      rfl
  | @here p c cs t ts hb _ ih =>
    intro before b htext hp ho
    have hpush := ho.push hb htext hp c
    rw [← Builder.filename_push b t p] at hpush ⊢
    refine ih (before ++ [c]) ?_ ?_ hpush
    · rw [htext, List.append_assoc]
      rfl
    · rw [Position.after_append, ← hp]
      rfl

end Orderly

/-! ### Reading in parts -/

namespace Reader

variable {r r' : Reader} {text part : List Char} {filename : Option String} {atEnd : Bool}

/-- What the reader has passed over of the text has become nodes in order, and the rest is still to be scanned. -/
structure Reads (text : List Char) (filename : Option String) (r : Reader) : Prop where
  filename_eq : r.builder.filename = filename
  scanned : ∃ passed, text = passed ++ r.scan.pending ∧ r.scan.position = ({} : Position).after passed
  orderly : Orderly text filename r.scan.position r.builder.heads

theorem reads_start (filename : Option String) : Reads [] filename (start filename) :=
  ⟨rfl, ⟨[], rfl, rfl⟩, .nil⟩

theorem filename_pushAll (b : Builder) (ts : List (Token × Position)) : (b.pushAll ts).filename = b.filename := by
  induction ts generalizing b with
  | nil => rfl
  | cons t ts ih => exact (ih _).trans (b.filename_push t.1 t.2)

theorem Reads.advance (h : Reads text filename r) (ha : r.advance atEnd part = (r', none)) :
    Reads (text ++ part) filename r' := by
  obtain ⟨rfl, ⟨passed, rfl, hp⟩, ho⟩ := h
  have hpasses := Scan.passes_scanFrom atEnd r.scan.raw r.scan.position 0 (r.scan.pending ++ part)
  simp only [Reader.advance, Scan.State.scan] at ha
  generalize Scan.scanFrom atEnd r.scan.raw r.scan.position 0 (r.scan.pending ++ part) = result at ha hpasses
  split at ha
  · next s hs =>
    cases ha
    obtain ⟨more, hmore, hposition, hl⟩ := hpasses s hs
    have htext : passed ++ r.scan.pending ++ part = passed ++ (more ++ s.pending) := by
      rw [List.append_assoc, hmore]
    refine ⟨filename_pushAll _ _, ⟨passed ++ more, ?_, ?_⟩, ?_⟩
    · rw [htext, List.append_assoc]
    · rw [hposition, Position.after_append, hp]
    · rw [hposition]
      exact (ho.append part).pushAll hl _ htext hp
  · cases ha

/-- All parts, one after the other. -/
theorem Reads.feedAll {parts : List String} (h : Reads text filename r) (hr : r.feedAll parts = .ok r') :
    Reads (text ++ parts.flatMap String.toList) filename r' := by
  induction parts generalizing text r with
  | nil =>
    cases hr
    rwa [List.flatMap_nil, List.append_nil]
  | cons part parts ih =>
    rw [Reader.feedAll] at hr
    split at hr
    · next hfeed =>
      rw [List.flatMap_cons, ← List.append_assoc]
      exact ih (h.advance hfeed) hr
    · exact nomatch hr

end Reader

namespace Markup

variable {parts : List String} {filename : Option String} {document : List Markup}

/-- Locations are exact, however the text is divided into parts: a node carries the name of the file, and its line and
column lead to the place where its source begins. In document order the places of the nodes increase. -/
theorem locations_of_parseParts (h : parseParts parts filename = .ok document) :
    (∀ m ∈ nodesAll document, m.head.Stands (parts.flatMap String.toList) filename) ∧
      ((nodesAll document).map (·.head.location)).Pairwise Location.Before := by
  obtain ⟨r, hr, hclose⟩ : ∃ r, (Reader.start filename).feedAll parts = .ok r ∧ r.close = .ok document := by
    rw [parseParts] at h
    cases hr : (Reader.start filename).feedAll parts with
    | error fault =>
      rw [hr] at h
      exact nomatch h
    | ok r =>
      rw [hr] at h
      exact ⟨r, rfl, h⟩
  have hread := (Reader.reads_start filename).feedAll hr
  rw [Reader.close] at hclose
  split at hclose
  · next r' hfinish =>
    cases hclose
    have ho := (hread.advance hfinish).orderly
    rw [List.nil_append, List.append_nil, ← Builder.headsAll_tree] at ho
    refine ⟨fun m hm => ho.stands m.head (List.mem_map_of_mem hm), ?_⟩
    have hincreasing := ho.increasing
    rwa [headsAll, List.map_map] at hincreasing
  · exact nomatch hclose

/-- A reference, a tag and a line are divided. -/
theorem locations_of_parseParts_divided :
    let parts := ["<P>a&am", "p;", "\n<b", "r>c"]
    ∃ document, parseParts parts (some "f") = .ok document ∧
      (nodesAll document).map (·.head.location.text) = ["f:1:1", "f:1:4", "f:2:1", "f:2:5"] ∧
      (∀ m ∈ nodesAll document, m.head.Stands "<P>a&amp;\n<br>c".toList (some "f")) ∧
      ((nodesAll document).map (·.head.location)).Pairwise Location.Before := by
  intro parts
  have hsome : (parseParts parts (some "f")).toOption.isSome := by decide +kernel
  obtain ⟨document, hd⟩ : ∃ document, parseParts parts (some "f") = .ok document := by
    cases h : parseParts parts (some "f") with
    | error fault =>
      rw [h] at hsome
      exact nomatch hsome
    | ok document => exact ⟨document, rfl⟩
  have hplaces : ((parseParts parts (some "f")).toOption.map fun document =>
      (nodesAll document).map (·.head.location.text)) = some ["f:1:1", "f:1:4", "f:2:1", "f:2:5"] := by
    decide +kernel
  rw [hd] at hplaces
  exact ⟨document, hd, Option.some.inj hplaces, locations_of_parseParts hd⟩

end Markup

end LayoutInheritance
