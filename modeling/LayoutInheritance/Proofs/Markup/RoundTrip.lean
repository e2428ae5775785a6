import LayoutInheritance.Proofs.Dictionary
import LayoutInheritance.Proofs.Markup.Cut

/-! Plain documents come back from their writing. Each node is written in pieces that are taken one by one, and
the tokens of these build the node again, in the place where it stood among its siblings. -/

namespace LayoutInheritance

open Markup (unplaced unplacedHead unplacedAll)

namespace Builder

variable {b : Builder} {f g : List Markup → List Markup} {m : Markup} {ms : List Markup} {tokens others : List Token}

/-- The children of the innermost open element so far, last first. -/
def children (b : Builder) : List Markup :=
  match b.opened with
  | [] => b.root
  | e :: _ => e.children

theorem mapChildren_id : b.mapChildren (fun ms => ms) = b := by
  obtain ⟨_, _, opened, _⟩ := b
  cases opened <;> rfl

theorem mapChildren_mapChildren : (b.mapChildren f).mapChildren g = b.mapChildren (g ∘ f) := by
  unfold mapChildren
  cases b.opened <;> rfl

theorem mapChildren_congr (h : f b.children = g b.children) : b.mapChildren f = b.mapChildren g := by
  unfold children at h
  unfold mapChildren
  cases hb : b.opened <;> simp_all

theorem children_mapChildren : (b.mapChildren f).children = f b.children := by
  unfold mapChildren children
  cases hb : b.opened <;> simp_all

theorem pushAll_append (placed placed' : List (Token × Position)) :
    b.pushAll (placed ++ placed') = (b.pushAll placed).pushAll placed' :=
  List.foldl_append

/-- No text would join one that is there already. -/
def Parts (b : Builder) (ms : List Markup) : Prop :=
  ∀ m ∈ ms.head?, m.isText → ∀ n ∈ b.children.head?, n.isText = false

/-- The tokens, wherever they are placed, put the nodes `ms` after what there is, apart from the places. -/
def Builds (tokens : List Token) (ms : List Markup) : Prop :=
  ∀ (b : Builder) (placed : List (Token × Position)), placed.map Prod.fst = tokens → b.Parts ms →
    ∃ ms', unplacedAll ms' = unplacedAll ms ∧ b.pushAll placed = b.mapChildren (ms'.reverse ++ ·)

theorem Builds.nil : Builds [] [] := by
  intro b placed hp _
  obtain rfl := List.map_eq_nil_iff.1 hp
  exact ⟨[], rfl, mapChildren_id.symm⟩

theorem Builds.cons (h : Builds tokens [m]) (h' : Builds others ms)
    (hm : m.isText → ∀ n ∈ ms.head?, n.isText = false) : Builds (tokens ++ others) (m :: ms) := by
  intro b placed hp hb
  obtain ⟨placed₁, placed₂, rfl, hp₁, hp₂⟩ := List.map_eq_append_iff.1 hp
  obtain ⟨_, he, hfirst⟩ := h b placed₁ hp₁ hb
  rw [Markup.unplacedAll_eq_map, Markup.unplacedAll_eq_map] at he
  obtain ⟨first, rfl, hsame⟩ := List.map_eq_singleton_iff.1 he
  have apart : (b.mapChildren ([first].reverse ++ ·)).Parts ms := by
    intro n hn hntext first' hfirst'
    obtain rfl : first = first' := by simpa [children_mapChildren] using hfirst'
    rw [← Markup.isText_unplaced, hsame, Markup.isText_unplaced, Bool.eq_false_iff]
    intro htext
    exact Bool.false_ne_true ((hm htext n hn).symm.trans hntext)
  obtain ⟨after, he', hafter⟩ := h' _ placed₂ hp₂ apart
  refine ⟨first :: after, by rw [unplacedAll, hsame, he', unplacedAll], ?_⟩
  rw [pushAll_append, hfirst, hafter, mapChildren_mapChildren]
  refine mapChildren_congr ?_
  simp

/-- A token that makes a node without siblings of its own kind. -/
theorem builds_of_push {token : Token} (h : ∀ p : Position, ∀ b : Builder, ∃ m', m'.unplaced = m.unplaced ∧
    b.push token p = b.add m') : Builds [token] [m] := by
  intro b placed hp _
  obtain ⟨⟨token, p⟩, rfl, rfl⟩ := List.map_eq_singleton_iff.1 hp
  obtain ⟨m', he, hpush⟩ := h p b
  exact ⟨[m'], by rw [unplacedAll, he]; rfl, hpush⟩

/-! ### Texts -/

theorem push_textual {x : Piece} (h : x.Textual) (p : Position) :
    b.push x.token p = b.mapChildren (addText (String.ofList x.span) (b.place p)) := by
  rcases h with ht | ⟨body, ht, hspan⟩
  · rw [ht]
    rfl
  · have text : "&" ++ String.ofList body ++ ";" = String.ofList x.span := by
      rw [hspan, ← String.toList_inj]
      simp
    rw [ht, ← text]
    rfl

/-- A text goes on with what textual pieces span. -/
theorem pushAll_textual {pieces : List Piece} (h : ∀ x ∈ pieces, x.Textual) {value : String} {l : Location}
    {placed : List (Token × Position)} (hp : placed.map Prod.fst = pieces.map Piece.token) :
    (b.mapChildren (.text value l :: ·)).pushAll placed =
      b.mapChildren (.text (value ++ String.ofList (Scan.spans pieces)) l :: ·) := by
  induction pieces generalizing value placed with
  | nil =>
    obtain rfl := List.map_eq_nil_iff.1 hp
    simp [pushAll]
  | cons x pieces ih =>
    obtain ⟨⟨token, p⟩, placed, rfl, rfl, hrest⟩ := List.map_eq_cons_iff.1 hp
    have step : (b.mapChildren (.text value l :: ·)).push x.token p =
        b.mapChildren (.text (value ++ String.ofList x.span) l :: ·) := by
      rw [push_textual (h x (List.mem_cons_self ..)), mapChildren_mapChildren]
      rfl
    rw [pushAll, List.foldl_cons, step]
    refine (ih (fun y hy => h y (List.mem_cons_of_mem _ hy)) hrest).trans ?_
    rw [String.append_assoc, Scan.spans_cons, String.ofList_append]

/-- Where no text stands before it, a text begins a node. -/
theorem mapChildren_addText {value : String} {l : Location} (h : ∀ n ∈ b.children.head?, n.isText = false) :
    b.mapChildren (addText value l) = b.mapChildren (.text value l :: ·) := by
  apply mapChildren_congr
  cases hc : b.children with
  | nil => rfl
  | cons n rest =>
    have hn := h n (by rw [hc]; rfl)
    cases n with
    | leaf hd => exact if_neg (of_decide_eq_false hn)
    | branch hd content => rfl

theorem builds_text {pieces : List Piece} (h : ∀ x ∈ pieces, x.Textual) {value : String} {l : Location}
    (hs : Scan.spans pieces = value.toList) (hne : value ≠ "") :
    Builds (pieces.map Piece.token) [.text value l] := by
  intro b placed hp hb
  cases pieces with
  | nil => exact absurd (String.toList_inj.1 hs.symm) hne
  | cons x pieces =>
    obtain ⟨⟨token, p⟩, placed, rfl, rfl, hrest⟩ := List.map_eq_cons_iff.1 hp
    refine ⟨[.text value (b.place p)], rfl, ?_⟩
    have joined : String.ofList x.span ++ String.ofList (Scan.spans pieces) = value := by
      rw [← String.ofList_append, ← Scan.spans_cons, hs, String.ofList_toList]
    rw [pushAll, List.foldl_cons, push_textual (h x (List.mem_cons_self ..)), mapChildren_addText (hb _ rfl rfl)]
    refine (pushAll_textual (fun y hy => h y (List.mem_cons_of_mem _ hy)) hrest).trans ?_
    rw [joined]
    rfl

/-! ### Tags -/

/-- The attributes of a tag as its token gives them. -/
def attributeTexts (attributes : List (String × List Markup)) : List (String × String) :=
  attributes.map fun a => (a.1, attributeText a.2)

variable {name : String} {attributes : List (String × List Markup)} {location : Location}

/-- A tag has its attributes again, wherever it is placed. -/
theorem unplaced_tagHead (h : Markup.PlainAttributes attributes) (l : Location) :
    unplacedHead (tagHead name (attributeTexts attributes) l) =
      unplacedHead { kind := .tag, name := some name, attributes, location } := by
  have nodup : (Dictionary.keys ((attributeTexts attributes).map fun a => (a.1, [Markup.text a.2 l]))).Nodup := by
    simpa [Dictionary.keys, attributeTexts, Function.comp_def] using h.nodup
  have same : ∀ a ∈ attributes, Markup.unplacedAttribute (a.1, [Markup.text (attributeText a.2) l]) =
      Markup.unplacedAttribute a := by
    rintro ⟨key, parts⟩ ha
    obtain ⟨value, l', hv⟩ := h.values _ ha
    obtain rfl : parts = [Markup.text value l'] := hv
    have text : attributeText [Markup.text value l'] = value := by
      simp [attributeText, Markup.text, Markup.head, String.join]
    rw [text]
    rfl
  rw [tagHead, Dictionary.ofList_of_nodup nodup, attributeTexts, List.map_map]
  simp only [unplacedHead, Markup.unplacedAttributes_eq_map, List.map_map]
  congr 1
  exact List.map_congr_left same

theorem builds_void (hv : isVoidElement name) (ha : Markup.PlainAttributes attributes) :
    Builds [.opening name (attributeTexts attributes) false]
      [.leaf { kind := .tag, name := some name, attributes, location }] := by
  refine builds_of_push fun p b => ⟨.leaf (tagHead name (attributeTexts attributes) (b.place p)), ?_, ?_⟩
  · rw [unplaced, unplaced, unplaced_tagHead ha]
  · simp [push, hv]

/-- An element that is not void is open until its end tag, and then has what was built in it. -/
theorem builds_element (hv : isVoidElement name = false) (ha : Markup.PlainAttributes attributes)
    (h : Builds tokens ms) :
    Builds (.opening name (attributeTexts attributes) false :: (tokens ++ [.closing name]))
      [.branch { kind := .tag, name := some name, attributes, location } ms] := by
  intro b placed hp _
  obtain ⟨⟨_, p⟩, _, rfl, rfl, hrest⟩ := List.map_eq_cons_iff.1 hp
  obtain ⟨placed, _, rfl, hplaced, hlast⟩ := List.map_eq_append_iff.1 hrest
  obtain ⟨⟨_, q⟩, rfl, rfl⟩ := List.map_eq_singleton_iff.1 hlast
  set head := tagHead name (attributeTexts attributes) (b.place p)
  have opens : b.push (.opening name (attributeTexts attributes) false) p =
      { b with opened := { head } :: b.opened } := by
    simp [push, hv, head]
  obtain ⟨inside, he, hinside⟩ := h { b with opened := { head } :: b.opened } placed hplaced
    fun _ _ _ n hn => nomatch hn
  refine ⟨[.branch head inside], ?_, ?_⟩
  · simp only [unplacedAll, unplaced, he]
    rw [unplaced_tagHead ha]
  · rw [pushAll, List.foldl_cons, opens]
    change Builder.pushAll _ (placed ++ [(.closing name, q)]) = _
    rw [pushAll_append, hinside]
    have named : head.name = some name := rfl
    simp [pushAll, push, close, mapChildren, named, closeMany, closeInnermost, add, List.findIdx?_cons]

end Builder

namespace Markup

open Builder (Builds attributeTexts)
open Scan (Takes Cuts Waits spans startPiece endPiece commentPiece doctypePiece)

/-! ### Writing -/

variable {rest : List Char} {m : Markup} {ms : List Markup} {pieces others : List Piece}

/-- The pieces are what the nodes are written as: where `rest` follows them, they may be cut anywhere, and they build
the nodes again. -/
structure Spells (rest : List Char) (ms : List Markup) (pieces : List Piece) : Prop where
  text : spans pieces = (renderAll ms).toList
  cuts : Cuts rest none pieces none
  builds : Builds (pieces.map Piece.token) ms

theorem Spells.cons (h : Spells (spans others ++ rest) [m] pieces) (h' : Spells rest ms others)
    (hm : m.isText → ∀ n ∈ ms.head?, n.isText = false) : Spells rest (m :: ms) (pieces ++ others) where
  text := by
    have hfirst := h.text
    rw [renderAll, renderAll, String.append_empty] at hfirst
    rw [Scan.spans_append, hfirst, h'.text, renderAll, String.toList_append]
  cuts := h.cuts.append h'.cuts
  builds := by
    rw [List.map_append]
    exact h.builds.cons h'.builds hm

section Nodes

variable {name : String} {attributes : List (String × List Markup)} {location : Location}

theorem toList_startTag :
    (Head.startTag { kind := .tag, name := some name, attributes, location }).toList =
      (startPiece name (attributeTexts attributes)).span := by
  simp [Head.startTag, Head.tagName, startPiece, attributeTexts, Lexeme.spelledAll, Lexeme.spelled, Lexeme.quoted,
    Lexeme.escaped, String.toList_join, List.flatMap_map, toList_escapeAttribute]

theorem toList_endTag :
    (Head.endTag { kind := .tag, name := some name, attributes, location }).toList = (endPiece name).span := by
  simp [Head.endTag, Head.tagName, endPiece]

theorem plain_attributeTexts (h : PlainAttributes attributes) :
    ∀ a ∈ attributeTexts attributes, isPlainName a.1 := by
  intro a ha
  obtain ⟨b, hb, rfl⟩ := List.mem_map.1 ha
  exact h.names b hb

theorem not_void_of_raw (h : name ∈ rawElements) : isVoidElement name = false := by
  revert name
  decide

theorem isPlainName_of_raw (h : name ∈ rawElements) : isPlainName name := by
  revert name
  decide

theorem spells_text {value : String} (hne : value ≠ "") (h : isPlainText value.toList)
    (hr : ∀ c ∈ rest.head?, Scan.isMark c) : ∃ pieces, Spells rest [.text value location] pieces := by
  obtain ⟨pieces, hs, htext, hcuts⟩ := Scan.cuts_text h hr
  refine ⟨pieces, ?_, hcuts, Builder.builds_text htext hs hne⟩
  rw [hs, renderAll, renderAll, String.append_empty]
  rfl

/-- A node that is one piece. -/
theorem spells_piece {x : Piece} (hs : x.span = m.render.toList) (hw : Waits none x [])
    (hr : Scan.rawAfter none (some x.token) = none) (hb : Builds [x.token] [m]) : Spells rest [m] [x] where
  text := by simp [hs, renderAll]
  cuts := hw.cuts hr
  builds := hb

theorem spells_comment {value : String} (h : Lexeme.search Lexeme.commentEnd? value.toList = none) :
    Spells rest [.comment value location] [commentPiece value] := by
  refine spells_piece ?_ (Scan.waits_commentPiece h) rfl ?_
  · simp [comment, render, Head.render, commentPiece]
  · exact Builder.builds_of_push fun p b => ⟨.comment value (b.place p), rfl, rfl⟩

theorem spells_doctype {value : String} (hw : (value.toList.take 7).map Char.toLower = "doctype".toList)
    (ha : '>' ∉ value.toList) :
    Spells rest [.leaf { kind := .doctype, value := some value, location }] [doctypePiece value] := by
  refine spells_piece ?_ (Scan.waits_doctypePiece hw ha) rfl ?_
  · simp [render, Head.render, doctypePiece]
  · exact Builder.builds_of_push fun p b =>
      ⟨.leaf { kind := .doctype, value := some value, location := b.place p }, rfl, rfl⟩

theorem spells_void (hn : isPlainName name) (hv : isVoidElement name) (ha : PlainAttributes attributes) :
    Spells rest [.leaf { kind := .tag, name := some name, attributes, location }]
      [startPiece name (attributeTexts attributes)] := by
  refine spells_piece ?_ (Scan.waits_startPiece hn (plain_attributeTexts ha)) ?_
    (Builder.builds_void hv ha)
  · simp [render, Head.render, Head.isVoid, hv, toList_startTag]
  · refine if_neg fun hraw => ?_
    exact Bool.false_ne_true ((not_void_of_raw (List.contains_iff_mem.1 hraw)).symm.trans hv)

/-- An element around its content, of which the pieces may be cut up to the end tag in whatever mode the start tag
leads to. -/
theorem spells_element (hn : isPlainName name) (hv : isVoidElement name = false) (ha : PlainAttributes attributes)
    (hs : spans pieces = (renderAll ms).toList)
    (ht : Cuts rest (if rawElements.contains name then some name else none) (pieces ++ [endPiece name]) none)
    (hb : Builds (pieces.map Piece.token) ms) :
    Spells rest [.branch { kind := .tag, name := some name, attributes, location } ms]
      (startPiece name (attributeTexts attributes) :: (pieces ++ [endPiece name])) where
  text := by
    simp [renderAll, render, Head.render, Head.isVoid, hv, hs, toList_startTag, toList_endTag]
  cuts := .whole (Scan.waits_startPiece hn (plain_attributeTexts ha)) List.nil_prefix ht
  builds := by
    rw [List.map_cons, List.map_append]
    exact Builder.builds_element hv ha hb

theorem spells_emptyRaw (hr : name ∈ rawElements) (ha : PlainAttributes attributes) :
    Spells rest [.branch { kind := .tag, name := some name, attributes, location } []]
      (startPiece name (attributeTexts attributes) :: ([] ++ [endPiece name])) := by
  refine spells_element (isPlainName_of_raw hr) (not_void_of_raw hr) ha rfl ?_ .nil
  rw [if_pos (List.contains_iff_mem.2 hr)]
  exact (Scan.waits_rawEnd (isPlainName_of_raw hr)).cuts rfl

theorem spells_raw {value : String} {place : Location} (hr : name ∈ rawElements) (ha : PlainAttributes attributes)
    (hne : value ≠ "") (h : Scan.rawText? name value.toList = none) :
    Spells rest [.branch { kind := .tag, name := some name, attributes, location } [.text value place]]
      (startPiece name (attributeTexts attributes) :: ([⟨.text value, value.toList⟩] ++ [endPiece name])) := by
  have textual : ∀ x ∈ [(⟨.text value, value.toList⟩ : Piece)], x.Textual := by
    intro x hx
    rw [List.mem_singleton.1 hx]
    exact .inl (by rw [String.ofList_toList])
  refine spells_element (isPlainName_of_raw hr) (not_void_of_raw hr) ha ?_ ?_
    (Builder.builds_text textual (by simp) hne)
  · simp [renderAll, render, Head.render, Markup.text]
  · rw [if_pos (List.contains_iff_mem.2 hr)]
    have waits := Scan.waits_rawText (isPlainName_of_raw hr) (fun hn => hne (String.toList_inj.1 hn)) h
    rw [String.ofList_toList] at waits
    exact .whole waits (by simp) ((Scan.waits_rawEnd (isPlainName_of_raw hr)).cuts rfl)

end Nodes

/-! ### Reading what was written -/

theorem head?_render_tag {h : Head Markup} (hk : h.kind = .tag) (empty : Bool) (inner : String) :
    (h.render empty inner).toList.head? = some '<' := by
  rw [Head.render, hk]
  simp only
  split <;> simp [Head.startTag]

/-- What is not a text begins with an opening angle bracket. -/
theorem Plain.head?_render (h : Plain m) (ht : m.isText = false) : m.render.toList.head? = some '<' := by
  cases h with
  | text => exact nomatch ht
  | comment => simp [Markup.comment, render, Head.render]
  | doctype => simp [render, Head.render]
  | void | element | emptyRaw | raw => exact head?_render_tag rfl _ _

/-- What follows a text begins with an opening angle bracket, too. -/
theorem PlainAll.head?_renderAll (h : PlainAll ms) (ht : ∀ n ∈ ms.head?, n.isText = false)
    (hr : ∀ c ∈ rest.head?, c = '<') : ∀ c ∈ ((renderAll ms).toList ++ rest).head?, c = '<' := by
  intro c hc
  cases h with
  | nil => exact hr c hc
  | cons hn _ _ =>
    rw [renderAll, String.toList_append, List.append_assoc, List.head?_append,
      hn.head?_render (ht _ rfl)] at hc
    exact (Option.some.inj hc).symm

mutual

/-- A plain node is spelled by pieces, before whatever ends it when it is a text. -/
theorem Plain.spelled {m : Markup} (h : Plain m) (rest : List Char)
    (hr : m.isText → ∀ c ∈ rest.head?, c = '<') : ∃ pieces, Spells rest [m] pieces := by
  cases h with
  | text hne ht => exact spells_text hne ht fun c hc => by rw [hr rfl c hc]; rfl
  | comment hc => exact ⟨_, spells_comment hc⟩
  | doctype hw ha => exact ⟨_, spells_doctype hw ha⟩
  | void hn hv ha => exact ⟨_, spells_void hn hv ha⟩
  | @element name _ _ _ hn hv hraw ha hcontent =>
    obtain ⟨pieces, hs⟩ := hcontent.spelled (spans [endPiece name] ++ rest) (by simp [endPiece])
    refine ⟨_, spells_element hn hv ha hs.text ?_ hs.builds⟩
    rw [if_neg (by simpa using hraw)]
    exact hs.cuts.append ((Scan.waits_endPiece hn).cuts rfl)
  | emptyRaw hraw ha => exact ⟨_, spells_emptyRaw hraw ha⟩
  | raw hraw ha hne hv => exact ⟨_, spells_raw hraw ha hne hv⟩

theorem PlainAll.spelled {ms : List Markup} (h : PlainAll ms) (rest : List Char)
    (hr : ∀ c ∈ rest.head?, c = '<') : ∃ pieces, Spells rest ms pieces := by
  cases h with
  | nil => exact ⟨[], rfl, .nil, .nil⟩
  | cons hm hsep hms =>
    obtain ⟨others, hs⟩ := hms.spelled rest hr
    obtain ⟨pieces, hs'⟩ := hm.spelled (spans others ++ rest) fun ht => by
      rw [hs.text]
      exact hms.head?_renderAll (hsep ht) hr
    exact ⟨_, hs'.cons hs hsep⟩

end

/-- A text that is put together from pieces is read as the nodes that their tokens build. -/
theorem read_takes (ht : Takes false [] none pieces none) (hb : Builds (pieces.map Piece.token) ms)
    (filename : Option String) : ∃ ms', unplacedAll ms' = unplacedAll ms ∧
      Markup.read (String.ofList (spans pieces)) filename = ⟨.ok ms', []⟩ := by
  have scanned : Scan.State.scan {} false (spans pieces) =
      ⟨Scan.placed {} pieces, .ok ⟨[], Position.after {} (spans pieces), none⟩⟩ := by
    have hscan := ht.scanFrom {}
    rw [List.append_nil] at hscan
    rw [Scan.State.scan, List.nil_append]
    refine hscan.trans ?_
    simp [Scan.scanFrom, Scan.leave, Scan.Result.prepend]
  obtain ⟨ms', he, hbuilt⟩ := hb { filename } (Scan.placed {} pieces) Scan.map_fst_placed
    fun _ _ _ _ hn => by cases hn
  have fed : (Reader.start filename).feed (String.ofList (spans pieces)) =
      (⟨{ filename, root := ms'.reverse }, ⟨[], Position.after {} (spans pieces), none⟩⟩, none) := by
    simp only [Reader.feed, Reader.advance, Reader.start, String.toList_ofList, scanned, hbuilt, Builder.mapChildren,
      List.append_nil]
  refine ⟨ms', he, ?_⟩
  simp only [Markup.read, fed]
  simp [Reader.finish, Reader.advance, Scan.State.scan, Scan.scanFrom, Scan.leave, Builder.pushAll, Builder.tree,
    Builder.closeMany]

/-- A plain document that has been written is read again, and no end tag of it closes nothing. -/
theorem read_renderAll (h : PlainAll ms) (filename : Option String) :
    ∃ ms', unplacedAll ms' = unplacedAll ms ∧ Markup.read (renderAll ms) filename = ⟨.ok ms', []⟩ := by
  obtain ⟨pieces, hs⟩ : ∃ pieces, Spells [] ms pieces := h.spelled [] fun _ hc => by cases hc
  have hread := read_takes hs.cuts.takes hs.builds filename
  rwa [hs.text, String.ofList_toList] at hread

/-- A plain document is parsed from what it is written as, apart from the places of its nodes. -/
theorem parse_renderAll (h : PlainAll ms) (filename : Option String) :
    (Markup.parse (renderAll ms) filename).map unplacedAll = .ok (unplacedAll ms) := by
  obtain ⟨ms', he, hread⟩ := read_renderAll h filename
  rw [Markup.parse, hread, ← he]
  rfl

/-- A value with both quotes and a bracket, a text with references, a comment that nearly ends, a script with what
looks like tags, and a style without text. -/
theorem parse_renderAll_mixed :
    let script := "if (a </ b && c) e('<p>&lt;</scrip>')"
    let document := [.leaf { kind := .doctype, value := some "DOCTYPE html" },
      Markup.tag "x-1" [("title", "'&quot;\" > b="), ("hidden", "")]
        (some [.text "a &amp; &#98;>", .tag "br" [("k", "&")], .comment "a - -> --", .text "c"]),
      .tag "script" [] (some [.text script]), .tag "style" [] (some []), .text "d"]
    let written := "<!DOCTYPE html><x-1 title=\"'&amp;quot;&quot; > b=\" hidden=\"\">a &amp; &#98;><br k=\"&amp;\">" ++
      "<!--a - -> ---->c</x-1><script>" ++ script ++ "</script><style></style>d"
    PlainAll document ∧ renderAll document = written ∧
      (Markup.parse written none).map unplacedAll = .ok document := by
  intro script document written
  have attributes (texts : Dictionary String String) (hn : ∀ a ∈ texts, isPlainName a.1)
      (hd : (texts.map Prod.fst).Nodup) := plainAttributes_texts hn hd {}
  have inside : PlainAll [.text "a &amp; &#98;>", .tag "br" [("k", "&")], .comment "a - -> --", .text "c"] :=
    .cons (.text (by decide) (by decide)) (fun _ _ hn => by cases hn; rfl)
      (.cons (.void (by decide) (by decide) (attributes [("k", "&")] (by decide) (by decide))) nofun
        (.cons (.comment (by decide)) nofun (.cons (.text (by decide) (by decide)) nofun .nil)))
  have plain : PlainAll document :=
    .cons (.doctype (by decide) (by decide)) nofun
      (.cons (.element (by decide) (by decide) (by decide) (attributes [("title", _), ("hidden", _)] (by decide)
          (by decide)) inside) nofun
        (.cons (.raw (by decide) (attributes [] (by decide) (by decide)) (by decide) (by decide)) nofun
          (.cons (.emptyRaw (by decide) (attributes [] (by decide) (by decide))) nofun
            (.cons (.text (by decide) (by decide)) nofun .nil))))
  have render : renderAll document = written := by decide +kernel
  exact ⟨plain, render, render ▸ parse_renderAll plain none⟩

end Markup

end LayoutInheritance
