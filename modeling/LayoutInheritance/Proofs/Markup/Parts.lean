import LayoutInheritance.Proofs.Markup.Location
import LayoutInheritance.Proofs.Markup.RoundTrip

/-! Reading a written document in parts. Wherever the text is cut, the pieces before the cut are built; a run of text that
the cut divides is built up to it, and any other piece is kept until the rest of it comes. So at the end there is built
what the whole text builds. -/

namespace LayoutInheritance

namespace Builder

variable {b : Builder}

/-- A text that is cut goes on. -/
theorem addText_addText (value more : String) (l l' : Location) (ms : List Markup) :
    addText more l' (addText value l ms) = addText (value ++ more) l ms := by
  match ms with
  | [] => rfl
  | .branch _ _ :: _ => rfl
  | .leaf h :: rest =>
    by_cases hk : h.kind = .text
    · simp [addText, hk, String.append_assoc]
    · simp [addText, hk, Markup.text]

theorem push_text_push_text (value more : String) (p q : Position) :
    (b.push (.text value) p).push (.text more) q = b.push (.text (value ++ more)) p := by
  change (b.mapChildren (addText value (b.place p))).mapChildren _ = _
  rw [mapChildren_mapChildren]
  exact congrArg b.mapChildren (funext fun ms => addText_addText ..)

end Builder

namespace Scan

/-- The scan has left the beginning of the pieces, and `ahead` is still to come of them. -/
structure State.Awaits (s : State) (ahead : List Char) (pieces : List Piece) (raw' : Option String) : Prop where
  text : s.pending ++ ahead = spans pieces
  settled : ahead = [] → s.pending = []
  cuts : Cuts [] s.raw pieces raw'

/-- The scan of a beginning of the pieces, of which the first is at `p`. With the pieces that it leaves it builds what
all of them build. -/
def Result.Begins (r : Result) (p : Position) (ahead : List Char) (pieces : List Piece) (raw' : Option String) : Prop :=
  ∃ s others, r.ended = .ok s ∧ s.Awaits ahead others raw' ∧
    ∀ b : Builder, (b.pushAll r.tokens).pushAll (placed s.position others) = b.pushAll (placed p pieces)

variable {raw raw' : Option String} {cs seen ahead rest : List Char} {pieces : List Piece} {x : Piece} {p : Position}
  {r : Result}

theorem leave_false : leave false raw p cs = ⟨[], .ok ⟨cs, p, raw⟩⟩ := by
  simp [leave]

/-- Nothing is taken. -/
theorem begins_leave (h : Cuts [] raw pieces raw') (hcs : cs ++ ahead = spans pieces) (hs : ahead = [] → cs = []) :
    (leave false raw p cs).Begins p ahead pieces raw' :=
  ⟨⟨cs, p, raw⟩, pieces, by rw [leave_false], ⟨hcs, hs, h⟩, fun b => by rw [leave_false]; rfl⟩

theorem Result.Begins.cons (h : r.Begins (p.after x.span) ahead pieces raw') :
    (r.cons (some x.token) p).Begins p ahead (x :: pieces) raw' := by
  obtain ⟨s, others, hs, hawaits, hbuilds⟩ := h
  exact ⟨s, others, hs, hawaits, fun b => hbuilds (b.push x.token p)⟩

theorem scanFrom_nil : scanFrom false raw p 0 [] = leave false raw p [] := by
  rw [scanFrom]

/-- Nothing has come. -/
theorem begins_nil (h : Cuts [] raw pieces raw') (hcs : ahead = spans pieces) :
    (scanFrom false raw p 0 []).Begins p ahead pieces raw' := by
  rw [scanFrom_nil]
  exact begins_leave h hcs fun _ => rfl

/-- The beginning of a run of text is text. -/
theorem begins_run {more : List Char} (hcs : cs ≠ []) (hmore : more ≠ []) (hmarks : ∀ c ∈ cs ++ more, isMark c = false)
    (hafter : ∀ c ∈ (spans pieces).head?, isMark c) (h : Cuts [] none pieces raw') :
    (scanFrom false none p 0 cs).Begins p (more ++ spans pieces) (⟨.text (String.ofList (cs ++ more)), cs ++ more⟩ :: pieces)
      raw' := by
  have taken : action false none (cs ++ []) = .take (some (.text (String.ofList cs))) (cs.length - 1) :=
    action_text hcs (fun c hc => hmarks c (List.mem_append_left _ hc)) nofun
  have scanned := scanFrom_take hcs taken p
  rw [List.append_nil, scanFrom_nil] at scanned
  rw [scanned, leave_false]
  refine ⟨⟨[], p.after cs, none⟩, ⟨.text (String.ofList more), more⟩ :: pieces, rfl, ⟨rfl, fun _ => rfl, ?_⟩, fun b => ?_⟩
  · refine .run hmore (fun c hc => hmarks c (List.mem_append_right _ hc)) ?_ h
    rwa [List.append_nil]
  · have joined := Builder.push_text_push_text (b := b) (String.ofList cs) (String.ofList more) p (p.after cs)
    rw [← String.ofList_append] at joined
    change ((b.push (.text (String.ofList cs)) p).push (.text (String.ofList more)) (p.after cs)).pushAll
        (placed ((p.after cs).after more) pieces) =
      (b.push (.text (String.ofList (cs ++ more))) p).pushAll (placed (p.after (cs ++ more)) pieces)
    rw [joined, Position.after_append]

/-- The beginning of a text that may be cut gives some of its tokens, and leaves the pieces that are still to come. -/
theorem Cuts.scan (h : Cuts [] raw pieces raw') (hseen : seen ++ ahead = spans pieces) (p : Position) :
    (scanFrom false raw p 0 seen).Begins p ahead pieces raw' := by
  generalize hrest : ([] : List Char) = rest at h
  induction h generalizing seen p with
  | nil =>
    obtain ⟨rfl, rfl⟩ := List.append_eq_nil_iff.1 hseen
    exact begins_nil .nil rfl
  | @whole raw x sight pieces raw' hwaits hsight hcuts ih =>
    subst hrest
    obtain ⟨more, hmore⟩ := hsight
    rw [List.append_nil] at hmore
    have hall : Cuts [] raw (x :: pieces) raw' := .whole hwaits ⟨more, by rw [hmore, List.append_nil]⟩ hcuts
    have taken (extra : List Char) (hextra : extra ++ ahead = more) :
        (scanFrom false raw p 0 (x.span ++ (sight ++ extra))).Begins p ahead (x :: pieces) raw' := by
      rw [scanFrom_take hwaits.nonempty (hwaits.takes extra)]
      have hrest : sight ++ extra ++ ahead = spans pieces := by rw [List.append_assoc, hextra, hmore]
      exact (ih hrest _).cons
    by_cases hs : seen = []
    · subst hs
      exact begins_nil hall hseen
    · have hcut : seen ++ ahead = x.span ++ sight ++ more := by rw [hseen, spans_cons, ← hmore, List.append_assoc]
      rcases List.append_eq_append_iff.1 hcut with ⟨missing, hpiece, hahead⟩ | ⟨extra, rfl, hextra⟩
      · by_cases hm : missing = []
        · subst hm
          obtain rfl : x.span ++ sight = seen := by rw [hpiece, List.append_nil]
          have whole := taken [] hahead
          rwa [List.append_nil] at whole
        · obtain ⟨c, cs, rfl⟩ := List.exists_cons_of_ne_nil hs
          rw [scanFrom, hwaits.waits _ missing hpiece.symm hs hm]
          refine begins_leave hall hseen fun hnil => ?_
          rw [hnil] at hahead
          exact absurd (List.append_eq_nil_iff.1 hahead.symm).1 hm
      · rw [List.append_assoc]
        exact taken extra hextra.symm
  | @run cs pieces raw' hne hmarks hafter hcuts ih =>
    subst hrest
    rw [List.append_nil] at hafter
    change seen ++ ahead = cs ++ spans pieces at hseen
    have hall : Cuts [] none (⟨.text (String.ofList cs), cs⟩ :: pieces) raw' :=
      .run hne hmarks (by rwa [List.append_nil]) hcuts
    have taken (extra : List Char) (hextra : extra ++ ahead = spans pieces) :
        (scanFrom false none p 0 (cs ++ extra)).Begins p ahead (⟨.text (String.ofList cs), cs⟩ :: pieces) raw' := by
      have hmark : ∀ c ∈ extra.head?, isMark c := fun c hc => hafter c (by rw [← hextra, List.head?_append, hc]; rfl)
      rw [scanFrom_take hne (action_text hne hmarks hmark)]
      exact Result.Begins.cons (x := ⟨.text (String.ofList cs), cs⟩) (ih hextra _)
    rcases List.append_eq_append_iff.1 hseen with ⟨missing, hcs, hahead⟩ | ⟨extra, rfl, hextra⟩
    · by_cases hs : seen = []
      · subst hs
        exact begins_nil hall hseen
      · by_cases hm : missing = []
        · subst hm
          obtain rfl : cs = seen := by rw [hcs, List.append_nil]
          have whole := taken [] hahead
          rwa [List.append_nil] at whole
        · subst hcs hahead
          exact begins_run hs hm hmarks hafter hcuts
    · exact taken extra hextra.symm

/-- When nothing is to come any more, all pieces are taken. -/
theorem Cuts.eq_nil (h : Cuts rest raw pieces raw') (hs : spans pieces = []) : pieces = [] := by
  cases h with
  | nil => rfl
  | whole hwaits => exact absurd (List.append_eq_nil_iff.1 hs).1 hwaits.nonempty
  | run hne => exact absurd (List.append_eq_nil_iff.1 hs).1 hne

end Scan

namespace Reader

variable {r : Reader} {ahead : List Char} {b : Builder} {part : String} {parts : List String}

/-- When `ahead` has come, the reader will have built `b`. -/
def Expects (r : Reader) (ahead : List Char) (b : Builder) : Prop :=
  ∃ pieces raw', r.scan.Awaits ahead pieces raw' ∧ r.builder.pushAll (Scan.placed r.scan.position pieces) = b

theorem Expects.feed (h : r.Expects (part.toList ++ ahead) b) : ∃ r', r.feed part = (r', none) ∧ r'.Expects ahead b := by
  obtain ⟨pieces, raw', ⟨htext, -, hcuts⟩, hbuilds⟩ := h
  rw [← List.append_assoc] at htext
  obtain ⟨s, others, hended, hawaits, hothers⟩ := hcuts.scan htext r.scan.position
  refine ⟨⟨r.builder.pushAll (r.scan.scan false part.toList).tokens, s⟩, ?_, others, raw', hawaits,
    (hothers r.builder).trans hbuilds⟩
  simp only [Reader.feed, advance, Scan.State.scan, hended]

theorem Expects.feedAll (h : r.Expects (parts.flatMap String.toList) b) :
    ∃ r', r.feedAll parts = .ok r' ∧ r'.Expects [] b := by
  induction parts generalizing r with
  | nil => exact ⟨r, rfl, h⟩
  | cons part parts ih =>
    rw [List.flatMap_cons] at h
    obtain ⟨r', hfeed, hr'⟩ := h.feed
    obtain ⟨r'', hfeedAll, hr''⟩ := ih hr'
    exact ⟨r'', by rw [Reader.feedAll, hfeed]; exact hfeedAll, hr''⟩

theorem Expects.close (h : r.Expects [] b) : r.close = .ok b.tree := by
  obtain ⟨pieces, raw', ⟨htext, hsettled, hcuts⟩, hbuilds⟩ := h
  have hpending := hsettled rfl
  obtain rfl := hcuts.eq_nil (by rw [← htext, hpending, List.append_nil])
  obtain rfl : r.builder = b := hbuilds
  simp [Reader.close, finish, advance, Scan.State.scan, hpending, Scan.scanFrom, Scan.leave, Builder.pushAll]

end Reader

namespace Markup

variable {ms : List Markup} {parts : List String} {pieces : List Piece} {raw' : Option String}

/-- All divisions of a text that may be cut are read as the same document. -/
theorem parseParts_cuts (h : Scan.Cuts [] none pieces raw') (hparts : parts.flatMap String.toList = Scan.spans pieces)
    (filename : Option String) :
    parseParts parts filename = .ok (Builder.pushAll { filename } (Scan.placed {} pieces)).tree := by
  have hstart : (Reader.start filename).Expects (parts.flatMap String.toList)
      (Builder.pushAll { filename } (Scan.placed {} pieces)) :=
    ⟨pieces, raw', ⟨hparts, fun _ => rfl, h⟩, rfl⟩
  obtain ⟨r, hfeed, hr⟩ := hstart.feedAll
  rw [parseParts, hfeed]
  exact hr.close

/-- A plain document that has been written is read in parts as it is read at once, locations included, wherever the
text is cut; and apart from the locations it is the document again. -/
theorem parse_in_parts (h : PlainAll ms) (hparts : parts.flatMap String.toList = (renderAll ms).toList)
    (filename : Option String) : ∃ document, parseParts parts filename = .ok document ∧
      parse (renderAll ms) filename = .ok document ∧ unplacedAll document = unplacedAll ms := by
  obtain ⟨pieces, hs⟩ : ∃ pieces, Spells [] ms pieces := h.spelled [] fun _ hc => by cases hc
  obtain ⟨document, hsame, hread⟩ := read_renderAll h filename
  have hwhole : parse (renderAll ms) filename = .ok document := by rw [parse, hread]
  have hone : [renderAll ms].flatMap String.toList = Scan.spans pieces := by
    rw [hs.text, List.flatMap_cons, List.flatMap_nil, List.append_nil]
  have hpart := parseParts_cuts hs.cuts (hparts.trans hs.text.symm) filename
  rw [← parseParts_cuts hs.cuts hone filename, parseParts_singleton, hwhole] at hpart
  exact ⟨document, hpart, hwhole, hsame⟩

/-- The cuts fall in a doctype, a name, a value with a bracket and an equals sign, a reference, the beginning of a
comment and the end of a script. -/
theorem parse_in_parts_divided :
    let document := [.leaf { kind := .doctype, value := some "doctype html" },
      Markup.tag "x-1" [("title", "a>b=\"c")] (some [.text "1 &amp; 2", .comment "-", .tag "br"]),
      .tag "script" [] (some [.text "</b>"])]
    let parts := ["<!doc", "type html><x", "-1 title=\"a>b", "=&quot;c\"", ">1 &am", "p; 2<!-", "----><br></x",
      "-1><script></b></scr", "ipt>"]
    PlainAll document ∧ parts.flatMap String.toList = (renderAll document).toList ∧
      ∃ read, parseParts parts (some "f") = .ok read ∧ parse (renderAll document) (some "f") = .ok read ∧
        unplacedAll read = unplacedAll document := by
  intro document parts
  have attributes (texts : Dictionary String String) (hn : ∀ a ∈ texts, isPlainName a.1)
      (hd : (texts.map Prod.fst).Nodup) := plainAttributes_texts hn hd {}
  have bare : PlainAttributes ([].map fun a : String × String => (a.1, [Markup.text a.2 {}])) :=
    attributes [] (by decide) (by decide)
  have inside : PlainAll [.text "1 &amp; 2", .comment "-", .tag "br"] :=
    .cons (.text (by decide) (by decide)) (fun _ _ hn => by cases hn; rfl)
      (.cons (.comment (by decide)) nofun (.cons (.void (by decide) (by decide) bare) nofun .nil))
  have plain : PlainAll document :=
    .cons (.doctype (by decide) (by decide)) nofun
      (.cons (.element (by decide) (by decide) (by decide) (attributes [("title", _)] (by decide) (by decide)) inside)
        nofun (.cons (.raw (by decide) bare (by decide) (by decide)) nofun .nil))
  have written : parts.flatMap String.toList = (renderAll document).toList := by decide +kernel
  exact ⟨plain, written, parse_in_parts plain written (some "f")⟩

end Markup

end LayoutInheritance
