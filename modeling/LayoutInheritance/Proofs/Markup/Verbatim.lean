import LayoutInheritance.Proofs.Markup.RoundTrip

/-! Texts without opening angle brackets. Such a text is always read as one text node, and the node says what was written,
character by character, as long as each reference in it has its semicolon. -/

namespace LayoutInheritance

namespace Scan

open Text

/-! ### Ampersands -/

/-- Whether what follows an ampersand is always as `p` says. -/
def eachMark (p : List Char → Bool) : List Char → Bool
  | [] => true
  | c :: cs => (c != '&' || p cs) && eachMark p cs

/-- What follows an ampersand begins a reference that something other than a semicolon ends. A name that the text ends is
one of them if it has only one letter, or a dash or a point in it. -/
def isLoose : List Char → Bool
  | [] => false
  | '#' :: cs => (numberBody? cs).any fun body => (cs.drop body.length).head? != some ';'
  | c :: cs => c.isAlpha && match cs.dropWhile isEntityChar with
      | [] => cs.isEmpty || !cs.all Char.isAlphanum
      | d :: _ => d != ';'

/-- A name, or a number in either base, between the ampersand and the semicolon. -/
def isWholeBody : List Char → Bool
  | [] => false
  | '#' :: 'x' :: digits | '#' :: 'X' :: digits => !digits.isEmpty && digits.all isHexDigit
  | '#' :: digits => !digits.isEmpty && digits.all Char.isDigit
  | c :: name => c.isAlpha && name.all isEntityChar

/-- What follows an ampersand begins a whole reference. -/
def isReference (cs : List Char) : Bool :=
  cs.contains ';' && isWholeBody (cs.takeWhile (· != ';'))

/-- What follows an ampersand begins no reference. -/
def isLone : List Char → Bool
  | [] => true
  | c :: _ => !c.isAlpha && c != '#'

/-- What is done at a place of a text without opening angle brackets: a piece is taken that says what was written,
unless a reference is loose, or the scan ends. -/
inductive Reads : List Char → Action → Prop
  | piece {x : Piece} {passed rest} : passed ≠ [] → x.Textual → x.span ≠ [] →
      (eachMark (!isLoose ·) (passed ++ rest) → x.span = passed) →
      Reads (passed ++ rest) (.take (some x.token) (passed.length - 1))
  | number {rest} : Reads ('&' :: '#' :: rest) (.halt (textOf ['&', '#']) 2)
  | letter {c} : isLoose [c] → Reads ['&', c] (.halt none 1)
  | wait {cs} : Reads cs (.halt none 0)

variable {atEnd : Bool} {cs rest : List Char} {pieces : List Piece} {s : State} {p : Position} {r : Result} {x : Piece}

theorem eachMark_suffix {p : List Char → Bool} (h : eachMark p cs) (hs : rest <:+ cs) : eachMark p rest := by
  induction cs with
  | nil =>
    obtain rfl := List.suffix_nil.1 hs
    rfl
  | cons c cs ih =>
    rcases List.suffix_cons_iff.1 hs with rfl | hs
    · exact h
    · exact ih (Bool.and_eq_true_iff.1 h).2 hs

theorem of_eachMark {p : List Char → Bool} (h : eachMark p ('&' :: cs)) : p cs :=
  (Bool.and_eq_true_iff.1 h).1

/-- A whole reference, and what is left of the text. -/
theorem exists_body (h : isReference cs) : ∃ body after, cs = body ++ ';' :: after ∧ isWholeBody body := by
  rw [isReference, Bool.and_eq_true, List.contains_iff_mem] at h
  obtain ⟨after, hcs⟩ := exists_semicolon h.1
  exact ⟨_, after, hcs, h.2⟩

theorem length_of_numberBody? {body : List Char} (h : numberBody? cs = some body) : body.length ≤ cs.length := by
  unfold numberBody? at h
  extract_lets found digits at h
  split at h
  · exact nomatch h
  · split at h
    · exact nomatch h
    · next c rest hrest =>
      have hpos := congrArg List.length hrest
      rw [List.length_drop, List.length_cons] at hpos
      split at h
      · exact nomatch h
      · obtain rfl := Option.some.inj h
        omega

theorem isLoose_of_isAlpha {c : Char} (hc : c.isAlpha) : isLoose (c :: cs) = match cs.dropWhile isEntityChar with
    | [] => cs.isEmpty || !cs.all Char.isAlphanum
    | d :: _ => d != ';' := by
  rw [isLoose, hc, Bool.true_and]
  exact ne_numberSign_of_isAlpha hc

/-- A name ends before a semicolon, or it is loose. -/
theorem of_entityName? {c : Char} {name : List Char} (hc : c.isAlpha) (h : entityName? (c :: cs) = some name) :
    name.length ≤ (c :: cs).length ∧ (((c :: cs).drop name.length).head? ≠ some ';' → isLoose (c :: cs)) := by
  have first : isEntityChar c := by simp [isEntityChar, Char.isAlphanum, hc]
  have after : (c :: cs).dropWhile isEntityChar = cs.dropWhile isEntityChar := List.dropWhile_cons_of_pos first
  unfold entityName? at h
  extract_lets found at h
  have split : found ++ cs.dropWhile isEntityChar = c :: cs := by
    rw [← after]
    exact List.takeWhile_append_dropWhile
  have hfound : found.length ≤ (c :: cs).length := (List.takeWhile_prefix _).length_le
  split at h
  · obtain rfl := Option.some.inj h
    refine ⟨hfound, fun hs => ?_⟩
    rw [← split, List.drop_left] at hs
    rw [isLoose_of_isAlpha hc]
    cases hd : cs.dropWhile isEntityChar with
    | nil =>
      rw [hd, List.append_nil] at split
      exact absurd (congrArg List.length split) (Nat.ne_of_lt ‹_›)
    | cons d tail =>
      rw [hd] at hs
      simpa using hs
  · next hge =>
    split at h
    · cases h
    · next hshorter =>
      cases h
      have hlength : ((found.reverse.dropWhile Char.isAlphanum).tail.reverse).length ≤ found.length := by
        have hle := (List.dropWhile_suffix (l := found.reverse) Char.isAlphanum).length_le
        simp only [List.length_reverse, List.length_tail] at hle ⊢
        omega
      refine ⟨hlength.trans hfound, fun _ => ?_⟩
      have hall : cs.dropWhile isEntityChar = [] := by
        have hsum := congrArg List.length split
        rw [List.length_append] at hsum
        exact List.length_eq_zero_iff.1 (by omega)
      rw [hall, List.append_nil] at split
      rw [isLoose_of_isAlpha hc, hall]
      by_contra hclosed
      -- a name of letters and digits alone would have gone on
      have halphanum : ∀ d ∈ found.reverse, d.isAlphanum := by
        intro d hd
        rw [List.mem_reverse, split] at hd
        rcases List.mem_cons.1 hd with rfl | hd
        · simp [Char.isAlphanum, hc]
        · simp_all
      exact hshorter (by rw [List.dropWhile_eq_nil_iff.2 halphanum]; rfl)

/-! ### One place of a text -/

theorem reads_closed (body rest : List Char) :
    Reads ('&' :: (body ++ ';' :: rest)) (.take (some (.reference (String.ofList body))) (body.length + 1)) := by
  have piece : Reads (('&' :: (body ++ [';'])) ++ rest) (.take (some (.reference (String.ofList body)))
      (('&' :: (body ++ [';'])).length - 1)) :=
    .piece (x := ⟨.reference (String.ofList body), '&' :: (body ++ [';'])⟩) (List.cons_ne_nil _ _) (.inr ⟨body, rfl, rfl⟩)
      (List.cons_ne_nil _ _) fun _ => rfl
  simpa using piece

theorem reads_loose {body : List Char} (h : isLoose (body ++ rest)) :
    Reads ('&' :: (body ++ rest)) (.take (some (.reference (String.ofList body))) body.length) := by
  refine .piece (x := ⟨.reference (String.ofList body), '&' :: (body ++ [';'])⟩) (List.cons_ne_nil '&' body)
    (.inr ⟨body, rfl, rfl⟩) (List.cons_ne_nil _ _) fun hmarks => ?_
  have closed : (!isLoose (body ++ rest)) = true := of_eachMark hmarks
  rw [h] at closed
  exact nomatch closed

theorem reads_takeReference {token after : List Char} {marks : ℕ} (hm : 0 < marks)
    (hl : marks + token.length ≤ after.length + 1)
    (hloose : (('&' :: after).drop (marks + token.length)).head? ≠ some ';' → isLoose after) :
    Reads ('&' :: after) (takeReference token marks ('&' :: after)) := by
  obtain ⟨n, hn⟩ := Nat.exists_eq_add_of_le' (show 1 ≤ marks + token.length by omega)
  simp only [takeReference, hn, List.tail_cons, Nat.add_sub_cancel, List.drop_succ_cons] at hloose hl ⊢
  obtain ⟨body, rest, rfl, rfl⟩ : ∃ body rest, after = body ++ rest ∧ n = body.length :=
    ⟨_, _, (List.take_append_drop n after).symm, by simp; omega⟩
  rw [List.take_left, List.drop_left] at *
  by_cases hs : rest.head? = some ';'
  · obtain ⟨rest, rfl⟩ := List.head?_eq_some_iff.1 hs
    exact reads_closed body rest
  · rw [if_neg hs]
    exact reads_loose (hloose hs)

theorem reads_atAmpersand (after : List Char) : Reads ('&' :: after) (atAmpersand atEnd ('&' :: after)) := by
  rw [atAmpersand, List.tail_cons]
  split
  · exact .wait
  · next rest =>
    split
    · next body hbody =>
      have hlength := length_of_numberBody? hbody
      refine reads_takeReference (by decide) (by rw [List.length_cons]; omega) fun hs => ?_
      rw [Nat.add_comm, List.drop_succ_cons, List.drop_succ_cons] at hs
      simpa [isLoose, hbody] using hs
    · split
      · exact .number
      · exact .wait
  · next c rest hnumber =>
    split
    · exact .piece (x := ⟨.text (String.ofList ['&']), ['&']⟩) (List.cons_ne_nil '&' []) (.inl rfl)
        (List.cons_ne_nil _ _) fun _ => rfl
    · next hc =>
      rw [Bool.not_eq_true, Bool.not_eq_false'] at hc
      split
      · next name hname =>
        obtain ⟨hlength, hloose⟩ := of_entityName? hc hname
        refine reads_takeReference Nat.one_pos (by omega) fun hs => hloose ?_
        rwa [Nat.add_comm, List.drop_succ_cons] at hs
      · split
        · next hend =>
          rw [Bool.and_eq_true, List.isEmpty_iff] at hend
          obtain ⟨-, rfl⟩ := hend
          refine .letter ?_
          rw [isLoose_of_isAlpha hc]
          rfl
        · exact .wait

theorem reads_action (hc : cs ≠ []) (h : '<' ∉ cs) : Reads cs (action atEnd none cs) := by
  obtain ⟨c, cs, rfl⟩ := List.exists_cons_of_ne_nil hc
  by_cases hmark : c = '&'
  · subst hmark
    exact reads_atAmpersand cs
  · have angle : c ≠ '<' := fun he => h (he ▸ List.mem_cons_self ..)
    have first : isMark c = false := by simp [isMark, hmark, angle]
    obtain ⟨run, after, hcs, hne, hrun, hafter⟩ := exists_run cs first
    rw [hcs, action_text hne hrun hafter]
    exact .piece (x := ⟨.text (String.ofList run), run⟩) hne (.inl rfl) hne fun _ => rfl

/-! ### The scan -/

/-- A scan of `cs` that gives texts. Together they are not empty, and they say what was written unless a reference is
loose. -/
structure Result.Texts (r : Result) (atEnd : Bool) (cs : List Char) (pieces : List Piece) (s : State) : Prop where
  ended : r.ended = .ok s
  raw : s.raw = none
  pending : s.pending <:+ cs
  emptied : atEnd → s.pending = []
  tokens : r.tokens.map Prod.fst = pieces.map Piece.token
  textual : ∀ x ∈ pieces, x.Textual
  nonempty : cs ≠ [] → spans pieces ++ s.pending ≠ []
  kept : eachMark (!isLoose ·) cs → spans pieces ++ s.pending = cs

theorem texts_leave (atEnd : Bool) (p : Position) (cs : List Char) :
    ∃ pieces s, (leave atEnd none p cs).Texts atEnd cs pieces s := by
  by_cases h : atEnd ∧ cs ≠ []
  · refine ⟨[⟨.text (String.ofList cs), cs⟩], ⟨[], p.after cs, none⟩, ?_⟩
    have text : leave atEnd none p cs = ⟨[(.text (String.ofList cs), p)], .ok ⟨[], p.after cs, none⟩⟩ := by
      simp [leave, h.1, h.2]
    rw [text]
    exact ⟨rfl, rfl, List.nil_suffix, fun _ => rfl, rfl, by simp [Piece.Textual], by simp, by simp⟩
  · refine ⟨[], ⟨cs, p, none⟩, ?_⟩
    have rest : leave atEnd none p cs = ⟨[], .ok ⟨cs, p, none⟩⟩ := by
      cases atEnd <;> simp_all [leave]
    rw [rest]
    exact ⟨rfl, rfl, List.suffix_rfl, fun hend => by simp_all, rfl, List.forall_mem_nil _, id, fun _ => rfl⟩

theorem Result.Texts.cons {passed : List Char} (h : r.Texts atEnd rest pieces s) (hx : x.Textual) (hne : x.span ≠ [])
    (hkept : eachMark (!isLoose ·) (passed ++ rest) → x.span = passed) :
    (r.cons (some x.token) p).Texts atEnd (passed ++ rest) (x :: pieces) s where
  ended := h.ended
  raw := h.raw
  pending := h.pending.trans (List.suffix_append ..)
  emptied := h.emptied
  tokens := congrArg (x.token :: ·) h.tokens
  textual := List.forall_mem_cons.2 ⟨hx, h.textual⟩
  nonempty _ := by simp [hne]
  kept hmarks := by
    rw [spans_cons, hkept hmarks, List.append_assoc, h.kept (eachMark_suffix hmarks (List.suffix_append ..))]

/-- The scan of a text without opening angle brackets. -/
theorem texts_scanFrom (atEnd : Bool) (p : Position) (h : '<' ∉ cs) :
    ∃ pieces s, (scanFrom atEnd none p 0 cs).Texts atEnd cs pieces s := by
  induction hn : cs.length using Nat.strong_induction_on generalizing cs p with
  | _ n ih =>
    subst hn
    by_cases hc : cs = []
    · subst hc
      rw [scanFrom]
      exact texts_leave ..
    · have reads : Reads cs (action atEnd none cs) := reads_action hc h
      generalize ha : action atEnd none cs = done at reads
      cases reads with
      | @piece x passed rest hne hx hspan hkept =>
        have hshort : rest.length < (passed ++ rest).length := by
          rw [List.length_append]
          have hpos := List.length_pos_iff.2 hne
          omega
        obtain ⟨pieces, s, htexts⟩ := ih rest.length hshort (p.after passed)
          (fun hmem => h (List.mem_append_right _ hmem)) rfl
        have hraw : rawAfter none (some x.token) = none := by
          rcases hx with ht | ⟨body, ht, -⟩ <;> rw [ht] <;> rfl
        rw [scanFrom_take hne ha, hraw]
        exact ⟨x :: pieces, s, htexts.cons hx hspan hkept⟩
      | @number rest =>
        obtain ⟨pieces, s, htexts⟩ := texts_leave atEnd (p.after ['&', '#']) rest
        rw [scanFrom, ha]
        exact ⟨_, s, htexts.cons (x := ⟨.text (String.ofList ['&', '#']), ['&', '#']⟩) (.inl rfl) (List.cons_ne_nil _ _)
          fun _ => rfl⟩
      | @letter c hloose =>
        obtain ⟨pieces, s, htexts⟩ := texts_leave atEnd (p.after ['&']) [c]
        rw [scanFrom, ha]
        refine ⟨pieces, s, { htexts with
          pending := htexts.pending.trans (List.suffix_cons ..)
          nonempty := fun _ => htexts.nonempty (List.cons_ne_nil _ _)
          kept := fun hmarks => ?_ }⟩
        have closed := of_eachMark hmarks
        rw [hloose] at closed
        exact absurd closed (by decide)
      | wait =>
        obtain ⟨c, cs, rfl⟩ := List.exists_cons_of_ne_nil hc
        rw [scanFrom, ha]
        exact texts_leave ..

/-! ### Texts before other things -/

theorem numberBody?_append_hex {x : Char} {digits : List Char} (hx : x = 'x' ∨ x = 'X') (hne : digits ≠ [])
    (h : ∀ c ∈ digits, isHexDigit c) (rest : List Char) :
    numberBody? (x :: digits ++ ';' :: rest) = some (x :: digits) := by
  have body : (digits ++ ';' :: rest).takeWhile isHexDigit = digits := Lexeme.takeWhile_stop h (by decide)
  have ends : isHexDigit ';' = false := by decide
  rcases hx with rfl | rfl <;> simp [numberBody?, body, hne, ends, Nat.add_comm 1]

theorem action_wholeBody {body : List Char} (h : isWholeBody body) :
    action atEnd none ('&' :: (body ++ ';' :: rest)) =
      .take (some (.reference (String.ofList body))) (body.length + 1) := by
  rw [isWholeBody.eq_def] at h
  split at h
  · exact nomatch h
  · rw [Bool.and_eq_true, Bool.not_eq_true', List.isEmpty_eq_false_iff, List.all_eq_true] at h
    exact action_number (numberBody?_append_hex (.inl rfl) h.1 h.2 rest)
  · rw [Bool.and_eq_true, Bool.not_eq_true', List.isEmpty_eq_false_iff, List.all_eq_true] at h
    exact action_number (numberBody?_append_hex (.inr rfl) h.1 h.2 rest)
  · rw [Bool.and_eq_true, Bool.not_eq_true', List.isEmpty_eq_false_iff, List.all_eq_true] at h
    exact action_number (numberBody?_append rest h.1 h.2)
  · rw [Bool.and_eq_true, List.all_eq_true] at h
    exact action_name h.1 h.2

/-- An ampersand without a reference is a text of its own, where something follows it. -/
theorem action_lone (h : isLone cs) (hne : cs ≠ []) :
    action atEnd none ('&' :: cs) = .take (some (.text (String.ofList ['&']))) 0 := by
  obtain ⟨c, cs, rfl⟩ := List.exists_cons_of_ne_nil hne
  rw [isLone, Bool.and_eq_true, Bool.not_eq_true', bne_iff_ne] at h
  simp [action, atAmpersand, h.1, h.2, textOf]

theorem isLone_append (h : isLone cs) (hr : rest.head? = some '<') : isLone (cs ++ rest) := by
  cases cs with
  | nil =>
    obtain ⟨rest, rfl⟩ := List.head?_eq_some_iff.1 hr
    rfl
  | cons c cs => exact h

/-- A text in which each ampersand is alone or begins a whole reference, before something else. -/
theorem takes_verbatim (h : '<' ∉ cs) (hmarks : eachMark (fun after => isLone after || isReference after) cs)
    (hr : rest.head? = some '<') :
    ∃ pieces, spans pieces = cs ∧ (∀ x ∈ pieces, x.Textual) ∧ Takes false rest none pieces none := by
  refine text_induction (motive := fun cs => eachMark (fun after => isLone after || isReference after) cs →
    ∃ pieces, spans pieces = cs ∧ (∀ x ∈ pieces, x.Textual) ∧ Takes false rest none pieces none)
    (fun _ => ⟨[], rfl, nofun, .nil⟩) (fun after ih hmarks => ?_) (fun cs after hne hrun hafter ih hmarks => ?_) h hmarks
  · rcases Bool.or_eq_true_iff.1 (of_eachMark hmarks) with hlone | href
    · obtain ⟨pieces, rfl, htext, htakes⟩ := ih after List.suffix_rfl (eachMark_suffix hmarks (List.suffix_cons ..))
      have hne : spans pieces ++ rest ≠ [] := by
        rw [Ne, List.append_eq_nil_iff]
        rintro ⟨-, rfl⟩
        exact nomatch hr
      have taken : action false none ('&' :: (spans pieces ++ rest)) = _ := action_lone (isLone_append hlone hr) hne
      exact ⟨⟨.text (String.ofList ['&']), ['&']⟩ :: pieces, rfl, List.forall_mem_cons.2 ⟨.inl rfl, htext⟩,
        .cons (List.cons_ne_nil _ _) taken htakes⟩
    · obtain ⟨body, after, rfl, hbody⟩ := exists_body href
      have hsuffix := (List.suffix_cons ';' after).trans (List.suffix_append body _)
      obtain ⟨pieces, rfl, htext, htakes⟩ := ih after hsuffix (eachMark_suffix hmarks (hsuffix.trans (List.suffix_cons ..)))
      refine ⟨⟨.reference (String.ofList body), '&' :: (body ++ [';'])⟩ :: pieces, by simp,
        List.forall_mem_cons.2 ⟨.inr ⟨body, rfl, rfl⟩, htext⟩, .cons (List.cons_ne_nil _ _) ?_ htakes⟩
      have taken : action false none ('&' :: (body ++ ';' :: (spans pieces ++ rest))) = _ := action_wholeBody hbody
      simpa using taken
  · obtain ⟨pieces, rfl, htext, htakes⟩ := ih (eachMark_suffix hmarks (List.suffix_append ..))
    have hmark : ∀ c ∈ rest.head?, isMark c := fun c hc => by
      rw [hr] at hc
      cases hc
      rfl
    exact ⟨⟨.text (String.ofList cs), cs⟩ :: pieces, rfl, List.forall_mem_cons.2 ⟨.inl rfl, htext⟩,
      .cons hne (action_text hne hrun (forall_head?_append hafter hmark)) htakes⟩

end Scan

namespace Markup

open Scan (eachMark isLoose isLone isReference)

/-- The nodes of a text that is nothing but text. -/
def textNodes (value : String) : List Markup :=
  if value = "" then [] else [.text value]

theorem eq_text_of_unplaced {m : Markup} {value : String} (h : m.unplaced = .text value) : ∃ l, m = .text value l := by
  obtain ⟨kind, name, attributes, found, location⟩ | _ := m
  · rw [unplaced, unplacedHead, unplacedAttributes_eq_map] at h
    simp only [Markup.text, leaf.injEq, Head.mk.injEq, List.map_eq_nil_iff] at h
    obtain ⟨rfl, rfl, rfl, rfl, -⟩ := h
    exact ⟨location, rfl⟩
  · cases h

theorem renderAll_of_unplaced {ms : List Markup} {value : String} (h : unplacedAll ms = textNodes value) :
    renderAll ms = value := by
  rw [unplacedAll_eq_map, textNodes] at h
  split at h
  · next hv =>
    rw [List.map_eq_nil_iff.1 h, hv]
    rfl
  · obtain ⟨m, rfl, hm⟩ := List.map_eq_singleton_iff.1 h
    obtain ⟨l, rfl⟩ := eq_text_of_unplaced hm
    simp [renderAll, render, Head.render, Markup.text]

variable {text : String}

/-- A text is scanned when it comes, and what that leaves is scanned when it has ended. -/
theorem parse_of_scans {first last : Scan.Result} {s s' : Scan.State}
    (hfirst : Scan.scanFrom false none {} 0 text.toList = first) (hs : first.ended = .ok s)
    (hlast : Scan.scanFrom true s.raw s.position 0 s.pending = last) (hs' : last.ended = .ok s')
    (filename : Option String) :
    parse text filename = .ok (Builder.pushAll { filename } (first.tokens ++ last.tokens)).tree := by
  have fed : (Reader.start filename).feed text = (⟨Builder.pushAll { filename } first.tokens, s⟩, none) := by
    simp only [Reader.feed, Reader.advance, Reader.start, Scan.State.scan, List.nil_append, hfirst, hs]
  have finished : Reader.finish ⟨Builder.pushAll { filename } first.tokens, s⟩ =
      (⟨Builder.pushAll { filename } (first.tokens ++ last.tokens), s'⟩, none) := by
    simp only [Reader.finish, Reader.advance, Scan.State.scan, List.append_nil, hlast, hs', Builder.pushAll_append]
  simp only [parse, Markup.read, fed, finished]

/-- A text without opening angle brackets is one text node. -/
theorem exists_parse_text (h : '<' ∉ text.toList) (filename : Option String) :
    ∃ value document, parse text filename = .ok document ∧ unplacedAll document = textNodes value ∧
      (value = "" ↔ text = "") ∧ (eachMark (!isLoose ·) text.toList → value = text) := by
  by_cases ht : text = ""
  · subst ht
    exact ⟨"", [], rfl, rfl, Iff.rfl, fun _ => rfl⟩
  obtain ⟨pieces, s, hfeed⟩ := Scan.texts_scanFrom false {} h
  obtain ⟨others, s', hfinish⟩ := Scan.texts_scanFrom true s.position fun hmem => h (hfeed.pending.subset hmem)
  have hend : s'.pending = [] := hfinish.emptied rfl
  have hne : Scan.spans (pieces ++ others) ≠ [] := by
    rw [Scan.spans_append]
    intro hnil
    obtain ⟨hpieces, hothers⟩ := List.append_eq_nil_iff.1 hnil
    have hpending : s.pending ≠ [] := by
      have hfirst := hfeed.nonempty fun hcs => ht (String.toList_inj.1 hcs)
      rwa [hpieces, List.nil_append] at hfirst
    exact hfinish.nonempty hpending (by rw [hothers, hend]; rfl)
  set value := String.ofList (Scan.spans (pieces ++ others)) with hvalue
  have hlist : Scan.spans (pieces ++ others) = value.toList := by rw [hvalue, String.toList_ofList]
  have hnonempty : value ≠ "" := by
    rintro he
    rw [hlist, he] at hne
    exact hne rfl
  -- the tokens of both scans build one text node
  have htextual : ∀ x ∈ pieces ++ others, x.Textual := fun x hx =>
    (List.mem_append.1 hx).elim (hfeed.textual x) (hfinish.textual x)
  have htokens : ((Scan.scanFrom false none {} 0 text.toList).tokens ++
      (Scan.scanFrom true none s.position 0 s.pending).tokens).map Prod.fst = (pieces ++ others).map Piece.token := by
    rw [List.map_append, List.map_append, hfeed.tokens, hfinish.tokens]
  obtain ⟨ms, hsame, hbuilt⟩ := Builder.builds_text (l := {}) htextual hlist hnonempty { filename } _ htokens
    fun _ _ _ _ hn => by cases hn
  have hparse : parse text filename = .ok ms := by
    rw [parse_of_scans rfl hfeed.ended (by rw [hfeed.raw]) hfinish.ended, hbuilt]
    simp [Builder.mapChildren, Builder.tree, Builder.closeMany]
  refine ⟨value, ms, hparse, ?_, ⟨fun he => absurd he hnonempty, fun he => absurd he ht⟩, fun hmarks => ?_⟩
  · rw [hsame, textNodes, if_neg hnonempty]
    rfl
  · have hpending : Scan.spans others = s.pending := by
      have hkept := hfinish.kept (Scan.eachMark_suffix hmarks hfeed.pending)
      rwa [hend, List.append_nil] at hkept
    rw [hvalue, Scan.spans_append, hpending, hfeed.kept hmarks, String.ofList_toList]

/-! ### A tag after a text -/

variable {name : String}

theorem renderAll_emptyTag (hv : isVoidElement name = false) :
    renderAll [.tag name [] (some [])] = "<" ++ name ++ "></" ++ name ++ ">" := by
  rw [← String.toList_inj]
  simp [renderAll, render, tag, ofContent?, Head.render, Head.isVoid, hv, Head.startTag, Head.endTag, Head.tagName]

theorem plain_emptyTag (hn : isPlainName name) (hv : isVoidElement name = false) : Plain (.tag name [] (some [])) := by
  have bare : PlainAttributes [] := ⟨nofun, List.nodup_nil, nofun⟩
  by_cases hraw : name ∈ rawElements
  · exact .emptyRaw hraw bare
  · exact .element hn hv hraw bare .nil

/-- A tag after a text in which each ampersand is alone or begins a whole reference. -/
theorem parse_text_before_tag (h : '<' ∉ text.toList)
    (hmarks : eachMark (fun after => isLone after || isReference after) text.toList) (hn : isPlainName name)
    (hv : isVoidElement name = false) (filename : Option String) :
    ∃ document, parse (text ++ ("<" ++ name ++ "></" ++ name ++ ">")) filename = .ok document ∧
      unplacedAll document = textNodes text ++ [.tag name [] (some [])] := by
  have plain : PlainAll [.tag name [] (some [])] := .cons (plain_emptyTag hn hv) nofun .nil
  rw [← renderAll_emptyTag hv]
  by_cases ht : text = ""
  · subst ht
    obtain ⟨document, hsame, hread⟩ := read_renderAll plain filename
    exact ⟨document, by rw [String.empty_append, parse, hread], hsame⟩
  obtain ⟨others, hs⟩ : ∃ others, Spells [] [.tag name [] (some [])] others := plain.spelled [] fun _ hc => by cases hc
  have hangle : (Scan.spans others).head? = some '<' := by
    rw [hs.text, renderAll_emptyTag hv]
    simp
  obtain ⟨pieces, hspans, htextual, htakes⟩ := Scan.takes_verbatim h hmarks hangle
  have takes : Scan.Takes false [] none (pieces ++ others) none := by
    rw [← List.append_nil (Scan.spans others)] at htakes
    exact htakes.append hs.cuts.takes
  have builds : Builder.Builds ((pieces ++ others).map Piece.token) [.text text, .tag name [] (some [])] := by
    rw [List.map_append]
    exact (Builder.builds_text htextual hspans ht).cons hs.builds fun _ _ hn => by cases hn; rfl
  obtain ⟨document, hsame, hread⟩ := read_takes takes builds filename
  refine ⟨document, ?_, ?_⟩
  · rw [Scan.spans_append, hspans, hs.text, String.ofList_append, String.ofList_toList, String.ofList_toList] at hread
    rw [parse, hread]
  · rw [hsame, textNodes, if_neg ht]
    rfl

/-- A text without opening angle brackets is read as one text node, or none if there is nothing. The node says what was
written, and it is written so again, unless a reference in the text is loose. A tag after the text is read as such, and
the text before it too, when each ampersand is alone or begins a whole reference. -/
theorem parse_text (h : '<' ∉ text.toList) (filename : Option String) :
    (∃ value document, parse text filename = .ok document ∧ unplacedAll document = textNodes value ∧
      renderAll document = value ∧ (value = "" ↔ text = "") ∧
      (eachMark (!isLoose ·) text.toList → value = text)) ∧
    (eachMark (fun after => isLone after || isReference after) text.toList →
      ∀ name, isPlainName name → isVoidElement name = false →
        ∃ document, parse (text ++ ("<" ++ name ++ "></" ++ name ++ ">")) filename = .ok document ∧
          unplacedAll document = textNodes text ++ [.tag name [] (some [])]) := by
  obtain ⟨value, document, hparse, hnodes, hempty, hkept⟩ := exists_parse_text h filename
  exact ⟨⟨value, document, hparse, hnodes, renderAll_of_unplaced hnodes, hempty, hkept⟩,
    fun hmarks name hn hv => parse_text_before_tag h hmarks hn hv filename⟩

/-- Whole references, ampersands alone, one that ends the text, and an unfinished number. -/
theorem parse_text_mixed :
    let text := "a&amp;b & &#38;&x-1.y; c&"
    '<' ∉ text.toList ∧ (∃ document, parse text none = .ok document ∧ renderAll document = text) ∧
      ∃ document, parse (text ++ "<script></script>") none = .ok document ∧
        unplacedAll document = [.text text, .tag "script" [] (some [])] := by
  intro text
  have hangle : '<' ∉ text.toList := by decide
  have hmarks : eachMark (fun after => isLone after || isReference after) text.toList := by decide
  obtain ⟨⟨value, document, hparse, -, hrender, -, hkept⟩, htag⟩ := parse_text hangle none
  refine ⟨hangle, ⟨document, hparse, hrender.trans (hkept (by decide))⟩, ?_⟩
  obtain ⟨tagged, hparse, hnodes⟩ := htag hmarks "script" (by decide) (by decide)
  exact ⟨tagged, hparse, hnodes⟩

/-- Loose references are altered: an ampersand is lost before the last letter, a semicolon is added, and a number that has
no digits reaches over the tag after it. -/
theorem loose_references_altered :
    (parse "AT&T").toOption.map renderAll = some "ATT" ∧
      (parse "a &amp b").toOption.map renderAll = some "a &amp; b" ∧
      (parse "&#<b></b>").toOption.map (·.map (·.head.value)) = some [some "&#<b></b>"] := by
  decide +kernel

end Markup

end LayoutInheritance
