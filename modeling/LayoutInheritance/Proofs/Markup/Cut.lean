import LayoutInheritance.Proofs.Markup.Unfinished

/-! The scan of a text that is cut. A piece either waits until it is there as a whole, or is a run of text, which may be
taken in parts. So wherever a text that is put together from such pieces is cut, its beginning gives the tokens of some
pieces and leaves the others to what follows. -/

namespace LayoutInheritance

namespace Scan

open Text

/-- The piece is taken once all of it is there, with `sight` after it. Until then the scan waits for more. -/
structure Waits (raw : Option String) (x : Piece) (sight : List Char) : Prop where
  nonempty : x.span ≠ []
  waits : ∀ seen missing, seen ++ missing = x.span ++ sight → seen ≠ [] → missing ≠ [] →
    action false raw seen = .halt none 0
  takes : ∀ more, action false raw (x.span ++ (sight ++ more)) = .take (some x.token) (x.span.length - 1)

/-- The pieces, from the mode `raw` to `raw'`, may be cut anywhere, where `rest` follows them. -/
inductive Cuts (rest : List Char) : Option String → List Piece → Option String → Prop
  | nil {raw} : Cuts rest raw [] raw
  | whole {raw x sight pieces raw'} : Waits raw x sight → sight <+: spans pieces ++ rest →
      Cuts rest (rawAfter raw (some x.token)) pieces raw' → Cuts rest raw (x :: pieces) raw'
  | run {cs pieces raw'} : cs ≠ [] → (∀ c ∈ cs, isMark c = false) → (∀ c ∈ (spans pieces ++ rest).head?, isMark c) →
      Cuts rest none pieces raw' → Cuts rest none (⟨.text (String.ofList cs), cs⟩ :: pieces) raw'

variable {raw raw' raw₁ : Option String} {cs seen missing rest : List Char} {pieces others : List Piece} {x : Piece}
  {name : String} {attributes : List (String × String)}

theorem Cuts.append (h : Cuts (spans others ++ rest) raw pieces raw₁) (h' : Cuts rest raw₁ others raw') :
    Cuts rest raw (pieces ++ others) raw' := by
  induction h with
  | nil => exact h'
  | whole hwaits hsight _ ih =>
    rw [← List.append_assoc, ← spans_append] at hsight
    exact .whole hwaits hsight (ih h')
  | run hne hmarks hafter _ ih =>
    rw [← List.append_assoc, ← spans_append] at hafter
    exact .run hne hmarks hafter (ih h')

/-- Uncut, the pieces are taken one by one. -/
theorem Cuts.takes (h : Cuts rest raw pieces raw') : Takes false rest raw pieces raw' := by
  induction h with
  | nil => exact .nil
  | whole hwaits hsight _ ih =>
    refine .cons hwaits.nonempty ?_ ih
    obtain ⟨more, hmore⟩ := hsight
    rw [← hmore]
    exact hwaits.takes more
  | run hne hmarks hafter _ ih => exact .cons hne (action_text hne hmarks hafter) ih

/-- A piece that needs no sight of what follows. -/
theorem Waits.cuts (h : Waits raw x []) (hr : rawAfter raw (some x.token) = raw') : Cuts rest raw [x] raw' := by
  refine .whole h List.nil_prefix ?_
  rw [hr]
  exact .nil

/-! ### Tags -/

/-- A construct between angle brackets. Its first bracket alone says nothing yet. -/
theorem waits_construct {inside : List Char} (hx : x.span = '<' :: inside)
    (waits : ∀ c seen missing, c :: seen ++ missing = inside → missing ≠ [] →
      action false none ('<' :: c :: seen) = .halt none 0)
    (takes : ∀ more, action false none (x.span ++ more) = .take (some x.token) (x.span.length - 1)) :
    Waits none x [] where
  nonempty := by simp [hx]
  waits seen missing h hs hm := by
    rw [List.append_nil, hx] at h
    rcases seen with _ | ⟨d, _ | ⟨c, seen⟩⟩
    · exact absurd rfl hs
    · cases h
      rfl
    · obtain ⟨rfl, hinside⟩ := List.cons.inj h
      exact waits c seen missing hinside hm
  takes := takes

theorem waits_startPiece (hn : isPlainName name) (ha : ∀ a ∈ attributes, isPlainName a.1) :
    Waits none (startPiece name attributes) [] := by
  refine waits_construct rfl (fun c seen missing h hm => ?_) fun more => action_startPiece hn ha
  have incomplete : Lexeme.startTag ('<' :: c :: seen) = .incomplete := Lexeme.startTag_incomplete hn ha h hm
  have letter : c.isAlpha := by
    obtain ⟨first, letters, hname, hfirst, -⟩ := exists_of_isPlainName hn
    rw [hname] at h
    exact (List.cons.inj h).1 ▸ isAlpha_of_isLower hfirst
  simp [action, atAngle, letter, incomplete]

theorem angle_not_mem_name (hn : isPlainName name) : '>' ∉ name.toList := by
  obtain ⟨_, _, -, -, hall⟩ := exists_of_isPlainName hn
  exact fun h => nomatch hall '>' h

theorem waits_endPiece (hn : isPlainName name) : Waits none (endPiece name) [] := by
  refine waits_construct rfl (fun c seen missing h hm => ?_) fun more => atAngle_endPiece hn nofun
  obtain ⟨rfl, hinside⟩ := List.cons.inj h
  obtain ⟨more, hname⟩ := Lexeme.exists_of_append_eq_concat hinside hm
  have angle : '>' ∉ seen := fun hmem => angle_not_mem_name hn (hname ▸ List.mem_append_left _ hmem)
  have incomplete : Lexeme.endTag none ('<' :: '/' :: seen) = .incomplete := Lexeme.endTag_incomplete angle
  have slash : Char.isAlpha '/' = false := by decide
  simp [action, atAngle, slash, incomplete]

/-! ### Comments and doctypes -/

/-- A declaration that is not all there. -/
theorem action_declaration_incomplete (h : Lexeme.declaration ('<' :: '!' :: cs) = .incomplete) :
    action false none ('<' :: '!' :: cs) = .halt none 0 := by
  have bang : Char.isAlpha '!' = false := by decide
  simp [action, atAngle, bang, h]

theorem waits_commentPiece {value : String} (h : Lexeme.search Lexeme.commentEnd? value.toList = none) :
    Waits none (commentPiece value) [] := by
  refine waits_construct rfl (fun c seen missing hseen hm => ?_) fun more => action_commentPiece h
  obtain ⟨rfl, hinside⟩ := List.cons.inj hseen
  rcases seen with _ | ⟨d, _ | ⟨e, seen⟩⟩
  · rfl
  · cases hinside
    rfl
  · obtain ⟨rfl, hdash⟩ := List.cons.inj hinside
    obtain ⟨rfl, hvalue⟩ := List.cons.inj hdash
    exact action_declaration_incomplete (Lexeme.comment_incomplete h hvalue hm)

theorem waits_doctypePiece {value : String} (hw : (value.toList.take 7).map Char.toLower = "doctype".toList)
    (ha : '>' ∉ value.toList) : Waits none (doctypePiece value) [] := by
  refine waits_construct rfl (fun c seen missing h hm => ?_) fun more => action_doctypePiece hw ha
  obtain ⟨rfl, hinside⟩ := List.cons.inj h
  obtain ⟨more, hvalue⟩ := Lexeme.exists_of_append_eq_concat hinside hm
  have angle : '>' ∉ seen := fun hmem => ha (hvalue ▸ List.mem_append_left _ hmem)
  refine action_declaration_incomplete (Lexeme.declaration_incomplete angle fun c hc => ?_)
  obtain ⟨seen, rfl⟩ := List.head?_eq_some_iff.1 hc
  have letter : c.toLower = 'd' := by
    rw [hvalue] at hw
    exact (List.cons.inj hw).1
  exact ⟨fun hdash => absurd (hdash ▸ letter) (by decide), fun hbracket => absurd (hbracket ▸ letter) (by decide)⟩

/-! ### Texts -/

/-- A text without opening angle brackets is put together from runs of characters that are no marks, and from ampersands
with what follows them. -/
theorem text_induction {motive : List Char → Prop} (nil : motive [])
    (mark : ∀ after, (∀ s, s <:+ after → motive s) → motive ('&' :: after))
    (run : ∀ cs after, cs ≠ [] → (∀ c ∈ cs, isMark c = false) → (∀ c ∈ after.head?, isMark c) → motive after →
      motive (cs ++ after)) (h : '<' ∉ cs) : motive cs := by
  induction hn : cs.length using Nat.strong_induction_on generalizing cs with
  | _ n ih =>
    subst hn
    cases cs with
    | nil => exact nil
    | cons c after =>
      have hafter : '<' ∉ after := fun hmem => h (List.mem_cons_of_mem _ hmem)
      by_cases hc : c = '&'
      · subst hc
        refine mark after fun s hs => ih s.length ?_ (fun hmem => hafter (hs.subset hmem)) rfl
        exact Nat.lt_succ_of_le hs.length_le
      · have angle : c ≠ '<' := fun he => h (he ▸ List.mem_cons_self ..)
        have first : isMark c = false := by simp [isMark, hc, angle]
        obtain ⟨cs, rest, hcs, hne, hmarks, hrest⟩ := exists_run after first
        have hlength := congrArg List.length hcs
        have hpos := List.length_pos_iff.2 hne
        rw [List.length_append] at hlength
        rw [hcs] at h ⊢
        exact run cs rest hne hmarks hrest
          (ih rest.length (by omega) (fun hmem => h (List.mem_append_right _ hmem)) rfl)

/-- Digits alone may go on. -/
theorem numberBody?_of_digits (h : ∀ c ∈ cs, c.isDigit) : numberBody? cs = none := by
  have body : cs.takeWhile Char.isDigit = cs := List.takeWhile_eq_self_iff.2 h
  cases cs with
  | nil => rfl
  | cons c cs =>
    have digit := h c (List.mem_cons_self ..)
    have small : c ≠ 'x' := by
      rintro rfl
      exact nomatch digit
    have large : c ≠ 'X' := by
      rintro rfl
      exact nomatch digit
    simp [numberBody?, body, small, large]

/-- Letters and digits alone may go on. -/
theorem entityName?_of_alphanum (h : ∀ c ∈ cs, c.isAlphanum) : entityName? cs = none := by
  have name : cs.takeWhile isEntityChar = cs :=
    List.takeWhile_eq_self_iff.2 fun c hc => by simp [isEntityChar, h c hc]
  have short : cs.reverse.dropWhile Char.isAlphanum = [] :=
    List.dropWhile_eq_nil_iff.2 fun c hc => h c (List.mem_reverse.1 hc)
  simp [entityName?, name, short]

/-- A reference without its semicolon. -/
theorem atAmpersand_beginning {body more : List Char} (h : isReferenceBody body) (hbody : body = cs ++ more) :
    atAmpersand false ('&' :: cs) = .halt none 0 := by
  cases cs with
  | nil => rfl
  | cons c cs =>
    rw [hbody, List.cons_append, isReferenceBody.eq_def] at h
    split at h
    · next digits heq =>
      cases heq
      rw [Bool.and_eq_true, List.all_eq_true] at h
      have hdigits : ∀ d ∈ cs, d.isDigit := fun d hd => h.2 d (List.mem_append_left _ hd)
      have semicolon : ';' ∉ cs := fun hmem => absurd (hdigits ';' hmem) (by decide)
      simp [atAmpersand, numberBody?_of_digits hdigits, semicolon]
    · next d name hne heq =>
      cases heq
      rw [Bool.and_eq_true, List.all_eq_true] at h
      have hname : ∀ d ∈ c :: cs, d.isAlphanum := by
        refine List.forall_mem_cons.2 ⟨by simp [Char.isAlphanum, h.1], fun d hd => ?_⟩
        exact h.2 d (List.mem_append_left _ hd)
      simp [atAmpersand, h.1, entityName?_of_alphanum hname]
    · cases h

/-- A reference is waited for up to its semicolon. -/
theorem waits_reference {body : List Char} (h : isReferenceBody body) :
    Waits none ⟨.reference (String.ofList body), '&' :: (body ++ [';'])⟩ [] where
  nonempty := List.cons_ne_nil _ _
  waits seen missing hseen hs hm := by
    rw [List.append_nil] at hseen
    obtain ⟨c, seen, rfl⟩ := List.exists_cons_of_ne_nil hs
    obtain ⟨rfl, hinside⟩ := List.cons.inj hseen
    obtain ⟨more, hbody⟩ := Lexeme.exists_of_append_eq_concat hinside hm
    exact atAmpersand_beginning h hbody
  takes more := by
    have taken : action false none ('&' :: (body ++ ';' :: more)) = _ := action_reference h
    simpa using taken

theorem angle_not_mem_of_isPlainText (h : isPlainText cs) : '<' ∉ cs := by
  intro hmem
  obtain ⟨before, after, rfl⟩ := List.append_of_mem hmem
  exact nomatch isPlainText_of_append before h

theorem forall_head?_append {p : Char → Prop} (h : ∀ c ∈ cs.head?, p c) (hr : ∀ c ∈ rest.head?, p c) :
    ∀ c ∈ (cs ++ rest).head?, p c := by
  cases cs with
  | nil => exact hr
  | cons c cs => exact h

/-- A plain text is put together from references and from runs of other characters. -/
theorem cuts_text (h : isPlainText cs) (hr : ∀ c ∈ rest.head?, isMark c) :
    ∃ pieces, spans pieces = cs ∧ (∀ x ∈ pieces, x.Textual) ∧ Cuts rest none pieces none := by
  refine text_induction (motive := fun cs => isPlainText cs → ∃ pieces, spans pieces = cs ∧ (∀ x ∈ pieces, x.Textual) ∧
    Cuts rest none pieces none) (fun _ => ⟨[], rfl, nofun, .nil⟩) (fun after ih h => ?_)
    (fun cs after hne hmarks hafter ih h => ?_) (angle_not_mem_of_isPlainText h) h
  · obtain ⟨body, after, rfl, hbody, hplain⟩ := reference_of_isPlainText h
    obtain ⟨pieces, rfl, htext, hcuts⟩ := ih after ((List.suffix_cons ..).trans (List.suffix_append ..)) hplain
    refine ⟨⟨.reference (String.ofList body), '&' :: (body ++ [';'])⟩ :: pieces, by simp, ?_, ?_⟩
    · exact List.forall_mem_cons.2 ⟨.inr ⟨body, rfl, rfl⟩, htext⟩
    · exact .whole (waits_reference hbody) List.nil_prefix hcuts
  · obtain ⟨pieces, rfl, htext, hcuts⟩ := ih (isPlainText_of_append cs h)
    exact ⟨⟨.text (String.ofList cs), cs⟩ :: pieces, rfl, List.forall_mem_cons.2 ⟨.inl rfl, htext⟩,
      .run hne hmarks (forall_head?_append hafter hr) hcuts⟩

/-! ### Raw texts -/

theorem afterName?_suffix {letters : List Char} (h : afterName? letters cs = some rest) : rest <:+ cs := by
  induction letters generalizing cs with
  | nil =>
    cases h
    exact List.suffix_rfl
  | cons x letters ih =>
    cases cs with
    | nil => exact nomatch h
    | cons c cs =>
      rw [afterName?] at h
      split at h
      · exact (ih h).trans (List.suffix_cons ..)
      · cases h

theorem afterName?_mono {letters : List Char} (h : afterName? letters cs = some rest) (more : List Char) :
    afterName? letters (cs ++ more) = some (rest ++ more) := by
  induction letters generalizing cs with
  | nil =>
    cases h
    rfl
  | cons x letters ih =>
    cases cs with
    | nil => exact nomatch h
    | cons c cs =>
      rw [afterName?] at h
      rw [List.cons_append, afterName?]
      split at h
      · next hc => rw [if_pos hc, ih h]
      · cases h

theorem exists_of_endsRaw (h : endsRaw name cs) : ∃ inside after, cs = '<' :: '/' :: inside ∧
    afterName? name.toList (inside.dropWhile isBlank) = some after ∧ Lexeme.afterBlank? '>' after ≠ none := by
  unfold endsRaw at h
  split at h
  · next inside =>
    obtain ⟨_, hsome⟩ := Option.isSome_iff_exists.1 h
    obtain ⟨after, hafter, hangle⟩ := Option.bind_eq_some_iff.1 hsome
    exact ⟨inside, after, rfl, hafter, by rw [hangle]; exact nofun⟩
  · exact nomatch h

/-- The end of a raw text that is there is still there when more text comes. -/
theorem endsRaw_mono (h : endsRaw name cs) (more : List Char) : endsRaw name (cs ++ more) := by
  obtain ⟨inside, after, rfl, hafter, hangle⟩ := exists_of_endsRaw h
  have hgap : (inside ++ more).dropWhile isBlank = inside.dropWhile isBlank ++ more := by
    rw [List.dropWhile_append, if_neg]
    rw [List.isEmpty_iff]
    intro hnil
    rw [hnil] at hafter
    obtain rfl := List.suffix_nil.1 (afterName?_suffix hafter)
    exact hangle rfl
  have hmore : Lexeme.afterBlank? '>' (after ++ more) ≠ none := fun hnone => hangle (Lexeme.afterBlank?_mono hnone)
  rw [List.cons_append, List.cons_append, endsRaw, hgap, afterName?_mono hafter, Option.bind_some,
    Option.isSome_iff_ne_none]
  exact hmore

theorem angle_mem_of_endsRaw (h : endsRaw name cs) : '>' ∈ cs := by
  obtain ⟨inside, after, rfl, hafter, hangle⟩ := exists_of_endsRaw h
  have hmem : '>' ∈ after := by
    rw [Lexeme.afterBlank?] at hangle
    split at hangle
    · next heq =>
      obtain rfl := Decidable.by_contra fun hne => hangle (if_neg hne)
      exact (List.dropWhile_suffix _).subset (heq ▸ List.mem_cons_self ..)
    · exact absurd rfl hangle
  have hsuffix := (afterName?_suffix hafter).trans (List.dropWhile_suffix _)
  exact List.mem_cons_of_mem _ (List.mem_cons_of_mem _ (hsuffix.subset hmem))

theorem rawText?_eq_none_of_angle_not_mem (h : '>' ∉ cs) : rawText? name cs = none := by
  induction cs with
  | nil => rfl
  | cons c cs ih =>
    rw [rawText?, if_neg fun hends => h (angle_mem_of_endsRaw hends), ih fun hmem => h (List.mem_cons_of_mem _ hmem)]
    rfl

/-- The beginning of an end tag holds no closing angle bracket. -/
theorem angle_not_mem_beginning (hn : isPlainName name) (h : seen ++ missing = (endPiece name).span) (hm : missing ≠ []) :
    '>' ∉ seen := by
  obtain ⟨more, hseen⟩ := Lexeme.exists_of_append_eq_concat (show _ = ('<' :: '/' :: name.toList) ++ ['>'] from h) hm
  intro hmem
  have hall : '>' ∈ '<' :: '/' :: name.toList := hseen ▸ List.mem_append_left _ hmem
  have hname : '>' ∈ name.toList := by simpa using hall
  exact angle_not_mem_name hn hname

/-- The beginning of a raw text and of the end tag after it. -/
theorem rawText?_beginning (hn : isPlainName name) (hcs : rawText? name cs = none)
    (h : seen ++ missing = cs ++ (endPiece name).span) (hm : missing ≠ []) : rawText? name seen = none := by
  induction cs generalizing seen with
  | nil => exact rawText?_eq_none_of_angle_not_mem (angle_not_mem_beginning hn h hm)
  | cons c cs ih =>
    cases seen with
    | nil => rfl
    | cons d seen =>
      rw [rawText?] at hcs
      split at hcs
      · cases hcs
      · next hends =>
        have same : endsRaw name (c :: cs ++ (endPiece name).span) = endsRaw name (c :: cs) :=
          endsRaw_append _ hn (List.cons_ne_nil c cs)
        have here : ¬ endsRaw name (d :: seen) := fun hseen => by
          have hall := endsRaw_mono hseen missing
          rw [h, same] at hall
          exact hends hall
        rw [rawText?, if_neg here, ih (Option.map_eq_none_iff.1 hcs) (List.cons.inj h).2]
        rfl

theorem waits_rawEnd (hn : isPlainName name) : Waits (some name) (endPiece name) [] where
  nonempty := List.cons_ne_nil _ _
  waits seen missing h hs hm := by
    rw [List.append_nil] at h
    have nothing : rawText? name seen = none := rawText?_beginning hn (rfl : rawText? name [] = none) h hm
    rw [action, nothing]
  takes more := by
    rw [action, rawText?_endPiece _ hn]
    exact atAngle_endPiece hn fun _ h => (Option.some.inj h).symm

/-- A raw text is waited for up to the end tag of its element. -/
theorem waits_rawText (hn : isPlainName name) (hne : cs ≠ []) (h : rawText? name cs = none) :
    Waits (some name) ⟨.text (String.ofList cs), cs⟩ (endPiece name).span where
  nonempty := hne
  waits seen missing hseen hs hm := by
    rw [action, rawText?_beginning hn h hseen hm]
  takes more := by
    have found : rawText? name (cs ++ ((endPiece name).span ++ more)) = some cs := by
      have ends := rawText?_endPiece more hn
      rw [endPiece, List.cons_append] at ends ⊢
      rw [rawText?_append hn h, ends, Option.map_some, List.append_nil]
    obtain ⟨c, cs, rfl⟩ := List.exists_cons_of_ne_nil hne
    simp only [action, found]
    rfl

end Scan

end LayoutInheritance
