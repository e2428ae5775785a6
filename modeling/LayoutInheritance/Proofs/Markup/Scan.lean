import LayoutInheritance.Proofs.Markup.Tag
import Mathlib.Data.List.TakeWhile

/-! The scan of a text that is put together from pieces. Each piece is spanned by one token, whatever follows
it, or with what follows it in sight; then the scan of the whole text gives these tokens, each at the place
where its piece begins. -/

namespace LayoutInheritance

/-- A token and the characters that it spans. -/
structure Piece where
  token : Token
  span : List Char

/-- The token is read as a text: the characters that it spans. -/
def Piece.Textual (x : Piece) : Prop :=
  x.token = .text (String.ofList x.span) ∨
    ∃ body, x.token = .reference (String.ofList body) ∧ x.span = '&' :: (body ++ [';'])

namespace Scan

open Text

section

variable {pieces others : List Piece} {p : Position} {x : Piece}

/-! ### Pieces -/

/-- The text that is put together from the pieces. -/
def spans (pieces : List Piece) : List Char :=
  pieces.flatMap Piece.span

@[simp] theorem spans_nil : spans [] = [] := rfl

@[simp] theorem spans_cons : spans (x :: pieces) = x.span ++ spans pieces := List.flatMap_cons

@[simp] theorem spans_append : spans (pieces ++ others) = spans pieces ++ spans others := List.flatMap_append

/-- The tokens of the pieces, when the first begins at `p`. -/
def placed (p : Position) : List Piece → List (Token × Position)
  | [] => []
  | x :: pieces => (x.token, p) :: placed (p.after x.span) pieces

theorem map_fst_placed : (placed p pieces).map Prod.fst = pieces.map Piece.token := by
  induction pieces generalizing p with
  | nil => rfl
  | cons x pieces ih => rw [placed, List.map_cons, List.map_cons, ih]

end

/-- One token after the other spans its piece, in the mode `raw` at first and `raw'` at last, where `rest`
follows the pieces. -/
inductive Takes (atEnd : Bool) (rest : List Char) : Option String → List Piece → Option String → Prop
  | nil {raw} : Takes atEnd rest raw [] raw
  | cons {raw x pieces raw'} : x.span ≠ [] →
      action atEnd raw (x.span ++ (spans pieces ++ rest)) = .take (some x.token) (x.span.length - 1) →
      Takes atEnd rest (rawAfter raw (some x.token)) pieces raw' → Takes atEnd rest raw (x :: pieces) raw'

variable {atEnd : Bool} {raw raw' raw₁ : Option String} {cs rest : List Char} {pieces others : List Piece}
  {p : Position}

theorem Takes.append (h : Takes atEnd (spans others ++ rest) raw pieces raw₁)
    (h' : Takes atEnd rest raw₁ others raw') : Takes atEnd rest raw (pieces ++ others) raw' := by
  induction h with
  | nil => exact h'
  | @cons _ _ pieces _ hne ha _ ih =>
    rw [← List.append_assoc (spans pieces), ← spans_append] at ha
    exact .cons hne ha (ih h')

/-- A scan passes over the characters that are owed. -/
theorem scanFrom_owed (owed : List Char) :
    scanFrom atEnd raw p owed.length (owed ++ rest) = scanFrom atEnd raw (p.after owed) 0 rest := by
  induction owed generalizing p with
  | nil => rfl
  | cons c owed ih =>
    rw [List.length_cons, List.cons_append]
    exact ih

/-- A token is taken with the characters that it spans. -/
theorem scanFrom_take {token : Token} {span : List Char} (hne : span ≠ [])
    (ha : action atEnd raw (span ++ rest) = .take (some token) (span.length - 1)) (p : Position) :
    scanFrom atEnd raw p 0 (span ++ rest) =
      (scanFrom atEnd (rawAfter raw (some token)) (p.after span) 0 rest).cons (some token) p := by
  obtain ⟨c, span, rfl⟩ := List.exists_cons_of_ne_nil hne
  rw [List.cons_append] at ha ⊢
  rw [List.length_cons, Nat.add_sub_cancel] at ha
  rw [scanFrom, ha]
  simp only
  rw [scanFrom_owed]
  rfl

/-- The result of a scan after other tokens. -/
def Result.prepend (r : Result) (tokens : List (Token × Position)) : Result :=
  { r with tokens := tokens ++ r.tokens }

/-- The scan gives the tokens of the pieces, and then goes on with what follows them. -/
theorem Takes.scanFrom (h : Takes atEnd rest raw pieces raw') (p : Position) :
    scanFrom atEnd raw p 0 (spans pieces ++ rest) =
      (Scan.scanFrom atEnd raw' (p.after (spans pieces)) 0 rest).prepend (placed p pieces) := by
  induction h generalizing p with
  | nil => rfl
  | cons hne ha _ ih =>
    rw [spans_cons, List.append_assoc, scanFrom_take hne ha, ih]
    simp [Position.after, placed, Result.prepend, Result.cons]

/-! ### Tags -/

variable {name : String} {attributes : List (String × String)}

/-- A start tag as it is written. -/
def startPiece (name : String) (attributes : List (String × String)) : Piece :=
  ⟨.opening name attributes false, '<' :: (name.toList ++ (Lexeme.spelledAll attributes ++ ['>']))⟩

def endPiece (name : String) : Piece :=
  ⟨.closing name, '<' :: '/' :: (name.toList ++ ['>'])⟩

theorem action_startPiece (hn : isPlainName name) (ha : ∀ a ∈ attributes, isPlainName a.1) :
    action atEnd none ((startPiece name attributes).span ++ rest) =
      .take (some (.opening name attributes false)) ((startPiece name attributes).span.length - 1) := by
  have tag := Lexeme.startTag_spelled rest hn ha
  obtain ⟨c, cs, hcs, hc, -⟩ := exists_of_isPlainName hn
  have letter : c.isAlpha := isAlpha_of_isLower hc
  simp only [startPiece, hcs, List.cons_append, List.append_assoc, List.nil_append] at tag ⊢
  simp only [action, atAngle, List.tail_cons, List.head?_cons, Option.any_some, letter, if_true, tag]
  congr 1
  simp
  omega

theorem atAngle_endPiece (hn : isPlainName name) (hr : ∀ x ∈ raw, x = name) :
    atAngle atEnd raw ((endPiece name).span ++ rest) =
      .take (some (.closing name)) ((endPiece name).span.length - 1) := by
  have tag := Lexeme.endTag_spelled rest hn hr
  have slash : Char.isAlpha '/' = false := by decide
  simp only [endPiece, List.cons_append, List.append_assoc, List.nil_append] at tag ⊢
  simp only [atAngle, List.tail_cons, List.head?_cons, Option.any_some, slash, Bool.false_eq_true, if_false, tag]
  congr 1
  simp
  omega

/-! ### Comments and doctypes -/

/-- The search stops where the ending is, when it cannot match before. -/
theorem search_append {ending : List Char → Option (List Char)} {tail : List Char}
    (h : ∀ s, s ≠ [] → s <:+ cs → ending (s ++ tail) = none) (hne : tail ≠ [])
    (ht : ending tail = some rest) :
    Lexeme.search ending (cs ++ tail) = some (cs, rest) := by
  induction cs with
  | nil =>
    obtain ⟨c, tail, rfl⟩ := List.exists_cons_of_ne_nil hne
    simp only [List.nil_append, Lexeme.search, ht]
  | cons c cs ih =>
    have here : ending (c :: (cs ++ tail)) = none := h (c :: cs) (List.cons_ne_nil _ _) List.suffix_rfl
    have found := ih fun s hs hsuffix => h s hs (hsuffix.trans (List.suffix_cons ..))
    simp only [List.cons_append, Lexeme.search, here, found, Option.map_some]

/-- Where a search finds nothing, its ending matches nowhere. -/
theorem ending_eq_none {ending : List Char → Option (List Char)} (h : Lexeme.search ending cs = none) :
    ∀ s, s ≠ [] → s <:+ cs → ending s = none := by
  induction cs with
  | nil => exact fun s hs hsuffix => absurd (List.suffix_nil.1 hsuffix) hs
  | cons c cs ih =>
    intro s hs hsuffix
    rw [Lexeme.search] at h
    split at h
    · exact nomatch h
    · next here =>
      rw [Option.map_eq_none_iff] at h
      rcases List.suffix_cons_iff.1 hsuffix with rfl | hsuffix
      · exact here
      · exact ih h s hs hsuffix

theorem dropWhile_append_cons {d : Char} (hd : isBlank d = false) :
    (cs ++ d :: rest).dropWhile isBlank = cs.dropWhile isBlank ++ d :: rest := by
  have stop : (d :: rest).dropWhile isBlank = d :: rest := List.dropWhile_cons_of_neg (by simp [hd])
  rw [List.dropWhile_append, stop]
  split
  · next h => rw [List.isEmpty_iff.1 h, List.nil_append]
  · rfl

/-- What comes after a blank gap is the same in a longer text, when the text goes on with something else. -/
theorem afterBlank?_append {c d : Char} (hd : isBlank d = false) (hne : d ≠ c) :
    Lexeme.afterBlank? c (cs ++ d :: rest) = (Lexeme.afterBlank? c cs).map (· ++ d :: rest) := by
  rw [Lexeme.afterBlank?, Lexeme.afterBlank?, dropWhile_append_cons hd]
  cases cs.dropWhile isBlank with
  | nil => simp [hne]
  | cons e es =>
    simp only [List.cons_append]
    split <;> rfl

/-- The end of a comment does not reach into a comment without one. -/
theorem commentEnd?_append (hne : cs ≠ []) (h : Lexeme.commentEnd? cs = none) :
    Lexeme.commentEnd? (cs ++ '-' :: '-' :: '>' :: rest) = none := by
  have dash : isBlank '-' = false := by decide
  match cs with
  | [c] =>
    simp only [List.cons_append, List.nil_append, Lexeme.commentEnd?]
    split
    · next heq =>
      cases heq
      simp [Lexeme.afterBlank?, dash]
    · rfl
  | c :: d :: cs =>
    simp only [List.cons_append, Lexeme.commentEnd?] at h ⊢
    split
    · next heq =>
      cases heq
      rw [afterBlank?_append dash (by decide)]
      simp only at h
      rw [h]
      rfl
    · rfl

/-- A declaration spans what is read of it. -/
theorem action_declaration {token : Token} (span : List Char)
    (h : Lexeme.declaration ('<' :: '!' :: (span ++ rest)) = .found (some token) rest) :
    action atEnd none ('<' :: '!' :: (span ++ rest)) = .take (some token) (span.length + 1) := by
  have bang : Char.isAlpha '!' = false := by decide
  simp only [action, atAngle, List.tail_cons, List.head?_cons, Option.any_some, bang, Bool.false_eq_true,
    if_false, h]
  congr 1
  simp
  omega

def commentPiece (value : String) : Piece :=
  ⟨.comment value, '<' :: '!' :: '-' :: '-' :: (value.toList ++ ['-', '-', '>'])⟩

theorem action_commentPiece {value : String} (h : Lexeme.search Lexeme.commentEnd? value.toList = none) :
    action atEnd none ((commentPiece value).span ++ rest) =
      .take (some (.comment value)) ((commentPiece value).span.length - 1) := by
  have found : Lexeme.search Lexeme.commentEnd? (value.toList ++ '-' :: '-' :: '>' :: rest) =
      some (value.toList, rest) :=
    search_append (fun s hs hsuffix => commentEnd?_append hs (ending_eq_none h s hs hsuffix))
      (List.cons_ne_nil _ _) rfl
  apply action_declaration ('-' :: '-' :: (value.toList ++ ['-', '-', '>']))
  simp only [Lexeme.declaration, List.drop_succ_cons, List.drop_zero, List.cons_append, List.append_assoc,
    List.nil_append, Lexeme.comment, found, String.ofList_toList]

def doctypePiece (value : String) : Piece :=
  ⟨.doctype value, '<' :: '!' :: (value.toList ++ ['>'])⟩

theorem upToAngle_append {inside : List Char} {token? : List Char → Option Token} (h : '>' ∉ inside) :
    Lexeme.upToAngle (inside ++ '>' :: rest) token? = .found (token? inside) rest := by
  have found : Lexeme.search (fun cs => if cs.head? = some '>' then some cs.tail else none)
      (inside ++ '>' :: rest) = some (inside, rest) := by
    refine search_append (fun s hs hsuffix => ?_) (List.cons_ne_nil _ _) (by simp)
    obtain ⟨c, s, rfl⟩ := List.exists_cons_of_ne_nil hs
    rw [List.cons_append, List.head?_cons, if_neg]
    rintro ⟨⟩
    exact h (hsuffix.subset (List.mem_cons_self ..))
  rw [Lexeme.upToAngle, found]

theorem action_doctypePiece {value : String}
    (hw : (value.toList.take 7).map Char.toLower = "doctype".toList) (ha : '>' ∉ value.toList) :
    action atEnd none ((doctypePiece value).span ++ rest) =
      .take (some (.doctype value)) ((doctypePiece value).span.length - 1) := by
  obtain ⟨word, inside, hvalue, hword⟩ : ∃ word inside, value.toList = word ++ inside ∧
      word.map Char.toLower = "doctype".toList :=
    ⟨_, _, (List.take_append_drop 7 _).symm, hw⟩
  have length : word.length = 7 := by
    have hlen := congrArg List.length hword
    rwa [List.length_map] at hlen
  have angle : '>' ∉ inside := fun h => ha (hvalue ▸ List.mem_append_right _ h)
  have take : (word ++ (inside ++ '>' :: rest)).take 7 = word := by rw [← length, List.take_left]
  have drop : (word ++ (inside ++ '>' :: rest)).drop 7 = inside ++ '>' :: rest := by rw [← length, List.drop_left]
  have body : value.toList ++ ['>'] ++ rest = word ++ (inside ++ '>' :: rest) := by simp [hvalue]
  have first {c : Char} {cs : List Char} (heq : word ++ (inside ++ '>' :: rest) = c :: cs) : c.toLower = 'd' := by
    cases word with
    | nil => exact nomatch length
    | cons d word =>
      cases heq
      exact (List.cons.inj hword).1
  apply action_declaration (value.toList ++ ['>'])
  rw [Lexeme.declaration, List.drop_succ_cons, List.drop_succ_cons, List.drop_zero, body]
  -- neither a comment nor a section begins with a letter
  split
  · next heq => exact absurd (first heq) (by decide)
  · next heq => exact absurd (first heq) (by decide)
  · rw [if_pos (by rw [take, hword]), take, drop, upToAngle_append angle, ← hvalue, String.ofList_toList]

/-! ### Texts -/

theorem isPlainText_of_append (cs : List Char) (h : isPlainText (cs ++ rest)) : isPlainText rest := by
  induction cs with
  | nil => exact h
  | cons c cs ih =>
    apply ih
    rw [List.cons_append, isPlainText.eq_def] at h
    split at h
    · next heq => exact nomatch heq
    · next heq =>
      cases heq
      rw [Bool.and_eq_true] at h
      exact h.2
    · next heq =>
      cases heq
      rw [Bool.and_eq_true] at h
      exact h.2

theorem entityName?_append {body : List Char} (rest : List Char) (h : ∀ c ∈ body, isEntityChar c) :
    entityName? (body ++ ';' :: rest) = some body := by
  have name : (body ++ ';' :: rest).takeWhile isEntityChar = body := Lexeme.takeWhile_stop h (by decide)
  rw [entityName?, name]
  simp

theorem numberBody?_append {digits : List Char} (rest : List Char) (hne : digits ≠ [])
    (h : ∀ c ∈ digits, c.isDigit) :
    numberBody? (digits ++ ';' :: rest) = some digits := by
  have body : (digits ++ ';' :: rest).takeWhile Char.isDigit = digits := Lexeme.takeWhile_stop h (by decide)
  have ends : isHexDigit ';' = false := by decide
  obtain ⟨d, ds, rfl⟩ := List.exists_cons_of_ne_nil hne
  have digit := h d (List.mem_cons_self ..)
  have small : d ≠ 'x' := by
    rintro rfl
    exact nomatch digit
  have large : d ≠ 'X' := by
    rintro rfl
    exact nomatch digit
  rw [List.cons_append] at body ⊢
  simp [numberBody?, body, small, large, ends]

theorem takeReference_append (body : List Char) {token : List Char} {marks : Nat}
    (h : marks + token.length = body.length + 1) :
    takeReference token marks ('&' :: (body ++ ';' :: rest)) =
      .take (some (.reference (String.ofList body))) (body.length + 1) := by
  have inside : (body ++ ';' :: rest).take (body.length + 1 - 1) = body := List.take_left
  have after : ('&' :: (body ++ ';' :: rest)).drop (body.length + 1) = ';' :: rest := by
    rw [List.drop_succ_cons, List.drop_left]
  simp only [takeReference, h, List.tail_cons, inside, after, List.head?_cons, if_true]

/-- A reference by number. -/
theorem action_number {body : List Char} (h : numberBody? (body ++ ';' :: rest) = some body) :
    action atEnd none ('&' :: ('#' :: body ++ ';' :: rest)) =
      .take (some (.reference (String.ofList ('#' :: body)))) (('#' :: body).length + 1) := by
  simp only [action, atAmpersand, List.tail_cons, List.cons_append, h]
  exact takeReference_append ('#' :: body) (by simp; omega)

theorem ne_numberSign_of_isAlpha {c : Char} (hc : c.isAlpha) : c ≠ '#' := by
  rintro rfl
  exact nomatch hc

/-- A reference by name. -/
theorem action_name {c : Char} {cs : List Char} (hc : c.isAlpha) (h : ∀ d ∈ cs, isEntityChar d) :
    action atEnd none ('&' :: (c :: cs ++ ';' :: rest)) =
      .take (some (.reference (String.ofList (c :: cs)))) ((c :: cs).length + 1) := by
  have entity : ∀ d ∈ c :: cs, isEntityChar d :=
    List.forall_mem_cons.2 ⟨by simp [isEntityChar, Char.isAlphanum, hc], h⟩
  have found := entityName?_append rest entity
  rw [List.cons_append] at found
  have named : atAmpersand atEnd ('&' :: c :: (cs ++ ';' :: rest)) =
      takeReference (c :: cs) 1 ('&' :: c :: (cs ++ ';' :: rest)) := by
    simp [atAmpersand, ne_numberSign_of_isAlpha hc, hc, found]
  rw [List.cons_append]
  exact named.trans (takeReference_append (c :: cs) (Nat.add_comm ..))

/-- A reference is spanned with its ampersand and its semicolon. -/
theorem action_reference {body : List Char} (h : isReferenceBody body) :
    action atEnd none ('&' :: (body ++ ';' :: rest)) =
      .take (some (.reference (String.ofList body))) (body.length + 1) := by
  rw [isReferenceBody.eq_def] at h
  split at h
  · rw [Bool.and_eq_true, Bool.not_eq_true', List.isEmpty_eq_false_iff, List.all_eq_true] at h
    exact action_number (numberBody?_append rest h.1 h.2)
  · rw [Bool.and_eq_true, List.all_eq_true] at h
    exact action_name h.1 fun d hd => by simp [isEntityChar, h.2 d hd]
  · exact nomatch h

/-- A text reaches up to the next mark. -/
theorem action_text {run : List Char} (hne : run ≠ []) (hrun : ∀ c ∈ run, isMark c = false)
    (hrest : ∀ c ∈ rest.head?, isMark c) :
    action atEnd none (run ++ rest) = .take (some (.text (String.ofList run))) (run.length - 1) := by
  have text : (run ++ rest).takeWhile (fun c => !isMark c) = run := by
    have all : ∀ c ∈ run, !isMark c := fun c hc => by rw [hrun c hc, Bool.not_false]
    cases rest with
    | nil => rw [List.append_nil, List.takeWhile_eq_self_iff.2 all]
    | cons d rest => exact Lexeme.takeWhile_stop all (by rw [hrest d rfl, Bool.not_true])
  obtain ⟨c, cs, rfl⟩ := List.exists_cons_of_ne_nil hne
  have first := hrun c (List.mem_cons_self ..)
  rw [isMark, Bool.or_eq_false_iff, beq_eq_false_iff_ne, beq_eq_false_iff_ne] at first
  rw [List.cons_append] at text ⊢
  simp [action, first.1, first.2, text, textOf]

theorem exists_semicolon (h : ';' ∈ cs) : ∃ after, cs = cs.takeWhile (· != ';') ++ ';' :: after := by
  obtain ⟨body, after, rfl, hbody⟩ := List.eq_append_cons_of_mem h
  have stop : (body ++ ';' :: after).takeWhile (· != ';') = body := by
    refine Lexeme.takeWhile_stop (fun d hd => ?_) rfl
    rw [bne_iff_ne]
    rintro rfl
    exact hbody hd
  exact ⟨after, by rw [stop]⟩

/-- A reference at the beginning of a text, and what is left of the text. -/
theorem reference_of_isPlainText (h : isPlainText ('&' :: cs)) :
    ∃ body after, cs = body ++ ';' :: after ∧ isReferenceBody body ∧ isPlainText after := by
  rw [isPlainText, Bool.and_eq_true, Bool.and_eq_true, List.contains_iff_mem] at h
  obtain ⟨⟨hmem, hbody⟩, hplain⟩ := h
  obtain ⟨after, hcs⟩ := exists_semicolon hmem
  rw [hcs] at hplain
  exact ⟨_, after, hcs, hbody, isPlainText_of_append [';'] (isPlainText_of_append _ hplain)⟩

/-- A run of characters that are no marks at the beginning of a text, and what is left of the text. -/
theorem exists_run (cs : List Char) {c : Char} (hc : isMark c = false) : ∃ run after, c :: cs = run ++ after ∧ run ≠ [] ∧
    (∀ d ∈ run, isMark d = false) ∧ ∀ d ∈ after.head?, isMark d := by
  have first : (!isMark c) = true := by rw [hc, Bool.not_false]
  have split := (List.takeWhile_append_dropWhile (p := fun d => !isMark d) (l := c :: cs)).symm
  refine ⟨_, _, split, ?_, ?_, ?_⟩
  · rw [List.takeWhile_cons_of_pos (p := fun d => !isMark d) first]
    exact List.cons_ne_nil _ _
  · intro d hd
    simpa using List.mem_takeWhile_imp hd
  · intro d hd
    have stop := List.head?_dropWhile_not (fun d => !isMark d) (c :: cs)
    rw [Option.mem_def.1 hd] at stop
    simpa using stop

/-! ### Raw texts -/

theorem isLetter_self {x : Char} (h : isPlainNameChar x) : isLetter x x :=
  of_isPlainNameChar (p := fun x => isLetter x x) (by decide) h

theorem isLetter_angle {x : Char} (h : isPlainNameChar x) : isLetter x '<' = false := by
  simpa using of_isPlainNameChar (p := fun x => !isLetter x '<') (by decide) h

theorem afterName?_self {letters : List Char} (h : ∀ x ∈ letters, isPlainNameChar x) :
    afterName? letters (letters ++ rest) = some rest := by
  induction letters with
  | nil => rfl
  | cons x letters ih =>
    rw [List.cons_append, afterName?, if_pos (isLetter_self (h x (List.mem_cons_self ..)))]
    exact ih fun y hy => h y (List.mem_cons_of_mem _ hy)

theorem afterName?_append {letters : List Char} (h : ∀ x ∈ letters, isPlainNameChar x) :
    afterName? letters (cs ++ '<' :: rest) = (afterName? letters cs).map (· ++ '<' :: rest) := by
  induction letters generalizing cs with
  | nil => rfl
  | cons x letters ih =>
    have angle := isLetter_angle (h x (List.mem_cons_self ..))
    cases cs with
    | nil => simp [afterName?, angle]
    | cons c cs =>
      rw [List.cons_append, afterName?, afterName?, ih fun y hy => h y (List.mem_cons_of_mem _ hy)]
      split <;> rfl

theorem endsRaw_eq_false (h : ∀ more, cs ≠ '<' :: '/' :: more) : endsRaw name cs = false := by
  unfold endsRaw
  split
  · exact absurd rfl (h _)
  · rfl

/-- Whether a raw text ends at a place of it does not depend on an end tag that follows. -/
theorem endsRaw_append (rest : List Char) (hn : isPlainName name) (hne : cs ≠ []) :
    endsRaw name (cs ++ '<' :: rest) = endsRaw name cs := by
  obtain ⟨_, _, -, -, hall⟩ := exists_of_isPlainName hn
  have blank : isBlank '<' = false := by decide
  by_cases hcs : ∃ more, cs = '<' :: '/' :: more
  · obtain ⟨more, rfl⟩ := hcs
    simp only [List.cons_append, endsRaw, dropWhile_append_cons blank, afterName?_append hall]
    cases afterName? name.toList (more.dropWhile isBlank) with
    | none => rfl
    | some more => simp [afterBlank?_append blank]
  · rw [not_exists] at hcs
    rw [endsRaw_eq_false hcs, endsRaw_eq_false]
    intro more h
    match cs with
    | [c] => simp at h
    | c :: d :: cs =>
      simp only [List.cons_append, List.cons.injEq] at h
      obtain ⟨rfl, rfl, -⟩ := h
      exact hcs cs rfl

theorem rawText?_append (hn : isPlainName name) (h : rawText? name cs = none) :
    rawText? name (cs ++ '<' :: rest) = (rawText? name ('<' :: rest)).map (cs ++ ·) := by
  induction cs with
  | nil => simp
  | cons c cs ih =>
    rw [rawText?] at h
    split at h
    · exact nomatch h
    · next here =>
      have hends := endsRaw_append rest hn (List.cons_ne_nil c cs)
      rw [List.cons_append] at hends ⊢
      rw [rawText?, hends, if_neg here, ih (Option.map_eq_none_iff.1 h), Option.map_map]
      rfl

theorem rawText?_endPiece (rest : List Char) (hn : isPlainName name) :
    rawText? name ((endPiece name).span ++ rest) = some [] := by
  obtain ⟨c, cs, hcs, hc, hall⟩ := exists_of_isPlainName hn
  have blank := isBlank_of_plain (isPlainNameChar_of_isLower hc)
  have plain : (name.toList ++ '>' :: rest).dropWhile isBlank = name.toList ++ '>' :: rest := by
    rw [hcs, List.cons_append, List.dropWhile_cons_of_neg (by simp [blank])]
  have angle : Lexeme.afterBlank? '>' ('>' :: rest) = some rest := rfl
  have ends : endsRaw name ('<' :: '/' :: (name.toList ++ '>' :: rest)) = true := by
    rw [endsRaw, plain, afterName?_self hall, Option.bind_some, angle, Option.isSome_some]
  simp [endPiece, rawText?, ends]

end Scan

end LayoutInheritance
