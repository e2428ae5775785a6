import LayoutInheritance.Markup.Token.Scan
import Mathlib.Data.List.Induction
import Mathlib.Data.List.TakeDrop
import Mathlib.Data.Nat.Basic
import Mathlib.Order.Basic

/-! The places of tokens. A scan passes over a text character by character, and every token that it gives stands
where the characters begin that the token is read from. How the text is divided into parts makes no difference:
what is left of one part comes before the next, and its place goes with it. -/

namespace LayoutInheritance

namespace Position

/-- Earlier in the text: on an earlier line, or in an earlier column of the same line. -/
def Before (p q : Position) : Prop :=
  p.line < q.line ∨ p.line = q.line ∧ p.column < q.column

variable {p q r : Position}

theorem Before.trans (h : p.Before q) (h' : q.Before r) : p.Before r := by
  unfold Before at *
  omega

theorem before_next (p : Position) (c : Char) : p.Before (p.next c) := by
  unfold Before next
  split
  · exact .inl (Nat.lt_succ_self _)
  · exact .inr ⟨rfl, Nat.lt_succ_self _⟩

@[simp] theorem after_nil (p : Position) : p.after [] = p := rfl

@[simp] theorem after_cons (p : Position) (c : Char) (cs : List Char) : p.after (c :: cs) = (p.next c).after cs := rfl

theorem after_append (p : Position) (as bs : List Char) : p.after (as ++ bs) = (p.after as).after bs :=
  List.foldl_append

theorem before_after (p : Position) {cs : List Char} (h : cs ≠ []) : p.Before (p.after cs) := by
  induction cs generalizing p with
  | nil => exact absurd rfl h
  | cons c cs ih =>
    rw [after_cons]
    by_cases hcs : cs = []
    · rw [hcs]
      exact p.before_next c
    · exact (p.before_next c).trans (ih _ hcs)

/-- The place after some text: its line feeds are counted, and the characters since the last of them. -/
theorem after_eq (cs : List Char) : ({} : Position).after cs =
    ⟨1 + cs.count '\n', 1 + (cs.reverse.takeWhile (· ≠ '\n')).length⟩ := by
  induction cs using List.reverseRecOn with
  | nil => rfl
  | append_singleton cs c ih =>
    rw [after_append, ih, after_cons, after_nil, next]
    by_cases hc : c = '\n'
    · subst hc
      simp [Nat.add_assoc]
    · simp [hc, Nat.add_comm]

end Position

/-- What a token is read from begins like this. -/
def Token.Begins (cs : List Char) : Token → Prop
  | opening name _ _ => ∃ letters rest, cs = '<' :: (letters ++ rest) ∧ name = Text.lower (String.ofList letters)
  | closing _ | comment _ | doctype _ => cs.head? = some '<'
  | text value => value.toList.head? ≠ none ∧ value.toList.head? = cs.head?
  | reference _ => cs.head? = some '&'

/-- The tokens stand where their sources begin, one after the other in the text `cs`, the first character of which is
at `p`. The sources may go on `later`. -/
inductive Located (later : List Char) : Position → List Char → List (Token × Position) → Prop
  | nil {p cs} : Located later p cs []
  | skip {p c cs ts} : Located later (p.next c) cs ts → Located later p (c :: cs) ts
  | here {p c cs t ts} : t.Begins (c :: cs ++ later) → Located later (p.next c) cs ts →
      Located later p (c :: cs) ((t, p) :: ts)

/-! ### Single tokens -/

namespace Lexeme

variable {cs rest : List Char} {token : Token}

/-- A text that is read from a place begins with the character that is there. -/
theorem begins_take {n : ℕ} (hn : n ≠ 0) (hc : cs ≠ []) : (Token.text (String.ofList (cs.take n))).Begins cs := by
  obtain ⟨c, cs, rfl⟩ := List.exists_cons_of_ne_nil hc
  obtain ⟨n, rfl⟩ := Nat.exists_eq_succ_of_ne_zero hn
  simp [Token.Begins]

theorem skipGap_suffix (cs : List Char) : skipGap cs <:+ cs := by
  induction cs with
  | nil => exact List.suffix_rfl
  | cons c cs ih =>
    rw [skipGap]
    split
    · exact ih.trans (List.suffix_cons ..)
    · exact List.suffix_rfl

theorem length_skipGap_le (cs : List Char) : (skipGap cs).length ≤ cs.length :=
  (skipGap_suffix cs).length_le

/-- A value and the rest of a text. -/
def Stand (cs value rest : List Char) : Prop :=
  value <:+: cs ∧ rest <:+ cs

theorem stand_nil {rest : List Char} (h : rest <:+ cs) : Stand cs [] rest :=
  ⟨List.nil_infix, h⟩

theorem stand_of_bareValue {body value : List Char} (hb : body <:+ cs) (h : bareValue body = (value, rest)) :
    Stand cs value rest := by
  rw [bareValue, List.span_eq_takeWhile_dropWhile] at h
  cases h
  exact ⟨(List.takeWhile_prefix _).isInfix.trans hb.isInfix, (List.dropWhile_suffix _).trans hb⟩

/-- The last equals sign and what follows. -/
theorem equals_suffix (cs : List Char) (h : cs.takeWhile (· == '=') ≠ []) :
    '=' :: cs.drop (cs.takeWhile (· == '=')).length <:+ cs := by
  induction cs with
  | nil => exact absurd rfl h
  | cons c cs ih =>
    obtain rfl : c = '=' := by
      by_contra hc
      exact h (List.takeWhile_cons_of_neg (by simpa using hc))
    rw [List.takeWhile_cons_of_pos rfl, List.length_cons, List.drop_succ_cons]
    by_cases hcs : cs.takeWhile (· == '=') = []
    · rw [hcs]
      exact List.suffix_rfl
    · exact (ih hcs).trans (List.suffix_cons ..)

/-- The value of an attribute and what follows it. -/
theorem stand_attributeValue? {value : List Char} (h : attributeValue? cs = some (value, rest)) :
    Stand cs value rest := by
  have hafter : cs.dropWhile Text.isBlank <:+ cs := List.dropWhile_suffix _
  rw [attributeValue?] at h
  generalize cs.dropWhile Text.isBlank = afterName at h hafter
  have hequals := equals_suffix afterName
  simp only at h
  generalize afterName.takeWhile (· == '=') = equals at h hequals
  generalize (afterName.drop equals.length).takeWhile Text.isBlank = gap at h
  have hbody : afterName.drop (equals.length + gap.length) <:+ cs := (List.drop_suffix _ _).trans hafter
  split at h
  · exact nomatch h
  · next hne =>
    split at h
    · cases h
      exact stand_nil (List.nil_suffix)
    · next q inside hdrop =>
      rw [hdrop] at hbody h
      split at h
      · have hinside : inside <:+ cs := (List.suffix_cons ..).trans hbody
        split at h
        · cases h
          exact ⟨(List.takeWhile_prefix _).isInfix.trans hinside.isInfix, (List.drop_suffix _ _).trans hinside⟩
        · split at h
          · cases h
            exact stand_nil ((List.drop_suffix _ _).trans hafter)
          · next hgap =>
            split at h
            · obtain rfl : gap = [] := Decidable.of_not_not hgap
              have hlast : '=' :: q :: inside <:+ cs := (hdrop ▸ hequals hne).trans hafter
              exact stand_of_bareValue hlast (Option.some.inj h)
            · exact nomatch h
      · exact stand_of_bareValue hbody (Option.some.inj h)

/-- What follows the attributes, and the values of these. -/
theorem stand_attributesWithin (bound : ℕ) (free : Bool) (cs : List Char) :
    (attributesWithin bound free cs).2 <:+ cs ∧ ∀ a ∈ (attributesWithin bound free cs).1, a.2 <:+: cs := by
  induction bound generalizing free cs with
  | zero => exact ⟨List.suffix_rfl, nofun⟩
  | succ bound ih =>
    cases cs with
    | nil => exact ⟨List.suffix_rfl, nofun⟩
    | cons c cs =>
      have hname : cs.dropWhile isAttributeNameChar <:+ c :: cs :=
        (List.dropWhile_suffix _).trans (List.suffix_cons ..)
      have hothers {value rest : List Char} (h : Stand (c :: cs) value rest) (free : Bool) :
          (attributesWithin bound free (skipGap rest)).2 <:+ c :: cs ∧
            value <:+: c :: cs ∧ ∀ a ∈ (attributesWithin bound free (skipGap rest)).1, a.2 <:+: c :: cs := by
        have hrest : skipGap rest <:+ c :: cs := (skipGap_suffix rest).trans h.2
        obtain ⟨hafter, hvalues⟩ := ih free (skipGap rest)
        exact ⟨hafter.trans hrest, h.1, fun a ha => (hvalues a ha).trans hrest.isInfix⟩
      rw [attributesWithin]
      split
      · simp only [List.forall_mem_cons]
        cases hv : attributeValue? (cs.dropWhile isAttributeNameChar) with
        | none => exact hothers (stand_nil hname) _
        | some found =>
          obtain ⟨hvalue, hrest⟩ := stand_attributeValue? hv
          exact hothers ⟨hvalue.trans hname.isInfix, hrest.trans hname⟩ _
      · exact ⟨List.suffix_rfl, nofun⟩

theorem exists_of_ended {attributes : List (String × List Char)} {make : List (String × String) → Token}
    {after : List Char} (h : ended attributes make after = .found (some token) rest) :
    ∃ decoded, token = make decoded := by
  rw [ended] at h
  split at h
  · next decoded _ =>
    cases h
    exact ⟨decoded, rfl⟩
  · exact nomatch h

theorem begins_startTag (h : startTag ('<' :: cs) = .found (some token) rest) : token.Begins ('<' :: cs) := by
  have name : cs = cs.takeWhile isTagNameChar ++ cs.dropWhile isTagNameChar := List.takeWhile_append_dropWhile.symm
  simp only [startTag, List.drop_succ_cons, List.drop_zero] at h
  split at h
  · obtain ⟨_, rfl⟩ := exists_of_ended h
    exact ⟨_, _, congrArg _ name, rfl⟩
  · obtain ⟨_, rfl⟩ := exists_of_ended h
    exact ⟨_, _, congrArg _ name, rfl⟩
  · exact nomatch h
  · next c tail _ _ hrest =>
    split at h
    · exact nomatch h
    · obtain ⟨_, rfl⟩ := exists_of_ended h
      refine begins_take ?_ (List.cons_ne_nil _ _)
      have hdrop : (('<' :: cs).drop (1 + (cs.takeWhile isTagNameChar).length)).length ≤ cs.length := by
        rw [List.length_drop, List.length_cons]
        omega
      have hlength : (c :: tail).length ≤ cs.length :=
        hrest ▸ (stand_attributesWithin ..).1.length_le.trans ((length_skipGap_le _).trans hdrop)
      rw [hrest, List.length_cons]
      omega

theorem begins_endTag {raw : Option String} (h : endTag raw ('<' :: cs) = .found (some token) rest) :
    token.Begins ('<' :: cs) := by
  have asText (n : ℕ) : (Token.text (String.ofList (('<' :: cs).take (n + 3)))).Begins ('<' :: cs) :=
    begins_take (Nat.succ_ne_zero _) (List.cons_ne_nil _ _)
  simp only [endTag] at h
  split at h
  · exact nomatch h
  · split at h
    · simp only [found.injEq, Option.some.injEq] at h
      rw [← h.1]
      split
      · rfl
      · exact asText _
    · split at h
      · cases h
        exact asText _
      · split at h
        · exact nomatch h
        · simp only [found.injEq, Option.some.injEq] at h
          rw [← h.1]
          split <;> rfl

theorem begins_upToAngle {whole : List Char} {token? : List Char → Option Token}
    (h : upToAngle cs token? = .found (some token) rest)
    (ht : ∀ inside t, token? inside = some t → t.Begins whole) : token.Begins whole := by
  rw [upToAngle] at h
  split at h
  · next inside _ _ =>
    simp only [found.injEq] at h
    exact ht _ _ h.1
  · exact nomatch h

theorem instruction_ne_token : instruction cs ≠ .found (some token) rest := by
  rw [instruction, upToAngle]
  split <;> exact nofun

/-- A marked section is never a token. -/
theorem markedSection_ne_found {whole body : List Char} {token? : Option Token} :
    markedSection whole body ≠ .found token? rest := by
  unfold markedSection
  split
  · exact nofun
  · split
    · exact nofun
    · dsimp only
      split
      · exact nofun
      · split
        · exact nofun
        · split <;> exact nofun

theorem begins_declaration (h : declaration ('<' :: cs) = .found (some token) rest) : token.Begins ('<' :: cs) := by
  simp only [declaration] at h
  split at h
  · rw [comment] at h
    split at h
    · cases h
      rfl
    · exact nomatch h
  · exact absurd h markedSection_ne_found
  · split at h
    · refine begins_upToAngle h fun inside t ht => ?_
      cases ht
      rfl
    · refine begins_upToAngle h fun inside t ht => ?_
      cases ht
      rfl

end Lexeme

namespace Scan

variable {cs : List Char} {token : Token} {atEnd : Bool} {raw : Option String}

theorem head?_of_endsRaw {name : String} (h : endsRaw name cs) : cs.head? = some '<' := by
  unfold endsRaw at h
  split at h
  · rfl
  · exact nomatch h

theorem head?_of_rawText? {name : String} (h : rawText? name cs = some []) : cs.head? = some '<' := by
  cases cs with
  | nil => exact nomatch h
  | cons c cs =>
    rw [rawText?] at h
    split at h
    · next hends => exact head?_of_endsRaw hends
    · obtain ⟨_, -, hcons⟩ := Option.map_eq_some_iff.1 h
      exact nomatch hcons

theorem prefix_of_rawText? {name : String} {text : List Char} (h : rawText? name cs = some text) : text <+: cs := by
  induction cs generalizing text with
  | nil => exact nomatch h
  | cons c cs ih =>
    rw [rawText?] at h
    split at h
    · cases h
      exact List.nil_prefix
    · obtain ⟨inner, hinner, rfl⟩ := Option.map_eq_some_iff.1 h
      exact (List.prefix_cons_inj c).2 (ih hinner)

/-- The token of an action, if there is one, is read from this place. A scan that ends with a token has passed its
first character. -/
def Action.Places (cs : List Char) : Action → Prop
  | take token? _ => ∀ t ∈ token?, t.Begins cs
  | halt token? count => ∀ t ∈ token?, t.Begins cs ∧ count ≠ 0
  | fail _ => True

theorem places_none {count : ℕ} : (Action.halt none count).Places cs :=
  fun _ h => nomatch h

theorem places_atAngle : (atAngle atEnd raw ('<' :: cs)).Places ('<' :: cs) := by
  simp only [atAngle]
  split
  · trivial
  · next token? rest h =>
    rintro t rfl
    split at h
    · exact Lexeme.begins_startTag h
    · split at h
      · exact Lexeme.begins_endTag h
      · exact absurd h Lexeme.instruction_ne_token
      · exact Lexeme.begins_declaration h
      · cases h
        exact ⟨nofun, rfl⟩
      · exact nomatch h
  · split
    · exact places_none
    · rintro t ⟨⟩
      exact Lexeme.begins_take (Nat.succ_ne_zero _) (List.cons_ne_nil _ _)

theorem places_takeReference (token : List Char) (marks : ℕ) :
    (takeReference token marks ('&' :: cs)).Places ('&' :: cs) := by
  rintro t ⟨⟩
  rfl

theorem places_atAmpersand : (atAmpersand atEnd ('&' :: cs)).Places ('&' :: cs) := by
  have mark (rest : List Char) : (Token.text (String.ofList ('&' :: rest))).Begins ('&' :: cs) := by
    simp [Token.Begins]
  rw [atAmpersand]
  split
  · exact places_none
  · split
    · exact places_takeReference _ _
    · split
      · rintro t ⟨⟩
        exact ⟨mark _, nofun⟩
      · exact places_none
  · split
    · rintro t ⟨⟩
      exact mark _
    · split
      · exact places_takeReference _ _
      · exact places_none

/-- What is done at a place is done with a token that is read from there. -/
theorem places_action (hc : cs ≠ []) : (action atEnd raw cs).Places cs := by
  obtain ⟨c, cs, rfl⟩ := List.exists_cons_of_ne_nil hc
  unfold action
  split
  · split
    · exact places_none
    · next h =>
      obtain rfl := Option.some.inj (head?_of_rawText? h)
      exact places_atAngle
    · next d text h =>
      rintro t ⟨⟩
      obtain ⟨rfl, -⟩ := List.cons_prefix_cons.1 (prefix_of_rawText? h)
      simp [Token.Begins]
  · split
    · next heq =>
      cases heq
      exact places_atAngle
    · next heq =>
      cases heq
      exact places_atAmpersand
    · next hangle hmark =>
      have plain : (!isMark c) = true := by
        rw [isMark, Bool.not_eq_true', Bool.or_eq_false_iff, beq_eq_false_iff_ne, beq_eq_false_iff_ne]
        exact ⟨fun he => hmark cs (he ▸ rfl), fun he => hangle cs (he ▸ rfl)⟩
      rintro t ⟨⟩
      rw [List.takeWhile_cons_of_pos (p := fun c => !isMark c) plain]
      simp [Token.Begins]

/-! ### The scan -/

/-- A scan that ended in `s` has passed over the beginning of its text, and its tokens stand there. -/
def Result.Passes (r : Result) (p : Position) (cs : List Char) : Prop :=
  ∀ s, r.ended = .ok s → ∃ passed, cs = passed ++ s.pending ∧ s.position = p.after passed ∧
    Located s.pending p passed r.tokens

variable {p : Position} {c : Char} {r : Result}

theorem Result.Passes.skip (h : r.Passes (p.next c) cs) : r.Passes p (c :: cs) := by
  intro s hs
  obtain ⟨passed, rfl, hp, hl⟩ := h s hs
  exact ⟨c :: passed, rfl, hp, .skip hl⟩

theorem Result.Passes.here (h : r.Passes (p.next c) cs) (ht : token.Begins (c :: cs)) :
    (r.cons (some token) p).Passes p (c :: cs) := by
  intro s hs
  obtain ⟨passed, rfl, hp, hl⟩ := h s hs
  exact ⟨c :: passed, rfl, hp, .here ht hl⟩

theorem passes_leave (atEnd : Bool) (raw : Option String) (p : Position) (cs : List Char) :
    (leave atEnd raw p cs).Passes p cs := by
  intro s hs
  unfold leave at hs ⊢
  split at hs
  · next h =>
    cases hs
    rw [if_pos h]
    cases cs with
    | nil => simp at h
    | cons c cs => exact ⟨c :: cs, (List.append_nil _).symm, rfl, .here (by simp [Token.Begins]) .nil⟩
  · next h =>
    cases hs
    rw [if_neg h]
    exact ⟨[], rfl, rfl, .nil⟩

/-- The rest of a text is left after so many characters. -/
theorem passes_leave_drop (count : ℕ) : (leave atEnd raw (p.after (cs.take count)) (cs.drop count)).Passes p cs := by
  induction count generalizing p cs with
  | zero => exact passes_leave _ _ _ _
  | succ count ih =>
    cases cs with
    | nil => exact passes_leave _ _ _ _
    | cons c cs => exact ih.skip

theorem passes_scanFrom (atEnd : Bool) (raw : Option String) (p : Position) (owed : ℕ) (cs : List Char) :
    (scanFrom atEnd raw p owed cs).Passes p cs := by
  induction cs generalizing raw p owed with
  | nil =>
    rw [scanFrom]
    exact passes_leave _ _ _ _
  | cons c cs ih =>
    cases owed with
    | succ owed =>
      rw [scanFrom]
      exact (ih _ _ _).skip
    | zero =>
      have places : (action atEnd raw (c :: cs)).Places (c :: cs) := places_action (List.cons_ne_nil c cs)
      rw [scanFrom]
      cases ha : action atEnd raw (c :: cs) with
      | fail reason => exact fun s hs => nomatch hs
      | take token? more =>
        rw [ha] at places
        cases token? with
        | none => exact (ih _ _ _).skip
        | some token => exact (ih _ _ _).here (places token rfl)
      | halt token? count =>
        rw [ha] at places
        cases token? with
        | none => exact passes_leave_drop count
        | some token =>
          obtain ⟨begins, hcount⟩ := places token rfl
          obtain ⟨count, rfl⟩ := Nat.exists_eq_succ_of_ne_zero hcount
          exact (passes_leave_drop count).here begins

end Scan

end LayoutInheritance
