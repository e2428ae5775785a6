import LayoutInheritance.Proofs.Markup.Place
import LayoutInheritance.Proofs.Markup.Scan

/-! Constructs that are not all there yet. Where only the beginning of a tag, a comment or a doctype has come, none is
read: the end of the construct is still to come, and nothing before it can be taken for it. -/

namespace LayoutInheritance.Lexeme

open Text

variable {cs seen missing rest tail : List Char} {name : String} {attributes : List (String × String)}

/-- What lacks a part of `cs` followed by `c` has at most `cs`. -/
theorem exists_of_append_eq_concat {c : Char} (h : seen ++ missing = cs ++ [c]) (hm : missing ≠ []) :
    ∃ more, cs = seen ++ more := by
  rcases List.append_eq_append_iff.1 h with ⟨more, hcs, -⟩ | ⟨more, hseen, hlast⟩
  · exact ⟨more, hcs⟩
  · obtain rfl : more = [] := by
      rcases List.append_eq_singleton_iff.1 hlast.symm with ⟨hmore, -⟩ | ⟨-, hmissing⟩
      · exact hmore
      · exact absurd hmissing hm
    exact ⟨[], by rw [hseen, List.append_nil, List.append_nil]⟩

theorem takeWhile_ne {c : Char} (h : c ∉ cs) : cs.takeWhile (· != c) = cs := by
  rw [List.takeWhile_eq_self_iff]
  intro d hd
  rw [bne_iff_ne]
  rintro rfl
  exact h hd

/-! ### Start tags -/

/-- Where no attribute and no end of a tag can be read, there is nothing or an equals sign: an attribute has stopped in
its middle. -/
def Stuck (cs : List Char) : Prop :=
  ∀ c ∈ cs.head?, c = '='

theorem stuck_nil : Stuck [] :=
  nofun

theorem attributesWithin_nil (bound : ℕ) (free : Bool) : attributesWithin bound free [] = ([], []) := by
  cases bound <;> rfl

theorem attributesWithin_not_free (bound : ℕ) (cs : List Char) : attributesWithin bound false cs = ([], cs) := by
  cases bound <;> cases cs <;> rfl

/-- A value whose closing quote has not come is none. -/
theorem attributeValue?_open (h : '"' ∉ cs) : attributeValue? ('=' :: '"' :: cs) = none := by
  have equals : isBlank '=' = false := by decide
  have quote : isBlank '"' = false := by decide
  simp [attributeValue?, equals, quote, takeWhile_ne h]

theorem skipGap_equals : skipGap ('=' :: cs) = '=' :: cs := by
  have equals : isBlank '=' = false := by decide
  simp [skipGap, equals]

theorem isSeparator_of_plain {c : Char} (h : isPlainNameChar c) : isSeparator c = false := by
  simpa using of_isPlainNameChar (p := fun c => !isSeparator c) (by decide) h

/-- An attribute of which only the name has come, or no more than a part of its value. -/
theorem stuck_of_afterName {c : Char} (hc : isPlainNameChar c) (hcs : ∀ d ∈ cs, isPlainNameChar d)
    (hr : rest = [] ∨ rest = ['='] ∨ ∃ inside, rest = '=' :: '"' :: inside ∧ '"' ∉ inside) (bound : ℕ) :
    Stuck (attributesWithin (bound + 1) true (c :: (cs ++ rest))).2 := by
  have first := isAttributeNameChar_of_plain hc
  simp only [isAttributeNameChar, Bool.and_eq_true, Bool.not_eq_true', bne_iff_ne] at first
  obtain ⟨⟨⟨blank, slash⟩, -⟩, angle⟩ := first
  have begins : (true && !isBlank c && c != '/' && c != '>') = true := by
    simp [blank, slash, angle]
  have plain : ∀ d ∈ cs, isAttributeNameChar d := fun d hd => isAttributeNameChar_of_plain (hcs d hd)
  have equals : isAttributeNameChar '=' = false := by decide
  rw [attributesWithin, if_pos begins]
  rcases hr with rfl | rfl | ⟨inside, rfl, hinside⟩
  · have name : cs.dropWhile isAttributeNameChar = [] := List.dropWhile_eq_nil_iff.2 plain
    have value : attributeValue? [] = none := rfl
    simp only [List.append_nil, name, value, skipGap, attributesWithin_nil]
    exact stuck_nil
  · have value : attributeValue? ['='] = some ([], []) := rfl
    simp only [dropWhile_stop plain equals, value, skipGap, attributesWithin_nil]
    exact stuck_nil
  · have last : isSeparator ((c :: cs).getLastD c) = false := by
      have hall : ∀ d ∈ c :: c :: cs, isPlainNameChar d :=
        List.forall_mem_cons.2 ⟨hc, List.forall_mem_cons.2 ⟨hc, hcs⟩⟩
      exact isSeparator_of_plain (hall _ List.getLastD_mem_cons)
    simp only [dropWhile_stop plain equals, takeWhile_stop plain equals, attributeValue?_open hinside, last,
      skipGap_equals, Nat.lt_irrefl, decide_false, Bool.or_false, attributesWithin_not_free]
    rintro _ ⟨⟩
    rfl

/-- The beginning of an attribute ends in its name, at its equals sign or in its value. -/
theorem stuck_spelled {a : String × String} (ha : isPlainName a.1) (h : seen ++ missing = spelled a) (hs : seen ≠ [])
    (hm : missing ≠ []) (bound : ℕ) : Stuck (attributesWithin (bound + 1) true seen).2 := by
  obtain ⟨c, cs, hcs, -, hall⟩ := exists_of_isPlainName ha
  rw [hcs] at hall
  obtain ⟨hc, hall⟩ := List.forall_mem_cons.1 hall
  rw [spelled, quoted, escaped, hcs] at h
  rcases List.append_eq_append_iff.1 h with ⟨more, hname, -⟩ | ⟨more, rfl, hvalue⟩
  · obtain ⟨d, seen, rfl⟩ := List.exists_cons_of_ne_nil hs
    cases hname
    have stuck := stuck_of_afterName hc (fun d hd => hall d (List.mem_append_left _ hd)) (.inl rfl) bound
    rwa [List.append_nil] at stuck
  · refine stuck_of_afterName hc hall ?_ bound
    rcases more with _ | ⟨d, _ | ⟨e, inside⟩⟩
    · exact .inl rfl
    · cases hvalue
      exact .inr (.inl rfl)
    · simp only [List.cons_append, List.cons.injEq] at hvalue
      obtain ⟨rfl, rfl, hinside⟩ := hvalue
      obtain ⟨more, hvalue⟩ := exists_of_append_eq_concat hinside.symm hm
      have hquote := quote_not_mem_escaped a.2.toList
      rw [hvalue] at hquote
      exact .inr (.inr ⟨inside, rfl, fun hmem => hquote (List.mem_append_left _ hmem)⟩)

theorem head_spelled {a : String × String} {c : Char} (ha : isPlainName a.1) (h : spelled a = c :: cs) :
    isPlainNameChar c := by
  obtain ⟨d, ds, hds, -, hall⟩ := exists_of_isPlainName ha
  rw [spelled, quoted, escaped, hds, List.cons_append] at h
  exact (List.cons.inj h).1 ▸ hall d (hds ▸ List.mem_cons_self ..)

/-- The beginning of the attributes of a tag, after the gap. -/
theorem stuck_attributesWithin (ha : ∀ a ∈ attributes, isPlainName a.1)
    (h : seen ++ missing = spelledAll attributes ++ ['>']) (hm : missing ≠ []) {bound : ℕ}
    (hb : (skipGap seen).length ≤ bound) : Stuck (attributesWithin bound true (skipGap seen)).2 := by
  induction attributes generalizing seen bound with
  | nil =>
    obtain ⟨_, hseen⟩ := exists_of_append_eq_concat h hm
    rw [(List.append_eq_nil_iff.1 hseen.symm).1, skipGap, attributesWithin_nil]
    exact stuck_nil
  | cons a attributes ih =>
    obtain ⟨ha, hattributes⟩ := List.forall_mem_cons.1 ha
    have after : spelledAll (a :: attributes) ++ ['>'] = ' ' :: (spelled a ++ (spelledAll attributes ++ ['>'])) := by
      simp [spelledAll]
    rw [after] at h
    rcases seen with _ | ⟨d, _ | ⟨c, seen⟩⟩
    · rw [skipGap, attributesWithin_nil]
      exact stuck_nil
    · cases h
      rw [show skipGap [' '] = [] from rfl, attributesWithin_nil]
      exact stuck_nil
    · rw [List.cons_append] at h
      obtain ⟨rfl, hinside⟩ := List.cons.inj h
      rcases List.append_eq_append_iff.1 hinside with ⟨more, hspelled, -⟩ | ⟨more, hseen, hmore⟩
      · rw [skipGap_name (head_spelled ha hspelled)] at hb ⊢
        obtain ⟨bound, rfl⟩ := Nat.exists_eq_add_of_le' (Nat.one_le_of_lt hb)
        cases more with
        | nil =>
          rw [← hspelled.trans (List.append_nil _), ← List.append_nil (spelled a), attributesWithin_spelled ha, skipGap,
            attributesWithin_nil]
          exact stuck_nil
        | cons e more => exact stuck_spelled ha hspelled.symm (List.cons_ne_nil _ _) (List.cons_ne_nil _ _) bound
      · obtain ⟨e, es, hes⟩ : ∃ e es, spelled a = e :: es := List.exists_cons_of_ne_nil (by simp [spelled, quoted])
        have hgap : skipGap (' ' :: c :: seen) = spelled a ++ more := by
          rw [hseen, hes, List.cons_append]
          exact skipGap_name (head_spelled ha hes)
        rw [hgap] at hb ⊢
        have hlength : (spelled a ++ more).length = es.length + 1 + more.length := by
          rw [List.length_append, hes, List.length_cons]
        obtain ⟨bound, rfl⟩ := Nat.exists_eq_add_of_le' (show 1 ≤ bound by omega)
        rw [attributesWithin_spelled ha]
        have hle := length_skipGap_le more
        exact ih hattributes hmore.symm (by omega)

/-- A start tag of which what comes after the name is stuck. -/
theorem startTag_of_stuck {letters after : List Char} (hletters : cs.takeWhile isTagNameChar = letters)
    (hafter : cs.drop letters.length = after)
    (h : ∀ free, ((skipGap after).length < after.length → free = true) →
      Stuck (attributesWithin (skipGap after).length free (skipGap after)).2) :
    startTag ('<' :: cs) = .incomplete := by
  have hdrop : ('<' :: cs).drop (1 + letters.length) = after := by
    rw [Nat.add_comm, List.drop_succ_cons, hafter]
  simp only [startTag, List.drop_succ_cons, List.drop_zero, hletters, hdrop]
  have hstuck := h (isSeparator (letters.getLastD '<') || decide ((skipGap after).length < after.length))
    fun hlt => by simp [hlt]
  split
  · next hrest => exact absurd (hstuck '>' (by rw [hrest]; rfl)) (by decide)
  · next hrest => exact absurd (hstuck '/' (by rw [hrest]; rfl)) (by decide)
  · rfl
  · next c tail _ _ hrest =>
    obtain rfl := hstuck c (by rw [hrest]; rfl)
    rfl

/-- A start tag whose end has not come. -/
theorem startTag_incomplete (hn : isPlainName name) (ha : ∀ a ∈ attributes, isPlainName a.1)
    (h : seen ++ missing = name.toList ++ (spelledAll attributes ++ ['>'])) (hm : missing ≠ []) :
    startTag ('<' :: seen) = .incomplete := by
  obtain ⟨_, _, -, -, hall⟩ := exists_of_isPlainName hn
  have plain : ∀ d ∈ name.toList, isTagNameChar d := fun d hd => isTagNameChar_of_plain (hall d hd)
  rcases List.append_eq_append_iff.1 h with ⟨more, hname, -⟩ | ⟨more, rfl, hmore⟩
  · have letters : seen.takeWhile isTagNameChar = seen :=
      List.takeWhile_eq_self_iff.2 fun d hd => plain d (hname ▸ List.mem_append_left _ hd)
    refine startTag_of_stuck letters (List.drop_length ..) fun free _ => ?_
    rw [skipGap, attributesWithin_nil]
    exact stuck_nil
  · cases more with
    | nil =>
      have letters : (name.toList ++ []).takeWhile isTagNameChar = name.toList := by
        rw [List.append_nil, List.takeWhile_eq_self_iff.2 plain]
      refine startTag_of_stuck letters List.drop_left fun free _ => ?_
      rw [skipGap, attributesWithin_nil]
      exact stuck_nil
    | cons c more =>
      obtain rfl : c = ' ' := by
        cases attributes with
        | nil =>
          obtain ⟨_, hnil⟩ := exists_of_append_eq_concat hmore.symm hm
          cases hnil
        | cons a attributes => exact (List.cons.inj hmore).1.symm
      have letters : (name.toList ++ ' ' :: more).takeWhile isTagNameChar = name.toList :=
        takeWhile_stop plain (by decide)
      refine startTag_of_stuck letters List.drop_left fun free hfree => ?_
      have hgap : (skipGap (' ' :: more)).length < (' ' :: more).length := Nat.lt_succ_of_le (length_skipGap_le more)
      obtain rfl := hfree hgap
      exact stuck_attributesWithin ha hmore.symm hm le_rfl

/-! ### End tags, comments and doctypes -/

theorem endTag_incomplete {raw : Option String} (h : '>' ∉ cs) : endTag raw ('<' :: '/' :: cs) = .incomplete := by
  simp only [endTag, List.drop_succ_cons, List.drop_zero, takeWhile_ne h, List.drop_length]

theorem upToAngle_incomplete {token? : List Char → Option Token} (h : '>' ∉ cs) :
    upToAngle cs token? = .incomplete := by
  have nothing : search (fun cs => if cs.head? = some '>' then some cs.tail else none) cs = none := by
    induction cs with
    | nil => rfl
    | cons c cs ih =>
      rw [List.mem_cons, not_or] at h
      have here : (c :: cs).head? ≠ some '>' := fun hc => h.1 (Option.some.inj hc).symm
      rw [search, if_neg here, ih h.2]
      rfl
  rw [upToAngle, nothing]

/-- A declaration that is no comment and no section lasts up to an angle bracket. -/
theorem declaration_incomplete (h : '>' ∉ cs) (hc : ∀ c ∈ cs.head?, c ≠ '-' ∧ c ≠ '[') :
    declaration ('<' :: '!' :: cs) = .incomplete := by
  rw [declaration, List.drop_succ_cons, List.drop_succ_cons, List.drop_zero]
  split
  · exact absurd rfl (hc '-' rfl).1
  · exact absurd rfl (hc '[' rfl).2
  · split
    · exact upToAngle_incomplete fun hmem => h (List.mem_of_mem_drop hmem)
    · exact upToAngle_incomplete h

theorem afterBlank?_mono {c : Char} (h : afterBlank? c (cs ++ tail) = none) : afterBlank? c cs = none := by
  rw [afterBlank?, List.dropWhile_append] at h
  rw [afterBlank?]
  cases hcs : cs.dropWhile isBlank with
  | nil => rfl
  | cons d rest =>
    rw [hcs] at h
    by_cases hd : d = c
    · simp [hd] at h
    · exact if_neg hd

/-- The end of a comment that is there is still there when more text comes. -/
theorem commentEnd?_mono (h : commentEnd? (cs ++ tail) = none) : commentEnd? cs = none := by
  rw [commentEnd?.eq_def]
  split
  · exact afterBlank?_mono h
  · rfl

/-- A search in the beginning of a text finds nothing, when nothing ends in the text before its `tail`, and the beginning
of this holds no ending. -/
theorem search_beginning {ending : List Char → Option (List Char)}
    (mono : ∀ s more, ending (s ++ more) = none → ending s = none)
    (hcs : ∀ s, s ≠ [] → s <:+ cs → ending (s ++ tail) = none)
    (htail : ∀ s more, s ++ more = tail → more ≠ [] → search ending s = none)
    (h : seen ++ missing = cs ++ tail) (hm : missing ≠ []) : search ending seen = none := by
  induction cs generalizing seen with
  | nil => exact htail seen missing h hm
  | cons c cs ih =>
    cases seen with
    | nil => rfl
    | cons d seen =>
      have here : ending (d :: seen) = none := by
        apply mono _ missing
        rw [h]
        exact hcs _ (List.cons_ne_nil _ _) List.suffix_rfl
      have after := ih (fun s hs hsuffix => hcs s hs (hsuffix.trans (List.suffix_cons ..))) (List.cons.inj h).2
      rw [search, here, after]
      rfl

/-- The beginning of a comment and of its end. -/
theorem comment_incomplete (hcs : search commentEnd? cs = none) (h : seen ++ missing = cs ++ ['-', '-', '>'])
    (hm : missing ≠ []) : comment seen = .incomplete := by
  have nothing : search commentEnd? seen = none := by
    refine search_beginning (fun _ _ => commentEnd?_mono)
      (fun s hs hsuffix => Scan.commentEnd?_append hs (Scan.ending_eq_none hcs s hs hsuffix)) (fun s more hs hmore => ?_) h hm
    obtain ⟨more, hdashes⟩ := exists_of_append_eq_concat (show _ = ['-', '-'] ++ ['>'] from hs) hmore
    match s with
    | [] => rfl
    | [_] =>
      cases hdashes
      rfl
    | [_, _] =>
      cases hdashes
      rfl
  rw [comment, nothing]

end LayoutInheritance.Lexeme
