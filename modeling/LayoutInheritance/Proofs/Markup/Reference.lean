import LayoutInheritance.Proofs.Markup.Tag
import LayoutInheritance.Proofs.Markup.Place

/-! Values that cannot be decoded. A value is decoded unless it refers to a character by a decimal number with too many
digits, wherever in the value this stands; a start tag is refused for such a value of its attributes and for nothing
else. -/

namespace LayoutInheritance

namespace Reference

variable {cs text : List Char} {count owed : ℕ}

/-- The text refers to a character by a decimal number of `count` digits, and these are too many. -/
def Overlong (cs : List Char) (count : ℕ) : Prop :=
  Decimal.mostDigits < count ∧ ∃ before digits after, cs = before ++ '&' :: '#' :: (digits ++ after) ∧
    (∀ d ∈ digits, d.isDigit) ∧ digits.length = count

theorem Overlong.widen (h : Overlong cs count) (hcs : cs <:+: text) : Overlong text count := by
  obtain ⟨hmost, before, digits, after, rfl, hdigits, hcount⟩ := h
  obtain ⟨left, right, rfl⟩ := hcs
  exact ⟨hmost, left ++ before, digits, after ++ right, by simp, hdigits, hcount⟩

theorem Overlong.of_suffix (h : Overlong cs count) (hcs : cs <:+ text) : Overlong text count :=
  h.widen hcs.isInfix

/-- The number stands at the first character or after it. -/
theorem Overlong.of_cons {c : Char} (h : Overlong (c :: cs) count) : Overlong cs count ∨
    c = '&' ∧ ∃ digits after, cs = '#' :: (digits ++ after) ∧ (∀ d ∈ digits, d.isDigit) ∧
      Decimal.mostDigits < digits.length := by
  obtain ⟨hmost, before, digits, after, hcs, hdigits, rfl⟩ := h
  cases before with
  | nil =>
    obtain ⟨rfl, rfl⟩ := List.cons.inj hcs
    exact .inr ⟨rfl, digits, after, rfl, hdigits, hmost⟩
  | cons d before =>
    obtain ⟨rfl, rfl⟩ := List.cons.inj hcs
    exact .inl ⟨hmost, before, digits, after, rfl, hdigits, rfl⟩

/-! ### One reference -/

theorem of_mem_takeWhile {p : Char → Bool} : ∀ c ∈ cs.takeWhile p, p c :=
  List.all_eq_true.1 List.all_takeWhile

theorem overlong_of_read? (h : read? cs = .error count) : Overlong ('&' :: cs) count := by
  unfold read? at h
  split at h
  · next rest =>
    simp only [readNumber?] at h
    split at h
    · next hmost =>
      cases h
      exact ⟨hmost, [], rest.takeWhile Char.isDigit, rest.dropWhile Char.isDigit,
        by rw [List.takeWhile_append_dropWhile, List.nil_append], of_mem_takeWhile, rfl⟩
    · split at h
      · cases h
      · split at h <;> cases h
  · cases h

theorem read?_of_overlong {digits : List Char} (hd : ∀ d ∈ digits, d.isDigit)
    (hmost : Decimal.mostDigits < digits.length) (after : List Char) :
    ∃ count, read? ('#' :: (digits ++ after)) = .error count := by
  have hlong : Decimal.mostDigits < ((digits ++ after).takeWhile Char.isDigit).length := by
    rw [List.takeWhile_append_of_pos hd, List.length_append]
    exact Nat.lt_of_lt_of_le hmost (Nat.le_add_right _ _)
  exact ⟨_, if_pos hlong⟩

/-- The characters of a reference are those before its end, and perhaps a semicolon. -/
theorem amp_not_mem_closed (taken : List Char) {rest : List Char} {n : ℕ} (hcs : taken ++ rest = cs)
    (hn : taken.length = n) (h : '&' ∉ taken) : '&' ∉ cs.take (closed n rest) := by
  subst hcs hn
  rw [closed]
  split
  · next hrest =>
    obtain ⟨after, rfl⟩ := List.head?_eq_some_iff.1 hrest
    rw [List.take_length_add_append, List.mem_append, not_or]
    exact ⟨h, by simp⟩
  · rwa [List.take_left]

theorem amp_not_mem_takeWhile {p : Char → Bool} (hp : p '&' = false) : '&' ∉ cs.takeWhile p := fun h =>
  Bool.false_ne_true (hp.symm.trans (of_mem_takeWhile _ h))

theorem take_length_append {taken : List Char} (h : taken <+: cs) : taken ++ cs.drop taken.length = cs :=
  List.prefix_iff_eq_append.1 h

/-- A hexadecimal number and its mark. -/
theorem hexadecimal_prefix (h : hexadecimal cs ≠ []) :
    ∃ mark, mark ≠ '&' ∧ '&' ∉ hexadecimal cs ∧ mark :: hexadecimal cs <+: cs := by
  revert h
  unfold hexadecimal
  split
  · exact fun _ => ⟨'x', by decide, amp_not_mem_takeWhile (by decide),
      (List.prefix_cons_inj _).2 (List.takeWhile_prefix _)⟩
  · exact fun _ => ⟨'X', by decide, amp_not_mem_takeWhile (by decide),
      (List.prefix_cons_inj _).2 (List.takeWhile_prefix _)⟩
  · exact fun h => absurd rfl h

theorem amp_not_mem_of_readNumber? {value : List Char} {length : ℕ}
    (h : readNumber? cs = .ok (some (value, length))) : '&' ∉ ('#' :: cs).take length := by
  simp only [readNumber?] at h
  split at h
  · cases h
  · split at h
    · cases h
      have hsplit := take_length_append (List.takeWhile_prefix Char.isDigit (l := cs))
      refine amp_not_mem_closed ('#' :: cs.takeWhile Char.isDigit) (congrArg _ hsplit) (Nat.add_comm ..) ?_
      simpa using amp_not_mem_takeWhile (by decide)
    · split at h
      · next hhex =>
        cases h
        obtain ⟨mark, hmark, hamp, hprefix⟩ := hexadecimal_prefix hhex
        have hsplit := take_length_append hprefix
        rw [List.length_cons, Nat.add_comm] at hsplit
        refine amp_not_mem_closed ('#' :: mark :: hexadecimal cs) (congrArg _ hsplit)
          (by rw [List.length_cons, List.length_cons]; omega) ?_
        simpa using ⟨hmark.symm, hamp⟩
      · cases h

/-- A reference holds no second ampersand. -/
theorem amp_not_mem_of_read? {value : List Char} {length : ℕ} (h : read? cs = .ok (some (value, length))) :
    '&' ∉ cs.take length := by
  unfold read? at h
  split at h
  · exact amp_not_mem_of_readNumber? h
  · rw [Except.ok.injEq, readName?] at h
    simp only at h
    split at h
    · cases h
    · cases h
      have hname := (List.takeWhile_prefix isNameChar).trans (List.take_prefix 32 cs)
      exact amp_not_mem_closed _ (take_length_append hname) rfl (amp_not_mem_takeWhile (by decide))

/-! ### Values -/

theorem error_of_map {α β : Type} {x : Except ℕ α} {f : α → β} (h : x.map f = .error count) : x = .error count := by
  cases x with
  | error =>
    cases h
    rfl
  | ok => cases h

theorem decodeFrom_cons {c : Char} (hc : c ≠ '&') : decodeFrom 0 (c :: cs) = (decodeFrom 0 cs).map (c :: ·) := by
  rw [decodeFrom]
  exact hc

theorem overlong_of_decodeFrom (h : decodeFrom owed cs = .error count) : Overlong cs count := by
  induction cs generalizing owed with
  | nil =>
    rw [decodeFrom] at h
    cases h
  | cons c cs ih =>
    have later {owed : ℕ} (h : decodeFrom owed cs = .error count) : Overlong (c :: cs) count :=
      (ih h).of_suffix (List.suffix_cons ..)
    cases owed with
    | succ owed =>
      rw [decodeFrom] at h
      exact later h
    | zero =>
      by_cases hc : c = '&'
      · subst hc
        rw [decodeFrom] at h
        split at h
        · next hread =>
          cases h
          exact overlong_of_read? hread
        · exact later (error_of_map h)
        · exact later (error_of_map h)
      · rw [decodeFrom_cons hc] at h
        exact later (error_of_map h)

theorem exists_of_overlong (howed : '&' ∉ cs.take owed) (h : Overlong cs count) :
    ∃ n, decodeFrom owed cs = .error n := by
  induction cs generalizing owed with
  | nil => obtain ⟨_, _ | _, _, _, hcs, -⟩ := h <;> cases hcs
  | cons c cs ih =>
    cases owed with
    | succ owed =>
      rw [List.take_succ_cons, List.mem_cons, not_or] at howed
      rcases h.of_cons with hlater | ⟨rfl, -⟩
      · rw [decodeFrom]
        exact ih howed.2 hlater
      · exact absurd rfl howed.1
    | zero =>
      rcases h.of_cons with hlater | ⟨rfl, digits, after, rfl, hdigits, hmost⟩
      · by_cases hc : c = '&'
        · subst hc
          rw [decodeFrom]
          split
          · exact ⟨_, rfl⟩
          · next hread =>
            obtain ⟨n, hn⟩ := ih (amp_not_mem_of_read? hread) hlater
            exact ⟨n, by rw [hn]; rfl⟩
          · obtain ⟨n, hn⟩ := @ih 0 List.not_mem_nil hlater
            exact ⟨n, by rw [hn]; rfl⟩
        · obtain ⟨n, hn⟩ := @ih 0 List.not_mem_nil hlater
          exact ⟨n, by rw [decodeFrom_cons hc, hn]; rfl⟩
      · obtain ⟨n, hn⟩ := read?_of_overlong hdigits hmost after
        exact ⟨n, by rw [decodeFrom, hn]⟩

/-- A value is decoded unless it holds a number that is too long. -/
theorem decode_fails_iff : (∃ n, decode cs = .error n) ↔ ∃ n, Overlong cs n :=
  ⟨fun ⟨n, h⟩ => ⟨n, overlong_of_decodeFrom h⟩, fun ⟨_, h⟩ => exists_of_overlong List.not_mem_nil h⟩

end Reference

namespace Lexeme

variable {cs : List Char} {attributes : List (String × List Char)} {count : ℕ}

theorem decoded_cons (a : String × List Char) (attributes : List (String × List Char)) :
    decoded (a :: attributes) = (Reference.decode a.2).bind fun value =>
      (decoded attributes).map ((a.1, String.ofList value) :: ·) := by
  rw [decoded, List.mapM_cons]
  cases Reference.decode a.2 <;> rfl

/-- The attributes of a tag are refused for one of their values. -/
theorem exists_of_decoded (h : decoded attributes = .error count) :
    ∃ a ∈ attributes, Reference.decode a.2 = .error count := by
  induction attributes with
  | nil => cases h
  | cons a attributes ih =>
    rw [decoded_cons] at h
    cases hvalue : Reference.decode a.2 with
    | error n =>
      rw [hvalue] at h
      cases h
      exact ⟨a, List.mem_cons_self .., hvalue⟩
    | ok value =>
      rw [hvalue] at h
      obtain ⟨b, hb, hn⟩ := ih (Reference.error_of_map h)
      exact ⟨b, List.mem_cons_of_mem _ hb, hn⟩

/-- A value that is not decoded, whichever it is, makes its tag refused. -/
theorem exists_of_mem {a : String × List Char} (ha : a ∈ attributes) (h : Reference.decode a.2 = .error count) :
    ∃ n, decoded attributes = .error n := by
  induction attributes with
  | nil => cases ha
  | cons b attributes ih =>
    rw [decoded_cons]
    cases hvalue : Reference.decode b.2 with
    | error n => exact ⟨n, rfl⟩
    | ok value =>
      rcases List.mem_cons.1 ha with rfl | ha
      · exact nomatch hvalue.symm.trans h
      · obtain ⟨n, hn⟩ := ih ha
        exact ⟨n, by rw [hn]; rfl⟩

theorem exists_of_ended_fault {token : List (String × String) → Token} {rest : List Char} {reason : Token.Fault}
    (h : ended attributes token rest = .fault reason) :
    ∃ count, decoded attributes = .error count ∧ reason = .overlongNumber count := by
  rw [ended] at h
  split at h
  · cases h
  · next n hn =>
    cases h
    exact ⟨n, hn, rfl⟩

/-- A start tag is refused for a number that is too long. -/
theorem overlong_of_startTag {reason : Token.Fault} (h : startTag cs = .fault reason) :
    ∃ count, Reference.Overlong cs count ∧ reason = .overlongNumber count := by
  have hended {n bound : ℕ} {free : Bool} {token : List (String × String) → Token} {rest : List Char}
      (h : ended (attributesWithin bound free (skipGap (cs.drop n))).1 token rest = .fault reason) :
      ∃ count, Reference.Overlong cs count ∧ reason = .overlongNumber count := by
    obtain ⟨count, hdecoded, hreason⟩ := exists_of_ended_fault h
    obtain ⟨a, ha, hvalue⟩ := exists_of_decoded hdecoded
    have hnext : skipGap (cs.drop n) <:+ cs := (skipGap_suffix _).trans (List.drop_suffix ..)
    have hinfix : a.2 <:+: cs := ((stand_attributesWithin ..).2 a ha).trans hnext.isInfix
    exact ⟨count, (Reference.overlong_of_decodeFrom hvalue).widen hinfix, hreason⟩
  simp only [startTag] at h
  split at h
  · exact hended h
  · exact hended h
  · cases h
  · split at h
    · cases h
    · exact hended h

/-- A start tag with its values in quotes is refused if a number in one of them is too long. -/
theorem startTag_of_overlong {name : String} (hn : isPlainName name) (ha : ∀ a ∈ attributes, Quotable a)
    (h : ∃ a ∈ attributes, ∃ n, Reference.Overlong a.2 n) (rest : List Char) :
    ∃ n, startTag ('<' :: (name.toList ++ (quotedAll attributes ++ '>' :: rest))) = .fault (.overlongNumber n) := by
  obtain ⟨a, hmem, hlong⟩ := h
  obtain ⟨_, hvalue⟩ := Reference.decode_fails_iff.2 hlong
  obtain ⟨n, hn'⟩ := exists_of_mem hmem hvalue
  exact ⟨n, by rw [startTag_quoted rest hn ha, ended, hn']⟩

end Lexeme

end LayoutInheritance
