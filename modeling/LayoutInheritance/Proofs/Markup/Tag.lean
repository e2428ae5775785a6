import LayoutInheritance.Markup.Printer
import LayoutInheritance.Proofs.Markup.Plain
import Mathlib.Tactic.Set

/-! Tags that are read as they were written. A value comes back from its escaped form, which holds no quote, so
an attribute ends where its value was closed and the tag ends at its angle bracket. -/

namespace LayoutInheritance

/-! ### Escaped values -/

/-- How a character of a value is written. -/
def escapeChar (c : Char) : List Char :=
  if c = '&' then "&amp;".toList else if c = '"' then "&quot;".toList else [c]

theorem toList_escapeAttribute (value : String) :
    (escapeAttribute value).toList = value.toList.flatMap escapeChar := by
  rw [escapeAttribute, String.toList_ofList]
  rfl

theorem quote_not_mem_escaped (cs : List Char) : '"' ∉ cs.flatMap escapeChar := by
  intro h
  obtain ⟨c, -, hc⟩ := List.mem_flatMap.1 h
  unfold escapeChar at hc
  split at hc
  · exact absurd hc (by decide)
  · split at hc
    · exact absurd hc (by decide)
    · next hq => exact hq (List.mem_singleton.1 hc).symm

namespace Reference

theorem decodeFrom_owed (owed rest : List Char) : decodeFrom owed.length (owed ++ rest) = decodeFrom 0 rest := by
  induction owed with
  | nil => rfl
  | cons c owed ih =>
    rw [List.length_cons, List.cons_append]
    exact ih

theorem read?_amp (rest : List Char) : read? ('a' :: 'm' :: 'p' :: ';' :: rest) = .ok (some (['&'], 4)) := by
  rfl

theorem read?_quot (rest : List Char) : read? ('q' :: 'u' :: 'o' :: 't' :: ';' :: rest) = .ok (some (['"'], 5)) := by
  rfl

theorem decodeFrom_escapeChar (c : Char) (rest : List Char) :
    decodeFrom 0 (escapeChar c ++ rest) = (decodeFrom 0 rest).map (c :: ·) := by
  unfold escapeChar
  split
  · next h =>
    subst h
    have howed := decodeFrom_owed ['a', 'm', 'p', ';'] rest
    change decodeFrom 0 ('&' :: 'a' :: 'm' :: 'p' :: ';' :: rest) = _
    rw [decodeFrom, read?_amp]
    exact congrArg (·.map ('&' :: ·)) howed
  · next h =>
    split
    · next h =>
      subst h
      have howed := decodeFrom_owed ['q', 'u', 'o', 't', ';'] rest
      change decodeFrom 0 ('&' :: 'q' :: 'u' :: 'o' :: 't' :: ';' :: rest) = _
      rw [decodeFrom, read?_quot]
      exact congrArg (·.map ('"' :: ·)) howed
    · rw [List.singleton_append, decodeFrom]
      rintro rfl
      exact h rfl

/-- A value is decoded from its escaped form. -/
theorem decode_escaped (cs : List Char) : decode (cs.flatMap escapeChar) = .ok cs := by
  rw [decode]
  induction cs with
  | nil => rfl
  | cons c cs ih =>
    rw [List.flatMap_cons, decodeFrom_escapeChar, ih]
    rfl

end Reference

namespace Lexeme

open Text

variable {cs rest : List Char} {name : String}

theorem takeWhile_stop {p : Char → Bool} {c : Char} (h : ∀ d ∈ cs, p d) (hc : p c = false) :
    (cs ++ c :: rest).takeWhile p = cs := by
  rw [List.takeWhile_append_of_pos h, List.takeWhile_cons_of_neg (by simp [hc]), List.append_nil]

theorem dropWhile_stop {p : Char → Bool} {c : Char} (h : ∀ d ∈ cs, p d) (hc : p c = false) :
    (cs ++ c :: rest).dropWhile p = c :: rest := by
  rw [List.dropWhile_append_of_pos h, List.dropWhile_cons_of_neg (by simp [hc])]

/-! ### Attributes -/

/-- A value in quotes that holds none. -/
theorem attributeValue?_quoted (h : '"' ∉ cs) :
    attributeValue? ('=' :: '"' :: (cs ++ '"' :: rest)) = some (cs, rest) := by
  have equals : isBlank '=' = false := by decide
  have quote : isBlank '"' = false := by decide
  have value : (cs ++ '"' :: rest).takeWhile (· != '"') = cs := by
    refine takeWhile_stop (fun d hd => ?_) rfl
    rw [bne_iff_ne]
    rintro rfl
    exact h hd
  simp [attributeValue?, equals, quote, value]

/-- An attribute in quotes, after the space before it. -/
def quoted (a : String × List Char) : List Char :=
  a.1.toList ++ '=' :: '"' :: (a.2 ++ ['"'])

/-- An attribute that is read back from its quotes. -/
def Quotable (a : String × List Char) : Prop :=
  isPlainName a.1 ∧ '"' ∉ a.2

/-- An attribute with its value as it is written. -/
def escaped (a : String × String) : String × List Char :=
  (a.1, a.2.toList.flatMap escapeChar)

/-- An attribute as it is written. -/
def spelled (a : String × String) : List Char :=
  quoted (escaped a)

theorem quotable_escaped {a : String × String} (ha : isPlainName a.1) : Quotable (escaped a) :=
  ⟨ha, quote_not_mem_escaped _⟩

theorem decoded_escaped (attributes : List (String × String)) : decoded (attributes.map escaped) = .ok attributes := by
  rw [decoded]
  induction attributes with
  | nil => rfl
  | cons a attributes ih =>
    have hvalue : (Reference.decode (escaped a).2).map (fun value => ((escaped a).1, String.ofList value)) = .ok a := by
      rw [escaped, Reference.decode_escaped, Except.map, String.ofList_toList]
    rw [List.map_cons, List.mapM_cons, hvalue, ih]
    rfl

/-- The gap before a name is one space. -/
theorem skipGap_name {c : Char} (hc : isPlainNameChar c) : skipGap (' ' :: c :: rest) = c :: rest := by
  have space : isBlank ' ' = true := by decide
  have slash : c ≠ '/' := by
    rintro rfl
    exact nomatch hc
  simp [skipGap, space, isBlank_of_plain hc, slash]

theorem skipGap_angle : skipGap ('>' :: rest) = '>' :: rest := by
  have angle : isBlank '>' = false := by decide
  simp [skipGap, angle]

/-- One attribute is read, and then the others. -/
theorem attributesWithin_quoted {a : String × List Char} (ha : Quotable a) (bound : Nat) :
    attributesWithin (bound + 1) true (quoted a ++ rest) =
      (a :: (attributesWithin bound true (skipGap rest)).1, (attributesWithin bound true (skipGap rest)).2) := by
  obtain ⟨c, cs, hcs, -, hall⟩ := exists_of_isPlainName ha.1
  rw [hcs] at hall
  have plain : ∀ d ∈ cs, isAttributeNameChar d := fun d hd =>
    isAttributeNameChar_of_plain (hall d (List.mem_cons_of_mem _ hd))
  have first := isAttributeNameChar_of_plain (hall c (List.mem_cons_self ..))
  simp only [isAttributeNameChar, Bool.and_eq_true, Bool.not_eq_true', bne_iff_ne] at first
  obtain ⟨⟨⟨blank, slash⟩, -⟩, angle⟩ := first
  have spelling : quoted a ++ rest = c :: (cs ++ '=' :: '"' :: (a.2 ++ '"' :: rest)) := by
    simp [quoted, hcs]
  have begins : (true && !isBlank c && c != '/' && c != '>') = true := by
    simp [blank, slash, angle]
  have equals : isAttributeNameChar '=' = false := by decide
  have name : lower (String.ofList (c :: cs)) = a.1 := by
    rw [← hcs, String.ofList_toList, lower_of_isPlainName ha.1]
  rw [spelling, attributesWithin, if_pos begins]
  simp only [takeWhile_stop plain equals, dropWhile_stop plain equals, name, attributeValue?_quoted ha.2, Bool.true_or]

theorem attributesWithin_spelled {a : String × String} (ha : isPlainName a.1) (bound : Nat) :
    attributesWithin (bound + 1) true (spelled a ++ rest) =
      (escaped a :: (attributesWithin bound true (skipGap rest)).1, (attributesWithin bound true (skipGap rest)).2) :=
  attributesWithin_quoted (quotable_escaped ha) bound

/-- The attributes in quotes, each with the space before it. -/
def quotedAll (attributes : List (String × List Char)) : List Char :=
  attributes.flatMap fun a => ' ' :: quoted a

/-- The attributes as they are written, each with the space before it. -/
def spelledAll (attributes : List (String × String)) : List Char :=
  attributes.flatMap fun a => ' ' :: spelled a

theorem quotedAll_escaped (attributes : List (String × String)) :
    quotedAll (attributes.map escaped) = spelledAll attributes :=
  List.flatMap_map ..

section Quoted

variable {attributes : List (String × List Char)}

theorem skipGap_quotedAll {a : String × List Char} (ha : Quotable a) :
    skipGap (quotedAll (a :: attributes) ++ rest) = quoted a ++ (quotedAll attributes ++ rest) := by
  obtain ⟨c, cs, hcs, -, hall⟩ := exists_of_isPlainName ha.1
  have hc : isPlainNameChar c := hall c (hcs ▸ List.mem_cons_self ..)
  simp only [quotedAll, List.flatMap_cons, List.cons_append, List.append_assoc, quoted, hcs]
  exact skipGap_name hc

theorem attributesWithin_angle (bound : Nat) (free : Bool) :
    attributesWithin bound free ('>' :: rest) = ([], '>' :: rest) := by
  cases bound <;> simp [attributesWithin]

/-- What is written for the attributes of a tag is read as these. -/
theorem attributesWithin_quotedAll (ha : ∀ a ∈ attributes, Quotable a) {bound : Nat}
    (hb : attributes.length ≤ bound) :
    attributesWithin bound true (skipGap (quotedAll attributes ++ '>' :: rest)) = (attributes, '>' :: rest) := by
  induction attributes generalizing bound with
  | nil =>
    rw [quotedAll, List.flatMap_nil, List.nil_append, skipGap_angle, attributesWithin_angle]
  | cons a attributes ih =>
    obtain ⟨bound, rfl⟩ := Nat.exists_eq_add_of_le' (Nat.one_le_of_lt hb)
    obtain ⟨ha, hattributes⟩ := List.forall_mem_cons.1 ha
    rw [skipGap_quotedAll ha, attributesWithin_quoted ha, ih hattributes (Nat.le_of_succ_le_succ hb)]

theorem length_le_quotedAll (attributes : List (String × List Char)) :
    attributes.length ≤ (quotedAll attributes).length := by
  induction attributes with
  | nil => exact Nat.zero_le _
  | cons a attributes ih =>
    simp only [quotedAll, List.flatMap_cons, List.length_cons, List.length_append] at ih ⊢
    omega

/-! ### Tags -/

/-- A name ends before the attributes of its tag, and before the end of the tag. -/
theorem takeWhile_tagName (hn : isPlainName name) :
    (name.toList ++ (quotedAll attributes ++ '>' :: rest)).takeWhile isTagNameChar = name.toList := by
  obtain ⟨_, _, -, -, hall⟩ := exists_of_isPlainName hn
  have plain : ∀ d ∈ name.toList, isTagNameChar d := fun d hd => isTagNameChar_of_plain (hall d hd)
  cases attributes with
  | nil => exact takeWhile_stop plain (by decide)
  | cons a attributes => exact takeWhile_stop plain (by decide)

/-- A start tag with its values in quotes. -/
theorem startTag_quoted (rest : List Char) (hn : isPlainName name) (ha : ∀ a ∈ attributes, Quotable a) :
    startTag ('<' :: (name.toList ++ (quotedAll attributes ++ '>' :: rest))) =
      ended attributes (.opening name · false) rest := by
  set after := quotedAll attributes ++ '>' :: rest
  have hname : (name.toList ++ after).takeWhile isTagNameChar = name.toList := takeWhile_tagName hn
  have hdrop : ('<' :: (name.toList ++ after)).drop (1 + name.toList.length) = after := by
    rw [Nat.add_comm, List.drop_succ_cons, List.drop_left]
  have hread (free : Bool) (hf : (skipGap after).length < after.length → free) :
      attributesWithin (skipGap after).length free (skipGap after) = (attributes, '>' :: rest) := by
    cases attributes with
    | nil =>
      have gap : skipGap after = '>' :: rest := skipGap_angle
      rw [gap, attributesWithin_angle]
    | cons a attributes =>
      have gap : skipGap after = quoted a ++ (quotedAll attributes ++ '>' :: rest) :=
        skipGap_quotedAll (ha a (List.mem_cons_self ..))
      have length : after.length = (skipGap after).length + 1 := by
        rw [gap]
        simp [after, quotedAll]
      obtain rfl : free = true := hf (by omega)
      apply attributesWithin_quotedAll ha
      have hle := length_le_quotedAll (a :: attributes)
      have hlen : after.length = (quotedAll (a :: attributes)).length + (rest.length + 1) := List.length_append
      omega
  simp only [startTag, List.drop_succ_cons, List.drop_zero, hname, hdrop]
  rw [hread _ fun h => by simp [h]]
  simp only [String.ofList_toList, lower_of_isPlainName hn]

end Quoted

variable {attributes : List (String × String)}

/-- A start tag is read as it was written. -/
theorem startTag_spelled (rest : List Char) (hn : isPlainName name) (ha : ∀ a ∈ attributes, isPlainName a.1) :
    startTag ('<' :: (name.toList ++ (spelledAll attributes ++ '>' :: rest))) =
      .found (some (.opening name attributes false)) rest := by
  have quotable : ∀ a ∈ attributes.map escaped, Quotable a := List.forall_mem_map.2 fun a h => quotable_escaped (ha a h)
  rw [← quotedAll_escaped, startTag_quoted rest hn quotable, ended, decoded_escaped]

theorem dropWhile_blank (h : ∀ c ∈ cs, isBlank c = false) : cs.dropWhile isBlank = cs := by
  cases cs with
  | nil => rfl
  | cons c cs => rw [List.dropWhile_cons_of_neg (by simp [h c (List.mem_cons_self ..)])]

theorem strictName?_of_plain (hn : isPlainName name) : strictName? name.toList = some name := by
  obtain ⟨c, cs, hcs, hc, hall⟩ := exists_of_isPlainName hn
  have blank : ∀ d ∈ name.toList, isBlank d = false := fun d hd => isBlank_of_plain (hall d hd)
  have trimmed : trimBlank name.toList = name.toList := by
    rw [trimBlank, dropWhile_blank blank, dropWhile_blank fun d hd => blank d (List.mem_reverse.1 hd),
      List.reverse_reverse]
  have strict : (c.isAlpha && cs.all isStrictNameChar) = true := by
    have hrest : ∀ d ∈ cs, isStrictNameChar d := fun d hd =>
      isStrictNameChar_of_plain (hall d (hcs ▸ List.mem_cons_of_mem _ hd))
    simpa [isAlpha_of_isLower hc] using hrest
  rw [strictName?, trimmed, hcs]
  simp only [if_pos strict]
  rw [← hcs, String.ofList_toList, lower_of_isPlainName hn]

/-- An end tag is read as it was written, also where it ends a raw text. -/
theorem endTag_spelled {raw : Option String} (rest : List Char) (hn : isPlainName name) (hr : ∀ x ∈ raw, x = name) :
    endTag raw ('<' :: '/' :: (name.toList ++ '>' :: rest)) = .found (some (.closing name)) rest := by
  obtain ⟨_, _, -, -, hall⟩ := exists_of_isPlainName hn
  have inside : (name.toList ++ '>' :: rest).takeWhile (· != '>') = name.toList := by
    refine takeWhile_stop (fun d hd => ?_) rfl
    rw [bne_iff_ne]
    rintro rfl
    exact nomatch hall '>' hd
  have all : raw.all (· == name) = true := by
    cases raw with
    | none => rfl
    | some x => simp [hr x rfl]
  simp only [endTag, List.drop_succ_cons, List.drop_zero, inside, List.drop_left, strictName?_of_plain hn, all,
    if_true]

end Lexeme

end LayoutInheritance
