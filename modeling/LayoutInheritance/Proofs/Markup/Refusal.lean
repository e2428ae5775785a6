import LayoutInheritance.Proofs.Markup.Location
import LayoutInheritance.Proofs.Markup.Reference
import LayoutInheritance.Proofs.Markup.Scan

/-! What a text is refused for. Marked sections stop the reading of a text: one of a known kind, which is not supported,
and what opens like a section and has no name, or a name that is unknown. So does a start tag with a number in an
attribute that is too long, and nothing else does. A reader that has stopped has come upon one of them in the text, and
the first kind alone is reported with its place. -/

namespace LayoutInheritance

open Text

namespace Lexeme

variable {cs body whole inside : List Char} {reason : Token.Fault}

/-- The names of marked sections, in small letters. -/
def sectionNames : List String :=
  ["temp", "cdata", "ignore", "include", "rcdata", "if", "else", "endif"]

/-- The name that stands first in a section. -/
def sectionName (body : List Char) : List Char :=
  body.takeWhile isSectionNameChar

/-- The blanks after the name. -/
def sectionGap (body : List Char) : List Char :=
  (body.drop (sectionName body).length).takeWhile isBlank

/-- A section with this body opens with a name, and something follows the name. -/
structure Named (body : List Char) : Prop where
  isAlpha : ∃ c ∈ body.head?, c.isAlpha
  follows : sectionName body ++ sectionGap body ≠ body

/-- What opens like a section with this body is none, for the given reason. -/
inductive IllOpened (body : List Char) : Token.Fault → Prop
  | nameless {c} : c ∈ body.head? → c.isAlpha = false →
      IllOpened body (.nameExpected (String.ofList (('<' :: '!' :: '[' :: body).take 20)))
  | unknown : Named body → lower (String.ofList (sectionName body)) ∉ sectionNames →
      IllOpened body (.unknownSection (String.ofList (sectionName body ++ sectionGap body)))

/-- A section of a known kind, whose body begins with `inside` and ends after it. -/
def Encloses (body inside : List Char) : Prop :=
  Named body ∧ ∃ ending after, sectionEnding? (lower (String.ofList (sectionName body))) = some ending ∧
    search ending body = some (inside, after)

theorem sectionEnding?_eq_none {keyword : String} : sectionEnding? keyword = none ↔ keyword ∉ sectionNames := by
  have hsplit : sectionNames = ["temp", "cdata", "ignore", "include", "rcdata"] ++ ["if", "else", "endif"] := rfl
  rw [hsplit, List.mem_append, not_or, sectionEnding?]
  split
  · next h => simp [List.contains_iff_mem.1 h]
  · next h =>
    rw [List.contains_iff_mem] at h
    split
    · next h' => simp [List.contains_iff_mem.1 h']
    · next h' =>
      rw [List.contains_iff_mem] at h'
      exact iff_of_true rfl ⟨h, h'⟩

/-- The name and the blanks after it are the whole body if they are as long. -/
theorem name_gap_eq_iff : sectionName body ++ sectionGap body = body ↔
    (sectionName body).length + (sectionGap body).length = body.length := by
  have hname : sectionName body ++ body.drop (sectionName body).length = body :=
    List.prefix_iff_eq_append.1 (List.takeWhile_prefix _)
  have hprefix : sectionName body ++ sectionGap body <+: body := by
    conv_rhs => rw [← hname]
    exact (List.prefix_append_right_inj _).2 (List.takeWhile_prefix _)
  rw [← List.length_append]
  exact ⟨congrArg List.length, hprefix.eq_of_length⟩

/-- A section that opens with a letter. -/
theorem markedSection_of_isAlpha {c : Char} (hc : c ∈ body.head?) (ha : c.isAlpha) : markedSection whole body =
    if sectionName body ++ sectionGap body = body then .incomplete
    else match sectionEnding? (lower (String.ofList (sectionName body))) with
      | none => .fault (.unknownSection (String.ofList (sectionName body ++ sectionGap body)))
      | some ending => match search ending body with
        | none => .incomplete
        | some (inside, _) => .fault (.unsupported (String.ofList inside)) := by
  obtain ⟨cs, rfl⟩ := List.head?_eq_some_iff.1 hc
  simp only [name_gap_eq_iff, markedSection, ha, Bool.not_true, Bool.false_eq_true, if_false]
  rfl

theorem markedSection_of_not_isAlpha {c : Char} (hc : c ∈ body.head?) (ha : c.isAlpha = false) :
    markedSection whole body = .fault (.nameExpected (String.ofList (whole.take 20))) := by
  obtain ⟨cs, rfl⟩ := List.head?_eq_some_iff.1 hc
  simp only [markedSection, ha, Bool.not_false, if_true]

theorem markedSection_of_illOpened (h : IllOpened body reason) :
    markedSection ('<' :: '!' :: '[' :: body) body = .fault reason := by
  cases h with
  | nameless hc ha => exact markedSection_of_not_isAlpha hc ha
  | unknown hn hname =>
    obtain ⟨c, hc, ha⟩ := hn.isAlpha
    rw [markedSection_of_isAlpha hc ha, if_neg hn.follows, sectionEnding?_eq_none.2 hname]

theorem markedSection_of_encloses (h : Encloses body inside) :
    markedSection whole body = .fault (.unsupported (String.ofList inside)) := by
  obtain ⟨hn, ending, after, hending, hsearch⟩ := h
  obtain ⟨c, hc, ha⟩ := hn.isAlpha
  simp only [markedSection_of_isAlpha hc ha, if_neg hn.follows, hending, hsearch]

/-- A section is refused for how it opens, or as a whole. -/
theorem of_markedSection_fault (h : markedSection ('<' :: '!' :: '[' :: body) body = .fault reason) :
    IllOpened body reason ∨ ∃ inside, Encloses body inside ∧ reason = .unsupported (String.ofList inside) := by
  cases hhead : body.head? with
  | none =>
    rw [List.head?_eq_none_iff.1 hhead] at h
    cases h
  | some c =>
    cases ha : c.isAlpha with
    | false =>
      rw [markedSection_of_not_isAlpha hhead ha] at h
      cases h
      exact .inl (.nameless hhead ha)
    | true =>
      rw [markedSection_of_isAlpha hhead ha] at h
      split at h
      · cases h
      · next hfollows =>
        have hn : Named body := ⟨⟨c, hhead, ha⟩, hfollows⟩
        split at h
        · next hending =>
          cases h
          exact .inl (.unknown hn (sectionEnding?_eq_none.1 hending))
        · next ending hending =>
          split at h
          · cases h
          · next inside after hsearch =>
            cases h
            exact .inr ⟨inside, ⟨hn, ending, after, hending, hsearch⟩, rfl⟩

/-! ### Other constructs -/

theorem endTag_ne_fault {raw : Option String} : endTag raw cs ≠ .fault reason := by
  simp only [endTag]
  split
  · rintro ⟨⟩
  · split
    · rintro ⟨⟩
    · split
      · rintro ⟨⟩
      · split <;> rintro ⟨⟩

theorem upToAngle_ne_fault {token? : List Char → Option Token} : upToAngle cs token? ≠ .fault reason := by
  rw [upToAngle]
  split <;> rintro ⟨⟩

theorem comment_ne_fault : comment cs ≠ .fault reason := by
  rw [comment]
  split <;> rintro ⟨⟩

/-- A declaration is refused if it is a marked section that is refused. -/
theorem of_declaration_fault (h : declaration ('<' :: '!' :: cs) = .fault reason) : ∃ body, cs = '[' :: body ∧
    markedSection ('<' :: '!' :: '[' :: body) body = .fault reason := by
  simp only [declaration, List.drop_succ_cons, List.drop_zero] at h
  split at h
  · exact absurd h comment_ne_fault
  · next body => exact ⟨body, rfl, h⟩
  · split at h <;> exact absurd h upToAngle_ne_fault

end Lexeme

namespace Scan

variable {cs : List Char} {atEnd : Bool} {raw : Option String} {reason : Token.Fault} {p q : Position}

/-- An action fails at a marked section or a start tag that is refused. -/
inductive Refused : List Char → Token.Fault → Prop
  | declared {body : List Char} {reason : Token.Fault} :
      Lexeme.markedSection ('<' :: '!' :: '[' :: body) body = .fault reason →
      Refused ('<' :: '!' :: '[' :: body) reason
  | tag {cs : List Char} {reason : Token.Fault} : cs.head?.any Char.isAlpha → Lexeme.startTag ('<' :: cs) = .fault reason →
      Refused ('<' :: cs) reason

theorem Refused.head? (h : Refused cs reason) : cs.head? = some '<' := by
  cases h <;> rfl

theorem refused_of_atAngle (h : atAngle atEnd raw ('<' :: cs) = .fail reason) : Refused ('<' :: cs) reason := by
  simp only [atAngle] at h
  split at h
  · next hlexeme =>
    cases h
    split at hlexeme
    · next halpha => exact .tag halpha hlexeme
    · split at hlexeme
      · exact absurd hlexeme Lexeme.endTag_ne_fault
      · exact absurd hlexeme Lexeme.upToAngle_ne_fault
      · next hnext =>
        obtain ⟨rest, rfl⟩ := List.head?_eq_some_iff.1 hnext
        obtain ⟨body, rfl, hbody⟩ := Lexeme.of_declaration_fault hlexeme
        exact .declared hbody
      · cases hlexeme
      · cases hlexeme
  · cases h
  · split at h <;> cases h

theorem atAmpersand_ne_fail : atAmpersand atEnd cs ≠ .fail reason := by
  unfold atAmpersand
  split
  · rintro ⟨⟩
  · split
    · rintro ⟨⟩
    · split <;> rintro ⟨⟩
  · split
    · rintro ⟨⟩
    · split <;> rintro ⟨⟩

theorem refused_of_action (h : action atEnd raw cs = .fail reason) : Refused cs reason := by
  unfold action at h
  split at h
  · split at h
    · cases h
    · next hraw =>
      obtain ⟨rest, rfl⟩ := List.head?_eq_some_iff.1 (head?_of_rawText? hraw)
      exact refused_of_atAngle h
    · cases h
  · split at h
    · exact refused_of_atAngle h
    · exact absurd h atAmpersand_ne_fail
    · cases h

/-- A scan that has failed has come upon what is refused. -/
theorem refused_of_scanFrom {owed : ℕ} (h : (scanFrom atEnd raw p owed cs).ended = .error (reason, q)) :
    ∃ before after, cs = before ++ after ∧ q = p.after before ∧ Refused after reason := by
  induction cs generalizing raw p owed with
  | nil =>
    rw [scanFrom, leave] at h
    split at h <;> cases h
  | cons c cs ih =>
    have further {raw : Option String} {owed : ℕ}
        (h : (scanFrom atEnd raw (p.next c) owed cs).ended = .error (reason, q)) :
        ∃ before after, c :: cs = before ++ after ∧ q = p.after before ∧ Refused after reason := by
      obtain ⟨before, after, rfl, rfl, hrefused⟩ := ih h
      exact ⟨c :: before, after, rfl, rfl, hrefused⟩
    cases owed with
    | succ owed =>
      rw [scanFrom] at h
      exact further h
    | zero =>
      rw [scanFrom] at h
      split at h
      · exact further h
      · rw [Result.cons, leave] at h
        split at h <;> cases h
      · next hfail =>
        cases h
        exact ⟨[], c :: cs, rfl, rfl, refused_of_action hfail⟩

theorem action_of_refused (h : Refused cs reason) : action atEnd none cs = .fail reason := by
  cases h with
  | @declared body _ hbody =>
    have bang : Char.isAlpha '!' = false := by decide
    have hdeclaration : Lexeme.declaration ('<' :: '!' :: '[' :: body) = .fault reason := hbody
    simp only [action, atAngle, List.tail_cons, List.head?_cons, Option.any_some, bang, Bool.false_eq_true, if_false,
      hdeclaration]
  | tag halpha htag => simp only [action, atAngle, List.tail_cons, halpha, if_true, htag]

/-- Text without marks before what is refused. -/
theorem scanFrom_of_refused {before after : List Char} (hb : ∀ c ∈ before, isMark c = false) (h : Refused after reason)
    (p : Position) : (scanFrom atEnd none p 0 (before ++ after)).ended = .error (reason, p.after before) := by
  have hhere (p : Position) : (scanFrom atEnd none p 0 after).ended = .error (reason, p) := by
    have haction : action atEnd none after = .fail reason := action_of_refused h
    obtain ⟨rest, rfl⟩ := List.head?_eq_some_iff.1 h.head?
    rw [scanFrom, haction]
  by_cases hne : before = []
  · rw [hne]
    exact hhere p
  · have haction : action atEnd none (before ++ after) = .take (some (.text (String.ofList before))) (before.length - 1) := by
      refine action_text hne hb ?_
      rw [h.head?]
      rintro c ⟨⟩
      rfl
    rw [scanFrom_take hne haction]
    exact hhere _

end Scan

namespace Reader

variable {r r' : Reader} {text part : List Char} {filename : Option String} {atEnd : Bool} {fault : MarkupFault}

/-- The fault of a reader that comes upon what is refused after the text `before`. -/
def faultAfter (filename : Option String) (before : List Char) : Token.Fault → MarkupFault
  | .unsupported declaration => .unsupported declaration ((({} : Position).after before).location filename)
  | reason => .malformed reason

theorem faultAt_eq (b : Builder) (before : List Char) (reason : Token.Fault) :
    faultAt b reason (({} : Position).after before) = faultAfter b.filename before reason := by
  cases reason <;> rfl

/-- A reader that stops has come upon what is refused. -/
theorem Reads.refused (h : Reads text filename r) (ha : r.advance atEnd part = (r', some fault)) :
    ∃ before after reason, text ++ part = before ++ after ∧ Scan.Refused after reason ∧
      fault = faultAfter filename before reason := by
  obtain ⟨rfl, ⟨passed, rfl, hp⟩, -⟩ := h
  rw [Reader.advance] at ha
  split at ha
  · cases ha
  · next reason q hended =>
    cases ha
    obtain ⟨before, after, hpart, rfl, hrefused⟩ := Scan.refused_of_scanFrom hended
    refine ⟨passed ++ before, after, reason, ?_, hrefused, ?_⟩
    · rw [List.append_assoc, hpart, List.append_assoc]
    · rw [hp, ← Position.after_append, faultAt_eq, filename_pushAll]

end Reader

namespace Markup

variable {text : String} {filename : Option String} {fault : MarkupFault} {before after : List Char}
  {reason : Token.Fault}

theorem refused_of_parse (h : parse text filename = .error fault) : ∃ before after reason,
    text.toList = before ++ after ∧ Scan.Refused after reason ∧ fault = Reader.faultAfter filename before reason := by
  rw [parse, read] at h
  split at h
  · next r fault hfeed =>
    cases h
    exact (Reader.reads_start filename).refused hfeed
  · next r hfeed =>
    obtain ⟨r', fault?, hfinish⟩ : ∃ r' fault?, r.finish = (r', fault?) := ⟨_, _, rfl⟩
    rw [hfinish] at h
    cases fault? with
    | none => cases h
    | some fault =>
      cases h
      obtain ⟨before, after, reason, htext, hrefused⟩ := ((Reader.reads_start filename).advance hfeed).refused hfinish
      rw [List.nil_append, List.append_nil] at htext
      exact ⟨before, after, reason, htext, hrefused⟩

theorem parse_of_refused (htext : text.toList = before ++ after) (hb : ∀ c ∈ before, Scan.isMark c = false)
    (h : Scan.Refused after reason) (filename : Option String) :
    parse text filename = .error (Reader.faultAfter filename before reason) := by
  have hended : (Scan.scanFrom false none {} 0 (before ++ after)).ended = .error (reason, ({} : Position).after before) :=
    Scan.scanFrom_of_refused hb h {}
  rw [← htext] at hended
  have hfeed : ∃ r, (Reader.start filename).feed text = (r, some (Reader.faultAfter filename before reason)) := by
    simp only [Reader.feed, Reader.advance, Reader.start, Scan.State.scan, List.nil_append, hended,
      Reader.faultAt_eq, Reader.filename_pushAll]
    exact ⟨_, rfl⟩
  obtain ⟨r, hfeed⟩ := hfeed
  simp only [parse, read, hfeed]

end Markup

end LayoutInheritance
