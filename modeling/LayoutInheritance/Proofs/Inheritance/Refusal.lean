import LayoutInheritance.Proofs.Inheritance.Document
import LayoutInheritance.Proofs.Markup.Refusal

/-! Why documents are not processed. A document fails with an issue, with a layout that cannot be read, or with a text
that is no markup: that one is refused with its place for a marked section of a known kind, and only what opens like a
section and is none, or a number that is too long, leads to a failure that is no issue. -/

namespace LayoutInheritance

open Lexeme (IllOpened Encloses Quotable quotedAll)
open Reference (Overlong)

/-- What opens like a marked section in the text is none, or the text refers to a character by a number that is too
long. -/
inductive Markup.IllFormed (text : String) : Token.Fault → Prop
  | opens {before body reason} : text.toList = before ++ '<' :: '!' :: '[' :: body → IllOpened body reason →
      IllFormed text reason
  | number {count} : Overlong text.toList count → IllFormed text (.overlongNumber count)

/-- A section of a known kind in a text, and the issue that it makes. -/
def Markup.Unsupported (text : String) (filename : Option String) (issue : Issue) : Prop :=
  ∃ before body inside, text.toList = before ++ '<' :: '!' :: '[' :: body ∧ Encloses body inside ∧
    issue = .markup ("Unsupported declaration: <![" ++ String.ofList inside ++ "]>")
      (some ((({} : Position).after before).location filename))

/-- The failure of a text that is refused. -/
theorem Markup.failure_of_parse {text : String} {filename : Option String} {fault : MarkupFault}
    (h : parse text filename = .error fault) :
    (∃ issue, Unsupported text filename issue ∧ fault.failure = .issue issue) ∨
      ∃ reason, IllFormed text reason ∧ fault.failure = .malformed reason := by
  obtain ⟨before, after, reason, htext, hrefused, rfl⟩ := refused_of_parse h
  cases hrefused with
  | @declared body _ hbody =>
    rcases Lexeme.of_markedSection_fault hbody with hill | ⟨inside, hin, rfl⟩
    · refine .inr ⟨reason, .opens htext hill, ?_⟩
      cases hill <;> rfl
    · exact .inl ⟨_, ⟨before, body, inside, htext, hin, rfl⟩, rfl⟩
  | tag _ htag =>
    obtain ⟨count, hlong, rfl⟩ := Lexeme.overlong_of_startTag htag
    exact .inr ⟨_, .number (hlong.of_suffix ⟨before, htext.symm⟩), rfl⟩

theorem Markup.issue_or_illFormed {text : String} {filename : Option String} {fault : MarkupFault}
    (h : parse text filename = .error fault) :
    (∃ issue, fault.failure = .issue issue) ∨ ∃ reason, IllFormed text reason ∧ fault.failure = .malformed reason :=
  (failure_of_parse h).imp_left fun ⟨issue, _, hissue⟩ => ⟨issue, hissue⟩

namespace Resolver

variable {c : Resolver} {r r' r₁ : Run} {call : Call} {e : Failure}

/-- What makes a call fail: an issue of inheritance, a layout that cannot be read, or one that is refused. -/
inductive Causes (c : Resolver) : Failure → Prop
  | issue (i : Issue) : Causes c (.issue i)
  | unread {path fault} : c.library.read path c.encoding = .error fault → Causes c (.file fault)
  | unparsed {path text fault} : c.library.read path c.encoding = .ok text →
      Markup.parse text (some path) = .error fault → Causes c fault.failure

theorem parse_of_run {text : String} {filename : Option String}
    (h : (Step.parse text filename).run r = (.error e, r₁)) :
    ∃ fault, Markup.parse text filename = .error fault ∧ e = fault.failure := by
  rw [Step.run_parse] at h
  split at h
  · next fault hfault =>
    cases h
    exact ⟨fault, hfault, rfl⟩
  · cases h

theorem Resolves.causes (h : c.Resolves call r (.error e) r') : c.Causes e := by
  generalize hout : Except.error e = out at h
  induction h with
  | nil | keep | inside | load => cases hout
  | stop _ ih | insideStop _ _ _ ih | layoutStop _ _ _ ih | templateStop _ _ _ _ _ ih | loadStop _ _ _ ih =>
    exact ih hout
  | @cons _ _ _ _ _ _ out _ _ _ _ ih =>
    cases out with
    | error e => exact ih hout
    | ok after => cases hout
  | noSource | circular =>
    cases hout
    exact .issue _
  | merge _ _ _ _ hm =>
    rw [Step.run_merge] at hm
    subst hout
    split at hm <;> cases hm
    exact .issue _
  | unread hr =>
    cases hout
    exact .unread hr
  | unparsed hr hp =>
    cases hout
    obtain ⟨fault, hfault, rfl⟩ := parse_of_run hp
    exact .unparsed hr hfault

end Resolver

/-- The reason why a text of the document is no markup, where the failure is no issue. -/
def Processed.malformed? (p : Processed) : Option Token.Fault :=
  match p.outcome with
  | .error (.malformed reason) => some reason
  | _ => none

theorem Processed.outcome_of_malformed? {p : Processed} {reason : Token.Fault} (h : p.malformed? = some reason) :
    p.outcome = .error (.malformed reason) := by
  unfold malformed? at h
  split at h
  · next houtcome =>
    cases h
    exact houtcome
  · exact nomatch h

namespace Setting

/-- The texts that a document may be made of: its own, and those that the library has for layouts. -/
def Source (setting : Setting) (filename : Option String) (text source : String) : Prop :=
  source = text ∨ ∃ path, setting.library.read path (setting.flattening filename).encoding = .ok source

/-- A text in which nothing opens like a marked section without being one, and no number is too long, is read, or it is
refused with a `ParseError` that tells the section and its place. In general there is a third case, the failure that is
no issue, and it comes from such an opening or number; after text without marks each of the two kinds of sections makes
the failure that is its own, and so does a start tag with such a number in one of its quoted values. A document fails in
the third way only if its own text, or one that the library has for a layout, holds such an opening or number. -/
theorem refusals (setting : Setting) (filename : Option String) (text : String) :
    ((∀ reason, ¬ Markup.IllFormed text reason) → (∃ document, Markup.parse text filename = .ok document) ∨
      ∃ fault issue, Markup.parse text filename = .error fault ∧ fault.failure = .issue issue ∧
        issue.code = "ParseError" ∧ Markup.Unsupported text filename issue) ∧
    (∀ fault, Markup.parse text filename = .error fault →
      (∃ issue, Markup.Unsupported text filename issue ∧ fault.failure = .issue issue) ∨
        ∃ reason, Markup.IllFormed text reason ∧ fault.failure = .malformed reason) ∧
    (∀ before body, text.toList = before ++ '<' :: '!' :: '[' :: body → '<' ∉ before → '&' ∉ before →
      (∀ reason, IllOpened body reason → Markup.parse text filename = .error (.malformed reason)) ∧
      ∀ inside, Encloses body inside → Markup.parse text filename =
        .error (.unsupported (String.ofList inside) ((({} : Position).after before).location filename))) ∧
    (∀ before name attributes rest,
      text.toList = before ++ '<' :: (name.toList ++ (quotedAll attributes ++ '>' :: rest)) → '<' ∉ before →
      '&' ∉ before → isPlainName name → (∀ a ∈ attributes, Quotable a) →
      (∃ a ∈ attributes, ∃ count, Overlong a.2 count) →
      ∃ count, Markup.parse text filename = .error (.malformed (.overlongNumber count))) ∧
    ∀ e, (setting.processed filename text).outcome = .error e → (∃ issue, e = .issue issue) ∨
      (∃ path fault, setting.library.read path (setting.flattening filename).encoding = .error fault ∧
        e = .file fault) ∨
      ∃ source reason, setting.Source filename text source ∧ Markup.IllFormed source reason ∧
        e = .malformed reason := by
  have hplain {before : List Char} (hangle : '<' ∉ before) (hmark : '&' ∉ before) :
      ∀ c ∈ before, Scan.isMark c = false := by
    intro c hc
    rw [Scan.isMark, Bool.or_eq_false_iff, beq_eq_false_iff_ne, beq_eq_false_iff_ne]
    exact ⟨fun h => hmark (h ▸ hc), fun h => hangle (h ▸ hc)⟩
  refine ⟨fun hwell => ?_, fun fault h => Markup.failure_of_parse h, fun before body htext hangle hmark => ?_,
    fun before name attributes rest htext hangle hmark hname hattributes hlong => ?_, fun e he => ?_⟩
  · cases hp : Markup.parse text filename with
    | ok document => exact .inl ⟨document, rfl⟩
    | error fault =>
      rcases Markup.failure_of_parse hp with ⟨issue, hu, hissue⟩ | ⟨reason, hill, -⟩
      · have hcode : issue.code = "ParseError" := by
          obtain ⟨_, _, _, -, -, rfl⟩ := hu
          rfl
        exact .inr ⟨fault, issue, rfl, hissue, hcode, hu⟩
      · exact absurd hill (hwell reason)
  · refine ⟨fun reason hill => ?_, fun inside hin => ?_⟩
    · rw [Markup.parse_of_refused htext (hplain hangle hmark) (.declared (Lexeme.markedSection_of_illOpened hill))]
      cases hill <;> rfl
    · exact Markup.parse_of_refused htext (hplain hangle hmark) (.declared (Lexeme.markedSection_of_encloses hin)) filename
  · obtain ⟨count, htag⟩ := Lexeme.startTag_of_overlong hname hattributes hlong rest
    obtain ⟨c, cs, hcs, hc, -⟩ := exists_of_isPlainName hname
    have halpha : (name.toList ++ (quotedAll attributes ++ '>' :: rest)).head?.any Char.isAlpha := by
      rw [hcs]
      exact isAlpha_of_isLower hc
    exact ⟨count, Markup.parse_of_refused htext (hplain hangle hmark) (.tag halpha htag) filename⟩
  · have hp : setting.Processes filename text (setting.processed filename text) := setting.processes filename text
    generalize setting.processed filename text = p at hp he
    cases hp with
    | flattened => cases he
    | unparsed hparse =>
      cases he
      obtain ⟨fault, hfault, rfl⟩ := Resolver.parse_of_run hparse
      rcases Markup.issue_or_illFormed hfault with hissue | ⟨reason, hill, hreason⟩
      · exact .inl hissue
      · exact .inr (.inr ⟨text, reason, .inl rfl, hill, hreason⟩)
    | stopped hparse hr =>
      cases he
      cases hr.causes with
      | issue i => exact .inl ⟨i, rfl⟩
      | unread hread => exact .inr (.inl ⟨_, _, hread, rfl⟩)
      | @unparsed path source fault hread hfault =>
        rcases Markup.issue_or_illFormed hfault with hissue | ⟨reason, hill, hreason⟩
        · exact .inl hissue
        · exact .inr (.inr ⟨source, reason, .inr ⟨path, hread⟩, hill, hreason⟩)

/-- A conditional section that is refused with its place, and a layout that opens a section of no known kind. -/
theorem refusals_conditional :
    let setting := ofTexts [("/w/l", "x<![foo]>")]
    (∀ reason, ¬ Markup.IllFormed "<![if x]>" reason) ∧
    (∃ fault issue, Markup.parse "<![if x]>" (some "f") = .error fault ∧ fault.failure = .issue issue ∧
      issue.code = "ParseError" ∧ issue.location? = some ⟨some "f", 1, 1⟩) ∧
    (setting.processed none "<extends src=l>").malformed? = some (.unknownSection "foo") ∧
    ∃ source, setting.Source none "<extends src=l>" source ∧ Markup.IllFormed source (.unknownSection "foo") := by
  intro setting
  have hopens {before body : List Char} (h : "<![if x]>".toList = before ++ '<' :: '!' :: '[' :: body) :
      before = [] ∧ body = ['i', 'f', ' ', 'x', ']', '>'] := by
    have hlist : "<![if x]>".toList = ['<', '!', '[', 'i', 'f', ' ', 'x', ']', '>'] := rfl
    rw [hlist] at h
    cases before with
    | nil =>
      cases h
      exact ⟨rfl, rfl⟩
    | cons c before =>
      have hmem : '<' ∈ ['!', '[', 'i', 'f', ' ', 'x', ']', '>'] :=
        (List.cons.inj h).2 ▸ List.mem_append_right _ (List.mem_cons_self ..)
      exact absurd hmem (by decide)
  have hwell : ∀ reason, ¬ Markup.IllFormed "<![if x]>" reason := by
    intro reason h
    cases h with
    | opens htext hill =>
      obtain ⟨rfl, rfl⟩ := hopens htext
      cases hill with
      | nameless hc ha =>
        cases hc
        exact absurd ha (by decide)
      | unknown hn hname => exact hname (by decide)
    | number hlong =>
      obtain ⟨-, before, _, _, htext, -⟩ := hlong
      have hmem : '&' ∈ "<![if x]>".toList := htext ▸ List.mem_append_right _ (List.mem_cons_self ..)
      exact absurd hmem (by decide)
  have hstopped : (setting.processed none "<extends src=l>").malformed? = some (.unknownSection "foo") := by
    decide +kernel
  refine ⟨hwell, ?_, hstopped, ?_⟩
  · obtain ⟨hread, -⟩ := refusals setting (some "f") "<![if x]>"
    rcases hread hwell with ⟨document, hdocument⟩ | ⟨fault, issue, hfault, hissue, hcode, hu⟩
    · have hrefused : (Markup.parse "<![if x]>" (some "f")).isOk = false := by decide +kernel
      exact absurd (hrefused.symm.trans (congrArg Except.isOk hdocument)) Bool.false_ne_true
    · refine ⟨fault, issue, hfault, hissue, hcode, ?_⟩
      obtain ⟨before, body, inside, htext, -, rfl⟩ := hu
      obtain ⟨rfl, rfl⟩ := hopens htext
      rfl
  · obtain ⟨-, -, -, -, hrun⟩ := refusals setting none "<extends src=l>"
    rcases hrun _ (Processed.outcome_of_malformed? hstopped) with
      ⟨issue, hissue⟩ | ⟨path, fault, -, hfault⟩ | ⟨source, reason, hsource, hill, hreason⟩
    · exact nomatch hissue
    · exact nomatch hfault
    · cases hreason
      exact ⟨source, hsource, hill⟩

/-- A section of no known kind stops the reading with a failure that is no issue. -/
theorem malformed_unknown_section : ¬ ∀ (text : String) (filename : Option String),
    (∃ document, Markup.parse text filename = .ok document) ∨ ∃ fault issue,
      Markup.parse text filename = .error fault ∧ fault.failure = .issue issue ∧ issue.code = "ParseError" := by
  intro h
  have hparse : Markup.parse "<![foo]>" none = .error (.malformed (.unknownSection "foo")) := rfl
  rcases h "<![foo]>" none with ⟨document, hdocument⟩ | ⟨fault, issue, hfault, hissue, -⟩
  · exact nomatch hparse.symm.trans hdocument
  · cases hparse.symm.trans hfault
    exact nomatch hissue

end Setting

end LayoutInheritance
