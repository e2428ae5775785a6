import LayoutInheritance.Options.Load
import Mathlib.Logic.Basic

/-! What a configuration file may hold. At the top is a mapping, in which one entry alone counts; that one is a mapping
with at most two entries, and each of these is a text that is not empty. Reading a file accepts exactly the documents of
this form, and takes nothing from them but the two texts, whatever reader of YAML and whatever checker it relies on. -/

namespace LayoutInheritance

/-- A result that passes a test is there, and it has the property. -/
theorem exists_ok_of_any {ε α : Type} {x : Except ε α} {p : α → Prop} [DecidablePred p]
    (h : (x.toOption.any fun a => p a) = true) : ∃ a, x = .ok a ∧ p a := by
  cases x with
  | error => exact nomatch h
  | ok a => exact ⟨a, rfl, of_decide_eq_true h⟩

namespace Yaml

variable {v : Value} {s name : String}

namespace Value

instance : Decidable (v = .text s) :=
  decidable_of_iff _ beq_text

end Value

namespace Document

/-- The entries at the top of a document. A document without a value has none. -/
def top? (d : Document) : Option (Dictionary Value Value) :=
  match d.root with
  | .null => some []
  | v => d.entries? v

theorem top?_of_ne_null {d : Document} (h : d.root ≠ .null) : d.top? = d.entries? d.root := by
  rw [top?]
  split
  · next hn => exact absurd hn h
  · rfl

/-- A field of a section is missing, or it is a text that is not empty. -/
inductive Field (fields : Dictionary Value Value) (name : String) : Option String → Prop
  | missing : fields.get? (.text name) = none → Field fields name none
  | given {s : String} : s ≠ "" → fields.get? (.text name) = some (.text s) → Field fields name (some s)

/-- These are the entries of the one entry that counts. -/
def HasSection (d : Document) (fields : Dictionary Value Value) : Prop :=
  ∃ entries v, d.top? = some entries ∧ entries.get? (.text "layouts") = some v ∧ d.entries? v = some fields

/-- The document is of the right form, and this is what it says about layouts. -/
inductive Configures (d : Document) : Section → Prop
  | absent {entries} : d.top? = some entries → entries.get? (.text "layouts") = none → Configures d {}
  | present {fields sect} : d.HasSection fields → (∀ e ∈ fields, e.1 = .text "root" ∨ e.1 = .text "encoding") →
      Field fields "root" sect.root → Field fields "encoding" sect.encoding → Configures d sect

/-- What a document may be rejected for. -/
inductive Rejected (d : Document) : Prop
  | noMapping : d.top? = none → Rejected d
  | noSection {entries v} : d.top? = some entries → entries.get? (.text "layouts") = some v →
      d.entries? v = none → Rejected d
  | unknownField {fields e} : d.HasSection fields → e ∈ fields → e.1 ≠ .text "root" → e.1 ≠ .text "encoding" →
      Rejected d
  | noText {fields name v} : d.HasSection fields → name ∈ ["root", "encoding"] → fields.get? (.text name) = some v →
      (∀ s, v = .text s → s = "") → Rejected d

variable {d : Document} {fields fields' : Dictionary Value Value} {sect sect' : Section} {s? s?' : Option String}

theorem HasSection.unique (h : d.HasSection fields) (h' : d.HasSection fields') : fields = fields' := by
  obtain ⟨entries, v, ht, hv, hf⟩ := h
  obtain ⟨entries', v', ht', hv', hf'⟩ := h'
  cases ht.symm.trans ht'
  cases hv.symm.trans hv'
  exact Option.some.inj (hf.symm.trans hf')

theorem HasSection.not_absent {entries : Dictionary Value Value} (h : d.HasSection fields)
    (ht : d.top? = some entries) : entries.get? (.text "layouts") ≠ none := by
  obtain ⟨entries', v, ht', hv, -⟩ := h
  cases ht.symm.trans ht'
  exact fun hn => nomatch hn.symm.trans hv

theorem Field.unique (h : Field fields name s?) (h' : Field fields name s?') : s? = s?' := by
  cases h with
  | missing hn =>
    cases h' with
    | missing => rfl
    | given _ hs => exact nomatch hn.symm.trans hs
  | given _ hs =>
    cases h' with
    | missing hn => exact nomatch hn.symm.trans hs
    | given _ hs' =>
      cases hs.symm.trans hs'
      rfl

theorem Field.not_noText (h : Field fields name s?) (hv : fields.get? (.text name) = some v) :
    ¬ ∀ s, v = .text s → s = "" := by
  cases h with
  | missing hn => exact nomatch hn.symm.trans hv
  | given hs hg =>
    cases hg.symm.trans hv
    exact fun ht => hs (ht _ rfl)

theorem Configures.unique (h : d.Configures sect) (h' : d.Configures sect') : sect = sect' := by
  cases h with
  | absent ht hn =>
    cases h' with
    | absent => rfl
    | present hs' => exact absurd hn (hs'.not_absent ht)
  | present hs _ hr he =>
    cases h' with
    | absent ht hn => exact absurd hn (hs.not_absent ht)
    | present hs' _ hr' he' =>
      cases hs.unique hs'
      obtain ⟨root, encoding⟩ := sect
      obtain ⟨root', encoding'⟩ := sect'
      cases hr.unique hr'
      cases he.unique he'
      rfl

theorem Configures.not_rejected (h : d.Configures sect) : ¬ d.Rejected := by
  intro hrejected
  cases h with
  | absent ht hn =>
    cases hrejected with
    | noMapping ht' => exact nomatch ht.symm.trans ht'
    | noSection ht' hv =>
      cases ht.symm.trans ht'
      exact nomatch hn.symm.trans hv
    | unknownField hs | noText hs => exact hs.not_absent ht hn
  | present hs hknown hr he =>
    cases hrejected with
    | noMapping ht' =>
      obtain ⟨_, _, ht, -⟩ := hs
      exact nomatch ht.symm.trans ht'
    | noSection ht' hv' hf' =>
      obtain ⟨_, _, ht, hv, hf⟩ := hs
      cases ht.symm.trans ht'
      cases hv.symm.trans hv'
      exact nomatch hf.symm.trans hf'
    | unknownField hs' hm hroot hencoding =>
      cases hs.unique hs'
      exact (hknown _ hm).elim hroot hencoding
    | noText hs' hname hv ht =>
      cases hs.unique hs'
      rcases List.mem_cons.1 hname with rfl | hname
      · exact hr.not_noText hv ht
      · cases List.mem_singleton.1 hname
        exact he.not_noText hv ht

/-! ### Deciding the form -/

instance : Decidable (Field fields name s?) :=
  match hv : fields.get? (.text name), s? with
  | none, none => isTrue (.missing hv)
  | none, some _ => isFalse (by
      rintro (_ | ⟨-, hs⟩)
      exact nomatch hv.symm.trans hs)
  | some _, none => isFalse (by
      rintro (hn | _)
      exact nomatch hv.symm.trans hn)
  | some v, some s =>
    decidable_of_iff (s ≠ "" ∧ v = .text s)
      ⟨fun h => .given h.1 (hv.trans (congrArg some h.2)), by
        rintro (_ | ⟨hs, hg⟩)
        exact ⟨hs, Option.some.inj (hv.symm.trans hg)⟩⟩

instance : Decidable (d.Configures sect) :=
  match ht : d.top? with
  | none => isFalse fun h => h.not_rejected (.noMapping ht)
  | some entries =>
    match hv : entries.get? (.text "layouts") with
    | none => decidable_of_iff (sect = {}) ⟨fun h => h ▸ .absent ht hv, fun h => h.unique (.absent ht hv)⟩
    | some v =>
      match hf : d.entries? v with
      | none => isFalse fun h => h.not_rejected (.noSection ht hv hf)
      | some fields =>
        have hs : d.HasSection fields := ⟨entries, v, ht, hv, hf⟩
        decidable_of_iff
          ((∀ e ∈ fields, e.1 = .text "root" ∨ e.1 = .text "encoding") ∧ Field fields "root" sect.root ∧
            Field fields "encoding" sect.encoding)
          ⟨fun h => .present hs h.1 h.2.1 h.2.2, fun h => by
            cases h with
            | absent ht' hn => exact absurd hn (hs.not_absent ht')
            | present hs' hknown hr he =>
              cases hs.unique hs'
              exact ⟨hknown, hr, he⟩⟩

end Document

end Yaml

open Yaml (Value)

namespace Section

variable {d : Yaml.Document} {fields entries : Dictionary Value Value} {name : String} {sect : Section}

theorem field_of_isFieldValue (h : ∀ w ∈ fields.get? (.text name), isFieldValue w) :
    Yaml.Document.Field fields name (text? fields name) := by
  cases hv : fields.get? (.text name) with
  | none =>
    rw [text?, hv]
    exact .missing hv
  | some v =>
    obtain ⟨s, rfl, hs⟩ := isFieldValue_iff.1 (h v hv)
    rw [text?, hv]
    exact .given hs hv

/-- Entries of the form make their section. -/
theorem configures_of_conforms (ht : d.top? = some entries) (h : Conforms d entries) :
    d.Configures (ofEntries d entries) := by
  rw [ofEntries]
  cases hv : entries.get? (.text sectionName) with
  | none => exact .absent ht hv
  | some v =>
    obtain ⟨fields, hf, hknown, hvalues⟩ := h v hv
    simp only [Option.bind_some, hf]
    refine .present ⟨entries, v, ht, hv, hf⟩ (fun e he => ?_) (field_of_isFieldValue (hvalues _ (by simp [fieldNames])))
      (field_of_isFieldValue (hvalues _ (by simp [fieldNames])))
    obtain ⟨name, hname, hkey⟩ := hknown e he
    simp only [fieldNames, List.mem_cons, List.not_mem_nil, or_false] at hname
    rcases hname with rfl | rfl
    · exact .inl hkey
    · exact .inr hkey

theorem rejected_of_not_conforms (ht : d.top? = some entries) (h : ¬ Conforms d entries) : d.Rejected := by
  simp only [Conforms, not_forall] at h
  obtain ⟨v, hv, h⟩ := h
  cases hf : d.entries? v with
  | none => exact .noSection ht hv hf
  | some fields =>
    have hs : d.HasSection fields := ⟨entries, v, ht, hv, hf⟩
    by_cases hknown : ∀ e ∈ fields, ∃ name ∈ fieldNames, e.1 = .text name
    · have hvalues : ¬ ∀ name ∈ fieldNames, ∀ w ∈ fields.get? (.text name), isFieldValue w := fun hvalues =>
        h ⟨fields, hf, hknown, hvalues⟩
      simp only [not_forall] at hvalues
      obtain ⟨name, hname, w, hw, hvalue⟩ := hvalues
      exact .noText hs hname hw fun s ht => by_contra fun hs' => hvalue (isFieldValue_iff.2 ⟨s, ht, hs'⟩)
    · simp only [not_forall] at hknown
      obtain ⟨e, he, hkey⟩ := hknown
      exact .unknownField hs he (fun hroot => hkey ⟨"root", by simp [fieldNames], hroot⟩)
        fun hencoding => hkey ⟨"encoding", by simp [fieldNames], hencoding⟩

end Section

namespace Disk

variable {disk : Disk} {c : ConfigReader} {cwd : Path} {path : String} {d : Yaml.Document} {sect : Section}

/-- A configuration file whose text has a value is read, or its document is rejected with an issue of the
configuration. -/
theorem readSection_cases (hy : disk.readYaml c.document cwd path = .ok d) :
    (∃ sect, d.Configures sect ∧ disk.readSection c cwd path = .ok sect) ∨
      d.Rejected ∧ ∃ message context, disk.readSection c cwd path = .error (.issue (.config message context)) := by
  unfold readSection
  simp only [hy]
  split
  · next hroot =>
    have htop : d.top? = some [] := by rw [Yaml.Document.top?, hroot]
    exact .inl ⟨{}, .absent htop rfl, rfl⟩
  · next hentries hroot =>
    exact .inr ⟨.noMapping ((Yaml.Document.top?_of_ne_null hroot).trans hentries), _, _, rfl⟩
  · next entries hentries hroot =>
    have htop : d.top? = some entries := (Yaml.Document.top?_of_ne_null hroot).trans hentries
    have hform := c.fault?_eq_none d entries
    cases hfault : c.fault? d entries with
    | none => exact .inl ⟨_, Section.configures_of_conforms htop (hform.1 hfault), rfl⟩
    | some fault =>
      have hnot : ¬ Section.Conforms d entries := fun h => nomatch hfault.symm.trans (hform.2 h)
      exact .inr ⟨Section.rejected_of_not_conforms htop hnot, _, _, rfl⟩

theorem readSection_eq_ok_iff (hy : disk.readYaml c.document cwd path = .ok d) :
    disk.readSection c cwd path = .ok sect ↔ d.Configures sect := by
  rcases readSection_cases hy with ⟨sect', hc, hr⟩ | ⟨hrejected, message, context, hr⟩
  · rw [hr]
    exact ⟨fun h => Except.ok.inj h ▸ hc, fun h => congrArg _ (hc.unique h)⟩
  · rw [hr]
    exact ⟨nofun, fun h => absurd hrejected h.not_rejected⟩

end Disk

end LayoutInheritance
