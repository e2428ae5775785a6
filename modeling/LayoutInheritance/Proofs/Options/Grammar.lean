import LayoutInheritance.Proofs.Options.Precedence

/-! Which configuration files are accepted. A document is refused if it is not of the right form, or if the encoding
that is chosen in the end is not known, and for nothing else. Of an accepted one nothing counts but its section:
whatever else stands at the top of the document may be anything. -/

namespace LayoutInheritance

section Related

variable {α β : Type} {R : α → β → Prop} {x : Option α} {y : Option β} {a : α}

theorem rel_swap {S : β → α → Prop} (h : Option.Rel R x y) (hswap : ∀ {a b}, R a b → S b a) : Option.Rel S y x := by
  cases h with
  | none => exact .none
  | some hr => exact .some (hswap hr)

theorem eq_none_of_rel (h : Option.Rel R x y) (hx : x = none) : y = none := by
  cases h with
  | none => rfl
  | some => exact nomatch hx

theorem exists_of_rel (h : Option.Rel R x y) (hx : x = some a) : ∃ b, y = some b ∧ R a b := by
  cases h with
  | none => exact nomatch hx
  | some hr =>
    cases hx
    exact ⟨_, rfl, hr⟩

end Related

namespace Yaml

/-- A collection is no key, but it still is what it is. -/
instance : ReflBEq Value where
  rfl {v} := beq_self_eq_true v.key?

namespace Value

/-- Values that agree as far as one sees without looking into collections. -/
inductive Resembles : Value → Value → Prop
  | refl (v : Value) : Resembles v v
  | collection (m n : Nat) : Resembles (.collection m) (.collection n)

variable {v w : Value} {s : String}

theorem Resembles.symm (h : v.Resembles w) : w.Resembles v := by
  cases h with
  | refl => exact .refl v
  | collection m n => exact .collection n m

theorem Resembles.eq_text (h : Resembles (.text s) w) : w = .text s := by
  cases h with
  | refl => rfl

end Value

namespace Document

variable {d e : Document} {fields fields' : Dictionary Value Value} {name : String} {s? : Option String}
  {sect : Section}

/-- The fields have the same names, and the values under them agree as far as one sees without looking into
collections. -/
def SameFields (fields fields' : Dictionary Value Value) : Prop :=
  ∀ k, Option.Rel Value.Resembles (fields.get? k) (fields'.get? k)

/-- The documents differ in nothing but what stands at the top beside the section. -/
def SameSection (d e : Document) : Prop :=
  Option.Rel (fun entries entries' =>
    Option.Rel (fun v w => Option.Rel SameFields (d.entries? v) (e.entries? w))
      (entries.get? (.text "layouts")) (entries'.get? (.text "layouts"))) d.top? e.top?

theorem SameFields.refl (fields : Dictionary Value Value) : SameFields fields fields := by
  intro k
  cases fields.get? k with
  | none => exact .none
  | some v => exact .some (.refl v)

theorem SameFields.symm (h : SameFields fields fields') : SameFields fields' fields :=
  fun k => rel_swap (h k) .symm

theorem SameSection.symm (h : d.SameSection e) : e.SameSection d :=
  rel_swap h fun hv => rel_swap hv fun hf => rel_swap hf .symm

theorem SameFields.known (h : SameFields fields fields')
    (hknown : ∀ f ∈ fields, f.1 = .text "root" ∨ f.1 = .text "encoding") :
    ∀ f ∈ fields', f.1 = .text "root" ∨ f.1 = .text "encoding" := by
  intro f hf
  obtain ⟨v, hv⟩ : ∃ v, fields'.get? f.1 = some v :=
    Option.isSome_iff_exists.1 (List.lookup_isSome_iff.2 ⟨f, hf, beq_self_eq_true f.1⟩)
  obtain ⟨w, hw, -⟩ := exists_of_rel (h.symm f.1) hv
  obtain ⟨g, hg, hkey⟩ := List.lookup_isSome_iff.1 (Option.isSome_iff_exists.2 ⟨w, hw⟩)
  rcases hknown g hg with he | he <;> rw [he, Value.beq_text] at hkey
  · exact .inl hkey
  · exact .inr hkey

theorem SameFields.field (h : SameFields fields fields') (hf : Field fields name s?) : Field fields' name s? := by
  cases hf with
  | missing hn => exact .missing (eq_none_of_rel (h _) hn)
  | given hs hv =>
    obtain ⟨w, hw, hr⟩ := exists_of_rel (h _) hv
    exact .given hs (hr.eq_text ▸ hw)

theorem HasSection.sameSection (h : d.HasSection fields) (h' : e.HasSection fields')
    (hsame : SameFields fields fields') : d.SameSection e := by
  obtain ⟨entries, v, ht, hv, hf⟩ := h
  obtain ⟨entries', w, ht', hw, hf'⟩ := h'
  rw [SameSection, ht, ht']
  refine .some ?_
  rw [hv, hw]
  refine .some ?_
  rw [hf, hf']
  exact .some hsame

/-- Whether the section has a root and nothing else. -/
def onlyRoot (d : Document) (root : String) : Bool :=
  d.top?.any fun entries => (entries.get? (.text "layouts")).any fun v => (d.entries? v).any fun
    | [(.text "root", .text s)] => s = root
    | _ => false

theorem hasSection_of_onlyRoot {root : String} (h : d.onlyRoot root) : d.HasSection [(.text "root", .text root)] := by
  simp only [onlyRoot, Option.any_eq_true] at h
  obtain ⟨entries, ht, v, hv, fields, hf, hm⟩ := h
  split at hm
  · cases of_decide_eq_true hm
    exact ⟨entries, v, ht, hv, hf⟩
  · exact nomatch hm

theorem SameSection.configures (h : d.SameSection e) (hc : d.Configures sect) : e.Configures sect := by
  cases hc with
  | absent ht hn =>
    obtain ⟨entries, ht', hl⟩ := exists_of_rel h ht
    exact .absent ht' (eq_none_of_rel hl hn)
  | present hs hknown hr he =>
    obtain ⟨_, _, ht, hv, hf⟩ := hs
    obtain ⟨entries, ht', hl⟩ := exists_of_rel h ht
    obtain ⟨w, hw, hm⟩ := exists_of_rel hl hv
    obtain ⟨fields', hf', hsame⟩ := exists_of_rel hm hf
    exact .present ⟨entries, w, ht', hw, hf'⟩ (hsame.known hknown) (hsame.field hr) (hsame.field he)

end Document

end Yaml

namespace Options

variable {d d' : Disk} {c : ConfigReader} {cwd : Path} {path : String} {document document' : Yaml.Document} {sect : Section}

theorem load_of_rejected (hy : d.readYaml c.document cwd path = .ok document) (hr : document.Rejected) (env : Environment)
    (base : Options) :
    ∃ message context, (load d c cwd env base (some path)).outcome = .error (.issue (.config message context)) := by
  rcases Disk.readSection_cases hy with ⟨sect, hc, -⟩ | ⟨-, message, context, hfail⟩
  · exact absurd hr hc.not_rejected
  · refine ⟨message, context, ?_⟩
    simp only [load, hfail]

/-- A document of the right form gives the options that are chosen, or it is refused for their encoding. -/
theorem load_of_configures (hy : d.readYaml c.document cwd path = .ok document) (hc : document.Configures sect)
    {env : Environment} {base : Options} (henv : Encoding.NullFree env.encoding) (hsect : Encoding.NullFree sect.encoding)
    (hbase : Encoding.NullFree base.encoding) :
    let o := chosen cwd env base (some path) sect
    Encoding.isKnown o.encoding ∧ (load d c cwd env base (some path)).outcome = .ok o ∨
      ¬ Encoding.isKnown o.encoding ∧ (load d c cwd env base (some path)).outcome =
        .error (.issue (ConfigIssue.unknownEncoding o.encoding)) := by
  intro o
  have hnull : Encoding.hasNull o.encoding = false := nullFree_chosen henv hsect hbase
  rw [load_of_configured (.file hy hc)]
  by_cases hk : Encoding.isKnown o.encoding
  · rw [checkEncoding_of_isKnown hnull hk]
    exact .inl ⟨hk, rfl⟩
  · rw [checkEncoding_of_not_isKnown hnull hk]
    exact .inr ⟨hk, rfl⟩

/-- A document is refused for its form, or it has the right one. -/
theorem load_cases (hy : d.readYaml c.document cwd path = .ok document) (env : Environment) (base : Options) :
    document.Rejected ∧
        (∃ message context, (load d c cwd env base (some path)).outcome = .error (.issue (.config message context))) ∨
      ∃ sect, document.Configures sect := by
  rcases Disk.readSection_cases hy with ⟨sect, hc, -⟩ | ⟨hr, -⟩
  · exact .inr ⟨sect, hc⟩
  · exact .inl ⟨hr, load_of_rejected hy hr env base⟩

/-- The options do not change with what stands beside the section. -/
theorem load_congr (hy : d.readYaml c.document cwd path = .ok document) (hy' : d'.readYaml c.document cwd path = .ok document')
    (hsame : document.SameSection document') {env : Environment} {base o : Options}
    (h : (load d c cwd env base (some path)).outcome = .ok o) : (load d' c cwd env base (some path)).outcome = .ok o := by
  rcases load_cases hy env base with ⟨-, _, _, he⟩ | ⟨sect, hc⟩
  · exact nomatch he.symm.trans h
  · rw [load_of_configured (.file hy hc)] at h
    rw [load_of_configured (.file hy' (hsame.configures hc)), h]

end Options

end LayoutInheritance
