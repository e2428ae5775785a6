import LayoutInheritance.Command.Run
import LayoutInheritance.Proofs.Options.Section
import Mathlib.Data.List.TakeWhile
import Mathlib.Tactic.SplitIfs

/-! Which source of options wins. A flag comes before the environment, the environment before the file, and the file
before the options to start from, for the root and for the encoding each by itself. Of the encodings the one that wins
is checked before the flags, and the flag's own one after that; no other encoding has to be known. -/

namespace LayoutInheritance

/-- The first of several that is given. -/
def firstGiven {α : Type} : List (Option α) → Option α
  | [] => none
  | x :: rest => x.or (firstGiven rest)

/-- A text that is not empty. -/
def nonempty (s? : Option String) : Option String :=
  s?.filter fun s => s ≠ ""

/-- A text between blanks, which begins and ends with no blank. -/
def Text.Stripped (whole inside : List Char) : Prop :=
  ∃ before after, whole = before ++ inside ++ after ∧ (∀ c ∈ before, isBlank c) ∧ (∀ c ∈ after, isBlank c) ∧
    (∀ c ∈ inside.head?, isBlank c = false) ∧ ∀ c ∈ inside.getLast?, isBlank c = false

/-- No name among these holds a null character. -/
def Encoding.NullFree (name? : Option String) : Prop :=
  ∀ name ∈ name?, hasNull name = false

instance (name? : Option String) : Decidable (Encoding.NullFree name?) :=
  inferInstanceAs (Decidable (∀ name ∈ name?, Encoding.hasNull name = false))

attribute [ext] Options

namespace Options

/-- The root that the file at a path names. A relative one is joined to the directory of the file. -/
def rootOfFile (cwd : Path) (path root : String) : Path :=
  let root := Path.ofString root
  if root.isAbsolute then root else (cwd.absolute (Path.ofString path)).parent.join root

/-- The encoding that the environment names. The default one stands for blanks alone. -/
def encodingOfEnvironment (env : Environment) : Option String :=
  (nonempty env.encoding).map fun name => if trimmed name = "" then defaultEncoding else trimmed name

/-- The root that a configuration file names, if there is a file and it names one. -/
def rootOfFile? (cwd : Path) (config? : Option String) (sect : Section) : Option Path :=
  config?.bind fun path => sect.root.map (rootOfFile cwd path)

/-- What is chosen before the flags. -/
def chosen (cwd : Path) (env : Environment) (base : Options) (config? : Option String) (sect : Section) : Options where
  root := firstGiven [(nonempty env.root).map Path.ofString, rootOfFile? cwd config? sect, base.root]
  encoding := ((encodingOfEnvironment env).or sect.encoding).getD base.encoding

/-- A configuration file with its section; without a file there is an empty one. -/
inductive Configured (d : Disk) (c : ConfigReader) (cwd : Path) : Option String → Section → Prop
  | none : Configured d c cwd none {}
  | file {path document sect} : d.readYaml c.document cwd path = .ok document → document.Configures sect →
      Configured d c cwd (some path) sect

end Options

variable {s? : Option String} {s name : String}

theorem nonempty_of_ne (h : s ≠ "") : nonempty (some s) = some s := by
  simp [nonempty, h]

theorem mem_nonempty : s ∈ nonempty s? ↔ s ∈ s? ∧ s ≠ "" := by
  simp [nonempty, Option.filter_eq_some_iff]

/-! ### Blanks -/

namespace Text

theorem stripped_trimBlank (cs : List Char) : Stripped cs (trimBlank cs) := by
  obtain ⟨rest, hrest⟩ : ∃ rest, rest = cs.dropWhile isBlank := ⟨_, rfl⟩
  have hcs : cs = cs.takeWhile isBlank ++ rest := by rw [hrest, List.takeWhile_append_dropWhile]
  have hinside : rest = trimBlank cs ++ (rest.reverse.takeWhile isBlank).reverse := by
    rw [trimBlank, ← hrest, ← List.reverse_append, List.takeWhile_append_dropWhile, List.reverse_reverse]
  refine ⟨cs.takeWhile isBlank, (rest.reverse.takeWhile isBlank).reverse, ?_, fun c hc => List.mem_takeWhile_imp hc,
    fun c hc => List.mem_takeWhile_imp (List.mem_reverse.1 hc), fun c hc => ?_, fun c hc => ?_⟩
  · rw [List.append_assoc, ← hinside]
    exact hcs
  · have hhead : rest.head? = some c := by
      rw [hinside, List.head?_append, hc, Option.some_or]
    have hnot := List.head?_dropWhile_not isBlank cs
    rw [← hrest, hhead] at hnot
    exact hnot
  · have hnot := List.head?_dropWhile_not isBlank rest.reverse
    rw [trimBlank, ← hrest, List.getLast?_reverse] at hc
    rw [hc] at hnot
    exact hnot

theorem Stripped.subset {whole inside : List Char} (h : Stripped whole inside) : inside ⊆ whole := by
  obtain ⟨before, after, rfl, -⟩ := h
  simp

end Text

theorem Options.hasNull_trimmed (h : Encoding.hasNull name = false) : Encoding.hasNull (trimmed name) = false := by
  rw [Encoding.hasNull, ← Bool.not_eq_true, List.contains_iff_mem] at h ⊢
  rw [trimmed, String.toList_ofList]
  exact fun hm => h ((Text.stripped_trimBlank _).subset hm)

/-! ### Checked encodings -/

theorem Encoding.ne_empty_of_isKnown (h : isKnown name) : name ≠ "" := by
  rintro rfl
  exact absurd h (by decide +kernel)

theorem checkEncoding_of_isKnown (hn : Encoding.hasNull name = false) (h : Encoding.isKnown name) :
    checkEncoding name = .ok name := by
  simp only [checkEncoding, hn, h, Bool.false_eq_true, if_false, if_true]

theorem checkEncoding_of_not_isKnown (hn : Encoding.hasNull name = false) (h : ¬ Encoding.isKnown name) :
    checkEncoding name = .error (.issue (ConfigIssue.unknownEncoding name)) := by
  simp only [checkEncoding, hn, h, Bool.false_eq_true, if_false]

/-- A name is known, it holds a null character, or it is reported. -/
theorem checkEncoding_cases (name : String) :
    ((Encoding.isKnown name ∧ Encoding.hasNull name = false) ∧ checkEncoding name = .ok name) ∨
    (Encoding.hasNull name ∧ checkEncoding name = .error (.file .nullInEncoding)) ∨
      ¬ Encoding.isKnown name ∧ checkEncoding name = .error (.issue (ConfigIssue.unknownEncoding name)) := by
  rw [checkEncoding]
  split_ifs with hn hk
  · exact .inr (.inl ⟨hn, rfl⟩)
  · exact .inl ⟨⟨hk, eq_false_of_ne_true hn⟩, rfl⟩
  · exact .inr (.inr ⟨hk, rfl⟩)

namespace Options

variable {d : Disk} {c : ConfigReader} {cwd : Path} {path : String} {env : Environment} {base o : Options}
  {config? : Option String} {sect : Section} {document : Yaml.Document} {a : Arguments}

/-! ### Single sources -/

theorem withEnvironment_root (o : Options) (root? : Option String) :
    o.withEnvironment ⟨root?, none⟩ = { o with root := ((nonempty root?).map Path.ofString).or o.root } := by
  simp only [withEnvironment]
  split
  · rfl
  · rfl
  · next root hne =>
    rw [nonempty_of_ne hne]
    rfl

theorem withEnvironment_eq (o : Options) (env : Environment) : o.withEnvironment env =
    ⟨((nonempty env.root).map Path.ofString).or o.root, (encodingOfEnvironment env).getD o.encoding⟩ := by
  have hroot := withEnvironment_root o env.root
  simp only [withEnvironment, encodingOfEnvironment] at hroot ⊢
  rw [hroot]
  split
  · next he => rw [he]; rfl
  · next he => rw [he]; rfl
  · next name hne he =>
    rw [he, nonempty_of_ne hne]
    simp only [withEncoding, String.isEmpty_iff, Option.map_some, Option.getD_some]

theorem withSection_root (o : Options) (cwd : Path) (path : String) (root? : Option String) :
    o.withSection cwd path ⟨root?, none⟩ =
      { o with root := (rootOfFile? cwd (some path) ⟨root?, none⟩).or o.root } := by
  cases root? with
  | none => rfl
  | some root =>
    have hjoin : (cwd.absolute (Path.ofString path)).parent.join (Path.ofString root) = rootOfFile cwd path root := by
      simp only [rootOfFile]
      split
      · next habs => rw [Path.join, if_pos habs]
      · rfl
    exact congrArg (fun root => { o with root := some root }) hjoin

theorem withSection_eq (o : Options) (cwd : Path) (path : String) (h : ∀ name ∈ sect.encoding, name ≠ "") :
    o.withSection cwd path sect =
      ⟨(rootOfFile? cwd (some path) sect).or o.root, sect.encoding.getD o.encoding⟩ := by
  obtain ⟨root?, encoding?⟩ := sect
  cases encoding? with
  | none => exact withSection_root o cwd path root?
  | some name =>
    have hne : ¬ name.isEmpty := fun he => h name rfl (String.isEmpty_iff.1 he)
    have hname : o.withSection cwd path ⟨root?, some name⟩ = (o.withSection cwd path ⟨root?, none⟩).withEncoding name :=
      rfl
    rw [hname, withSection_root, withEncoding, if_neg hne]
    rfl

/-! ### Loading -/

theorem ne_empty_of_configures (h : document.Configures sect) : ∀ name ∈ sect.encoding, name ≠ "" := by
  cases h with
  | absent => exact nofun
  | present _ _ _ he =>
    intro name hname
    rw [Option.mem_def] at hname
    rw [hname] at he
    cases he with
    | given hne => exact hne

/-- What loading checks is what is chosen. -/
theorem load_of_configured (hc : Configured d c cwd config? sect) (env : Environment) (base : Options) :
    (load d c cwd env base config?).outcome =
      (checkEncoding (chosen cwd env base config? sect).encoding).map fun _ => chosen cwd env base config? sect := by
  have finish {o : Options} (hr : (rootOfFile? cwd config? sect).or base.root = o.root)
      (he : sect.encoding.getD base.encoding = o.encoding) :
      (do
        let o := o.withEnvironment env
        let _ ← checkEncoding o.encoding
        return o : Except Failure Options) =
      (checkEncoding (chosen cwd env base config? sect).encoding).map fun _ => chosen cwd env base config? sect := by
    have hchosen : o.withEnvironment env = chosen cwd env base config? sect := by
      rw [withEnvironment_eq, ← hr, ← he, chosen]
      simp only [firstGiven, Option.or_none]
      cases encodingOfEnvironment env <;> rfl
    simp only [hchosen]
    cases checkEncoding (chosen cwd env base config? sect).encoding <;> rfl
  cases hc with
  | none => exact finish rfl rfl
  | @file path _ _ hy hs =>
    simp only [load, (Disk.readSection_eq_ok_iff hy).2 hs, withSection_eq base cwd path (ne_empty_of_configures hs)]
    exact finish rfl rfl

/-- The encoding of the flags over the options `o`, where there is one. -/
def withFlag (encoding? : Option String) (o : Options) : Except Failure Options :=
  match nonempty encoding? with
  | none => .ok o
  | some name => (checkEncoding name).map fun encoding => { o with encoding }

theorem overlay_root (o : Options) (root? : Option String) : ({ root? } : Arguments).overlay o =
    .ok { o with root := ((nonempty root?).map Path.ofString).or o.root } := by
  simp only [Arguments.overlay]
  split
  · rfl
  · rfl
  · next root hne =>
    rw [nonempty_of_ne hne]
    rfl

/-- The flags over the options that were loaded. -/
theorem overlay_eq (a : Arguments) (o : Options) : a.overlay o =
    withFlag a.encoding? { o with root := ((nonempty a.root?).map Path.ofString).or o.root } := by
  have hroot := overlay_root o a.root?
  simp only [Arguments.overlay, withFlag] at hroot ⊢
  split
  · next he => rw [he]; exact hroot
  · next he => rw [he]; exact hroot
  · next name hne he =>
    rw [he, nonempty_of_ne hne, Except.ok.inj hroot]
    dsimp only
    cases checkEncoding name <;> rfl

/-! ### Loading and flags -/

theorem nullFree_chosen (henv : Encoding.NullFree env.encoding) (hsect : Encoding.NullFree sect.encoding)
    (hbase : Encoding.NullFree base.encoding) :
    Encoding.hasNull (chosen cwd env base config? sect).encoding = false := by
  rw [chosen]
  cases he : encodingOfEnvironment env with
  | none =>
    cases hs : sect.encoding with
    | none => exact hbase _ rfl
    | some name => exact hsect _ hs
  | some name =>
    obtain ⟨given, hgiven, rfl⟩ := Option.map_eq_some_iff.1 he
    have hnull : Encoding.hasNull given = false := henv given (mem_nonempty.1 hgiven).1
    simp only [Option.some_or, Option.getD_some]
    split
    · decide
    · exact hasNull_trimmed hnull

/-- The name of an encoding that has to be known: the one that is chosen before the flags, and that of the flags. -/
def Checked (o : Options) (flag? : Option String) (name : String) : Prop :=
  name = o.encoding ∨ name ∈ nonempty flag?

/-- The encoding that results is one that has to be known. -/
theorem checked_getD (o : Options) (flag? : Option String) : Checked o flag? ((nonempty flag?).getD o.encoding) := by
  cases hf : nonempty flag? with
  | none => exact .inl rfl
  | some flag => exact .inr hf

theorem Checked.hasNull_eq_false {flag? : Option String} (h : Checked o flag? name)
    (hn : Encoding.hasNull o.encoding = false) (hflag : Encoding.NullFree flag?) : Encoding.hasNull name = false := by
  rcases h with rfl | hm
  · exact hn
  · exact hflag name (mem_nonempty.1 hm).1

/-- The encoding of the flags is checked where there is one. -/
theorem withFlag_cases (flag? : Option String) (o : Options) :
    ((∀ name ∈ nonempty flag?, Encoding.isKnown name ∧ Encoding.hasNull name = false) ∧
        withFlag flag? o = .ok { o with encoding := (nonempty flag?).getD o.encoding }) ∨
      (∃ name ∈ nonempty flag?, Encoding.hasNull name ∧ withFlag flag? o = .error (.file .nullInEncoding)) ∨
      ∃ name ∈ nonempty flag?, ¬ Encoding.isKnown name ∧
        withFlag flag? o = .error (.issue (ConfigIssue.unknownEncoding name)) := by
  rw [withFlag]
  cases hf : nonempty flag? with
  | none => exact .inl ⟨nofun, rfl⟩
  | some name =>
    rcases checkEncoding_cases name with ⟨hk, hcheck⟩ | ⟨hn, hcheck⟩ | ⟨hk, hcheck⟩
    · refine .inl ⟨fun other hother => Option.some.inj hother ▸ hk, ?_⟩
      simp only [hcheck]
      rfl
    · refine .inr (.inl ⟨name, rfl, hn, ?_⟩)
      simp only [hcheck]
      rfl
    · refine .inr (.inr ⟨name, rfl, hk, ?_⟩)
      simp only [hcheck]
      rfl

/-- The encoding that is chosen is the first one given before the flags. -/
theorem firstGiven_eq (cwd : Path) (env : Environment) (base : Options) (config? : Option String) (sect : Section) :
    firstGiven [encodingOfEnvironment env, sect.encoding, base.encoding] =
      some (chosen cwd env base config? sect).encoding := by
  cases he : encodingOfEnvironment env <;> cases hs : sect.encoding <;> simp [firstGiven, chosen, he, hs]

theorem exists_unknown_iff (cwd : Path) (env : Environment) (base : Options) (config? : Option String) (sect : Section)
    (flag? : Option String) :
    ((∃ name ∈ firstGiven [encodingOfEnvironment env, sect.encoding, base.encoding], ¬ Encoding.isKnown name) ∨
      ∃ name ∈ nonempty flag?, ¬ Encoding.isKnown name) ↔
    ∃ name, Checked (chosen cwd env base config? sect) flag? name ∧ ¬ Encoding.isKnown name := by
  simp only [Checked, firstGiven_eq cwd env base config? sect, Option.mem_some_iff, or_and_right, exists_or, eq_comm]

/-- Either all encodings that have to be known are, or one of those that are not is refused. -/
theorem loaded_cases (hc : Configured d c cwd config? sect) (env : Environment) (base : Options) (a : Arguments) :
    let o := chosen cwd env base config? sect
    let result := (load d c cwd env base config?).outcome.bind a.overlay
    ((∀ name, Checked o a.encoding? name → Encoding.isKnown name ∧ Encoding.hasNull name = false) ∧ result =
      .ok ⟨((nonempty a.root?).map Path.ofString).or o.root, (nonempty a.encoding?).getD o.encoding⟩) ∨
    (∃ name, Checked o a.encoding? name ∧ Encoding.hasNull name ∧ result = .error (.file .nullInEncoding)) ∨
    ∃ name, Checked o a.encoding? name ∧ ¬ Encoding.isKnown name ∧
      result = .error (.issue (ConfigIssue.unknownEncoding name)) := by
  intro o result
  have hload : result = ((checkEncoding o.encoding).map fun _ => o).bind a.overlay :=
    congrArg (Except.bind · a.overlay) (load_of_configured hc env base)
  rcases checkEncoding_cases o.encoding with ⟨hk, hcheck⟩ | ⟨hn, hcheck⟩ | ⟨hk, hcheck⟩ <;> rw [hcheck] at hload
  · have hoverlay : result = withFlag a.encoding? { o with root := ((nonempty a.root?).map Path.ofString).or o.root } :=
      hload.trans (overlay_eq a o)
    rw [hoverlay]
    rcases withFlag_cases a.encoding? { o with root := ((nonempty a.root?).map Path.ofString).or o.root } with
      ⟨hknown, hflag⟩ | ⟨name, hm, hn, hflag⟩ | ⟨name, hm, hk, hflag⟩
    · refine .inl ⟨?_, hflag⟩
      rintro name (rfl | hm)
      · exact hk
      · exact hknown name hm
    · exact .inr (.inl ⟨name, .inr hm, hn, hflag⟩)
    · exact .inr (.inr ⟨name, .inr hm, hk, hflag⟩)
  · exact .inr (.inl ⟨o.encoding, .inl rfl, hn, hload⟩)
  · exact .inr (.inr ⟨o.encoding, .inl rfl, hk, hload⟩)

theorem loaded_of_nullFree (hc : Configured d c cwd config? sect)
    (hn : Encoding.hasNull (chosen cwd env base config? sect).encoding = false)
    (hflag : Encoding.NullFree a.encoding?) :
    let o := chosen cwd env base config? sect
    let result := (load d c cwd env base config?).outcome.bind a.overlay
    ((∀ name, Checked o a.encoding? name → Encoding.isKnown name) ∧ result =
      .ok ⟨((nonempty a.root?).map Path.ofString).or o.root, (nonempty a.encoding?).getD o.encoding⟩) ∨
    ∃ name, Checked o a.encoding? name ∧ ¬ Encoding.isKnown name ∧
      result = .error (.issue (ConfigIssue.unknownEncoding name)) := by
  intro o result
  rcases loaded_cases hc env base a with hok | ⟨name, hchecked, hnull, -⟩ | hrefused
  · exact .inl (hok.imp_left fun hchecked name h => (hchecked name h).1)
  · exact nomatch hnull.symm.trans (hchecked.hasNull_eq_false hn hflag)
  · exact .inr hrefused

end Options

end LayoutInheritance
