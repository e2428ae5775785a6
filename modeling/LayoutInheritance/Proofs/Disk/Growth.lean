import LayoutInheritance.Disk.Basic
import Mathlib.Data.List.Basic

/-! How a disk grows. Directories are made where nothing was, and files are written at their ends: whatever was there
before is there afterwards, a file with more bytes perhaps. So a path that leads to a file goes on doing so. -/

namespace LayoutInheritance.Disk

variable {d d' d'' : Disk} {cwd p : Path} {place q : Place} {comps rest : List (List Char)} {bytes old : List UInt8}
  {e e' e'' : Entry}

/-- What an entry may become. -/
inductive Entry.Grows : Entry → Entry → Prop
  | directory : Entry.Grows .directory .directory
  | file (bytes more : List UInt8) : Entry.Grows (.file bytes) (.file (bytes ++ more))

theorem Entry.Grows.refl (e : Entry) : e.Grows e := by
  cases e with
  | directory => exact .directory
  | file bytes => simpa using Entry.Grows.file bytes []

theorem Entry.Grows.trans (h : e.Grows e') (h' : e'.Grows e'') : e.Grows e'' := by
  cases h with
  | directory => exact h'
  | file bytes more =>
    cases h' with
    | file _ more' =>
      rw [List.append_assoc]
      exact .file bytes _

/-- Nothing that was there is gone, and no file has lost anything. -/
def Grows (d d' : Disk) : Prop :=
  ∀ place e, d.entry? place = some e → ∃ e', d'.entry? place = some e' ∧ e.Grows e'

theorem Grows.refl (d : Disk) : d.Grows d :=
  fun _ e h => ⟨e, h, .refl e⟩

theorem Grows.trans (h : d.Grows d') (h' : d'.Grows d'') : d.Grows d'' := by
  intro place e he
  obtain ⟨e', he', hg⟩ := h place e he
  obtain ⟨e'', he'', hg'⟩ := h' place e' he'
  exact ⟨e'', he'', hg.trans hg'⟩

theorem Grows.directory (h : d.Grows d') (hd : d.entry? place = some .directory) :
    d'.entry? place = some .directory := by
  obtain ⟨e, he, hg⟩ := h place _ hd
  cases hg
  exact he

theorem Grows.file (h : d.Grows d') (hf : d.entry? place = some (.file bytes)) :
    ∃ more, d'.entry? place = some (.file (bytes ++ more)) := by
  obtain ⟨e, he, hg⟩ := h place _ hf
  cases hg with
  | file _ more => exact ⟨more, he⟩

/-! ### Single entries -/

theorem entry?_put (hp : place ≠ []) (e : Entry) (q : Place) :
    Disk.entry? ⟨d.entries.put place e⟩ q = if q = place then some e else d.entry? q := by
  unfold entry?
  by_cases hq : q = []
  · rw [if_pos hq, if_pos hq, if_neg (hq ▸ Ne.symm hp)]
  · simp only [if_neg hq, Dictionary.get?_put, beq_iff_eq]

/-- An entry may be put where nothing is, or where it grows out of what is there. -/
theorem grows_put (hp : place ≠ []) (h : ∀ e₀, d.entry? place = some e₀ → e₀.Grows e) :
    d.Grows ⟨d.entries.put place e⟩ := by
  intro q e₀ he₀
  rw [entry?_put hp]
  split
  · next hq =>
    subst hq
    exact ⟨e, rfl, h e₀ he₀⟩
  · exact ⟨e₀, he₀, .refl e₀⟩

/-! ### Walks -/

/-- What a walk that ends at an entry finds. -/
def Entry.found : Entry → Found
  | directory => .directory
  | file bytes => .file bytes

theorem Entry.found_inj : e.found = e'.found ↔ e = e' := by
  cases e <;> cases e' <;> simp [Entry.found]

theorem walk_nil (d : Disk) (place : Place) :
    d.walk place [] = (place, ((d.entry? place).map Entry.found).getD .nothing) := by
  rw [walk]
  cases d.entry? place with
  | none => rfl
  | some e => cases e <;> rfl

theorem walk_cons (hd : d.entry? place = some .directory) (name : List Char) (rest : List (List Char)) :
    d.walk place (name :: rest) = if name = Path.parentComponent then d.walk place.dropLast rest
      else if longestName < byteLength name then (place, .nameTooLong) else d.walk (place ++ [name]) rest := by
  simp only [walk, hd]

/-- A walk that finds something passes directories only. -/
theorem directory_of_walk {name : List Char} (h : d.walk place (name :: rest) = (q, e.found)) :
    d.entry? place = some .directory := by
  rw [walk] at h
  split at h
  · cases e <;> cases h
  · cases e <;> cases h
  · assumption

/-- A walk goes on from the place where it found a directory. -/
theorem walk_append (h : d.walk place comps = (q, .directory)) (rest : List (List Char)) :
    d.walk place (comps ++ rest) = d.walk q rest := by
  induction comps generalizing place with
  | nil =>
    obtain ⟨rfl, -⟩ := Prod.mk.inj h
    rfl
  | cons name comps ih =>
    have hd : d.entry? place = some .directory := directory_of_walk (e := .directory) h
    rw [List.cons_append, walk_cons hd]
    rw [walk_cons hd] at h
    split at h
    · next hup =>
      rw [if_pos hup]
      exact ih h
    · next hup =>
      rw [if_neg hup]
      split at h
      · cases h
      · next hlong =>
        rw [if_neg hlong]
        exact ih h

/-- What is found is at the place where the walk ends. -/
theorem entry?_of_walk (h : d.walk place comps = (q, e.found)) : d.entry? q = some e := by
  induction comps generalizing place with
  | nil =>
    obtain ⟨rfl, hfound⟩ := Prod.mk.inj ((walk_nil d place).symm.trans h)
    cases hp : d.entry? place with
    | none =>
      rw [hp] at hfound
      cases e <;> cases hfound
    | some e₀ =>
      rw [hp] at hfound
      rw [Entry.found_inj.1 hfound]
  | cons name rest ih =>
    rw [walk_cons (directory_of_walk h)] at h
    split at h
    · exact ih h
    · split at h
      · cases e <;> cases h
      · exact ih h

theorem entry?_of_walk_nothing (h : d.walk place comps = (q, .nothing)) : d.entry? q = none := by
  induction comps generalizing place with
  | nil =>
    obtain ⟨rfl, hfound⟩ := Prod.mk.inj ((walk_nil d place).symm.trans h)
    cases hp : d.entry? place with
    | none => rfl
    | some e =>
      rw [hp] at hfound
      cases e <;> cases hfound
  | cons name rest ih =>
    rw [walk] at h
    split at h
    · cases h
      assumption
    · cases h
    · split at h
      · exact ih h
      · split at h
        · cases h
        · exact ih h

/-- A walk ends where it did, at what has become of the entry. -/
theorem Grows.walk (hg : d.Grows d') (h : d.walk place comps = (q, e.found)) :
    ∃ e', e.Grows e' ∧ d'.walk place comps = (q, e'.found) := by
  induction comps generalizing place with
  | nil =>
    obtain ⟨e', he', hgrows⟩ := hg q e (entry?_of_walk h)
    have hq : place = q := congrArg Prod.fst ((walk_nil d place).symm.trans h)
    subst hq
    exact ⟨e', hgrows, by rw [walk_nil, he']; rfl⟩
  | cons name rest ih =>
    have hd := directory_of_walk h
    rw [walk_cons hd] at h
    rw [walk_cons (hg.directory hd)]
    split at h
    · next hup =>
      rw [if_pos hup]
      exact ih h
    · next hup =>
      rw [if_neg hup]
      split at h
      · cases e <;> cases h
      · next hlong =>
        rw [if_neg hlong]
        exact ih h

/-! ### Paths -/

/-- The place that a path is walked from. -/
def start (cwd p : Path) : Place :=
  if p.isAbsolute then [] else cwd.components

theorem walk_of_find {found : Found} (h : d.find cwd p = (q, found)) (hn : found ≠ .unnameable)
    (hl : found ≠ .nameTooLong) :
    p.hasNull = false ∧ ¬ longestPath < byteLength p.chars ∧ d.walk (start cwd p) p.components = (q, found) := by
  unfold find at h
  split at h
  · exact absurd (congrArg Prod.snd h).symm hn
  · next hnull =>
    split at h
    · exact absurd (congrArg Prod.snd h).symm hl
    · next hlong => exact ⟨Bool.eq_false_iff.2 hnull, hlong, h⟩

theorem walk_of_find_entry (h : d.find cwd p = (q, e.found)) :
    p.hasNull = false ∧ ¬ longestPath < byteLength p.chars ∧ d.walk (start cwd p) p.components = (q, e.found) := by
  apply walk_of_find h <;> cases e <;> exact nofun

theorem find_eq (hn : p.hasNull = false) (hl : ¬ longestPath < byteLength p.chars) :
    d.find cwd p = d.walk (start cwd p) p.components := by
  rw [find, if_neg (Bool.eq_false_iff.1 hn), if_neg hl]
  rfl

theorem Grows.find (hg : d.Grows d') (h : d.find cwd p = (q, e.found)) :
    ∃ e', e.Grows e' ∧ d'.find cwd p = (q, e'.found) := by
  obtain ⟨hn, hl, hw⟩ := walk_of_find_entry h
  obtain ⟨e', hgrows, hw'⟩ := hg.walk hw
  exact ⟨e', hgrows, (find_eq hn hl).trans hw'⟩

/-- A file that is found is found again, with more bytes perhaps. -/
theorem Grows.find_file (hg : d.Grows d') (h : d.find cwd p = (q, .file bytes)) :
    ∃ more, d'.find cwd p = (q, .file (bytes ++ more)) := by
  obtain ⟨e', hgrows, hfind⟩ := hg.find (e := .file bytes) h
  cases hgrows with
  | file _ more => exact ⟨more, hfind⟩

/-! ### Files -/

/-- Where a file is opened, it is there, or its directory is and nothing is in its place. -/
theorem openFile_cases (h : d.openFile cwd p = .ok (place, bytes)) :
    d.find cwd p = (place, .file bytes) ∨ d.find cwd p = (place, .nothing) ∧ bytes = [] ∧
      ∃ parent name, d.find cwd p.parent = (parent, .directory) ∧ p.components.getLast? = some name ∧
        place = parent ++ [name] := by
  unfold openFile at h
  split at h
  · cases h
  · cases h
  · cases h
  · cases h
  · next hfind =>
    cases h
    exact .inl hfind
  · next hfind =>
    split at h
    · next parent name hparent hname =>
      split at h
      · next hplace =>
        cases h
        exact .inr ⟨hfind, rfl, parent, name, hparent, hname, hplace.symm⟩
      · cases h
    · cases h

theorem openFile_of_find (h : d.find cwd p = (place, .file bytes)) : d.openFile cwd p = .ok (place, bytes) := by
  simp only [openFile, h]

theorem ne_nil_of_file (h : d.entry? place = some (.file bytes)) : place ≠ [] := by
  rintro rfl
  cases h

/-- The bytes of an opened file are what is in its place. -/
theorem entry?_of_openFile (h : d.openFile cwd p = .ok (place, bytes)) :
    place ≠ [] ∧ (d.entry? place = some (.file bytes) ∨ d.entry? place = none ∧ bytes = []) := by
  rcases openFile_cases h with hfind | ⟨hfind, rfl, parent, name, -, -, rfl⟩
  · have hentry := entry?_of_walk (walk_of_find_entry (e := .file bytes) hfind).2.2
    exact ⟨ne_nil_of_file hentry, .inl hentry⟩
  · have hentry := entry?_of_walk_nothing (walk_of_find hfind nofun nofun).2.2
    exact ⟨List.append_ne_nil_of_right_ne_nil _ (List.cons_ne_nil _ _), .inr ⟨hentry, rfl⟩⟩

theorem grows_openFile (h : d.openFile cwd p = .ok (place, bytes)) (more : List UInt8) :
    d.Grows (d.put place (bytes ++ more)) := by
  obtain ⟨hp, hentry⟩ := entry?_of_openFile h
  refine grows_put hp fun e he => ?_
  rcases hentry with hentry | ⟨hentry, -⟩
  · cases hentry.symm.trans he
    exact .file bytes more
  · exact nomatch hentry.symm.trans he

/-- The last step of a walk to a place where nothing is leads to a name below. -/
theorem walk_last {parent : Place} {name : List Char} (h : d.walk parent [name] = (parent ++ [name], .nothing))
    (hd : d'.entry? parent = some .directory) (hd' : d.entry? parent = some .directory) :
    d'.walk parent [name] = d'.walk (parent ++ [name]) [] := by
  rw [walk_cons hd'] at h
  rw [walk_cons hd]
  split at h
  · have hplace : parent.dropLast = parent ++ [name] := congrArg Prod.fst ((walk_nil d _).symm.trans h)
    have hlength := congrArg List.length hplace
    rw [List.length_dropLast, List.length_append, List.length_singleton] at hlength
    omega
  · next hup =>
    rw [if_neg hup]
    split at h
    · exact absurd (congrArg Prod.snd h) nofun
    · next hlong => rw [if_neg hlong]

/-- A file that is opened is found once it has been written. -/
theorem find_put (h : d.openFile cwd p = .ok (place, bytes)) (more : List UInt8) :
    (d.put place (bytes ++ more)).find cwd p = (place, .file (bytes ++ more)) := by
  have hg := grows_openFile h more
  have hentry : Disk.entry? (d.put place (bytes ++ more)) place = some (.file (bytes ++ more)) :=
    (entry?_put (entry?_of_openFile h).1 _ _).trans (if_pos rfl)
  rcases openFile_cases h with hfind | ⟨hfind, -, parent, name, hparent, hname, rfl⟩
  · obtain ⟨e, -, hfind'⟩ := hg.find (e := .file bytes) hfind
    have he := entry?_of_walk (walk_of_find_entry hfind').2.2
    rw [hfind', Option.some.inj (he.symm.trans hentry)]
    rfl
  · obtain ⟨hn, hl, hw⟩ := walk_of_find hfind nofun nofun
    have hcomps : p.components = p.parent.components ++ [name] :=
      (List.dropLast_append_getLast? name hname).symm
    have hwalk : d.walk (start cwd p) p.parent.components = (parent, .directory) :=
      (walk_of_find_entry (e := .directory) hparent).2.2
    obtain ⟨e, hgrows, hwalk'⟩ := hg.walk (e := .directory) hwalk
    cases hgrows
    have hd : d.entry? parent = some .directory := entry?_of_walk (e := .directory) hwalk
    rw [hcomps, walk_append hwalk] at hw
    rw [find_eq hn hl, hcomps, walk_append hwalk', walk_last hw (hg.directory hd) hd, walk_nil, hentry]
    rfl

theorem append_eq (h : d.openFile cwd p = .ok (place, bytes)) (more : List UInt8) :
    d.append cwd p more = .ok (d.put place (bytes ++ more)) := by
  rw [append, h]
  rfl

theorem openFile_of_append {more : List UInt8} (h : d.append cwd p more = .ok d') :
    ∃ place bytes, d.openFile cwd p = .ok (place, bytes) ∧ d' = d.put place (bytes ++ more) := by
  cases hopen : d.openFile cwd p with
  | error fault =>
    rw [append, hopen] at h
    cases h
  | ok found =>
    rw [append_eq hopen] at h
    cases h
    exact ⟨_, _, rfl, rfl⟩

theorem grows_append {more : List UInt8} (h : d.append cwd p more = .ok d') : d.Grows d' := by
  obtain ⟨place, bytes, hopen, rfl⟩ := openFile_of_append h
  exact grows_openFile hopen more

/-! ### Directories -/

theorem grows_makeDirectory (h : d.makeDirectory cwd p = .ok d') : d.Grows d' := by
  unfold makeDirectory at h
  split at h
  · cases h
  · cases h
  · cases h
  · cases h
  · cases h
  · next place hfind =>
    split at h
    · split at h
      · next hplace =>
        cases h
        have hentry := entry?_of_walk_nothing (walk_of_find hfind nofun nofun).2.2
        refine grows_put (hplace ▸ List.append_ne_nil_of_right_ne_nil _ (List.cons_ne_nil _ _)) fun e he => ?_
        exact nomatch hentry.symm.trans he
      · cases h
    · cases h

theorem grows_keepDirectory (d : Disk) (cwd p : Path) : d.Grows (d.keepDirectory cwd p).1 := by
  unfold keepDirectory
  split
  · next h => exact grows_makeDirectory h
  · split <;> exact .refl d

theorem grows_makeDirectoriesWithin (cwd : Path) (bound : ℕ) (p : Path) (d : Disk) :
    d.Grows (makeDirectoriesWithin cwd bound p d).1 := by
  induction bound generalizing p d with
  | zero => exact .refl d
  | succ bound ih =>
    have habove := ih p.parent d
    rw [makeDirectoriesWithin]
    split
    · split
      · exact .refl d
      · split
        · next hmade =>
          rw [hmade] at habove
          exact habove.trans (grows_keepDirectory _ cwd p)
        · next hmade =>
          rw [hmade] at habove
          exact habove
    · exact grows_keepDirectory d cwd p

theorem grows_makeDirectories (d : Disk) (cwd p : Path) : d.Grows (d.makeDirectories cwd p).1 :=
  grows_makeDirectoriesWithin cwd _ p d

end LayoutInheritance.Disk
