import LayoutInheritance.Path.Basic
import Mathlib.Data.List.Basic

/-! Paths as walks. The pieces of a text, taken one after the other, lead from a place below the top to another: an
empty piece and a dot stay, a parent component goes up, and above the top there is nothing. The normal form of an
absolute path is the place that its walk leads to, and its text is read back as the same path. -/

namespace LayoutInheritance.Path

variable {p q : Path} {anchor : Anchor} {place comps : List (List Char)} {piece cs : List Char}

/-- The place that one piece leads to. -/
def step (place : List (List Char)) (piece : List Char) : List (List Char) :=
  if piece = [] ∨ piece = ['.'] then place
  else if piece = ['.', '.'] then place.dropLast
  else place ++ [piece]

def walk (place pieces : List (List Char)) : List (List Char) :=
  pieces.foldl step place

/-- The path that a text means, seen from another. -/
def evaluate (start : Path) (text : String) : Path :=
  let pieces := text.toList.splitOn '/'
  match anchorOf text.toList with
  | .relative => ⟨start.anchor, walk start.components pieces⟩
  | anchor => ⟨anchor, walk [] pieces⟩

/-- Every component is one: it is not empty, no dot, and holds no slash. -/
def Regular (p : Path) : Prop :=
  ∀ c ∈ p.components, isComponent c ∧ '/' ∉ c

/-- An absolute path whose components are names. -/
structure Canonical (p : Path) : Prop where
  isAbsolute : p.isAbsolute
  names : ∀ c ∈ p.components, c ≠ [] ∧ c ≠ ['.'] ∧ c ≠ ['.', '.'] ∧ '/' ∉ c

theorem isComponent_iff : isComponent piece ↔ piece ≠ [] ∧ piece ≠ ['.'] := by
  simp [isComponent]

theorem Canonical.regular (h : p.Canonical) : p.Regular :=
  fun c hc => ⟨isComponent_iff.2 ⟨(h.names c hc).1, (h.names c hc).2.1⟩, (h.names c hc).2.2.2⟩

/-! ### Pieces of texts -/

theorem pieces_eq (cs : List Char) : pieces cs = cs.splitOn '/' := by
  induction cs with
  | nil => rfl
  | cons c cs ih =>
    rw [pieces, ih, List.splitOn_cons_eq_if_modifyHead]
    simp only [beq_iff_eq]
    split
    · rfl
    · cases hs : List.splitOn '/' cs with
      | nil => exact absurd hs (List.splitOn_ne_nil '/' cs)
      | cons piece rest => rfl

theorem slash_not_mem_pieces {cs : List Char} (h : piece ∈ pieces cs) : '/' ∉ piece := by
  induction cs generalizing piece with
  | nil => simp_all [pieces]
  | cons c cs ih =>
    rw [pieces] at h
    split at h
    · rcases List.mem_cons.1 h with rfl | h
      · exact List.not_mem_nil
      · exact ih h
    · next hc =>
      split at h
      · rw [List.mem_singleton.1 h, List.mem_singleton]
        exact Ne.symm hc
      · next first rest hp =>
        rw [hp] at ih
        rcases List.mem_cons.1 h with rfl | h
        · exact List.not_mem_cons_of_ne_of_not_mem (Ne.symm hc) (ih (List.mem_cons_self ..))
        · exact ih (List.mem_cons_of_mem _ h)

theorem regular_ofChars (cs : List Char) : (ofChars cs).Regular := by
  intro c hc
  obtain ⟨hm, hcomp⟩ := List.mem_filter.1 hc
  exact ⟨hcomp, slash_not_mem_pieces hm⟩

theorem regular_ofString (s : String) : (ofString s).Regular :=
  regular_ofChars s.toList

/-- A joined text does not begin with a slash. -/
theorem head?_intercalate (hr : ∀ c ∈ comps, isComponent c ∧ '/' ∉ c) : (['/'].intercalate comps).head? ≠ some '/' := by
  cases comps with
  | nil => exact nofun
  | cons c comps =>
    obtain ⟨hc, hs⟩ := hr c (List.mem_cons_self ..)
    cases c with
    | nil => exact absurd rfl (isComponent_iff.1 hc).1
    | cons x c =>
      have hx : x ≠ '/' := Ne.symm (List.ne_of_not_mem_cons hs)
      cases comps with
      | nil => simpa using hx
      | cons d comps => simpa [List.intercalate_cons_cons] using hx

/-- The text of an absolute path is read as that path. -/
theorem ofString_text (ha : p.isAbsolute) (hr : p.Regular) : ofString p.text = p := by
  obtain ⟨anchor, comps⟩ := p
  have hhead := head?_intercalate hr
  have hfilter : (pieces (['/'].intercalate comps)).filter isComponent = comps := by
    cases comps with
    | nil => rfl
    | cons c comps =>
      rw [pieces_eq, List.splitOn_intercalate '/' (fun c hc => (hr c hc).2) (List.cons_ne_nil _ _)]
      exact List.filter_eq_self.2 fun c hc => (hr c hc).1
  rw [ofString, text, String.toList_ofList, ofChars, chars]
  generalize ['/'].intercalate comps = joined at hhead hfilter ⊢
  have hslash : (pieces ('/' :: joined)).filter isComponent = comps := by
    rw [pieces, if_pos rfl, ← hfilter]
    rfl
  cases anchor with
  | relative => exact nomatch ha
  | root =>
    have hanchor : anchorOf ('/' :: joined) = .root := by
      match joined, hhead with
      | [], _ => rfl
      | c :: joined, h =>
        have hc : c ≠ '/' := fun he => h (he ▸ rfl)
        simp [anchorOf, hc]
    simp only [reduceCtorEq, false_and, if_false, Anchor.text, List.cons_append, List.nil_append, hanchor, hslash]
  | doubleRoot =>
    have hanchor : anchorOf ('/' :: '/' :: joined) = .doubleRoot := by
      match joined, hhead with
      | [], _ => rfl
      | c :: joined, h =>
        have hc : c ≠ '/' := fun he => h (he ▸ rfl)
        simp [anchorOf, hc]
    have hpieces : (pieces ('/' :: '/' :: joined)).filter isComponent = comps := by
      rw [pieces, if_pos rfl, ← hslash]
      rfl
    simp only [reduceCtorEq, false_and, if_false, Anchor.text, List.cons_append, List.nil_append, hanchor, hpieces]

theorem text_inj (hp : p.isAbsolute) (hp' : p.Regular) (hq : q.isAbsolute) (hq' : q.Regular) :
    p.text = q.text ↔ p = q := by
  refine ⟨fun h => ?_, congrArg text⟩
  rw [← ofString_text hp hp', h, ofString_text hq hq']

/-! ### Walks -/

theorem walk_append (place a b : List (List Char)) : walk place (a ++ b) = walk (walk place a) b :=
  List.foldl_append

/-- What is no component leads nowhere. -/
theorem walk_filter (place a : List (List Char)) : walk place (a.filter isComponent) = walk place a := by
  induction a generalizing place with
  | nil => rfl
  | cons piece a ih =>
    rw [List.filter_cons]
    split
    · exact ih _
    · next hc =>
      have hstay : piece = [] ∨ piece = ['.'] := by
        rwa [isComponent_iff, ← not_or, not_not] at hc
      rw [ih, walk, walk, List.foldl_cons, step, if_pos hstay]

theorem mem_of_mem_walk {a : List (List Char)} {c : List Char} (hc : c ∈ walk place a) :
    c ∈ place ∨ c ∈ a ∧ c ≠ [] ∧ c ≠ ['.'] ∧ c ≠ ['.', '.'] := by
  induction a generalizing place with
  | nil => exact .inl hc
  | cons piece a ih =>
    rcases ih hc with hm | ⟨hm, hn⟩
    · rw [step] at hm
      split at hm
      · exact .inl hm
      · next hstay =>
        split at hm
        · exact .inl (List.dropLast_subset _ hm)
        · next hup =>
          rw [not_or] at hstay
          rcases List.mem_append.1 hm with hm | hm
          · exact .inl hm
          · rw [List.mem_singleton] at hm
            subst hm
            exact .inr ⟨List.mem_cons_self .., hstay.1, hstay.2, hup⟩
    · exact .inr ⟨List.mem_cons_of_mem _ hm, hn⟩

/-- Names lead down. -/
theorem walk_names (hn : ∀ c ∈ comps, c ≠ [] ∧ c ≠ ['.'] ∧ c ≠ ['.', '.']) : walk place comps = place ++ comps := by
  induction comps generalizing place with
  | nil => exact (List.append_nil place).symm
  | cons c comps ih =>
    obtain ⟨hne, hdot, hup⟩ := hn c (List.mem_cons_self ..)
    have hstep : step place c = place ++ [c] := by
      rw [step, if_neg (not_or.2 ⟨hne, hdot⟩), if_neg hup]
    rw [walk, List.foldl_cons, hstep, ← walk, ih fun e he => hn e (List.mem_cons_of_mem _ he), List.append_assoc,
      List.singleton_append]

/-! ### Normal forms -/

/-- Below the top of an absolute path, one component more is one step of the walk. -/
theorem reverse_descend (ha : anchor ≠ .relative) {done : List (List Char)} (hd : parentComponent ∉ done)
    (hc : isComponent piece) : (descend anchor done piece).reverse = step done.reverse piece := by
  obtain ⟨hne, hdot⟩ := isComponent_iff.1 hc
  rw [step, if_neg (not_or.2 ⟨hne, hdot⟩)]
  unfold descend
  by_cases hup : piece = ['.', '.']
  · cases done with
    | nil => simp [hup, ha, parentComponent]
    | cons last rest =>
      have hlast : last ≠ ['.', '.'] := Ne.symm (List.ne_of_not_mem_cons hd)
      simp [hup, hlast, parentComponent]
  · simp [hup, parentComponent]

theorem parentComponent_not_mem_descend (ha : anchor ≠ .relative) {done : List (List Char)}
    (hd : parentComponent ∉ done) (piece : List Char) : parentComponent ∉ descend anchor done piece := by
  unfold descend
  split
  · next hup => exact List.not_mem_cons_of_ne_of_not_mem (Ne.symm hup) hd
  · cases done with
    | nil => exact List.not_mem_nil
    | cons last rest =>
      simp only [Ne.symm (List.ne_of_not_mem_cons hd), if_false]
      exact List.not_mem_of_not_mem_cons hd

theorem reverse_foldl_descend (ha : anchor ≠ .relative) (hc : ∀ c ∈ comps, isComponent c) {done : List (List Char)}
    (hd : parentComponent ∉ done) : (comps.foldl (descend anchor) done).reverse = walk done.reverse comps := by
  induction comps generalizing done with
  | nil => rfl
  | cons c comps ih =>
    rw [List.foldl_cons, ih (fun e he => hc e (List.mem_cons_of_mem _ he)) (parentComponent_not_mem_descend ha hd c),
      reverse_descend ha hd (hc c (List.mem_cons_self ..))]
    rfl

theorem isAbsolute_iff : p.isAbsolute ↔ p.anchor ≠ .relative := by
  simp [isAbsolute]

theorem normalize_eq (ha : p.isAbsolute) (hr : p.Regular) : p.normalize = ⟨p.anchor, walk [] p.components⟩ :=
  congrArg (Path.mk p.anchor)
    (reverse_foldl_descend (isAbsolute_iff.1 ha) (fun c hc => (hr c hc).1) List.not_mem_nil)

theorem canonical_normalize (ha : p.isAbsolute) (hr : p.Regular) : p.normalize.Canonical := by
  rw [normalize_eq ha hr]
  refine ⟨ha, fun c hc => ?_⟩
  rcases mem_of_mem_walk hc with hc | ⟨hm, hne, hdot, hup⟩
  · exact nomatch hc
  · exact ⟨hne, hdot, hup, (hr c hm).2⟩

theorem Canonical.normalize_eq_self (h : p.Canonical) : p.normalize = p := by
  rw [normalize_eq h.isAbsolute h.regular,
    walk_names fun c hc => ⟨(h.names c hc).1, (h.names c hc).2.1, (h.names c hc).2.2.1⟩]
  rfl

/-! ### Paths seen from others -/

theorem join_of_isAbsolute (hq : q.isAbsolute) : p.join q = q :=
  if_pos hq

theorem join_of_relative (hq : q.isAbsolute = false) : p.join q = ⟨p.anchor, p.components ++ q.components⟩ :=
  if_neg (by rw [hq]; exact Bool.false_ne_true)

theorem Regular.join (hp : p.Regular) (hq : q.Regular) : (p.join q).Regular := by
  rw [Path.join]
  split
  · exact hq
  · exact fun c hc => (List.mem_append.1 hc).elim (hp c) (hq c)

theorem isAbsolute_join (hp : p.isAbsolute) : (p.join q).isAbsolute := by
  rw [join]
  split
  · next hq => exact hq
  · exact hp

theorem isAbsolute_absolute {cwd : Path} (h : cwd.isAbsolute) (p : Path) : (cwd.absolute p).isAbsolute :=
  isAbsolute_join (q := p) h

theorem head?_text {p : Path} (h : p.isAbsolute) : p.text.toList.head? = some '/' := by
  obtain ⟨anchor, components⟩ := p
  cases anchor with
  | relative => exact nomatch h
  | root | doubleRoot => simp [text, chars, Anchor.text]

theorem join_join (p q r : Path) : p.join (q.join r) = (p.join q).join r := by
  cases hr : r.isAbsolute with
  | true => rw [join_of_isAbsolute hr, join_of_isAbsolute hr, join_of_isAbsolute hr]
  | false =>
    rw [join_of_relative hr, join_of_relative hr]
    cases hq : q.isAbsolute with
    | true =>
      rw [join_of_isAbsolute hq]
      exact join_of_isAbsolute hq
    | false =>
      have hqr : (Path.mk q.anchor (q.components ++ r.components)).isAbsolute = false := hq
      rw [join_of_relative hq, join_of_relative hqr, List.append_assoc]

section

variable {cwd root : Path} (hc : cwd.isAbsolute) (hcr : cwd.Regular)
include hc hcr

theorem canonical_absolute (hr : root.Regular) : (cwd.absolute root).Canonical :=
  canonical_normalize (isAbsolute_join hc) (hcr.join hr)

/-- A text seen from a root that is seen from the working directory. -/
theorem absolute_join (hr : root.Regular) (text : String) :
    cwd.absolute (root.join (ofString text)) = (cwd.absolute root).evaluate text := by
  have habs := isAbsolute_join (q := root) hc
  have hreg := hcr.join hr
  have hcomps : (ofString text).components = (text.toList.splitOn '/').filter isComponent :=
    congrArg (List.filter isComponent) (pieces_eq _)
  rw [absolute, join_join, normalize_eq (isAbsolute_join habs) (hreg.join (regular_ofString text)), evaluate, absolute,
    normalize_eq habs hreg]
  cases ha : anchorOf text.toList with
  | relative =>
    have hq : (ofString text).isAbsolute = false := by
      rw [isAbsolute, ofString, ofChars, ha]
      rfl
    rw [join_of_relative hq, hcomps, walk_append, walk_filter]
  | root | doubleRoot =>
    have hq : (ofString text).isAbsolute := by
      rw [isAbsolute, ofString, ofChars, ha]
      rfl
    rw [join_of_isAbsolute hq, hcomps, walk_filter]
    exact congrArg (Path.mk · _) ha

theorem absolute_absolute (hr : root.Regular) : cwd.absolute (cwd.absolute root) = cwd.absolute root := by
  have hcanon := canonical_absolute hc hcr hr
  rw [absolute, join_of_isAbsolute hcanon.isAbsolute, hcanon.normalize_eq_self]

end

/-- A canonical path is what its text means, wherever it is seen from. -/
theorem Canonical.evaluate_text (h : p.Canonical) (start : Path) : start.evaluate p.text = p := by
  have hread := ofString_text h.isAbsolute h.regular
  have hanchor : anchorOf p.text.toList = p.anchor := congrArg Path.anchor hread
  have hcomps : (pieces p.text.toList).filter isComponent = p.components := congrArg Path.components hread
  have hwalk : walk [] (p.text.toList.splitOn '/') = p.components := by
    rw [← pieces_eq, ← walk_filter, hcomps,
      walk_names fun c hc => ⟨(h.names c hc).1, (h.names c hc).2.1, (h.names c hc).2.2.1⟩, List.nil_append]
  simp only [evaluate, hanchor, hwalk]
  cases ha : p.anchor with
  | relative => exact absurd ha (isAbsolute_iff.1 h.isAbsolute)
  | root | doubleRoot =>
    simp only
    rw [← ha]

end LayoutInheritance.Path
