import LayoutInheritance.Inheritance.Flatten
import LayoutInheritance.Proofs.Path.Walk

/-! The paths of layouts. A source is walked from the root of the run, which is walked from the working directory, so
the path that a run knows a layout by is in normal form: two sources name the same layout exactly if their walks end at
the same place. The root may be made absolute before, as often as one likes. -/

namespace LayoutInheritance

namespace Options

theorem regular_rootFor {o : Options} (h : ∀ root ∈ o.root, root.Regular) (filename : Option String) :
    (o.rootFor filename).Regular := by
  unfold rootFor
  split
  · next hroot => exact h _ hroot
  · exact Path.regular_ofString "."
  · exact Path.regular_ofString "."
  · exact Path.regular_ofChars _

section

variable {cwd : Path} (hc : cwd.isAbsolute) (hcr : cwd.Regular) {o : Options} (h : ∀ root ∈ o.root, root.Regular)
include hc hcr h

/-- Resolved options do not change any more, whatever document they are resolved for. -/
theorem resolveFor_resolveFor (filename name : Option String) :
    (o.resolveFor cwd filename).resolveFor cwd name = o.resolveFor cwd filename :=
  congrArg o.withRoot (Path.absolute_absolute hc hcr (regular_rootFor h filename))

theorem foldl_resolveFor (filename : Option String) (names : List (Option String)) :
    names.foldl (resolveFor · cwd) (o.resolveFor cwd filename) = o.resolveFor cwd filename := by
  induction names with
  | nil => rfl
  | cons name names ih => rw [List.foldl_cons, resolveFor_resolveFor hc hcr h, ih]

end

end Options

/-- The path of a layout depends on the working directory and the absolute root. -/
theorem Resolver.layoutPath_eq (c : Resolver) (hc : c.cwd.isAbsolute) (hcr : c.cwd.Regular) (hr : c.root.Regular)
    (source : String) : c.layoutPath source = ((c.cwd.absolute c.root).evaluate source).text :=
  congrArg Path.text (Path.absolute_join hc hcr hr source)

namespace Setting

variable (setting : Setting) (filename : Option String)

theorem root_resolver : (setting.resolver filename).root = match setting.options.root with
    | some root => root
    | none => setting.cwd.absolute (setting.options.rootFor filename) := by
  unfold resolver
  cases h : setting.options.root with
  | some root => simp only [Options.rootFor, h]
  | none => rfl

/-- Whether the options are resolved or not, the absolute root is that of the document. -/
theorem absolute_root_resolver (hc : setting.cwd.isAbsolute) (hcr : setting.cwd.Regular)
    (h : ∀ root ∈ setting.options.root, root.Regular) :
    setting.cwd.absolute (setting.resolver filename).root = setting.cwd.absolute (setting.options.rootFor filename) := by
  rw [root_resolver]
  cases hroot : setting.options.root with
  | some root => simp only [Options.rootFor, hroot]
  | none => exact Path.absolute_absolute hc hcr (Options.regular_rootFor h filename)

/-- The path of a layout is in normal form and is where the walk of its source ends, so it is also its own path. It is
the same for options that are resolved already. -/
theorem layoutPath_canonical (hc : setting.cwd.isAbsolute) (hcr : setting.cwd.Regular)
    (h : ∀ root ∈ setting.options.root, root.Regular) :
    let c := setting.resolver filename
    let root := setting.cwd.absolute (setting.options.rootFor filename)
    root.Canonical ∧
    (∀ source, (root.evaluate source).Canonical ∧ c.layoutPath source = (root.evaluate source).text) ∧
    (∀ source source', c.layoutPath source = c.layoutPath source' ↔ root.evaluate source = root.evaluate source') ∧
    (∀ source, c.layoutPath (c.layoutPath source) = c.layoutPath source) ∧
    ∀ (names : List (Option String)) (source : String),
      let options := names.foldl (Options.resolveFor · setting.cwd) (setting.options.resolveFor setting.cwd filename)
      (({ setting with options } : Setting).resolver filename).layoutPath source = c.layoutPath source := by
  intro c root
  have hregular := Options.regular_rootFor h filename
  have hroot : root.Canonical := Path.canonical_absolute hc hcr hregular
  have hcroot : c.root.Regular := by
    change (setting.resolver filename).root.Regular
    rw [root_resolver]
    cases hgiven : setting.options.root with
    | some given => exact h given hgiven
    | none => exact hroot.regular
  have hpath (source : String) : c.layoutPath source = (root.evaluate source).text := by
    rw [c.layoutPath_eq hc hcr hcroot]
    exact congrArg (fun r => (Path.evaluate r source).text) (absolute_root_resolver setting filename hc hcr h)
  have hcanonical (source : String) : (root.evaluate source).Canonical := by
    change (Path.evaluate (setting.cwd.absolute (setting.options.rootFor filename)) source).Canonical
    rw [← Path.absolute_join hc hcr hregular]
    exact Path.canonical_absolute hc hcr (hregular.join (Path.regular_ofString source))
  refine ⟨hroot, fun source => ⟨hcanonical source, hpath source⟩, fun source source' => ?_, fun source => ?_, ?_⟩
  · rw [hpath, hpath]
    exact Path.text_inj (hcanonical source).isAbsolute (hcanonical source).regular (hcanonical source').isAbsolute
      (hcanonical source').regular
  · rw [hpath source, hpath, (hcanonical source).evaluate_text]
  · intro names source options
    have hoptions : options = setting.options.resolveFor setting.cwd filename :=
      Options.foldl_resolveFor hc hcr h filename names
    have habs : setting.cwd.absolute root = root := Path.absolute_absolute hc hcr hregular
    rw [hpath, hoptions, Resolver.layoutPath_eq _ hc hcr hroot.regular]
    exact congrArg (fun r => (Path.evaluate r source).text) habs

/-- Two ways to one layout, from a root that is relative and goes up. -/
theorem layoutPath_canonical_parent :
    let setting : Setting :=
      { library := .ofTexts [], cwd := .ofString "//w/x", options := { root := some (.ofString "../r") } }
    (setting.cwd.isAbsolute ∧ setting.cwd.Regular ∧ ∀ root ∈ setting.options.root, root.Regular) ∧
    (setting.resolver none).layoutPath "./a//../b" = "//w/r/b" ∧
    (setting.resolver none).layoutPath "./a//../b" = (setting.resolver none).layoutPath "b/." := by
  intro setting
  have hc : setting.cwd.isAbsolute := by decide
  have hcr : setting.cwd.Regular := Path.regular_ofString "//w/x"
  have h : ∀ root ∈ setting.options.root, root.Regular := by
    rintro root ⟨⟩
    exact Path.regular_ofString "../r"
  obtain ⟨-, hpath, hsame, -⟩ := layoutPath_canonical setting none hc hcr h
  refine ⟨⟨hc, hcr, h⟩, (hpath _).2.trans (by decide), (hsame _ _).2 (by decide)⟩

end Setting

end LayoutInheritance
