import LayoutInheritance.Data.Json
import Mathlib.Tactic.SplitIfs

/-! The texts that are JSON, each with the data that it stands for: words and brackets with gaps between them, and
strings with escapes. Data without numbers is written as a text that stands for it. -/

namespace LayoutInheritance

namespace Text

theorem hexValue?_hexDigit : ∀ n < 16, hexValue? (hexDigit n) = some n := by decide

theorem length_hexDigits (width n : Nat) : (hexDigits width n).length = width := by
  induction width generalizing n with
  | zero => rfl
  | succ width ih => rw [hexDigits, List.length_append, ih, List.length_singleton]

theorem isHexDigit_of_mem {width n : Nat} {c : Char} (h : c ∈ hexDigits width n) : isHexDigit c := by
  induction width generalizing n with
  | zero => exact nomatch h
  | succ width ih =>
    rcases List.mem_append.1 h with h | h
    · exact ih h
    · rw [List.mem_singleton.1 h, isHexDigit, hexValue?_hexDigit _ (Nat.mod_lt _ (by decide)), Option.isSome_some]

/-- The last digits of a number write its remainder. -/
theorem ofDigits_hexDigits (width n : Nat) : ofDigits 16 (hexDigits width n) = n % Nat.pow 16 width := by
  induction width generalizing n with
  | zero => exact (Nat.mod_one n).symm
  | succ width ih =>
    have hdigit : (hexValue? (hexDigit (n % 16))).getD 0 = n % 16 := by
      rw [hexValue?_hexDigit _ (Nat.mod_lt _ (by decide)), Option.getD_some]
    have hlast : ofDigits 16 (hexDigits (width + 1) n) = ofDigits 16 (hexDigits width (n / 16)) * 16 + n % 16 := by
      rw [hexDigits, ofDigits, List.foldl_append, List.foldl_cons, List.foldl_nil, hdigit]
      rfl
    have hmod : n % Nat.pow 16 (width + 1) = n % 16 + 16 * (n / 16 % Nat.pow 16 width) := by
      exact (congrArg (n % ·) (Nat.mul_comm _ 16)).trans (Nat.mod_mul ..)
    rw [hlast, ih, hmod, Nat.add_comm, Nat.mul_comm]

end Text

namespace Json

/-! ### The texts -/

/-- What may stand between words. -/
def IsGap (cs : List Char) : Prop :=
  ∀ c ∈ cs, c = ' ' ∨ c = '\t' ∨ c = '\n' ∨ c = '\r'

/-- The letters of the short escapes, and the characters that they stand for. -/
def letters : List (Char × Char) :=
  [('"', '"'), ('\\', '\\'), ('/', '/'), ('b', '\x08'), ('f', '\x0c'), ('n', '\n'), ('r', '\r'), ('t', '\t')]

/-- Four hexadecimal digits of a number. -/
def IsUnit (digits : List Char) (n : Nat) : Prop :=
  digits.length = 4 ∧ (∀ c ∈ digits, Text.isHexDigit c) ∧ Text.ofDigits 16 digits = n

/-- The inside of a string, and the characters that it stands for. -/
inductive Spells : List Char → List Char → Prop
  | nil : Spells [] []
  | plain {c cs s} : ' ' ≤ c → c ≠ '"' → c ≠ '\\' → Spells cs s → Spells (c :: cs) (c :: s)
  | letter {l c cs s} : (l, c) ∈ letters → Spells cs s → Spells ('\\' :: l :: cs) (c :: s)
  | unit {digits c cs s} : IsUnit digits c.toNat → Spells cs s → Spells ('\\' :: 'u' :: digits ++ cs) (c :: s)
  | pair {high low a b c cs s} : IsUnit high (0xd800 + a) → IsUnit low (0xdc00 + b) → a < 0x400 → b < 0x400 →
      c.toNat = 0x10000 + 0x400 * a + b → Spells cs s →
      Spells ('\\' :: 'u' :: high ++ '\\' :: 'u' :: low ++ cs) (c :: s)

/-- Items with a comma after each but the last, and gaps around them. -/
inductive Listed {α : Type} (P : List Char → α → Prop) : List Char → List α → Prop
  | last {before cs after a} : IsGap before → P cs a → IsGap after → Listed P (before ++ cs ++ after) [a]
  | cons {before cs after a rest as} : IsGap before → P cs a → IsGap after → Listed P rest as →
      Listed P (before ++ cs ++ after ++ ',' :: rest) (a :: as)

mutual

/-- A text, and the data that it stands for. Numbers are left out. -/
inductive Stands : List Char → Data → Prop
  | null : Stands "null".toList .null
  | yes : Stands "true".toList (.bool true)
  | no : Stands "false".toList (.bool false)
  | text {cs s} : Spells cs s.toList → Stands ('"' :: cs ++ ['"']) (.text s)
  | noItems {gap} : IsGap gap → Stands ('[' :: gap ++ [']']) (.list [])
  | list {cs items} : Listed Stands cs items → Stands ('[' :: cs ++ [']']) (.list items)
  | noEntries {gap} : IsGap gap → Stands ('\x7b' :: gap ++ ['\x7d']) (.map [])
  | map {cs entries} : Listed StandsEntry cs entries → Stands ('\x7b' :: cs ++ ['\x7d']) (.map entries)

/-- A key, a colon and a text. -/
inductive StandsEntry : List Char → String × Data → Prop
  | mk {cs key before after text d} : Spells cs key.toList → IsGap before → IsGap after → Stands text d →
      StandsEntry ('"' :: cs ++ '"' :: before ++ ':' :: after ++ text) (key, d)

end

theorem isGap_nil : IsGap [] := nofun

variable {c : Char} {cs s : List Char} {α : Type} {P : List Char → α → Prop} {gap gap' : List Char}

/-! ### Strings -/

theorem isUnit_hexDigits {n : Nat} (h : n < 0x10000) : IsUnit (Text.hexDigits 4 n) n :=
  ⟨Text.length_hexDigits .., fun _ hc => Text.isHexDigit_of_mem hc,
    (Text.ofDigits_hexDigits ..).trans (Nat.mod_eq_of_lt h)⟩

/-- A character beyond those of one unit has two. -/
theorem spells_units (c : Char) (h : Spells cs s) : Spells ((units c.toNat).flatMap unitEscape ++ cs) (c :: s) := by
  rw [units]
  split
  · next hc =>
    rw [List.flatMap_singleton]
    exact .unit (isUnit_hexDigits hc) h
  · next hc =>
    have hlt : c.toNat < 0x110000 := c.valid.elim (fun h => Nat.lt_trans h (by decide)) And.right
    have ha : (c.toNat - 0x10000) / 1024 < 0x400 := by omega
    have hb : (c.toNat - 0x10000) % 1024 < 0x400 := Nat.mod_lt _ (by decide)
    rw [List.flatMap_cons, List.flatMap_singleton]
    exact .pair (isUnit_hexDigits (by omega)) (isUnit_hexDigits (by omega)) ha hb (by omega) h

theorem spells_escaped (c : Char) (h : Spells cs s) : Spells (escaped c ++ cs) (c :: s) := by
  unfold escaped
  split_ifs with hquote hplain hn hr ht hf hb
  · rcases hquote with rfl | rfl <;> exact .letter (by decide) h
  · rw [not_or] at hquote
    exact .plain hplain.1 hquote.1 hquote.2 h
  · subst hn
    exact .letter (by decide) h
  · subst hr
    exact .letter (by decide) h
  · subst ht
    exact .letter (by decide) h
  · subst hf
    exact .letter (by decide) h
  · subst hb
    exact .letter (by decide) h
  · exact spells_units c h

theorem spells_flatMap (s : List Char) : Spells (s.flatMap escaped) s := by
  induction s with
  | nil => exact .nil
  | cons c s ih =>
    rw [List.flatMap_cons]
    exact spells_escaped c ih

theorem stands_quoted (s : String) : Stands (quoted s).toList (.text s) := by
  rw [quoted, String.toList_ofList]
  exact .text (spells_flatMap _)

/-! ### Brackets -/

theorem isGap_lineBreak (indent depth : Nat) : IsGap (lineBreak indent depth).toList := by
  intro c hc
  rw [lineBreak, String.toList_ofList] at hc
  rcases List.mem_cons.1 hc with rfl | hc
  · exact .inr (.inr (.inl rfl))
  · exact .inl (List.eq_of_mem_replicate hc)

/-- Items with the same gap before each, and a gap of their own after the last. -/
theorem listed_intercalate (hgap : IsGap gap) (hgap' : IsGap gap') (f : α → List Char) {items : List α}
    (h : ∀ a ∈ items, P (f a) a) (hne : items ≠ []) :
    Listed P (gap ++ (',' :: gap).intercalate (items.map f) ++ gap') items := by
  induction items with
  | nil => exact absurd rfl hne
  | cons a rest ih =>
    have ha : P (f a) a := h a (List.mem_cons_self ..)
    cases rest with
    | nil =>
      rw [List.map_singleton, List.intercalate_singleton]
      exact .last hgap ha hgap'
    | cons b rest =>
      have hrest := ih (fun b hb => h b (List.mem_cons_of_mem _ hb)) (List.cons_ne_nil _ _)
      have hcons := Listed.cons hgap ha isGap_nil hrest
      simpa only [List.map_cons, List.intercalate_cons_cons, List.append_assoc, List.cons_append, List.nil_append] using
        hcons

/-- What stands between the brackets. -/
theorem toList_enclosed (first last : String) (indent depth : Nat) (f : α → String) {items : List α}
    (hne : items ≠ []) : (enclosed first last indent depth (items.map f)).toList =
      first.toList ++ ((lineBreak indent (depth + 1)).toList ++
        (',' :: (lineBreak indent (depth + 1)).toList).intercalate (items.map fun a => (f a).toList) ++
          (lineBreak indent depth).toList) ++ last.toList := by
  have hempty : (items.map f).isEmpty = false := by simpa using hne
  simp only [enclosed, hempty, Bool.false_eq_true, if_false, String.toList_append, String.toList_intercalate,
    List.map_map, List.append_assoc]
  rfl

end Json

namespace Data

open Json

/-- Data without numbers. -/
inductive Wordy : Data → Prop
  | null : Wordy null
  | bool (b : Bool) : Wordy (bool b)
  | text (s : String) : Wordy (text s)
  | list {items} : (∀ d ∈ items, Wordy d) → Wordy (list items)
  | map {entries} : (∀ e ∈ entries, Wordy e.2) → Wordy (map entries)

theorem jsonItems_eq (indent depth : Nat) (items : List Data) :
    jsonItems indent depth items = items.map (jsonAt indent depth) := by
  induction items with
  | nil => rfl
  | cons d rest ih => rw [jsonItems, ih, List.map_cons]

theorem jsonEntries_eq (indent depth : Nat) (entries : List (String × Data)) :
    jsonEntries indent depth entries = entries.map fun e => quoted e.1 ++ ": " ++ e.2.jsonAt indent depth := by
  induction entries with
  | nil => rfl
  | cons e rest ih => rw [jsonEntries, ih, List.map_cons]

/-- A key and its data, one space after the colon. -/
theorem standsEntry (key : String) {d : Data} {text : String} (h : Stands text.toList d) :
    StandsEntry (quoted key ++ ": " ++ text).toList (key, d) := by
  have hspace : IsGap [' '] := by
    intro c hc
    exact .inl (List.mem_singleton.1 hc)
  have hentry := StandsEntry.mk (spells_flatMap key.toList) isGap_nil hspace h
  have hcolon : ": ".toList = [':', ' '] := rfl
  simpa only [quoted, String.toList_append, String.toList_ofList, hcolon, List.append_assoc, List.cons_append,
    List.nil_append] using hentry

theorem Wordy.stands {d : Data} (h : d.Wordy) (indent depth : Nat) : Stands (d.jsonAt indent depth).toList d := by
  induction h generalizing depth with
  | null => exact .null
  | bool b =>
    cases b with
    | false => exact .no
    | true => exact .yes
  | text s => exact stands_quoted s
  | @list items _ ih =>
    rw [jsonAt, jsonItems_eq]
    by_cases hne : items = []
    · subst hne
      exact String.toList_append ▸ .noItems isGap_nil
    · rw [toList_enclosed _ _ _ _ _ hne]
      exact .list (listed_intercalate (isGap_lineBreak _ _) (isGap_lineBreak _ _) _ (fun d hd => ih d hd _) hne)
  | @map entries _ ih =>
    rw [jsonAt, jsonEntries_eq]
    by_cases hne : entries = []
    · subst hne
      exact String.toList_append ▸ .noEntries isGap_nil
    · rw [toList_enclosed _ _ _ _ _ hne]
      exact .map (listed_intercalate (isGap_lineBreak _ _) (isGap_lineBreak _ _) _
        (fun e he => standsEntry e.1 (ih e he _)) hne)

end Data

end LayoutInheritance
