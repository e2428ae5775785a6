import LayoutInheritance.Markup.Reader

/-! Plain documents. They are the documents that say all that they are when they are written: names need no
change of case, texts hold no mark that could be read as something else, and nothing ends before its end. Two
documents may be compared apart from the places of their nodes. -/

namespace LayoutInheritance

namespace Markup

/-! ### Equality -/

mutual

def decideEq : (m m' : Markup) → Decidable (m = m')
  | leaf h, leaf h' =>
    have := decideEqHead h h'
    decidable_of_iff (h = h') (by simp)
  | branch h content, branch h' content' =>
    have := decideEqHead h h'
    have := decideEqAll content content'
    decidable_of_iff (h = h' ∧ content = content') (by simp)
  | leaf _, branch .. | branch .., leaf _ => isFalse (by simp)

def decideEqHead : (h h' : Head Markup) → Decidable (h = h')
  | ⟨kind, name, attributes, value, l⟩, ⟨kind', name', attributes', value', l'⟩ =>
    have := decideEqAttributes attributes attributes'
    decidable_of_iff (kind = kind' ∧ name = name' ∧ attributes = attributes' ∧ value = value' ∧ l = l') (by simp)

def decideEqAttributes : (as bs : List (String × List Markup)) → Decidable (as = bs)
  | [], [] => isTrue rfl
  | a :: as, b :: bs =>
    have := decideEqAttribute a b
    have := decideEqAttributes as bs
    decidable_of_iff (a = b ∧ as = bs) (by simp)
  | [], _ :: _ | _ :: _, [] => isFalse (by simp)

def decideEqAttribute : (a b : String × List Markup) → Decidable (a = b)
  | (key, parts), (key', parts') =>
    have := decideEqAll parts parts'
    decidable_of_iff (key = key' ∧ parts = parts') (by simp)

def decideEqAll : (ms ms' : List Markup) → Decidable (ms = ms')
  | [], [] => isTrue rfl
  | m :: ms, m' :: ms' =>
    have := decideEq m m'
    have := decideEqAll ms ms'
    decidable_of_iff (m = m' ∧ ms = ms') (by simp)
  | [], _ :: _ | _ :: _, [] => isFalse (by simp)

end

instance : DecidableEq Markup :=
  decideEq

/-! ### Documents without places -/

mutual

/-- The node with all locations forgotten. -/
def unplaced : Markup → Markup
  | leaf h => leaf (unplacedHead h)
  | branch h content => branch (unplacedHead h) (unplacedAll content)

def unplacedHead : Head Markup → Head Markup
  | ⟨kind, name, attributes, value, _⟩ => ⟨kind, name, unplacedAttributes attributes, value, {}⟩

def unplacedAttributes : List (String × List Markup) → List (String × List Markup)
  | [] => []
  | a :: rest => unplacedAttribute a :: unplacedAttributes rest

def unplacedAttribute : String × List Markup → String × List Markup
  | (key, parts) => (key, unplacedAll parts)

def unplacedAll : List Markup → List Markup
  | [] => []
  | m :: rest => m.unplaced :: unplacedAll rest

end

theorem unplacedAll_eq_map (ms : List Markup) : unplacedAll ms = ms.map unplaced := by
  induction ms with
  | nil => rfl
  | cons m ms ih => rw [unplacedAll, ih, List.map_cons]

theorem unplacedAttributes_eq_map (attributes : List (String × List Markup)) :
    unplacedAttributes attributes = attributes.map unplacedAttribute := by
  induction attributes with
  | nil => rfl
  | cons a attributes ih => rw [unplacedAttributes, ih, List.map_cons]

def isText (m : Markup) : Bool :=
  m.head.kind = .text

theorem isText_unplaced (m : Markup) : m.unplaced.isText = m.isText := by
  rcases m with ⟨⟨⟩⟩ | ⟨⟨⟩, content⟩ <;> rfl

end Markup

/-! ### Names and texts -/

def isPlainNameChar (c : Char) : Bool :=
  c.isLower || c.isDigit || c == '-'

/-- A small letter, then small letters, digits and dashes. -/
def isPlainName (name : String) : Bool :=
  match name.toList with
  | [] => false
  | c :: cs => c.isLower && cs.all isPlainNameChar

/-- The body of a reference: a name, or a number sign and digits. -/
def isReferenceBody : List Char → Bool
  | '#' :: digits => !digits.isEmpty && digits.all Char.isDigit
  | c :: name => c.isAlpha && name.all Char.isAlphanum
  | [] => false

/-- A text without opening angle brackets in which each ampersand begins a whole reference. -/
def isPlainText : List Char → Bool
  | [] => true
  | '&' :: cs => cs.contains ';' && isReferenceBody (cs.takeWhile (· != ';')) && isPlainText cs
  | c :: cs => c != '<' && isPlainText cs

/-! ### Plain documents -/

namespace Markup

/-- Attributes with different plain names; the value of each is a text, whatever it says. -/
structure PlainAttributes (attributes : List (String × List Markup)) : Prop where
  names : ∀ a ∈ attributes, isPlainName a.1
  nodup : (attributes.map Prod.fst).Nodup
  values : ∀ a ∈ attributes, ∃ value location, a.2 = [Markup.text value location]

/-- The attributes of a tag that is made from texts. -/
theorem plainAttributes_texts {attributes : Dictionary String String} (hn : ∀ a ∈ attributes, isPlainName a.1)
    (hd : (attributes.map Prod.fst).Nodup) (l : Location) :
    PlainAttributes (attributes.map fun a => (a.1, [Markup.text a.2 l])) where
  names a ha := by
    obtain ⟨b, hb, rfl⟩ := List.mem_map.1 ha
    exact hn b hb
  nodup := by simpa [Function.comp_def] using hd
  values a ha := by
    obtain ⟨b, -, rfl⟩ := List.mem_map.1 ha
    exact ⟨_, _, rfl⟩

mutual

/-- A node whose writing can only be read as this node. -/
inductive Plain : Markup → Prop
  | text {value location} : value ≠ "" → isPlainText value.toList → Plain (.text value location)
  | comment {value location} : Lexeme.search Lexeme.commentEnd? value.toList = none →
      Plain (.comment value location)
  | doctype {value location} : (value.toList.take 7).map Char.toLower = "doctype".toList → '>' ∉ value.toList →
      Plain (.leaf { kind := .doctype, value := some value, location })
  | void {name attributes location} : isPlainName name → isVoidElement name → PlainAttributes attributes →
      Plain (.leaf { kind := .tag, name := some name, attributes, location })
  | element {name attributes location content} : isPlainName name → isVoidElement name = false →
      name ∉ rawElements → PlainAttributes attributes → PlainAll content →
      Plain (.branch { kind := .tag, name := some name, attributes, location } content)
  | emptyRaw {name attributes location} : name ∈ rawElements → PlainAttributes attributes →
      Plain (.branch { kind := .tag, name := some name, attributes, location } [])
  | raw {name attributes location value place} : name ∈ rawElements → PlainAttributes attributes → value ≠ "" →
      Scan.rawText? name value.toList = none →
      Plain (.branch { kind := .tag, name := some name, attributes, location } [.text value place])

/-- Plain nodes, of which no two neighbours are texts. -/
inductive PlainAll : List Markup → Prop
  | nil : PlainAll []
  | cons {m rest} : Plain m → (m.isText → ∀ n ∈ rest.head?, n.isText = false) → PlainAll rest →
      PlainAll (m :: rest)

end

end Markup

/-! ### Characters of names -/

section

variable {c : Char}

theorem isAlpha_of_isLower (h : c.isLower) : c.isAlpha :=
  Bool.or_eq_true_iff.2 (.inr h)

theorem toNat_lt_of_isPlainNameChar (h : isPlainNameChar c) : c.toNat < 128 := by
  simp only [isPlainNameChar, Bool.or_eq_true, beq_iff_eq] at h
  rcases h with (h | h) | rfl
  · have hz : c.val ≤ 'z'.val := of_decide_eq_true (Bool.and_eq_true_iff.1 h).2
    exact Nat.lt_of_le_of_lt (UInt32.le_iff_toNat_le.1 hz) (by decide)
  · have hz : c.val ≤ '9'.val := of_decide_eq_true (Bool.and_eq_true_iff.1 h).2
    exact Nat.lt_of_le_of_lt (UInt32.le_iff_toNat_le.1 hz) (by decide)
  · decide

/-- What holds of the characters of names up to the end of ASCII holds of all of them. -/
theorem of_isPlainNameChar {p : Char → Bool} (hp : ∀ n < 128, isPlainNameChar (Char.ofNat n) → p (Char.ofNat n))
    (h : isPlainNameChar c) : p c := by
  have hc := hp c.toNat (toNat_lt_of_isPlainNameChar h)
  rw [Char.ofNat_toNat] at hc
  exact hc h

theorem isPlainNameChar_of_isLower (h : c.isLower) : isPlainNameChar c := by
  simp [isPlainNameChar, h]

theorem isTagNameChar_of_plain (h : isPlainNameChar c) : Lexeme.isTagNameChar c :=
  of_isPlainNameChar (by decide) h

theorem isAttributeNameChar_of_plain (h : isPlainNameChar c) : Lexeme.isAttributeNameChar c :=
  of_isPlainNameChar (by decide) h

theorem isStrictNameChar_of_plain (h : isPlainNameChar c) : Lexeme.isStrictNameChar c :=
  of_isPlainNameChar (by decide) h

theorem isBlank_of_plain (h : isPlainNameChar c) : Text.isBlank c = false := by
  simpa using of_isPlainNameChar (p := fun c => !Text.isBlank c) (by decide) h

end

/-- The characters of a plain name: the first is a small letter. -/
theorem exists_of_isPlainName {name : String} (h : isPlainName name) :
    ∃ c cs, name.toList = c :: cs ∧ c.isLower ∧ ∀ d ∈ name.toList, isPlainNameChar d := by
  unfold isPlainName at h
  split at h
  · exact nomatch h
  · next c cs hcs =>
    rw [Bool.and_eq_true, List.all_eq_true] at h
    refine ⟨c, cs, hcs, h.1, ?_⟩
    intro d hd
    rw [hcs, List.mem_cons] at hd
    rcases hd with rfl | hd
    · exact isPlainNameChar_of_isLower h.1
    · exact h.2 d hd

theorem lowerFrom_of_plain {inWord : Bool} {cs : List Char} (h : ∀ c ∈ cs, isPlainNameChar c) :
    Text.lowerFrom inWord cs = cs := by
  induction cs generalizing inWord with
  | nil => rfl
  | cons c cs ih =>
    have hc := h c (List.mem_cons_self ..)
    have sigma : c ≠ 'Σ' := by
      rintro rfl
      exact nomatch hc
    have dotted : c ≠ 'İ' := by
      rintro rfl
      exact nomatch hc
    have small : Text.lowerChar c = c := by
      simpa using of_isPlainNameChar (p := fun c => Text.lowerChar c == c) (by decide) hc
    rw [Text.lowerFrom, if_neg sigma, if_neg dotted, small, ih fun d hd => h d (List.mem_cons_of_mem _ hd)]

/-- A plain name is in lower case. -/
theorem lower_of_isPlainName {name : String} (h : isPlainName name) : Text.lower name = name := by
  obtain ⟨c, cs, -, -, hall⟩ := exists_of_isPlainName h
  rw [Text.lower, lowerFrom_of_plain hall, String.ofList_toList]

end LayoutInheritance
