import LayoutInheritance.Proofs.Markup.Spine

/-! The growth of a document. The open elements are the right edge of the document so far. So a token goes on with the
last text, or puts one node at the end of document order, or closes elements and leaves every node as it is. -/

namespace LayoutInheritance

namespace Markup

variable {f : List Markup → List Markup} {before content ms siblings : List Markup} {k : Head Markup}
  {hs : List (Head Markup)}

/-- The edge goes one level further down. -/
theorem Spine.concat (h : Spine hs ms siblings) (hl : siblings = before ++ [.branch k content]) :
    Spine (hs ++ [k]) ms content := by
  induction h with
  | nil => exact hl ▸ .cons .nil
  | cons _ ih => exact .cons (ih hl)

/-- To add a node with a changed content is to add it and then change its content. -/
theorem Spine.onSpine_succ (h : Spine hs ms siblings) (f : List Markup → List Markup) (content : List Markup) :
    onSpine (· ++ [.branch k (f content)]) hs.length ms =
      onSpine f (hs.length + 1) (onSpine (· ++ [.branch k content]) hs.length ms) := by
  induction h with
  | nil => rw [List.length_nil, onSpine, onSpine, onSpine_concat, onSpine]
  | cons _ ih => rw [List.length_cons, onSpine_concat, onSpine_concat, onSpine_concat, ih]

/-- Only what becomes of the innermost nodes matters. -/
theorem Spine.onSpine_congr {g : List Markup → List Markup} (h : Spine hs ms siblings) (hfg : f siblings = g siblings) :
    onSpine f hs.length ms = onSpine g hs.length ms := by
  induction h with
  | nil => exact hfg
  | cons _ ih => rw [List.length_cons, onSpine_concat, onSpine_concat, ih hfg]

/-- The nodes on the edge have a content, so they are tags that may have one. -/
theorem RegularAll.spine (hr : RegularAll ms) (h : Spine hs ms siblings) :
    ∀ k ∈ hs, k.isTag ∧ k.isVoid = false := by
  induction h with
  | nil => exact nofun
  | cons _ ih =>
    obtain ⟨-, -, hm⟩ := regularAll_concat.1 hr
    obtain ⟨htag, hvoid, hcontent⟩ := regular_branch.1 hm
    exact List.forall_mem_cons.2 ⟨⟨htag, hvoid⟩, ih hcontent⟩

end Markup

open Markup (Spine onSpine headsAll headsAll_append headsAll_leaf headsAll_branch RegularAll Keeps)

namespace Token

/-- What the token adds to a text. -/
def text? : Token → Option String
  | .text value => some value
  | .reference body => some ("&" ++ body ++ ";")
  | _ => none

/-- The node that the token makes, where it makes one. -/
def node? (t : Token) (l : Location) : Option Markup :=
  match t with
  | .opening name attributes closed =>
    let head := Builder.tagHead name attributes l
    some (if closed || isVoidElement name then .leaf head else .branch head [])
  | .closing _ => none
  | .text value => some (.text value l)
  | .reference body => some (.text ("&" ++ body ++ ";") l)
  | .comment value => some (.comment value l)
  | .doctype value => some (.leaf { kind := .doctype, value, location := l })

variable {t : Token} {l : Location} {m : Markup}

theorem node?_of_text? {value : String} (h : t.text? = some value) : t.node? l = some (.text value l) := by
  cases t with
  | text | reference => cases h; rfl
  | _ => exact nomatch h

/-- A token makes no content yet. -/
theorem content_of_node? (h : t.node? l = some m) : m.content?.getD [] = [] := by
  cases t <;> cases h <;> first | rfl | split <;> rfl

/-- The node of a token is regular, unless the token is an empty text. -/
theorem regular_of_node? (h : t.node? l = some m) (ht : t ≠ .text "") : ∀ n ∈ m.nodes, n.Regular := by
  have leaf (k : Head Markup) (hk : k.kind = .text → ∃ value, k.value = some value ∧ value ≠ "") :
      ∀ n ∈ (Markup.leaf k).nodes, n.Regular := by
    intro n hn
    cases List.mem_singleton.1 hn
    exact ⟨nofun, fun hn => hk (of_decide_eq_true hn)⟩
  cases t with
  | opening name attributes closed =>
    cases h
    split
    · exact leaf _ nofun
    · next hvoid => exact Markup.regular_branch.2 ⟨rfl, by simp_all [Head.isVoid, Builder.tagHead], .nil, nofun⟩
  | closing name => exact nomatch h
  | text value =>
    cases h
    exact leaf _ fun _ => ⟨value, rfl, fun hv => ht (congrArg Token.text hv)⟩
  | reference body =>
    cases h
    exact leaf _ fun _ => ⟨_, rfl, by simp [String.append_eq_empty_iff]⟩
  | comment | doctype =>
    cases h
    exact leaf _ nofun

end Token

namespace Builder

variable {b b' : Builder} {t : Token} {l : Location}

/-- The heads of the open elements, outermost first. -/
def stack (b : Builder) : List (Head Markup) :=
  (b.opened.map OpenElement.head).reverse

theorem length_stack (b : Builder) : b.stack.length = b.opened.length := by
  simp [stack]

theorem stack_mapChildren (b : Builder) (f : List Markup → List Markup) : (b.mapChildren f).stack = b.stack := by
  rw [mapChildren]
  split
  · rfl
  · next he => simp [stack, he]

theorem innermost_mapChildren (b : Builder) (f : List Markup → List Markup) :
    (b.mapChildren f).innermost = f b.innermost := by
  rw [mapChildren, innermost, innermost]
  cases b.opened <;> rfl

theorem closeInnermost_of_opened {e : OpenElement} {outer : List OpenElement} (he : b.opened = e :: outer) :
    b.closeInnermost = add { b with opened := outer } (.branch e.head e.children.reverse) := by
  rw [closeInnermost, he]

theorem length_opened_closeInnermost (b : Builder) : b.closeInnermost.opened.length = b.opened.length - 1 := by
  rw [closeInnermost]
  split
  · next he => rw [he]; rfl
  · next he => rw [add, length_opened_mapChildren, he]; rfl

theorem tree_closeInnermost (b : Builder) : b.closeInnermost.tree = b.tree := by
  rw [tree, tree, length_opened_closeInnermost]
  cases hn : b.opened.length with
  | zero =>
    rw [closeInnermost, List.length_eq_zero_iff.1 hn]
  | succ count => rfl

theorem tree_closeMany (b : Builder) (count : ℕ) : (b.closeMany count).tree = b.tree := by
  induction count generalizing b with
  | zero => rfl
  | succ count ih => rw [closeMany, ih, tree_closeInnermost]

theorem tree_strays (b : Builder) (strays : List (String × Location)) : tree { b with strays } = b.tree := by
  have closeMany_strays (count : ℕ) (b : Builder) :
      closeMany { b with strays } count = { b.closeMany count with strays } := by
    induction count generalizing b with
    | zero => rfl
    | succ count ih =>
      have hclose : closeInnermost { b with strays } = { b.closeInnermost with strays } := by
        rcases b with ⟨filename, root, _ | ⟨e, _ | ⟨e', outer⟩⟩, _⟩ <;> rfl
      rw [closeMany, hclose, ih, closeMany]
  rw [tree, closeMany_strays, tree]

theorem heads_opened_closeMany (b : Builder) (count : ℕ) :
    (b.closeMany count).opened.map OpenElement.head = (b.opened.map OpenElement.head).drop count := by
  induction count generalizing b with
  | zero => rfl
  | succ count ih =>
    rw [closeMany, ih, closeInnermost]
    split
    · next he => simp [he]
    · next e outer he =>
      have h := List.reverse_inj.1 (stack_mapChildren { b with opened := outer } (.branch e.head e.children.reverse :: ·))
      rw [add, h, he]
      rfl

/-! ### The open elements and the document -/

/-- The open elements are the right edge of the document. -/
theorem spine_tree (b : Builder) : Spine b.stack b.tree b.innermost.reverse := by
  induction hn : b.opened.length generalizing b with
  | zero =>
    have he := List.length_eq_zero_iff.1 hn
    rw [stack, tree, innermost, he]
    exact .nil
  | succ count ih =>
    obtain ⟨e, outer, he⟩ := List.exists_cons_of_length_eq_add_one hn
    have hclosed := ih b.closeInnermost (by rw [length_opened_closeInnermost, hn]; rfl)
    rw [tree_closeInnermost, closeInnermost_of_opened he, add, stack_mapChildren, innermost_mapChildren,
      List.reverse_cons] at hclosed
    have hstack : b.stack = stack { b with opened := outer } ++ [e.head] := by simp [stack, he]
    rw [hstack, innermost, he]
    exact hclosed.concat rfl

/-- A change of the innermost children is a change at the edge of the document. -/
theorem tree_mapChildren (b : Builder) (f : List Markup → List Markup) :
    (b.mapChildren f).tree = onSpine (fun ms => (f ms.reverse).reverse) b.stack.length b.tree := by
  induction hn : b.opened.length generalizing b f with
  | zero =>
    have he := List.length_eq_zero_iff.1 hn
    simp [mapChildren, tree, length_stack, he, closeMany, onSpine]
  | succ count ih =>
    obtain ⟨e, outer, he⟩ := List.exists_cons_of_length_eq_add_one hn
    set b₀ : Builder := { b with opened := outer } with hb₀
    have hadd (m : Markup) : (b₀.add m).tree = onSpine (· ++ [m]) b₀.stack.length b₀.tree := by
      rw [add, ih _ _ (by rw [hb₀]; simpa [he] using hn)]
      simp only [List.reverse_cons, List.reverse_reverse]
    have hb : b.tree = (b₀.add (.branch e.head e.children.reverse)).tree := by
      rw [← tree_closeInnermost b, closeInnermost_of_opened he]
    have hf : (b.mapChildren f).tree = (b₀.add (.branch e.head (f e.children).reverse)).tree := by
      rw [← tree_closeInnermost (b.mapChildren f), mapChildren, he]
      rfl
    have hlength : b.stack.length = b₀.stack.length + 1 := by simp [length_stack, he, hb₀]
    have hchange := b₀.spine_tree.onSpine_succ (k := e.head) (fun ms => (f ms.reverse).reverse) e.children.reverse
    rw [List.reverse_reverse] at hchange
    rw [hf, hb, hadd, hadd, hlength, hchange]

theorem tree_add (b : Builder) (m : Markup) : (b.add m).tree = onSpine (· ++ [m]) b.stack.length b.tree := by
  rw [add, tree_mapChildren]
  simp only [List.reverse_cons, List.reverse_reverse]

/-! ### One more token -/

/-- What a token at the place `l` does to a document and its open elements. -/
inductive Grows (t : Token) (l : Location) (b b' : Builder) : Prop
  /-- Its node comes last in document order, as a child of the innermost open element. It is open if it may have a
  content. -/
  | appended {siblings m} : t.node? l = some m → Spine b.stack b.tree siblings →
      (∀ n ∈ siblings.getLast?, n.isText → m.isText = false) →
      b'.tree = onSpine (· ++ [m]) b.stack.length b.tree → headsAll b'.tree = headsAll b.tree ++ [m.head] →
      b'.stack = b.stack ++ (m.content?.map fun _ => m.head).toList → Grows t l b b'
  /-- The last child of the innermost open element is a text, which goes on. -/
  | joined {before h h' value heads} : t.text? = some value → h.kind = .text →
      h' = { h with value := some (h.value.getD "" ++ value) } → Spine b.stack b.tree (before ++ [.leaf h]) →
      b'.tree = onSpine (fun _ => before ++ [.leaf h']) b.stack.length b.tree →
      headsAll b.tree = heads ++ [h] → headsAll b'.tree = heads ++ [h'] → b'.stack = b.stack → Grows t l b b'
  /-- The innermost open element of the name is closed, and all that are open in it. -/
  | closed {name outer h inner} : t = .closing name → b.stack = outer ++ h :: inner → h.name = some name →
      (∀ k ∈ inner, k.name ≠ some name) → b'.tree = b.tree → b'.stack = outer → Grows t l b b'
  /-- No element of the name is open. -/
  | stray {name} : t = .closing name → (∀ k ∈ b.stack, k.name ≠ some name) → b'.tree = b.tree → b'.stack = b.stack →
      Grows t l b b'

theorem grows_add {m : Markup} (hm : t.node? l = some m)
    (hlast : ∀ n ∈ b.innermost.reverse.getLast?, n.isText → m.isText = false) (htree : b'.tree = (b.add m).tree)
    (hstack : b'.stack = b.stack ++ (m.content?.map fun _ => m.head).toList) : Grows t l b b' := by
  refine .appended hm b.spine_tree hlast (htree.trans (b.tree_add m)) ?_ hstack
  obtain ⟨outer, hbefore, hafter⟩ := b.spine_tree.headsAll
  have hnode : headsAll [m] = [m.head] := by
    have hempty := Token.content_of_node? hm
    cases m with
    | leaf h => rfl
    | branch h content =>
      cases hempty
      rfl
  rw [htree, tree_add, hafter, hbefore, headsAll_append, hnode, List.append_assoc]

/-- An element that opens is, for the document, one without any children yet. -/
theorem tree_open (b : Builder) (h : Head Markup) :
    tree { b with opened := { head := h } :: b.opened } = (b.add (.branch h [])).tree :=
  (tree_closeInnermost _).symm

/-- A text after something else, or after nothing, is a node of its own. -/
theorem grows_begun {value : String} (ht : t.text? = some value) (hlast : ∀ n ∈ b.innermost.head?, n.isText = false)
    (hadd : addText value l b.innermost = .text value l :: b.innermost) : Grows t l b (b.mapChildren (addText value l)) := by
  have hb : b.mapChildren (addText value l) = b.add (.text value l) := by
    rw [innermost] at hadd
    rw [add, mapChildren, mapChildren]
    split <;> simp_all
  refine grows_add (Token.node?_of_text? ht) (fun n hn hn' => ?_) (congrArg tree hb) ?_
  · rw [List.getLast?_reverse] at hn
    exact absurd hn' (by simp [hlast n hn])
  · rw [stack_mapChildren]
    exact (List.append_nil _).symm

/-- A text after a text goes on with it. -/
theorem grows_joined {value : String} {h : Head Markup} {rest : List Markup} (ht : t.text? = some value)
    (hk : h.kind = .text) (hms : b.innermost = .leaf h :: rest) : Grows t l b (b.mapChildren (addText value l)) := by
  have hspine := b.spine_tree
  rw [hms, List.reverse_cons] at hspine
  have htree : (b.mapChildren (addText value l)).tree = onSpine (fun _ =>
      rest.reverse ++ [.leaf { h with value := some (h.value.getD "" ++ value) }]) b.stack.length b.tree := by
    rw [tree_mapChildren]
    apply hspine.onSpine_congr
    rw [List.reverse_concat, List.reverse_reverse, addText, if_pos hk, List.reverse_cons]
  obtain ⟨outer, hbefore, hafter⟩ := hspine.headsAll
  refine .joined ht hk rfl hspine htree (?_ : _ = (outer ++ headsAll rest.reverse) ++ [h]) ?_ (stack_mapChildren ..)
  · rw [hbefore, headsAll_append, headsAll_leaf, List.append_assoc]
  · rw [htree, hafter, headsAll_append, headsAll_leaf, List.append_assoc]

theorem grows_addText {value : String} (ht : t.text? = some value) (hr : RegularAll b.tree) :
    Grows t l b (b.mapChildren (addText value l)) := by
  have hsiblings : RegularAll b.innermost.reverse := (hr.onSpine (f := id) b.spine_tree).1
  cases hms : b.innermost with
  | nil => exact grows_begun ht (by simp [hms]) (by rw [hms]; rfl)
  | cons n rest =>
    rw [hms, List.reverse_cons] at hsiblings
    cases n with
    | leaf h =>
      by_cases hk : h.kind = .text
      · exact grows_joined ht hk hms
      · refine grows_begun ht ?_ (by rw [hms, addText, if_neg hk])
        rw [hms]
        rintro _ ⟨⟩
        exact decide_eq_false hk
    | branch h content =>
      refine grows_begun ht ?_ (by rw [hms]; rfl)
      have htag := (Markup.regular_branch.1 (Markup.regularAll_concat.1 hsiblings).2.2).1
      rw [hms]
      rintro _ ⟨⟩
      exact Markup.isText_of_isTag htag

theorem grows_close (b : Builder) (name : String) (l : Location) : Grows (.closing name) l b (b.close name l) := by
  rw [close]
  split
  · next i hi =>
    obtain ⟨hlt, hname, hinner⟩ := List.findIdx?_eq_some_iff_getElem.1 hi
    have hheads : b.opened.map OpenElement.head = (b.opened.take i).map OpenElement.head ++
        b.opened[i].head :: (b.opened.map OpenElement.head).drop (i + 1) := by
      rw [← List.map_drop, ← List.map_cons, List.getElem_cons_drop, ← List.map_append, List.take_append_drop]
    refine .closed rfl (?_ : _ = _ ++ b.opened[i].head :: ((b.opened.take i).map OpenElement.head).reverse)
      (eq_of_beq hname) ?_ (tree_closeMany ..) (congrArg List.reverse (heads_opened_closeMany b (i + 1)))
    · refine (congrArg List.reverse hheads).trans ?_
      rw [List.reverse_append, List.reverse_cons, List.append_assoc]
      rfl
    · intro k hk
      obtain ⟨e, he, rfl⟩ := List.mem_map.1 (List.mem_reverse.1 hk)
      obtain ⟨j, hj, rfl⟩ := List.mem_take_iff_getElem.1 he
      simpa using hinner j (by omega)
  · next hnone =>
    refine .stray rfl (fun k hk => ?_) (tree_strays ..) rfl
    obtain ⟨e, he, rfl⟩ := List.mem_map.1 (List.mem_reverse.1 hk)
    simpa using List.findIdx?_eq_none_iff.1 hnone e he

/-- Every token makes the document grow at its edge. -/
theorem grows_push (hr : RegularAll b.tree) (t : Token) (p : Position) : Grows t (b.place p) b (b.push t p) := by
  cases t with
  | opening name attributes closed =>
    have hlast (m : Markup) (hm : m.head.isTag) :
        ∀ n ∈ b.innermost.reverse.getLast?, n.isText → m.isText = false :=
      fun _ _ _ => Markup.isText_of_isTag hm
    rw [push]
    split
    · next h =>
      refine grows_add (congrArg some (if_pos h)) (hlast _ rfl) rfl ?_
      exact (stack_mapChildren ..).trans (List.append_nil _).symm
    · next h =>
      exact grows_add (congrArg some (if_neg h)) (hlast _ rfl) (tree_open ..) (List.reverse_cons ..)
  | closing name => exact grows_close ..
  | text | reference => exact grows_addText rfl hr
  | comment | doctype =>
    exact grows_add rfl (fun _ _ _ => rfl) rfl ((stack_mapChildren ..).trans (List.append_nil _).symm)

theorem Grows.regular (h : Grows t l b b') (ht : t ≠ .text "") (hr : RegularAll b.tree) : RegularAll b'.tree := by
  cases h with
  | appended hm hspine hlast htree =>
    rw [htree]
    obtain ⟨hsiblings, hnew⟩ := hr.onSpine hspine
    exact hnew (Markup.regularAll_concat.2 ⟨hsiblings, hlast, Token.regular_of_node? hm ht⟩)
  | @joined before h _ value _ _ hk hh hspine htree =>
    subst hh
    rw [htree]
    obtain ⟨hsiblings, hnew⟩ := hr.onSpine hspine
    obtain ⟨hbefore, hlast, hleaf⟩ := Markup.regularAll_concat.1 hsiblings
    refine hnew (Markup.regularAll_concat.2 ⟨hbefore, hlast, fun n hn => ?_⟩)
    obtain ⟨first, hfirst, hne⟩ := (hleaf _ (List.mem_singleton_self _)).text (decide_eq_true hk)
    cases List.mem_singleton.1 hn
    refine ⟨nofun, fun _ => ⟨_, rfl, fun hempty => hne ?_⟩⟩
    rw [show h.value = some first from hfirst] at hempty
    exact (String.append_eq_empty_iff.1 hempty).1
  | closed _ _ _ _ htree => exact htree ▸ hr
  | stray _ _ htree => exact htree ▸ hr

theorem Grows.keeps (h : Grows t l b b') : Keeps b.tree b'.tree := by
  cases h with
  | @appended siblings m _ hspine _ htree =>
    rw [htree]
    exact hspine.keeps (Markup.keeps_append siblings [m])
  | joined _ hk hh hspine htree =>
    rw [htree]
    exact hspine.keeps (Markup.keeps_concat (.inr ⟨hk, _, hh⟩) (.refl []))
  | closed _ _ _ _ htree => exact htree ▸ .refl _
  | stray _ _ htree => exact htree ▸ .refl _

/-! ### A run of tokens -/

/-- A document that is growing: its right edge is open, and it is regular already. -/
structure Upright (b : Builder) : Prop where
  spine : Spine b.stack b.tree b.innermost.reverse
  opened : ∀ h ∈ b.stack, h.isTag ∧ h.isVoid = false
  regular : RegularAll b.tree

theorem upright_of_regular (hr : RegularAll b.tree) : b.Upright :=
  ⟨b.spine_tree, hr.spine b.spine_tree, hr⟩

variable {tokens : List (Token × Position)}

theorem regular_pushAll (hr : RegularAll b.tree) (ht : ∀ t ∈ tokens, t.1 ≠ .text "") :
    RegularAll (b.pushAll tokens).tree := by
  induction tokens generalizing b with
  | nil => exact hr
  | cons t tokens ih =>
    obtain ⟨ht, htokens⟩ := List.forall_mem_cons.1 ht
    exact ih ((grows_push hr t.1 t.2).regular ht hr) htokens

theorem keeps_pushAll (hr : RegularAll b.tree) (ht : ∀ t ∈ tokens, t.1 ≠ .text "") :
    Keeps b.tree (b.pushAll tokens).tree := by
  induction tokens generalizing b with
  | nil => exact .refl _
  | cons t tokens ih =>
    obtain ⟨ht, htokens⟩ := List.forall_mem_cons.1 ht
    have hgrows := grows_push hr t.1 t.2
    exact hgrows.keeps.trans (ih (hgrows.regular ht hr) htokens)

/-- Whatever the tokens, but for empty texts: the open elements are the right edge of a regular document, one more
token makes the document grow there, and no number of them removes or moves a node. -/
theorem grows_at_edge (filename : Option String) (ht : ∀ t ∈ tokens, t.1 ≠ .text "") :
    let b := pushAll { filename } tokens
    b.Upright ∧ (∀ t p, Grows t (b.place p) b (b.push t p)) ∧
      ∀ more, (∀ t ∈ more, t.1 ≠ .text "") → Keeps b.tree (b.pushAll more).tree := by
  have hr : RegularAll (pushAll { filename } tokens).tree := regular_pushAll ⟨.nil, nofun⟩ ht
  exact ⟨upright_of_regular hr, grows_push hr, fun more hmore => keeps_pushAll hr hmore⟩

/-- A void element and an end tag for it, another stray end tag, texts that join, and open elements that one end tag
closes together. -/
theorem grows_at_edge_crossing :
    let tokens : List (Token × Position) := [(.opening "p" [] false, ⟨1, 1⟩), (.text "a", ⟨1, 4⟩), (.closing "q", ⟨1, 5⟩),
      (.reference "amp", ⟨1, 9⟩), (.opening "br" [] false, ⟨1, 14⟩), (.closing "br", ⟨1, 18⟩),
      (.opening "em" [("id", "")] false, ⟨1, 23⟩), (.opening "b" [] true, ⟨1, 33⟩)]
    let more : List (Token × Position) := [(.closing "p", ⟨1, 37⟩), (.text "c", ⟨1, 41⟩)]
    let b := pushAll { filename := none } tokens
    (∀ t ∈ tokens, t.1 ≠ .text "") ∧ (∀ t ∈ more, t.1 ≠ .text "") ∧
      b.stack.map Head.name = [some "p", some "em"] ∧ (b.pushAll more).stack.map Head.name = [] ∧
      (headsAll (b.pushAll more).tree).map (fun h => (h.name, h.value, h.location.column)) =
        [(some "p", none, 1), (none, some "a&amp;", 4), (some "br", none, 14), (some "em", none, 23),
          (some "b", none, 33), (none, some "c", 41)] ∧
      b.Upright ∧ (b.pushAll more).Upright ∧ Keeps b.tree (b.pushAll more).tree := by
  intro tokens more b
  have ht : ∀ t ∈ tokens, t.1 ≠ .text "" := by decide
  have hmore : ∀ t ∈ more, t.1 ≠ .text "" := by decide
  have hall : ∀ t ∈ tokens ++ more, t.1 ≠ .text "" := List.forall_mem_append.2 ⟨ht, hmore⟩
  refine ⟨ht, hmore, by decide +kernel, by decide +kernel, by decide +kernel, (grows_at_edge none ht).1, ?_,
    (grows_at_edge none ht).2.2 more hmore⟩
  have hupright := (grows_at_edge none hall).1
  rwa [pushAll, List.foldl_append] at hupright

end Builder

end LayoutInheritance
