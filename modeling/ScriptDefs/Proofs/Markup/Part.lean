import ScriptDefs.Markup.Builder
import ScriptDefs.Proofs.Data.Assoc

/-!
# Parts of documents

What stands in an element: texts and elements in order. It has a sequence of events and, under a
normalizer, a tree. The index of a map in the tree leads to what its children say: each child that
follows a key is found under the text of the key, and a later one replaces an earlier one.
-/

namespace ScriptDefs.Markup

/-- A text or an element with its parts in order. -/
inductive Part where
  | text (content : Text)
  | element (tag : Text) (parts : List Part)

namespace Part

mutual

/-- The events that describe a part. -/
def events : Part → List Event
  | .text content => [.text content]
  | .element tag parts => .opening tag :: (eventsOf parts ++ [.closing])

/-- The events that describe parts in order. -/
def eventsOf : List Part → List Event
  | [] => []
  | part :: rest => part.events ++ eventsOf rest

end

/-- The last text among the parts of an element; the empty text if there is none. -/
def lastText (norm : Text → Text) (parts : List Part) : Text :=
  let texts := parts.filterMap fun
    | .text content => some content
    | .element _ _ => none
  (texts.getLast?.map norm).getD []

end Part

/-! ## Maps -/

namespace Tree

/-- The children that follow a key, each with the text of the key. -/
def keyed : List Tree → List (Text × Tree)
  | key :: value :: rest =>
    if key.tag = keyTag then (key.text, value) :: keyed (value :: rest) else keyed (value :: rest)
  | _ => []

/-- The positions of the children that follow a key, each with the text of the key, where the first
child has a given position. -/
def keyedPositions (first : Nat) : List Tree → List (Text × Nat)
  | key :: value :: rest =>
    if key.tag = keyTag then
      (key.text, first + 1) :: keyedPositions (first + 1) (value :: rest)
    else keyedPositions (first + 1) (value :: rest)
  | _ => []

/-- The index of an element with given children. -/
def indexOf (kind : NodeKind) (children : List Tree) : Assoc Text Nat :=
  match kind with
  | .element => []
  | .map => Assoc.ofList (keyedPositions 0 children)

/-- A new child is found under the text of the last one if that is a key. -/
theorem keyedPositions_concat (first : Nat) (children : List Tree) (child : Tree) :
    keyedPositions first (children ++ [child]) =
      keyedPositions first children ++
        match children.getLast? with
        | none => []
        | some last =>
          if last.tag = keyTag then [(last.text, first + children.length)] else [] := by
  induction children generalizing first with
  | nil => rfl
  | cons key rest ih =>
    cases rest with
    | nil => simp [keyedPositions]
    | cons value rest =>
      have ih := ih (first + 1)
      rw [List.cons_append] at ih
      rw [List.cons_append, List.cons_append, keyedPositions, keyedPositions, ih,
        List.getLast?_cons_cons, List.length_cons (a := key)]
      have hadd : first + 1 + (value :: rest).length = first + ((value :: rest).length + 1) := by
        omega
      rw [hadd]
      split <;> rfl

/-- The index after a new child. -/
theorem indexOf_concat (kind : NodeKind) (children : List Tree) (child : Tree) :
    indexOf kind (children ++ [child]) =
      indexAfter kind (children.getLast?.map fun c ↦ (c.tag, c.text)) (indexOf kind children)
        children.length := by
  cases kind with
  | element => rfl
  | map =>
    rw [indexOf, keyedPositions_concat]
    cases h : children.getLast? with
    | none => simp [indexAfter, indexOf]
    | some last =>
      by_cases hkey : last.tag = keyTag
      · simp [indexAfter, indexOf, hkey]
      · simp [indexAfter, indexOf, hkey]

/-- The positions lead to the children that follow a key. -/
theorem mapValues_keyedPositions (before children : List Tree) :
    Assoc.mapValues ((before ++ children)[·]?) (keyedPositions before.length children) =
      Assoc.mapValues some (keyed children) := by
  induction children generalizing before with
  | nil => rfl
  | cons key rest ih =>
    cases rest with
    | nil => rfl
    | cons value rest =>
      have ih := ih (before ++ [key])
      rw [List.append_assoc, List.singleton_append, List.length_append, List.length_singleton] at ih
      have hvalue : (before ++ key :: value :: rest)[before.length + 1]? = some value := by simp
      rw [keyedPositions, keyed]
      split
      · rw [Assoc.mapValues, Assoc.mapValues, List.map_cons, List.map_cons, hvalue]
        exact congrArg _ ih
      · exact ih

section Index

variable {t : Tree} (h : t.index = indexOf .map t.children)
include h

/-- The index of a map leads to the children that follow a key. -/
theorem mapValues_index :
    Assoc.mapValues (t.children[·]?) t.index =
      Assoc.mapValues some (Assoc.ofList (keyed t.children)) := by
  rw [h, indexOf, Assoc.mapValues_ofList, Assoc.mapValues_ofList]
  exact congrArg _ (mapValues_keyedPositions [] t.children)

/-- A map has the entries that its children say. -/
theorem entries_of_index : t.entries = Assoc.ofList (keyed t.children) := by
  have hentries : t.entries = (Assoc.mapValues (t.children[·]?) t.index).filterMap
      fun e ↦ e.2.map fun c ↦ (e.1, c) := by
    rw [entries, Assoc.mapValues, List.filterMap_map]
    rfl
  rw [hentries, mapValues_index h, Assoc.mapValues, List.filterMap_map]
  exact List.filterMap_some

/-- What is found under a key is what the children say. -/
theorem get?_of_index (key : Text) :
    t.get? key = (Assoc.ofList (keyed t.children)).lookup key := by
  have hlookup := congrArg (List.lookup key) (mapValues_index h)
  rw [Assoc.lookup_mapValues, Assoc.lookup_mapValues] at hlookup
  have hbind := congrArg (Option.bind · id) hlookup
  rw [Option.bind_map, Option.bind_map] at hbind
  exact hbind.trans (Option.bind_fun_some _)

end Index

end Tree

/-! ## Trees -/

namespace Tree

mutual

/-- The element and all elements in it. -/
def nodes : Tree → List Tree
  | .mk kind tag text closed children index =>
    .mk kind tag text closed children index :: nodesOf children

/-- The elements of a list and all elements in them. -/
def nodesOf : List Tree → List Tree
  | [] => []
  | t :: rest => t.nodes ++ nodesOf rest

end

theorem nodesOf_append (ts more : List Tree) :
    nodesOf (ts ++ more) = nodesOf ts ++ nodesOf more := by
  induction ts with
  | nil => rfl
  | cons t ts ih => rw [List.cons_append, nodesOf, nodesOf, ih, List.append_assoc]

theorem mem_nodes_self (t : Tree) : t ∈ t.nodes := by
  cases t
  rw [nodes]
  exact List.mem_cons_self

theorem mem_nodesOf {t : Tree} {ts : List Tree} (h : t ∈ ts) : t ∈ nodesOf ts := by
  induction ts with
  | nil => cases h
  | cons t' ts ih =>
    rw [nodesOf, List.mem_append]
    rcases List.mem_cons.mp h with rfl | h
    · exact .inl (mem_nodes_self t)
    · exact .inr (ih h)

/-- What is found under a key is in the element. -/
theorem mem_nodes_of_get? {t t' : Tree} {key : Text} (h : t.get? key = some t') : t' ∈ t.nodes := by
  obtain ⟨i, _, hi⟩ := Option.bind_eq_some_iff.mp h
  have hchild := List.mem_of_getElem? hi
  cases t
  rw [nodes]
  exact List.mem_cons_of_mem _ (mem_nodesOf hchild)

/-- In every map of a tree the keys differ. -/
def KeysDiffer (t : Tree) : Prop := ∀ n ∈ t.nodes, n.index.keys.Nodup

end Tree

namespace Part

/-- An element with a tag, a text and children. -/
def node (tag text : Text) (closed : Bool) (children : List Tree) : Tree :=
  .mk (kindOf tag) tag text closed children (Tree.indexOf (kindOf tag) children)

mutual

/-- The tree of an element; a text has none. -/
def tree? (norm : Text → Text) : Part → Option Tree
  | .text _ => none
  | .element tag parts => some (node tag (lastText norm parts) true (trees norm parts))

/-- The trees of the elements among parts. -/
def trees (norm : Text → Text) : List Part → List Tree
  | [] => []
  | part :: rest => (tree? norm part).toList ++ trees norm rest

end

/-- The element with a tag and parts as a tree. -/
def tree (norm : Text → Text) (tag : Text) (parts : List Part) : Tree :=
  node tag (lastText norm parts) true (trees norm parts)

/-- The element with a tag and with those parts that it has before it is closed. -/
def openTree (norm : Text → Text) (tag : Text) (parts : List Part) : Tree :=
  node tag (lastText norm parts) false (trees norm parts)

section Trees

variable (norm : Text → Text)

theorem trees_append (parts more : List Part) :
    trees norm (parts ++ more) = trees norm parts ++ trees norm more := by
  induction parts with
  | nil => rfl
  | cons part parts ih => rw [List.cons_append, trees, trees, ih, List.append_assoc]

theorem trees_concat_text (parts : List Part) (content : Text) :
    trees norm (parts ++ [.text content]) = trees norm parts := by
  rw [trees_append]
  exact List.append_nil _

theorem trees_concat_element (parts : List Part) (tag : Text) (inner : List Part) :
    trees norm (parts ++ [.element tag inner]) = trees norm parts ++ [tree norm tag inner] := by
  rw [trees_append]
  rfl

theorem lastText_concat_text (parts : List Part) (content : Text) :
    lastText norm (parts ++ [.text content]) = norm content := by
  simp [lastText]

theorem lastText_concat_element (parts : List Part) (tag : Text) (inner : List Part) :
    lastText norm (parts ++ [.element tag inner]) = lastText norm parts := by
  simp [lastText]

theorem new_eq_openTree (tag : Text) : Tree.new tag = openTree norm tag [] := by
  rw [openTree, node, Tree.new]
  cases kindOf tag <;> rfl

/-- A new text takes the place of an earlier one. -/
theorem withText_openTree (tag : Text) (parts : List Part) (content : Text) :
    (openTree norm tag parts).withText (norm content) =
      openTree norm tag (parts ++ [.text content]) := by
  rw [openTree, openTree, lastText_concat_text, trees_concat_text]
  rfl

theorem close_openTree (tag : Text) (parts : List Part) :
    (openTree norm tag parts).close = tree norm tag parts := rfl

/-- An open element accepts an element, which is indexed. -/
theorem append_openTree (tag : Text) (parts : List Part) (innerTag : Text) (inner : List Part) :
    (openTree norm tag parts).append (tree norm innerTag inner) =
      .ok (openTree norm tag (parts ++ [.element innerTag inner])) := by
  rw [openTree, openTree, lastText_concat_element, trees_concat_element, node, node,
    Tree.append, if_neg Bool.false_ne_true, Tree.indexOf_concat]

mutual

/-- All elements in the tree of a part are trees of parts. -/
theorem eq_tree_of_mem_tree? {t : Tree} :
    (part : Part) → t ∈ Tree.nodesOf (tree? norm part).toList → ∃ tag inner, t = tree norm tag inner
  | .text _, h => by cases h
  | .element tag inner, h => by
    rw [tree?, Option.toList_some, Tree.nodesOf, Tree.nodesOf, List.append_nil, node, Tree.nodes,
      List.mem_cons] at h
    rcases h with h | h
    · exact ⟨tag, inner, h⟩
    · exact eq_tree_of_mem_trees inner h

/-- All elements in the trees of parts are trees of parts. -/
theorem eq_tree_of_mem_trees {t : Tree} :
    (parts : List Part) → t ∈ Tree.nodesOf (trees norm parts) → ∃ tag inner, t = tree norm tag inner
  | [], h => by cases h
  | part :: rest, h => by
    rw [trees, Tree.nodesOf_append, List.mem_append] at h
    rcases h with h | h
    · exact eq_tree_of_mem_tree? part h
    · exact eq_tree_of_mem_trees rest h

end

theorem eq_tree_of_mem_nodes {tag : Text} {parts : List Part} {t : Tree}
    (h : t ∈ (tree norm tag parts).nodes) : ∃ tag inner, t = tree norm tag inner := by
  apply eq_tree_of_mem_tree? norm (.element tag parts)
  exact List.mem_append_left _ h

/-- The keys of every map in the tree of an element with parts differ. -/
theorem keysDiffer_tree (tag : Text) (parts : List Part) : (tree norm tag parts).KeysDiffer := by
  intro n hn
  obtain ⟨tag, inner, rfl⟩ := eq_tree_of_mem_nodes norm hn
  rw [tree, node, Tree.index]
  cases kindOf tag with
  | element => exact List.nodup_nil
  | map => exact Assoc.nodup_keys_ofList _

/-- What the index of an element holds is what its children say. -/
theorem entries_tree (tag : Text) (parts : List Part) :
    (tree norm tag parts).entries =
      if tag = mapTag then Assoc.ofList (Tree.keyed (tree norm tag parts).children) else [] := by
  by_cases h : tag = mapTag
  · rw [if_pos h]
    apply Tree.entries_of_index
    simp [tree, node, Tree.index, Tree.children, kindOf, h]
  · rw [if_neg h]
    simp [tree, node, Tree.entries, Tree.index, kindOf, h, Tree.indexOf]

end Trees

end Part

end ScriptDefs.Markup
