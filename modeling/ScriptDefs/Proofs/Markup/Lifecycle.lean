import ScriptDefs.Proofs.Data.Assoc
import ScriptDefs.Proofs.Markup.Arena

/-!
# Life of nodes

A builder of trees does what a builder over numbered nodes does: after any calls, refused ones among
them, the trees that it holds are those that the nodes show, and every call ends alike for both. So what
is known about the nodes, that they are open as long as they are on the stack and never change after
that, is known about the trees.
-/

namespace ScriptDefs.Markup

variable {ε : Type}

namespace Builder

/-- The number of closes among calls that are not refused. -/
def closes (s : Settings ε) (b : Builder) : List Call → Nat
  | [] => 0
  | c :: calls =>
    (if c = .event .closing ∧ (b.call s c).2.isOk then 1 else 0) + closes s (b.call s c).1 calls

end Builder

/-- The number of opens among calls. -/
def Call.opens (calls : List Call) : Nat :=
  calls.countP fun | .event (.opening _) => true | _ => false

/-! ## Depth -/

namespace Builder

variable {s : Settings ε}

/-- One call accounts for one open, one close, or neither. -/
theorem depth_call (b : Builder) (c : Call) :
    (b.call s c).1.depth + (if c = .event .closing ∧ (b.call s c).2.isOk then 1 else 0) =
      b.depth + Call.opens [c] := by
  obtain ⟨stack, root⟩ := b
  match c with
  | .event (.opening tag) => rfl
  | .event (.text content) =>
    cases stack with
    | nil => rfl
    | cons top rest => cases h : s.normalize content <;> simp [call, step, text, h, depth, Call.opens]
  | .event .closing =>
    match stack with
    | [] => rfl
    | [top] => rfl
    | top :: parent :: outer =>
      cases h : parent.append top.close <;>
        simp [call, step, closing, h, depth, Call.opens, Except.isOk, Except.toBool]
  | .finish =>
    cases h : finish s.rootTag ⟨stack, root⟩ <;> simp [call, h, depth, Call.opens]

/-- The depth is the number of opens without that of the closes that are not refused. -/
theorem depth_after (b : Builder) (calls : List Call) :
    (b.after s calls).depth + b.closes s calls = b.depth + Call.opens calls := by
  induction calls generalizing b with
  | nil => rfl
  | cons c calls ih =>
    have hcall := depth_call (s := s) b c
    have hrest := ih (b.call s c).1
    have hopens : Call.opens ([c] ++ calls) = Call.opens [c] + Call.opens calls :=
      List.countP_append
    rw [List.singleton_append] at hopens
    rw [closes, hopens]
    show ((b.call s c).1.after s calls).depth + _ = _
    omega

theorem call_of_error {b : Builder} {c : Call} {e : BuildError ε}
    (h : (b.call s c).2 = .error e) : (b.call s c).1 = b := by
  match c with
  | .event event => cases hstep : b.step s event <;> simp_all [call]
  | .finish => cases hfinish : b.finish s.rootTag <;> simp_all [call]

end Builder

/-! ## Trees and nodes -/

namespace Tree

mutual

/-- A node shows a tree: its data and its children are those of the tree, and its index leads to the
children at the positions that the index of the tree gives. -/
def ShownAt (r : Registry) : Tree → Nat → Prop
  | .mk kind tag text closed children index, i =>
    ∃ n : Node, r[i]? = some n ∧ n.kind = kind ∧ n.tag = tag ∧ n.text = text ∧ n.closed = closed ∧
      AllShown r children n.children ∧
      n.index.mapValues some = index.mapValues fun k ↦ n.children[k]?

/-- Nodes show trees one by one. -/
def AllShown (r : Registry) : List Tree → List Nat → Prop
  | [], [] => True
  | t :: ts, i :: is => t.ShownAt r i ∧ AllShown r ts is
  | _, _ => False

end

/-- Nodes that stay as they are, together with all that stands inside them. -/
structure Kept (p : Nat → Prop) (r r' : Registry) : Prop where
  child : ∀ i (n : Node), p i → r[i]? = some n → ∀ c ∈ n.children, p c
  eq : ∀ i, p i → r'[i]? = r[i]?

variable {r r' : Registry} {p : Nat → Prop}

mutual

/-- A node that stays as it is shows what it has shown. -/
theorem ShownAt.kept (h : Kept p r r') :
    (t : Tree) → ∀ {i : Nat}, p i → t.ShownAt r i → t.ShownAt r' i
  | .mk _ _ _ _ children _, i, hi, ⟨n, hn, hkind, htag, htext, hclosed, hchildren, hindex⟩ =>
    ⟨n, (h.eq i hi).trans hn, hkind, htag, htext, hclosed,
      AllShown.kept h children (h.child i n hi hn) hchildren, hindex⟩

theorem AllShown.kept (h : Kept p r r') :
    (ts : List Tree) → ∀ {is : List Nat}, (∀ i ∈ is, p i) → AllShown r ts is → AllShown r' ts is
  | [], [], _, _ => trivial
  | t :: ts, i :: _, his, ⟨ht, hts⟩ =>
    ⟨ShownAt.kept h t (his i (List.mem_cons_self ..)) ht,
      AllShown.kept h ts (fun j hj ↦ his j (List.mem_cons_of_mem _ hj)) hts⟩
  | [], _ :: _, _, h => h.elim
  | _ :: _, [], _, h => h.elim

end

theorem AllShown.length_eq :
    {ts : List Tree} → {is : List Nat} → AllShown r ts is → ts.length = is.length
  | [], [], _ => rfl
  | _ :: _, _ :: _, ⟨_, h⟩ => congrArg (· + 1) h.length_eq
  | [], _ :: _, h => h.elim
  | _ :: _, [], h => h.elim

theorem AllShown.append : {ts us : List Tree} → {is js : List Nat} →
    AllShown r ts is → AllShown r us js → AllShown r (ts ++ us) (is ++ js)
  | [], _, [], _, _, h => h
  | _ :: _, _, _ :: _, _, ⟨ht, hts⟩, h => ⟨ht, hts.append h⟩
  | [], _, _ :: _, _, h, _ => h.elim
  | _ :: _, _, [], _, h, _ => h.elim

/-- A node has the tag and the text of the tree that it shows. -/
theorem ShownAt.node {t : Tree} {i : Nat} (h : t.ShownAt r i) :
    ∃ n, r[i]? = some n ∧ n.tag = t.tag ∧ n.text = t.text ∧ n.closed = t.closed := by
  obtain ⟨kind, tag, text, closed, children, index⟩ := t
  obtain ⟨n, hn, _, htag, htext, hclosed, _, _⟩ := h
  exact ⟨n, hn, htag, htext, hclosed⟩

/-- The tags of nodes are those of the trees that they show. -/
theorem AllShown.tags : {ts : List Tree} → {is : List Nat} → AllShown r ts is →
    is.filterMap (fun i ↦ r[i]?.map (·.tag)) = ts.map Tree.tag
  | [], [], _ => rfl
  | t :: ts, i :: is, ⟨ht, hts⟩ => by
    obtain ⟨n, hn, htag, _⟩ := ht.node
    rw [List.filterMap_cons_some (b := t.tag) (by rw [hn, ← htag]; rfl), hts.tags, List.map_cons]
  | [], _ :: _, h => h.elim
  | _ :: _, [], h => h.elim

theorem tag_close (t : Tree) : t.close.tag = t.tag := by
  cases t
  rfl

/-- The last child of a node has the tag and the text of the last child of the tree. -/
theorem AllShown.getLast? {ts : List Tree} {is : List Nat} (h : AllShown r ts is) :
    ((is.getLast?.bind fun j ↦ r[j]?).map fun c ↦ (c.tag, c.text)) =
      ts.getLast?.map fun t ↦ (t.tag, t.text) := by
  match ts, is, h with
  | [], [], _ => rfl
  | [t], [i], ⟨ht, _⟩ =>
    obtain ⟨n, hn, htag, htext, _⟩ := ht.node
    simp [hn, htag, htext]
  | t :: u :: ts, i :: j :: is, ⟨_, h⟩ =>
    rw [List.getLast?_cons_cons, List.getLast?_cons_cons]
    exact h.getLast?
  | [_], _ :: _ :: _, ⟨_, h⟩ => exact h.elim
  | _ :: _ :: _, [_], ⟨_, h⟩ => exact h.elim
  | [], _ :: _, h => exact h.elim
  | _ :: _, [], h => exact h.elim

/-- An index that leads to the children of a node does so after one more child. -/
theorem index_append {m : Assoc Text Nat} {m' : Assoc Text Nat} {is : List Nat}
    (h : m.mapValues some = m'.mapValues fun k ↦ is[k]?) (kind : NodeKind)
    (previous : Option (Text × Text)) (i : Nat) :
    (indexAfter kind previous m i).mapValues some =
      (indexAfter kind previous m' is.length).mapValues fun k ↦ (is ++ [i])[k]? := by
  have hkept : m.mapValues some = m'.mapValues fun k ↦ (is ++ [i])[k]? := by
    rw [h]
    refine List.map_congr_left fun e he ↦ ?_
    -- A position of the index is one of a child, so the new child does not change what it leads to.
    have hmem : (e.1, is[e.2]?) ∈ m.mapValues some := h ▸ List.mem_map_of_mem he
    obtain ⟨e', _, he'⟩ := List.mem_map.mp hmem
    have hlt : e.2 < is.length :=
      (List.getElem?_eq_some_iff.mp (congrArg Prod.snd he').symm).1
    exact congrArg _ (List.getElem?_append_left hlt).symm
  unfold indexAfter
  split
  · split
    · rw [Assoc.mapValues_put, Assoc.mapValues_put, hkept, List.getElem?_concat_length]
    · exact hkept
  · exact hkept

/-- A node with another text shows the tree with this text. -/
theorem ShownAt.withText {t : Tree} {i : Nat} {text : Text} (h : t.ShownAt r i)
    (hi : r'[i]? = r[i]?.map fun n ↦ { n with text := text })
    (hchildren : ∀ n ts, r[i]? = some n → AllShown r ts n.children → AllShown r' ts n.children) :
    (t.withText text).ShownAt r' i := by
  obtain ⟨kind, tag, text', closed, children, index⟩ := t
  obtain ⟨n, hn, hkind, htag, _, hclosed, hshown, hindex⟩ := h
  exact ⟨{ n with text := text }, by rw [hi, hn]; rfl, hkind, htag, rfl, hclosed,
    hchildren n children hn hshown, hindex⟩

/-- A node that is closed shows the closed tree. -/
theorem ShownAt.close {t : Tree} {i : Nat} (h : t.ShownAt r i)
    (hi : r'[i]? = r[i]?.map fun n ↦ { n with closed := true })
    (hchildren : ∀ n ts, r[i]? = some n → AllShown r ts n.children → AllShown r' ts n.children) :
    t.close.ShownAt r' i := by
  obtain ⟨kind, tag, text, closed, children, index⟩ := t
  obtain ⟨n, hn, hkind, htag, htext, _, hshown, hindex⟩ := h
  exact ⟨{ n with closed := true }, by rw [hi, hn]; rfl, hkind, htag, htext, rfl,
    hchildren n children hn hshown, hindex⟩

/-- An open node that gets a child shows the tree with one more child. The state `r₁` is the one in which
the last child is looked up. -/
theorem ShownAt.append {t u : Tree} {i j : Nat} {r₁ : Registry} (ht : t.ShownAt r j)
    (hopen : t.closed = false) (hu : u.ShownAt r' i)
    (hj : ∀ n, r[j]? = some n → r'[j]? = some (r₁.withChild i n))
    (hchildren₁ : ∀ n ts, r[j]? = some n → AllShown r ts n.children → AllShown r₁ ts n.children)
    (hchildren : ∀ n ts, r[j]? = some n → AllShown r ts n.children → AllShown r' ts n.children) :
    ∃ t', t.append u = .ok t' ∧ t'.ShownAt r' j := by
  obtain ⟨kind, tag, text, closed, children, index⟩ := t
  obtain ⟨n, hn, hkind, htag, htext, hclosed, hshown, hindex⟩ := ht
  cases hopen
  refine ⟨_, rfl, r₁.withChild i n, hj n hn, hkind, htag, htext, hclosed,
    (hchildren n children hn hshown).append ⟨hu, trivial⟩, ?_⟩
  have hlast := (hchildren₁ n children hn hshown).getLast?
  have hindex := index_append hindex kind (r₁.lastChild? n) i
  rw [← hshown.length_eq] at hindex
  rw [Registry.withChild, hkind, ← hlast]
  exact hindex

end Tree

/-! ## One builder follows the other -/

namespace Arena

variable {a : Arena} {b : Builder} {s : Builder.Settings ε}

/-- The nodes of an arena show the trees of a builder. -/
structure Shows (a : Arena) (b : Builder) : Prop where
  stack : Tree.AllShown a.nodes b.stack a.stack
  root : Tree.AllShown a.nodes b.root.toList a.root.toList

/-- Two calls end alike: with the same error, or with a node and the tree that it shows. -/
def Agree (r : Registry) : CallResult ε Nat → CallResult ε Tree → Prop
  | .ok i, .ok t => Tree.AllShown r t.toList i.toList
  | .error e, .error e' => e = e'
  | _, _ => False

theorem Sound.kept_opening (h : a.Sound) (tag : Text) :
    Tree.Kept (· < a.nodes.length) a.nodes (a.opening tag).nodes where
  child i n _ hn c hc := by
    obtain ⟨m, hm, _⟩ := h.child_isClosed i n hn c hc
    exact (List.getElem?_eq_some_iff.mp hm).1
  eq i hi := Registry.getElem?_create_of_lt hi ..

/-- Nodes of the stack are changed, and no others. -/
structure Touches (a : Arena) (is : List Nat) (r : Registry) : Prop where
  mem : ∀ i ∈ is, i ∈ a.stack
  eq : ∀ k, k ∉ is → r[k]? = a.nodes[k]?

namespace Touches

variable {is : List Nat} {r : Registry}

theorem change {i : Nat} (hi : i ∈ a.stack) (f : Node → Node) :
    a.Touches [i] (a.nodes.change i f) where
  mem _ hk := List.mem_singleton.mp hk ▸ hi
  eq _ hk := Registry.getElem?_change_of_ne (fun e ↦ hk (List.mem_singleton.mpr e)) ..

/-- What stands inside a node is closed, so it is not touched. -/
theorem kept (ht : a.Touches is r) (h : a.Sound) : Tree.Kept (· ∉ is) a.nodes r where
  child _ _ _ hn _ hc hmem := h.child_notMem_stack hn hc (ht.mem _ hmem)
  eq := ht.eq

theorem children (ht : a.Touches is r) (h : a.Sound) {i : Nat} (n : Node) (ts : List Tree)
    (hn : a.nodes[i]? = some n) (hts : Tree.AllShown a.nodes ts n.children) :
    Tree.AllShown r ts n.children :=
  Tree.AllShown.kept (ht.kept h) ts
    (fun _ hc hmem ↦ h.child_notMem_stack hn hc (ht.mem _ hmem)) hts

theorem root (ht : a.Touches is r) (h : a.Sound) {ts : List Tree}
    (hts : Tree.AllShown a.nodes ts a.root.toList) : Tree.AllShown r ts a.root.toList :=
  Tree.AllShown.kept (ht.kept h) ts
    (fun i hi hmem ↦ h.notMem_stack (h.root_isClosed i (Option.mem_toList.mp hi)) (ht.mem i hmem))
    hts

end Touches

theorem Shows.empty : Shows {} {} := ⟨trivial, trivial⟩

theorem Shows.opening (hb : a.Shows b) (h : a.Sound) (tag : Text) :
    (a.opening tag).Shows (b.opening tag) := by
  have hkept := h.kept_opening tag
  constructor
  case stack =>
    refine ⟨⟨_, Registry.getElem?_create_self .., rfl, rfl, rfl, rfl, trivial, rfl⟩, ?_⟩
    exact Tree.AllShown.kept hkept _ (fun i hi ↦ h.lt_length hi) hb.stack
  case root =>
    refine Tree.AllShown.kept hkept _ (fun i hi ↦ ?_) hb.root
    obtain ⟨n, hn, _⟩ := h.root_isClosed i (Option.mem_toList.mp hi)
    exact (List.getElem?_eq_some_iff.mp hn).1

theorem Agree.eq_error {r : Registry} {x : CallResult ε Nat} {e : BuildError ε}
    (h : Agree r x (.error e)) : x = .error e :=
  match x, h with
  | .error _, rfl => rfl

/-- Both stacks are empty, or both have an innermost open element. -/
theorem Shows.stack_cases (hb : a.Shows b) :
    (a.stack = [] ∧ b.stack = []) ∨
      ∃ i rest t ts, a.stack = i :: rest ∧ b.stack = t :: ts ∧ t.ShownAt a.nodes i ∧
        Tree.AllShown a.nodes ts rest := by
  have hshown := hb.stack
  generalize a.stack = is, b.stack = ts at hshown
  match is, ts, hshown with
  | [], [], _ => exact .inl ⟨rfl, rfl⟩
  | i :: rest, t :: ts, ⟨ht, hts⟩ => exact .inr ⟨i, rest, t, ts, rfl, rfl, ht, hts⟩
  | [], _ :: _, h => exact h.elim
  | _ :: _, [], h => exact h.elim

/-- What a call leads to for both builders. -/
def Follows (s : Builder.Settings ε) (a : Arena) (b : Builder) (c : Call) : Prop :=
  (a.call s c).1.Shows (b.call s c).1 ∧
    Agree (a.call s c).1.nodes (a.call s c).2 (b.call s c).2

theorem Shows.text (hb : a.Shows b) (h : a.Sound) (s : Builder.Settings ε) (content : Text) :
    Follows s a b (.event (.text content)) := by
  obtain ⟨ha, hs⟩ | ⟨i, rest, t, ts, ha, hs, ht, hts⟩ := hb.stack_cases
  · simpa only [Follows, call, Arena.text, ha, Builder.call, Builder.step, Builder.text, hs] using
      ⟨hb, trivial⟩
  · cases hn : s.normalize content with
    | error e =>
      simpa only [Follows, call, Arena.text, ha, Builder.call, Builder.step, Builder.text, hs, hn]
        using ⟨hb, rfl⟩
    | ok text =>
      simp only [Follows, call, Arena.text, ha, Builder.call, Builder.step, Builder.text, hs, hn]
      have htouch : a.Touches [i] (a.nodes.setText i text) :=
        .change (ha ▸ List.mem_cons_self ..) _
      have hnotMem : i ∉ rest := (List.nodup_cons.mp (ha ▸ h.nodup)).1
      have hrest : ∀ k ∈ rest, k ∉ [i] :=
        fun k hk hki ↦ hnotMem (List.mem_singleton.mp hki ▸ hk)
      refine ⟨⟨⟨?_, ?_⟩, htouch.root h hb.root⟩, trivial⟩
      · exact ht.withText (Registry.getElem?_change_self ..) fun n ts hn ↦ htouch.children h n ts hn
      · exact Tree.AllShown.kept (htouch.kept h) ts hrest hts

theorem Shows.finish (hb : a.Shows b) (s : Builder.Settings ε) : Follows s a b .finish := by
  have hroot := hb.root
  obtain ⟨ha, hs⟩ | ⟨i, rest, t, ts, ha, hs, ht, hts⟩ := hb.stack_cases
  · cases hra : a.root <;> cases hrb : b.root <;> rw [hra, hrb] at hroot
    · simpa only [Follows, call, Arena.finish, ha, hra, Builder.call, Builder.finish, hs, hrb] using
        ⟨hb, rfl⟩
    · exact hroot.elim
    · exact hroot.elim
    · simpa only [Follows, call, Arena.finish, ha, hra, Builder.call, Builder.finish, hs, hrb] using
        ⟨hb, hroot⟩
  · have htags : (i :: rest).reverse.filterMap a.tag? = (t :: ts).reverse.map Tree.tag := by
      rw [List.filterMap_reverse, List.map_reverse]
      have hshown : Tree.AllShown a.nodes (t :: ts) (i :: rest) := ⟨ht, hts⟩
      exact congrArg List.reverse hshown.tags
    have hagree : Agree (ε := ε) a.nodes
        (.error (.structural (.unclosed ((i :: rest).reverse.filterMap a.tag?))))
        (.error (.structural (.unclosed ((t :: ts).reverse.map Tree.tag)))) := by rw [htags]; rfl
    cases a.root <;> cases b.root <;>
      simpa only [Follows, call, Arena.finish, ha, Builder.call, Builder.finish, hs] using
        ⟨hb, hagree⟩

/-- A close touches the innermost open node and the next one. -/
theorem Closes.touches {a' : Arena} {i : Nat} {rest : List Nat} (hc : a.Closes s a' i rest)
    (ha : a.stack = i :: rest) : a.Touches (i :: rest.head?.toList) a'.nodes where
  mem k hk := by
    rw [ha, List.mem_cons]
    exact (List.mem_cons.mp hk).imp_right fun hk ↦ List.mem_of_head? (Option.mem_toList.mp hk)
  eq k hk := by
    rw [List.mem_cons, not_or] at hk
    exact hc.other k hk.1 fun hj ↦ hk.2 (Option.mem_toList.mpr hj)

/-- The closed node is recorded as the document just when the closed tree is. -/
theorem Closes.root_shown {a' : Arena} {i : Nat} {rest : List Nat} (hc : a.Closes s a' i rest)
    (ha : a.stack = i :: rest) (hb : a.Shows b) (h : a.Sound) {t : Tree} (ht : t.ShownAt a.nodes i)
    (hnode : t.close.ShownAt a'.nodes i) :
    Tree.AllShown a'.nodes
      (if t.close.tag = s.rootTag then some t.close else b.root).toList a'.root.toList := by
  obtain ⟨n, hn, htag, _⟩ := ht.node
  have hitag : a.tag? i = some t.close.tag := by
    rw [tag?, hn, Option.map_some, htag, Tree.tag_close]
  rw [hc.root, hitag]
  by_cases htag : t.close.tag = s.rootTag
  · rw [if_pos htag, if_pos (congrArg some htag)]
    exact ⟨hnode, trivial⟩
  · rw [if_neg htag, if_neg fun e ↦ htag (Option.some.inj e)]
    exact (hc.touches ha).root h hb.root

/-- The next open node gets a child, as the next open tree does; the ones further out are kept. -/
theorem Closes.next_shown {a' : Arena} {i j : Nat} {outer : List Nat}
    (hc : a.Closes s a' i (j :: outer)) (ha : a.stack = i :: j :: outer) (h : a.Sound)
    {t u : Tree} {us : List Tree} (ht : t.ShownAt a'.nodes i) (hu : u.ShownAt a.nodes j)
    (hus : Tree.AllShown a.nodes us outer) :
    ∃ u', u.append t = .ok u' ∧ u'.ShownAt a'.nodes j ∧ Tree.AllShown a'.nodes us outer := by
  have htouch : a.Touches [i, j] a'.nodes := hc.touches ha
  have hopen : u.closed = false := by
    obtain ⟨n, hn, _, _, hclosed⟩ := hu.node
    obtain ⟨m, hm, hopen⟩ := h.isOpen j (ha ▸ by simp)
    cases hn.symm.trans hm
    rw [← hclosed, hopen]
  have hclose : a.Touches [i] (a.nodes.close i) := .change (ha ▸ List.mem_cons_self ..) _
  obtain ⟨u', happend, hu'⟩ := hu.append hopen ht (fun n hn ↦ hc.next j n rfl hn)
    (fun n ts hn ↦ hclose.children h n ts hn) (fun n ts hn ↦ htouch.children h n ts hn)
  refine ⟨u', happend, hu', Tree.AllShown.kept (htouch.kept h) us (fun k hk hki ↦ ?_) hus⟩
  obtain ⟨hi, hj⟩ : (¬ (i = j ∨ i ∈ outer)) ∧ j ∉ outer ∧ outer.Nodup := by
    simpa [ha] using h.nodup
  rcases List.mem_cons.mp hki with rfl | hkj
  · exact hi (.inr hk)
  · exact hj.1 (List.mem_singleton.mp hkj ▸ hk)

theorem Shows.closing (hb : a.Shows b) (h : a.Sound) (s : Builder.Settings ε) :
    Follows s a b (.event .closing) := by
  obtain ⟨ha, hs⟩ | ⟨i, rest, t, ts, ha, hs, ht, hts⟩ := hb.stack_cases
  · simpa only [Follows, call, Arena.closing, ha, Builder.call, Builder.step, Builder.closing, hs]
      using ⟨hb, rfl⟩
  obtain ⟨a', hclosing, hc⟩ := closing_of_cons h s ha
  have hnode : t.close.ShownAt a'.nodes i :=
    ht.close hc.top fun n ts hn ↦ (hc.touches ha).children h n ts hn
  have hroot := hc.root_shown ha hb h ht hnode
  rw [Follows, show a.call s (.event .closing) = a.closing s from rfl, hclosing]
  cases rest with
  | nil =>
    cases ts with
    | nil =>
      simp only [Builder.call, Builder.step, Builder.closing, hs]
      exact ⟨⟨hc.stack ▸ trivial, hroot⟩, trivial⟩
    | cons u us => exact hts.elim
  | cons j outer =>
    cases ts with
    | nil => exact hts.elim
    | cons u us =>
      obtain ⟨u', happend, hu', hus⟩ := hc.next_shown ha h hnode hts.1 hts.2
      simp only [Builder.call, Builder.step, Builder.closing, hs, happend]
      exact ⟨⟨hc.stack ▸ ⟨hu', hus⟩, hroot⟩, trivial⟩

/-- Both builders follow each other through every call. -/
theorem Shows.follows (hb : a.Shows b) (h : a.Sound) (s : Builder.Settings ε) :
    (c : Call) → Follows s a b c
  | .event (.opening tag) => ⟨hb.opening h tag, trivial⟩
  | .event (.text content) => hb.text h s content
  | .event .closing => hb.closing h s
  | .finish => hb.finish s

theorem Shows.run (hb : a.Shows b) (h : a.Sound) (s : Builder.Settings ε) (calls : List Call) :
    (a.run s calls).Shows (b.after s calls) := by
  induction calls generalizing a b with
  | nil => exact hb
  | cons c calls ih => exact ih (hb.follows h s c).1 (h.call s c)

/-- A closed node shows in all later states what it shows now. -/
theorem shownAt_run (h : a.Sound) {i : Nat} (hi : a.nodes.IsClosed i) {t : Tree}
    (ht : t.ShownAt a.nodes i) (s : Builder.Settings ε) (calls : List Call) :
    t.ShownAt (a.run s calls).nodes i := by
  have hkept : Tree.Kept a.nodes.IsClosed a.nodes (a.run s calls).nodes :=
    ⟨fun i n _ hn c hc ↦ h.child_isClosed i n hn c hc, fun k hk ↦ getElem?_run h hk s calls⟩
  exact Tree.ShownAt.kept hkept t hi ht

end Arena

/-- The states that calls lead to, whichever calls those are and whether they are refused or not. The trees
of the builder are those that the nodes show, and one more call ends alike for both; the depth is the number
of opens without that of the successful closes; a node on the stack is open and whatever stands inside it is
closed; a close is refused only when the stack is empty; a call that is refused leaves everything as it
was; and a closed node stays as it is in all later states, with all that it shows. -/
theorem Builder.lifecycle (s : Builder.Settings ε) (calls : List Call) :
    let a := Arena.run s {} calls
    let b := Builder.after s {} calls
    a.Shows b ∧
    (∀ c, Arena.Follows s a b c) ∧
    b.depth + Builder.closes s {} calls = Call.opens calls ∧
    (∀ i ∈ a.stack, a.nodes.IsOpen i ∧ ∀ j, a.nodes.Inside j i → a.nodes.IsClosed j) ∧
    (∀ e, (a.call s (.event .closing)).2 = .error e ↔
      a.stack = [] ∧ e = .structural .extraClose) ∧
    (∀ c e, (b.call s c).2 = .error e → (b.call s c).1 = b ∧ (a.call s c).1 = a) ∧
    ∀ i, a.nodes.IsClosed i → ∀ more,
      (a.run s more).nodes[i]? = a.nodes[i]? ∧
      ∀ t : Tree, t.ShownAt a.nodes i → t.ShownAt (a.run s more).nodes i := by
  intro a b
  have hsound : a.Sound := Arena.Sound.empty.run s calls
  have hshows : a.Shows b := Arena.Shows.empty.run Arena.Sound.empty s calls
  refine ⟨hshows, hshows.follows hsound s, ?_, ?_, ?_, ?_, ?_⟩
  · rw [depth_after]
    exact Nat.zero_add _
  · exact fun i hi ↦ ⟨hsound.isOpen i hi, fun j hj ↦ hsound.isClosed_of_inside hj⟩
  · exact fun e ↦ Arena.closing_eq_error_iff hsound
  · intro c e herror
    have hagree := (hshows.follows hsound s c).2
    rw [herror] at hagree
    exact ⟨call_of_error herror, Arena.call_of_error hsound hagree.eq_error⟩
  · exact fun i hi more ↦ ⟨Arena.getElem?_run hsound hi s more,
      fun t ht ↦ Arena.shownAt_run hsound hi ht s more⟩

end ScriptDefs.Markup
