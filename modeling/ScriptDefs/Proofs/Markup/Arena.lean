import ScriptDefs.Markup.Arena

/-!
# Open and closed nodes

In all states that calls lead to, the open nodes are exactly those on the stack, and whatever stands
inside another node is closed. A call changes no other nodes than those on the stack, so a node that was
closed stays as it is.
-/

namespace ScriptDefs.Markup

variable {ε : Type}

/-! ## Changes of nodes -/

namespace Registry

/-- A node stands inside another one, at any depth. -/
inductive Inside (r : Registry) : Nat → Nat → Prop where
  | child {i c : Nat} {n : Node} (hn : r[i]? = some n) (hc : c ∈ n.children) : Inside r c i
  | deeper {i c d : Nat} {n : Node} (hn : r[i]? = some n) (hc : c ∈ n.children)
      (hd : Inside r d c) : Inside r d i

variable {r : Registry} {i j k : Nat}

theorem length_create (kind : NodeKind) (tag : Text) (r : Registry) :
    (r.create kind tag).length = r.length + 1 := List.length_append

theorem length_change (i : Nat) (f : Node → Node) (r : Registry) :
    (r.change i f).length = r.length := List.length_modify ..

/-- The new node comes after all others. -/
theorem getElem?_create_self (kind : NodeKind) (tag : Text) (r : Registry) :
    (r.create kind tag)[r.length]? = some { kind := kind, tag := tag } := by
  simp [create]

theorem getElem?_create_of_lt (h : k < r.length) (kind : NodeKind) (tag : Text) :
    (r.create kind tag)[k]? = r[k]? := List.getElem?_append_left h

theorem getElem?_change_self (f : Node → Node) (r : Registry) (i : Nat) :
    (r.change i f)[i]? = r[i]?.map f := List.getElem?_modify_eq ..

theorem getElem?_change_of_ne (h : k ≠ i) (f : Node → Node) (r : Registry) :
    (r.change i f)[k]? = r[k]? := List.getElem?_modify_ne f r h.symm

/-- What an open node is after it has got a child. -/
def withChild (r : Registry) (j : Nat) (n : Node) : Node :=
  { n with
    children := n.children ++ [j]
    index := indexAfter n.kind (r.lastChild? n) n.index j }

/-- A node that is open accepts a child. -/
theorem append_of_open {parent child : Node} (hi : r[i]? = some parent) (hj : r[j]? = some child)
    (hopen : parent.closed = false) :
    ∃ r', r.append i j = .ok r' ∧ r'[i]? = some (r.withChild j parent) ∧
      (∀ k, k ≠ i → r'[k]? = r[k]?) ∧ r'.length = r.length := by
  have happend : r.append i j = .ok (r.change i fun n ↦
      { n with
        children := n.children ++ [j]
        index := indexAfter n.kind (r.lastChild? parent) n.index j }) := by
    simp only [append, hi, hj, hopen, Bool.false_eq_true, ite_false]
  refine ⟨_, happend, ?_, fun k hk ↦ getElem?_change_of_ne hk _ r, length_change ..⟩
  rw [getElem?_change_self, hi]
  rfl

/-- The number of a closed node. -/
def IsClosed (r : Registry) (i : Nat) : Prop := ∃ n, r[i]? = some n ∧ n.closed = true

/-- The number of an open node. -/
def IsOpen (r : Registry) (i : Nat) : Prop := ∃ n, r[i]? = some n ∧ n.closed = false

theorem IsOpen.not_isClosed (h : r.IsOpen i) : ¬ r.IsClosed i := by
  obtain ⟨n, hn, hopen⟩ := h
  rintro ⟨m, hm, hclosed⟩
  cases hn.symm.trans hm
  rw [hopen] at hclosed
  cases hclosed

end Registry

namespace Arena

/-! ## What holds in all states -/

/-- The open nodes are those on the stack, each once, and children and the document are closed. -/
structure Sound (a : Arena) : Prop where
  nodup : a.stack.Nodup
  isOpen : ∀ i ∈ a.stack, a.nodes.IsOpen i
  isClosed : ∀ i < a.nodes.length, i ∉ a.stack → a.nodes.IsClosed i
  child_isClosed : ∀ (i : Nat) (n : Node), a.nodes[i]? = some n → ∀ c ∈ n.children, a.nodes.IsClosed c
  root_isClosed : ∀ i, a.root = some i → a.nodes.IsClosed i

namespace Sound

variable {a : Arena} {i j : Nat} {rest : List Nat}

theorem empty : Sound {} where
  nodup := List.nodup_nil
  isOpen _ h := nomatch h
  isClosed _ h := nomatch h
  child_isClosed _ _ h := nomatch h
  root_isClosed _ h := nomatch h

/-- A closed node is not on the stack. -/
theorem notMem_stack (h : a.Sound) (hi : a.nodes.IsClosed i) : i ∉ a.stack :=
  fun hmem ↦ (h.isOpen i hmem).not_isClosed hi

/-- Whatever stands inside a node is closed. -/
theorem isClosed_of_inside (h : a.Sound) (hin : a.nodes.Inside j i) : a.nodes.IsClosed j := by
  induction hin with
  | child hn hc => exact h.child_isClosed _ _ hn _ hc
  | deeper _ _ _ ih => exact ih

theorem lt_length (h : a.Sound) (hi : i ∈ a.stack) : i < a.nodes.length := by
  obtain ⟨n, hn, _⟩ := h.isOpen i hi
  exact (List.getElem?_eq_some_iff.mp hn).1

/-- The children of a node are not on the stack. -/
theorem child_notMem_stack (h : a.Sound) {n : Node} (hn : a.nodes[i]? = some n) {c : Nat}
    (hc : c ∈ n.children) : c ∉ a.stack := h.notMem_stack (h.child_isClosed i n hn c hc)

end Sound

/-! ## What a call does -/

/-- A text changes nothing, or the text of an open node. -/
theorem text_cases (s : Builder.Settings ε) (content : Text) (a : Arena) :
    (a.text s content).1 = a ∨ ∃ i ∈ a.stack, ∃ t,
      a.text s content = ({ a with nodes := a.nodes.setText i t }, .ok none) := by
  unfold text
  split
  · exact .inl rfl
  · next i rest hs =>
    split
    · exact .inl rfl
    · exact .inr ⟨i, hs ▸ List.mem_cons_self .., _, rfl⟩

@[simp] theorem record_nodes (s : Builder.Settings ε) (i : Nat) (a : Arena) :
    (a.record s i).nodes = a.nodes := by
  unfold record
  split <;> rfl

@[simp] theorem record_stack (s : Builder.Settings ε) (i : Nat) (a : Arena) :
    (a.record s i).stack = a.stack := by
  unfold record
  split <;> rfl

theorem record_root (s : Builder.Settings ε) (i : Nat) (a : Arena) :
    (a.record s i).root = if a.tag? i = some s.rootTag then some i else a.root := by
  unfold record
  split <;> rfl

/-- What a close does when a node is open: the innermost open node is closed and recorded if it is a
root, the next one gets a child, and nothing else changes. -/
structure Closes (s : Builder.Settings ε) (a a' : Arena) (i : Nat) (rest : List Nat) : Prop where
  stack : a'.stack = rest
  root : a'.root = if a.tag? i = some s.rootTag then some i else a.root
  length : a'.nodes.length = a.nodes.length
  top : a'.nodes[i]? = a.nodes[i]?.map fun n ↦ { n with closed := true }
  next : ∀ j n, rest.head? = some j → a.nodes[j]? = some n →
    a'.nodes[j]? = some ((a.nodes.close i).withChild i n)
  other : ∀ k, k ≠ i → rest.head? ≠ some k → a'.nodes[k]? = a.nodes[k]?

/-- A close with an open node succeeds. -/
theorem closing_of_cons {a : Arena} (h : a.Sound) (s : Builder.Settings ε) {i : Nat}
    {rest : List Nat} (hs : a.stack = i :: rest) :
    ∃ a', a.closing s = (a', .ok none) ∧ a.Closes s a' i rest := by
  have htop : (a.nodes.close i)[i]? = a.nodes[i]?.map fun n ↦ { n with closed := true } :=
    Registry.getElem?_change_self ..
  cases rest with
  | nil =>
    refine ⟨record s i { nodes := a.nodes.close i, root := a.root }, by simp only [closing, hs], ?_⟩
    constructor
    case stack => exact record_stack ..
    case root => rw [record_root, tag?, tag?, htop, Option.map_map]; rfl
    case length => simp [Registry.close, Registry.length_change]
    case top => simp [htop]
    case next => exact fun j n hj ↦ nomatch hj
    case other =>
      intro k hk _
      rw [record_nodes]
      exact Registry.getElem?_change_of_ne hk ..
  | cons j outer =>
    have hji : j ≠ i := by
      rintro rfl
      have := hs ▸ h.nodup
      simp at this
    obtain ⟨node, hnode, _⟩ := h.isOpen i (hs ▸ by simp)
    obtain ⟨parent, hparent, hopen⟩ := h.isOpen j (hs ▸ by simp)
    have hparent' : (a.nodes.close i)[j]? = some parent := by
      rw [Registry.close, Registry.getElem?_change_of_ne hji, hparent]
    obtain ⟨r, happend, hj, hother, hlength⟩ :=
      Registry.append_of_open hparent' (htop.trans (by rw [hnode]; rfl)) hopen
    have hri : r[i]? = a.nodes[i]?.map fun n ↦ { n with closed := true } := by
      rw [hother i hji.symm, htop]
    refine ⟨record s i { nodes := r, stack := j :: outer, root := a.root },
      by simp only [closing, hs, happend], ?_⟩
    constructor
    case stack => exact record_stack ..
    case root => rw [record_root, tag?, tag?, hri, Option.map_map]; rfl
    case length => simp [hlength, Registry.close, Registry.length_change]
    case top => simp [hri]
    case next =>
      intro j' n hj' hn
      cases hj'
      cases hparent.symm.trans hn
      rw [record_nodes, hj]
    case other =>
      intro k hk hkj
      rw [record_nodes, hother k (fun e ↦ hkj (by rw [e]; rfl))]
      exact Registry.getElem?_change_of_ne hk ..

namespace Sound

variable {a a' : Arena} {i : Nat} {rest : List Nat}

/-- An open adds an open node without children. -/
theorem opening (h : a.Sound) (tag : Text) : (a.opening tag).Sound := by
  have hnew : (a.opening tag).nodes[a.nodes.length]? = some { kind := kindOf tag, tag := tag } :=
    Registry.getElem?_create_self ..
  have hold : ∀ k < a.nodes.length, (a.opening tag).nodes[k]? = a.nodes[k]? :=
    fun k hk ↦ Registry.getElem?_create_of_lt hk ..
  have hopen : ∀ k, a.nodes.IsOpen k → (a.opening tag).nodes.IsOpen k := by
    rintro k ⟨n, hn, hopen⟩
    exact ⟨n, (hold k (List.getElem?_eq_some_iff.mp hn).1).trans hn, hopen⟩
  have hclosed : ∀ k, a.nodes.IsClosed k → (a.opening tag).nodes.IsClosed k := by
    rintro k ⟨n, hn, hclosed⟩
    exact ⟨n, (hold k (List.getElem?_eq_some_iff.mp hn).1).trans hn, hclosed⟩
  constructor
  case nodup => exact List.nodup_cons.mpr ⟨fun hmem ↦ Nat.lt_irrefl _ (h.lt_length hmem), h.nodup⟩
  case isOpen =>
    intro k hk
    rcases List.mem_cons.mp hk with rfl | hk
    · exact ⟨_, hnew, rfl⟩
    · exact hopen k (h.isOpen k hk)
  case isClosed =>
    intro k hk hmem
    have hlength : k < a.nodes.length + 1 := by simpa [Arena.opening, Registry.create] using hk
    obtain ⟨hne, hmem⟩ : k ≠ a.nodes.length ∧ k ∉ a.stack := by
      simpa [Arena.opening] using hmem
    exact hclosed k (h.isClosed k (by omega) hmem)
  case child_isClosed =>
    intro k n hn c hc
    rcases Nat.lt_or_ge k a.nodes.length with hk | hk
    · exact hclosed c (h.child_isClosed k n (hold k hk ▸ hn) c hc)
    · have hlt := (List.getElem?_eq_some_iff.mp hn).1
      obtain rfl : k = a.nodes.length := by
        simp only [Arena.opening, Registry.length_create] at hlt
        omega
      cases hnew.symm.trans hn
      cases hc
  case root_isClosed => exact fun k hk ↦ hclosed k (h.root_isClosed k hk)

/-- A text changes neither which nodes are open nor the children of nodes. -/
theorem setText (h : a.Sound) (i : Nat) (t : Text) :
    Sound { a with nodes := a.nodes.setText i t } := by
  have hnode : ∀ k, (a.nodes.setText i t)[k]? =
      a.nodes[k]?.map fun n ↦ if k = i then { n with text := t } else n := by
    intro k
    by_cases hk : k = i
    · subst hk
      simp [Registry.setText, Registry.getElem?_change_self]
    · simp [Registry.setText, Registry.getElem?_change_of_ne hk, hk]
  have hopen : ∀ k, a.nodes.IsOpen k → (a.nodes.setText i t).IsOpen k := by
    rintro k ⟨n, hn, hopen⟩
    refine ⟨_, by rw [hnode, hn]; rfl, ?_⟩
    split <;> exact hopen
  have hclosed : ∀ k, a.nodes.IsClosed k → (a.nodes.setText i t).IsClosed k := by
    rintro k ⟨n, hn, hclosed⟩
    refine ⟨_, by rw [hnode, hn]; rfl, ?_⟩
    split <;> exact hclosed
  constructor
  case nodup => exact h.nodup
  case isOpen => exact fun k hk ↦ hopen k (h.isOpen k hk)
  case isClosed =>
    exact fun k hk hmem ↦ hclosed k (h.isClosed k (Registry.length_change i _ _ ▸ hk) hmem)
  case child_isClosed =>
    intro k n hn c hc
    obtain ⟨m, hm, rfl⟩ := Option.map_eq_some_iff.mp ((hnode k).symm.trans hn)
    refine hclosed c (h.child_isClosed k m hm c ?_)
    split at hc <;> exact hc
  case root_isClosed => exact fun k hk ↦ hclosed k (h.root_isClosed k hk)

/-- A close closes the innermost open node and makes it a child. -/
theorem closes (h : a.Sound) {s : Builder.Settings ε} (hs : a.stack = i :: rest)
    (hc : a.Closes s a' i rest) : a'.Sound := by
  have hnodup : i ∉ rest ∧ rest.Nodup := List.nodup_cons.mp (hs ▸ h.nodup)
  obtain ⟨node, hnode, _⟩ := h.isOpen i (hs ▸ List.mem_cons_self ..)
  have htop : a'.nodes[i]? = some { node with closed := true } := by rw [hc.top, hnode]; rfl
  have hnext : ∀ j, rest.head? = some j → ∃ n, a.nodes[j]? = some n ∧ n.closed = false ∧
      a'.nodes[j]? = some ((a.nodes.close i).withChild i n) := by
    intro j hj
    obtain ⟨n, hn, hopen⟩ := h.isOpen j (hs ▸ List.mem_cons_of_mem _ (List.mem_of_head? hj))
    exact ⟨n, hn, hopen, hc.next j n hj hn⟩
  have hopen : ∀ k ∈ rest, a'.nodes.IsOpen k := by
    intro k hk
    by_cases hj : rest.head? = some k
    · obtain ⟨n, _, hopen, hn⟩ := hnext k hj
      exact ⟨_, hn, hopen⟩
    · obtain ⟨n, hn, hopen⟩ := h.isOpen k (hs ▸ List.mem_cons_of_mem _ hk)
      exact ⟨n, (hc.other k (ne_of_mem_of_not_mem hk hnodup.1) hj).trans hn, hopen⟩
  have hclosed : ∀ k, a.nodes.IsClosed k → a'.nodes.IsClosed k := by
    intro k hk
    have hmem : k ∉ i :: rest := hs ▸ h.notMem_stack hk
    obtain ⟨n, hn, hclosed⟩ := hk
    refine ⟨n, (hc.other k ?_ ?_).trans hn, hclosed⟩
    · exact fun e ↦ hmem (e ▸ List.mem_cons_self ..)
    · exact fun e ↦ hmem (List.mem_cons_of_mem _ (List.mem_of_head? e))
  constructor
  case nodup => exact hc.stack ▸ hnodup.2
  case isOpen => exact fun k hk ↦ hopen k (hc.stack ▸ hk)
  case isClosed =>
    intro k hk hmem
    by_cases hki : k = i
    · exact hki ▸ ⟨_, htop, rfl⟩
    · refine hclosed k (h.isClosed k (hc.length ▸ hk) ?_)
      rw [hs, List.mem_cons, not_or]
      exact ⟨hki, hc.stack ▸ hmem⟩
  case child_isClosed =>
    intro k n hn c hcn
    by_cases hki : k = i
    · subst hki
      cases htop.symm.trans hn
      exact hclosed c (h.child_isClosed k node hnode c hcn)
    by_cases hj : rest.head? = some k
    · obtain ⟨m, hm, _, hm'⟩ := hnext k hj
      cases hm'.symm.trans hn
      rcases List.mem_append.mp hcn with hcn | hcn
      · exact hclosed c (h.child_isClosed k m hm c hcn)
      · exact List.mem_singleton.mp hcn ▸ ⟨_, htop, rfl⟩
    · exact hclosed c (h.child_isClosed k n (hc.other k hki hj ▸ hn) c hcn)
  case root_isClosed =>
    intro k hk
    rw [hc.root] at hk
    split at hk
    · cases hk
      exact ⟨_, htop, rfl⟩
    · exact hclosed k (h.root_isClosed k hk)

/-- Every call keeps what holds in all states. -/
theorem call (h : a.Sound) (s : Builder.Settings ε) (c : Call) : (a.call s c).1.Sound := by
  match c with
  | .event (.opening tag) => exact h.opening tag
  | .event (.text content) =>
    show (a.text s content).1.Sound
    obtain hkept | ⟨i, _, t, htext⟩ := text_cases s content a
    · rwa [hkept]
    · rw [htext]
      exact h.setText i t
  | .event .closing =>
    show (a.closing s).1.Sound
    cases hs : a.stack with
    | nil => simpa only [Arena.closing, hs] using h
    | cons i rest =>
      obtain ⟨a', hclosing, hc⟩ := closing_of_cons h s hs
      rw [hclosing]
      exact h.closes hs hc
  | .finish => exact h

theorem run (h : a.Sound) (s : Builder.Settings ε) (calls : List Call) :
    (a.run s calls).Sound := by
  induction calls generalizing a with
  | nil => exact h
  | cons c calls ih => exact ih (h.call s c)

end Sound

/-! ## What a call leaves as it is -/

variable {a : Arena} {k : Nat}

/-- A call changes no other nodes than those on the stack. -/
theorem getElem?_call (h : a.Sound) (hk : k < a.nodes.length) (hmem : k ∉ a.stack)
    (s : Builder.Settings ε) (c : Call) : (a.call s c).1.nodes[k]? = a.nodes[k]? := by
  match c with
  | .event (.opening tag) => exact Registry.getElem?_create_of_lt hk ..
  | .event (.text content) =>
    show (a.text s content).1.nodes[k]? = a.nodes[k]?
    obtain hkept | ⟨i, hi, t, htext⟩ := text_cases s content a
    · rw [hkept]
    · rw [htext]
      exact Registry.getElem?_change_of_ne (ne_of_mem_of_not_mem hi hmem).symm ..
  | .event .closing =>
    show (a.closing s).1.nodes[k]? = a.nodes[k]?
    cases hs : a.stack with
    | nil => simp only [closing, hs]
    | cons i rest =>
      obtain ⟨a', hclosing, hc⟩ := closing_of_cons h s hs
      rw [hs, List.mem_cons, not_or] at hmem
      rw [hclosing]
      exact hc.other k hmem.1 fun hj ↦ hmem.2 (List.mem_of_head? hj)
  | .finish => rfl

/-- A node that was closed stays as it is in all later states. -/
theorem getElem?_run (h : a.Sound) (hk : a.nodes.IsClosed k) (s : Builder.Settings ε)
    (calls : List Call) : (a.run s calls).nodes[k]? = a.nodes[k]? := by
  induction calls generalizing a with
  | nil => rfl
  | cons c calls ih =>
    obtain ⟨n, hn, hclosed⟩ := hk
    have hcall : (a.call s c).1.nodes[k]? = a.nodes[k]? :=
      getElem?_call h (List.getElem?_eq_some_iff.mp hn).1 (h.notMem_stack ⟨n, hn, hclosed⟩) s c
    calc ((a.call s c).1.run s calls).nodes[k]?
        = (a.call s c).1.nodes[k]? := ih (h.call s c) ⟨n, hcall.trans hn, hclosed⟩
      _ = a.nodes[k]? := hcall

/-- A close is refused only when no node is open; that a node were closed is never the reason. -/
theorem closing_eq_error_iff (h : a.Sound) {s : Builder.Settings ε} {e : BuildError ε} :
    (a.closing s).2 = .error e ↔ a.stack = [] ∧ e = .structural .extraClose := by
  cases hs : a.stack with
  | nil =>
    simp only [closing, hs]
    constructor
    · rintro ⟨⟩
      exact ⟨trivial, rfl⟩
    · rintro ⟨-, rfl⟩
      rfl
  | cons i rest =>
    obtain ⟨a', hclosing, _⟩ := closing_of_cons h s hs
    simp [hclosing]

/-- A call that is refused changes nothing. -/
theorem call_of_error (h : a.Sound) {s : Builder.Settings ε} {c : Call} {e : BuildError ε}
    (herror : (a.call s c).2 = .error e) : (a.call s c).1 = a := by
  match c with
  | .event (.opening tag) => cases herror
  | .event (.text content) =>
    obtain hkept | ⟨i, _, t, htext⟩ := text_cases s content a
    · exact hkept
    · rw [show (a.call s (.event (.text content))) = a.text s content from rfl, htext] at herror
      cases herror
  | .event .closing =>
    have hs : a.stack = [] := ((closing_eq_error_iff h).mp herror).1
    show (a.closing s).1 = a
    simp only [closing, hs]
  | .finish => rfl

end Arena

end ScriptDefs.Markup
