import Mathlib.Data.Finset.Card
import ScriptDefs.Proofs.Data.Merged
import ScriptDefs.Proofs.Markup.Arena

/-!
# Histories of nodes

Nodes are created, get texts and children and are closed in any order; one node may be a child of
several others. The index of a map is maintained from the last child alone, while keys can change
their texts. It always tells what happened: a child that came after a key is bound to the text that
the key had then, bindings being made in the order in which the children came.
-/

namespace ScriptDefs.Markup

namespace Registry

/-! ## Arrivals of children -/

/-- A child that a node got, and all nodes as they were just before. -/
structure Arrival where
  child : Nat
  before : Registry

/-- A node is open, and there is the node that it is to get as a child. -/
def accepts (r : Registry) (i j : Nat) : Bool := r[i]?.any (!·.closed) && r[j]?.isSome

/-- The child that a node gets by an operation. -/
def arrival? (i : Nat) (r : Registry) : Operation → Option Arrival
  | .append k j => if k = i ∧ r.accepts i j then some ⟨j, r⟩ else none
  | _ => none

/-- The children that a node gets by operations, in order. -/
def arrivals (i : Nat) (r : Registry) : List Operation → List Arrival
  | [] => []
  | op :: ops => (arrival? i r op).toList ++ arrivals i (r.perform op) ops

/-- A child that comes next after a key is bound to the text that the key has then. -/
def Arrival.binding? (previous next : Arrival) : Option (Text × Nat) :=
  next.before[previous.child]?.bind fun n ↦
    if n.tag = keyTag then some (n.text, next.child) else none

/-- The bindings that neighbouring children give, in order. -/
def bindings (history : List Arrival) : List (Text × Nat) :=
  (history.zip history.tail).filterMap fun e ↦ e.1.binding? e.2

theorem bindings_cons_cons (a b : Arrival) (history : List Arrival) :
    bindings (a :: b :: history) = (a.binding? b).toList ++ bindings (b :: history) := by
  simp only [bindings, List.tail_cons, List.zip_cons_cons, List.filterMap_cons]
  cases a.binding? b <;> rfl

/-- One more child gives at most one more binding, the last one. -/
theorem bindings_concat (history : List Arrival) (a : Arrival) :
    bindings (history ++ [a]) =
      bindings history ++ (history.getLast?.bind (·.binding? a)).toList := by
  match history with
  | [] => rfl
  | [b] => exact (bindings_cons_cons b a []).trans (List.append_nil _)
  | b :: c :: rest =>
    have ih := bindings_concat (c :: rest) a
    rw [List.cons_append] at ih
    rw [List.cons_append, List.cons_append, bindings_cons_cons, ih, bindings_cons_cons,
      List.getLast?_cons_cons, List.append_assoc]

theorem run_concat (r : Registry) (ops : List Operation) (op : Operation) :
    r.run (ops ++ [op]) = (r.run ops).perform op := by
  rw [run, run, List.foldl_append]
  rfl

theorem arrivals_concat (i : Nat) (r : Registry) (ops : List Operation) (op : Operation) :
    arrivals i r (ops ++ [op]) = arrivals i r ops ++ (arrival? i (r.run ops) op).toList := by
  induction ops generalizing r with
  | nil => simp [arrivals, run]
  | cons first ops ih => rw [List.cons_append, arrivals, ih, arrivals, List.append_assoc]; rfl

/-! ## What a node holds -/

/-- A node holds the children that it got, and the index of a map has their bindings; what is not
there got none. -/
structure Recalls (r : Registry) (i : Nat) (history : List Arrival) : Prop where
  absent : r[i]? = none → history = []
  children : ∀ n, r[i]? = some n → n.children = history.map (·.child)
  index : ∀ n, r[i]? = some n →
    n.index = if n.kind = .map then Assoc.ofList (bindings history) else []

namespace Recalls

variable {r : Registry} {i : Nat} {history : List Arrival}

theorem empty (i : Nat) : Recalls [] i [] where
  absent _ := rfl
  children _ h := nomatch h
  index _ h := nomatch h

/-- A new node has no children yet. -/
theorem create (h : r.Recalls i history) (kind : NodeKind) (tag : Text) :
    (r.create kind tag).Recalls i history := by
  rcases Nat.lt_trichotomy i r.length with hi | rfl | hi
  · have heq := getElem?_create_of_lt hi kind tag
    exact ⟨heq ▸ h.absent, heq ▸ h.children, heq ▸ h.index⟩
  · have hnew := getElem?_create_self kind tag r
    obtain rfl : history = [] := h.absent (List.getElem?_eq_none (Nat.le_refl _))
    refine ⟨fun _ ↦ rfl, fun n hn ↦ ?_, fun n hn ↦ ?_⟩
    · cases hnew.symm.trans hn
      rfl
    · cases hnew.symm.trans hn
      cases kind <;> rfl
  · have hnone : (r.create kind tag)[i]? = none :=
      List.getElem?_eq_none (by rw [length_create]; exact hi)
    refine ⟨fun _ ↦ h.absent (List.getElem?_eq_none hi.le), fun n hn ↦ ?_, fun n hn ↦ ?_⟩
    · cases hnone.symm.trans hn
    · cases hnone.symm.trans hn

/-- Texts and closing matter neither to the children nor to the index of any node. -/
theorem change (h : r.Recalls i history) (k : Nat) {f : Node → Node}
    (hchildren : ∀ n, (f n).children = n.children) (hindex : ∀ n, (f n).index = n.index)
    (hkind : ∀ n, (f n).kind = n.kind) : (r.change k f).Recalls i history := by
  by_cases hk : i = k
  · subst hk
    have heq := getElem?_change_self f r i
    refine ⟨fun hn ↦ h.absent ?_, fun n hn ↦ ?_, fun n hn ↦ ?_⟩
    · rwa [heq, Option.map_eq_none_iff] at hn
    · obtain ⟨m, hm, rfl⟩ := Option.map_eq_some_iff.mp (heq.symm.trans hn)
      rw [hchildren, h.children m hm]
    · obtain ⟨m, hm, rfl⟩ := Option.map_eq_some_iff.mp (heq.symm.trans hn)
      rw [hindex, hkind, h.index m hm]
  · have heq := getElem?_change_of_ne hk f r
    exact ⟨heq ▸ h.absent, heq ▸ h.children, heq ▸ h.index⟩

/-- What the last child was decides what the next one is bound to. -/
theorem index_withChild (h : r.Recalls i history) {n : Node} (hn : r[i]? = some n) (j : Nat) :
    (r.withChild j n).index =
      if n.kind = .map then Assoc.ofList (bindings (history ++ [⟨j, r⟩])) else [] := by
  have hlast : r.lastChild? n = (history.getLast?.bind fun a ↦ r[a.child]?).map
      fun c ↦ (c.tag, c.text) := by
    rw [lastChild?, h.children n hn, List.getLast?_map]
    cases history.getLast? <;> rfl
  have hbinding : history.getLast?.bind (·.binding? ⟨j, r⟩) =
      (history.getLast?.bind fun a ↦ r[a.child]?).bind fun c ↦
        if c.tag = keyTag then some (c.text, j) else none := by
    cases history.getLast? <;> rfl
  rw [withChild, hlast, h.index n hn, bindings_concat, hbinding]
  cases history.getLast?.bind fun a ↦ r[a.child]? with
  | none => cases n.kind <;> simp [indexAfter]
  | some c =>
    by_cases hkey : c.tag = keyTag
    · cases n.kind <;> simp [indexAfter, hkey]
    · cases n.kind <;> simp [indexAfter, hkey]

end Recalls

/-- A closed node refuses a child. -/
theorem append_of_closed {r : Registry} {i j : Nat} {parent child : Node}
    (hi : r[i]? = some parent) (hj : r[j]? = some child) (hclosed : parent.closed = true) :
    r.append i j = .error (.appendToClosed child.tag parent.tag) := by
  simp only [append, hi, hj, hclosed, ite_true]

/-- An append does nothing, or gives an open node a child. -/
theorem append_cases (r : Registry) (i j : Nat) :
    (r.accepts i j = false ∧ r.perform (.append i j) = r) ∨
      ∃ n, r[i]? = some n ∧ r.accepts i j = true ∧
        (r.perform (.append i j))[i]? = some (r.withChild j n) ∧
        ∀ k, k ≠ i → (r.perform (.append i j))[k]? = r[k]? := by
  cases hi : r[i]? with
  | none => exact .inl ⟨by simp [accepts, hi], by simp only [perform, append, hi]⟩
  | some n =>
    cases hj : r[j]? with
    | none => exact .inl ⟨by simp [accepts, hj], by simp only [perform, append, hi, hj]⟩
    | some c =>
      cases hclosed : n.closed with
      | true =>
        have hrefused := append_of_closed hi hj hclosed
        exact .inl ⟨by simp [accepts, hi, hclosed], by simp only [perform, hrefused]⟩
      | false =>
        obtain ⟨r', happend, hself, hother, _⟩ := append_of_open hi hj hclosed
        have hperform : r.perform (.append i j) = r' := by simp only [perform, happend]
        rw [hperform]
        exact .inr ⟨n, rfl, by simp [accepts, hi, hj, hclosed], hself, hother⟩

/-- What a node holds goes on telling its history through every operation. -/
theorem Recalls.perform {r : Registry} {i : Nat} {history : List Arrival}
    (h : r.Recalls i history) (op : Operation) :
    (r.perform op).Recalls i (history ++ (arrival? i r op).toList) := by
  cases op with
  | create kind tag =>
    have hnone : arrival? i r (.create kind tag) = none := rfl
    rw [hnone, Option.toList_none, List.append_nil]
    exact h.create kind tag
  | setText k text =>
    have hnone : arrival? i r (.setText k text) = none := rfl
    rw [hnone, Option.toList_none, List.append_nil]
    exact h.change k (fun _ ↦ rfl) (fun _ ↦ rfl) fun _ ↦ rfl
  | close k =>
    have hnone : arrival? i r (.close k) = none := rfl
    rw [hnone, Option.toList_none, List.append_nil]
    exact h.change k (fun _ ↦ rfl) (fun _ ↦ rfl) fun _ ↦ rfl
  | append k j =>
    obtain ⟨hrefused, hsame⟩ | ⟨n, hn, haccepts, hself, hother⟩ := r.append_cases k j
    · have hnone : arrival? i r (.append k j) = none := if_neg fun hk ↦ by
        rw [← hk.1, hrefused] at hk
        exact Bool.false_ne_true hk.2
      rwa [hsame, hnone, Option.toList_none, List.append_nil]
    · by_cases hk : i = k
      · subst hk
        have hsome : arrival? i r (.append i j) = some ⟨j, r⟩ := if_pos ⟨rfl, haccepts⟩
        rw [hsome, Option.toList_some]
        refine ⟨fun hnone ↦ (nomatch hself.symm.trans hnone), fun m hm ↦ ?_, fun m hm ↦ ?_⟩
        · cases hself.symm.trans hm
          simp [withChild, h.children n hn]
        · cases hself.symm.trans hm
          exact h.index_withChild hn j
      · have hnone : arrival? i r (.append k j) = none := if_neg fun h ↦ hk h.1.symm
        have heq := hother i hk
        rw [hnone, Option.toList_none, List.append_nil]
        exact ⟨heq ▸ h.absent, heq ▸ h.children, heq ▸ h.index⟩

/-- Whatever is done, every node holds what its history tells. -/
theorem recalls_run (ops : List Operation) (i : Nat) :
    (run [] ops).Recalls i (arrivals i [] ops) := by
  induction ops using List.reverseRecOn with
  | nil => exact .empty i
  | append_singleton ops op ih =>
    rw [run_concat, arrivals_concat]
    exact ih.perform op

/-! ## Maps -/

/-- Bindings that were made are never taken back or renamed; others only follow them. -/
theorem bindings_prefix (i : Nat) (r : Registry) (ops more : List Operation) :
    bindings (arrivals i r ops) <+: bindings (arrivals i r (ops ++ more)) := by
  induction more using List.reverseRecOn with
  | nil => rw [List.append_nil]
  | append_singleton more op ih =>
    rw [← List.append_assoc, arrivals_concat]
    refine ih.trans ?_
    cases arrival? i (r.run (ops ++ more)) op with
    | none => simp
    | some a =>
      rw [Option.toList_some, bindings_concat]
      exact List.prefix_append _ _

/-- A map has as many keys as are bound, however often. -/
theorem length_ofList (entries : List (Text × Nat)) :
    (Assoc.ofList entries).length = (Assoc.keys entries).toFinset.card := by
  have hkeys : (Assoc.keys (Assoc.ofList entries)).toFinset = (Assoc.keys entries).toFinset := by
    ext k
    rw [List.mem_toFinset, List.mem_toFinset, Assoc.mem_keys_ofList]
  rw [← hkeys, List.toFinset_card_of_nodup (Assoc.nodup_keys_ofList entries), Assoc.keys,
    List.length_map]

/-- Without a key before it a child is bound to nothing. -/
theorem entries_append_of_no_key {r : Registry} {i : Nat} {m : Node} (hm : r[i]? = some m)
    (hkey : ∀ c ∈ m.children.getLast?, ∀ n, r[c]? = some n → n.tag ≠ keyTag) (j : Nat) :
    (r.perform (.append i j)).entries i = r.entries i := by
  obtain ⟨_, hsame⟩ | ⟨n, hn, _, hself, _⟩ := r.append_cases i j
  · rw [hsame]
  · cases hm.symm.trans hn
    have hindex : (r.withChild j m).index = m.index := by
      rw [withChild, indexAfter.eq_def]
      split
      · next tag text _ hlast =>
        obtain ⟨c, hc, heq⟩ := Option.map_eq_some_iff.mp hlast
        obtain ⟨k, hk, hc⟩ := Option.bind_eq_some_iff.mp hc
        cases heq
        exact if_neg (hkey k hk c hc)
      · rfl
    rw [entries, entries, hself, hm]
    exact hindex

/-- The index law of maps, after operations in any order. The children of a map are those that it got, in
order. Its entries are made from their bindings in turn, each child after a key being bound to the text
that the key had when the child was appended; so what is found under a key is its last binding, and
there are as many entries as keys that are bound. No later operation takes back or renames a binding,
and a text changes no entries; without a key before it a child is bound to nothing. Once the map
is closed, every append is refused and changes nothing. -/
theorem index_recalls_history (ops : List Operation) (i : Nat) (m : Node)
    (hm : (run [] ops)[i]? = some m) (hmap : m.kind = .map) :
    let r := run [] ops
    let bound := bindings (arrivals i [] ops)
    m.children = (arrivals i [] ops).map (·.child) ∧
    r.entries i = Assoc.ofList bound ∧
    (∀ key, (r.entries i).lookup key = bound.reverse.lookup key) ∧
    (r.entries i).length = (Assoc.keys bound).toFinset.card ∧
    (∀ more, bound <+: bindings (arrivals i [] (ops ++ more))) ∧
    (∀ k text, (r.setText k text).entries i = r.entries i) ∧
    (∀ j, (∀ c ∈ m.children.getLast?, ∀ n, r[c]? = some n → n.tag ≠ keyTag) →
      (r.perform (.append i j)).entries i = r.entries i) ∧
    (m.closed = true → ∀ j c, r[j]? = some c →
      r.append i j = .error (.appendToClosed c.tag m.tag) ∧ r.perform (.append i j) = r) := by
  intro r bound
  have hrecalls := recalls_run ops i
  have hentries : r.entries i = Assoc.ofList bound := by
    rw [entries, hm]
    exact (hrecalls.index m hm).trans (if_pos hmap)
  refine ⟨hrecalls.children m hm, hentries, fun key ↦ ?_, ?_, bindings_prefix i [] ops,
    fun k text ↦ ?_, fun j hkey ↦ entries_append_of_no_key hm hkey j, fun hclosed j c hj ↦ ?_⟩
  · rw [hentries, Assoc.lookup_ofList]
  · rw [hentries, length_ofList]
  · rw [entries, entries, setText]
    by_cases hk : i = k
    · subst hk
      rw [getElem?_change_self, Option.map_map]
      rfl
    · rw [getElem?_change_of_ne hk]
  · have hrefused : r.append i j = _ := append_of_closed hm hj hclosed
    exact ⟨hrefused, by simp only [perform, hrefused]⟩

namespace Renamed

/-- A key is appended, then a value, then the key gets another text and comes again with another value;
then its text changes once more and the map is closed. -/
def operations : List Operation :=
  [.create .map mapTag, .create .element keyTag, .create .element "string", .setText 1 "first",
    .append 0 1, .append 0 2, .setText 1 "second", .append 0 1, .append 0 0, .setText 1 "third",
    .close 0, .append 0 2]

/-- The map that the operations lead to. -/
def node : Node where
  kind := .map
  tag := mapTag
  closed := true
  children := [1, 2, 1, 0]
  index := [("first", 2), ("second", 0)]

end Renamed

/-- Entries stay under the texts that a shared key had in turn. -/
theorem index_recalls_history_renamed :
    (run [] Renamed.operations)[0]? = some Renamed.node ∧ Renamed.node.kind = .map ∧
      (run [] Renamed.operations).entries 0 =
        Assoc.ofList (bindings (arrivals 0 [] Renamed.operations)) ∧
      bindings (arrivals 0 [] Renamed.operations) =
        [(Text.ofString "first", 2), (Text.ofString "second", 0)] := by
  have hnode : (run [] Renamed.operations)[0]? = some Renamed.node := by decide
  obtain ⟨_, hentries, _⟩ := index_recalls_history Renamed.operations 0 Renamed.node hnode rfl
  exact ⟨hnode, rfl, hentries, by decide⟩

end Registry

end ScriptDefs.Markup
