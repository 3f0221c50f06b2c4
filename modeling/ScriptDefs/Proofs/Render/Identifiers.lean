import ScriptDefs.Proofs.Data.Fields
import ScriptDefs.Proofs.Types.Named
import ScriptDefs.Render.Declarations
import ScriptDefs.Render.Documentation

/-!
# Identifiers in outputs

Declarations show some definitions under their keys and others under their names, and documentation
goes by names alone. For documents in which everything is stored under its name all of them show
keys, so what is declared is what is documented.
-/

namespace ScriptDefs

namespace Render

/-! ## Documentation -/

/-- What an entry of a table is called: its key, or its name. -/
abbrev Label := Text → Property → Text

/-- Entries are called by their keys. -/
def byKey : Label := fun key _ ↦ key

/-- Entries are called by their names. -/
def byName : Label := fun _ p ↦ p.name

mutual

/-- The paths of a property that stands under a path, and of everything inside of it. Classes are
left out, as they are in documentation. -/
def propertyPaths (label : Label) (path : List Text) : Property → List (List Text)
  | .constant _ | .function _ => [path]
  | .table (.mk _ props) => path :: entryPaths label path props
  | .valueClass _ => []

/-- The paths of entries inside the tables that lead to them. -/
def entryPaths (label : Label) (tables : List Text) : List (Text × Property) → List (List Text)
  | [] => []
  | (key, p) :: rest =>
    propertyPaths label (tables ++ [label key p]) p ++ entryPaths label tables rest

end

mutual

theorem propertyPaths_byName {p : Property} (h : p.NamedByKeys) (path : List Text) :
    propertyPaths byName path p = propertyPaths byKey path p := by
  cases p with
  | constant c => rfl
  | function f => rfl
  | valueClass c => rfl
  | table t =>
    obtain ⟨name, props⟩ := t
    rw [propertyPaths, propertyPaths, entryPaths_byName h]

/-- Paths of keys are paths of names. -/
theorem entryPaths_byName {props : List (Text × Property)} (h : Table.AllNamedByKeys props)
    (tables : List Text) : entryPaths byName tables props = entryPaths byKey tables props := by
  cases props with
  | nil => rfl
  | cons e props =>
    obtain ⟨key, p⟩ := e
    obtain ⟨⟨hname, hp⟩, hprops⟩ := h
    have hlabel : byName key p = byKey key p := hname
    rw [entryPaths, entryPaths, hlabel, propertyPaths_byName hp, entryPaths_byName hprops]

end

mutual

theorem keys_collectProperty {types : Assoc Text Alias} {tables : List Text}
    {docs docs' : Assoc Text DocEntry} {p : Property}
    (h : collectProperty types tables docs p = .ok docs') (k : Text) :
    k ∈ Assoc.keys docs' ↔ k ∈ Assoc.keys docs ∨
      ∃ path ∈ propertyPaths byName (tables ++ [p.name]) p, k = docKey path := by
  cases p with
  | constant c =>
    obtain ⟨entry, _, h⟩ := bind_eq_ok.mp h
    cases h
    simp [Assoc.mem_keys_put, propertyPaths, Property.name]
  | function f =>
    obtain ⟨entry, _, h⟩ := bind_eq_ok.mp h
    cases h
    simp [Assoc.mem_keys_put, propertyPaths, Property.name]
  | valueClass c =>
    cases h
    simp [propertyPaths]
  | table t =>
    obtain ⟨name, props⟩ := t
    rw [keys_collectProperties h, Assoc.mem_keys_put, propertyPaths]
    simp [Property.name, Table.name, or_assoc]

/-- The keys of documentation are the paths of names. -/
theorem keys_collectProperties {types : Assoc Text Alias} {tables : List Text}
    {docs docs' : Assoc Text DocEntry} {props : List (Text × Property)}
    (h : collectProperties types tables docs props = .ok docs') (k : Text) :
    k ∈ Assoc.keys docs' ↔ k ∈ Assoc.keys docs ∨
      ∃ path ∈ entryPaths byName tables props, k = docKey path := by
  cases props with
  | nil =>
    cases h
    simp [entryPaths]
  | cons e props =>
    obtain ⟨key, p⟩ := e
    obtain ⟨docs₁, hp, hprops⟩ := bind_eq_ok.mp h
    rw [keys_collectProperties hprops, keys_collectProperty hp, entryPaths, or_assoc]
    simp [or_and_right, exists_or, byName]

end

/-! ## Declarations -/

/-- How a property of the global table is declared under a key. -/
def declarationHead (key : Text) : Property → Text
  | .constant _ => Text.ofString "declare " ++ key ++ Text.ofString " : "
  | .function f =>
    if f.signatures.length = 1 then Text.ofString "declare function " ++ key ++ [.scalar '(']
    else Text.ofString "declare " ++ key ++ Text.ofString ": "
  | .table _ | .valueClass _ => Text.ofString "declare " ++ key ++ Text.ofString ": "

theorem aliasLine_start {a : Alias} {t : Text} (h : aliasLine a = .ok t) :
    Text.ofString "type " ++ a.name ++ Text.ofString " = " <+: t := by
  obtain ⟨types, _, h⟩ := bind_eq_ok.mp h
  cases h
  exact List.prefix_append _ types

theorem valueClass_start {c : ValueClass} {t : Text} (h : valueClass c = .ok t) :
    Text.ofString "declare class " ++ c.name ++ [.scalar '\n'] <+: t := by
  obtain ⟨props, _, h⟩ := bind_eq_ok.mp h
  obtain ⟨funcs, _, h⟩ := bind_eq_ok.mp h
  cases h
  exact ⟨Text.concat props ++ (Text.concat funcs ++ Text.ofString "end\n\n"), by simp⟩

theorem classProperty_start {c : Constant} {t : Text} (h : classProperty c = .ok t) :
    indent 1 ++ c.name ++ Text.ofString " : " <+: t := by
  obtain ⟨type, _, h⟩ := bind_eq_ok.mp h
  obtain ⟨comment, _, h⟩ := bind_eq_ok.mp h
  cases h
  exact ⟨type ++ (comment ++ [.scalar '\n']), by simp⟩

theorem declaredSignature_start {s : Signature} {t : Text} (h : declaredSignature s = .ok t) :
    ∃ rest, t = .scalar '(' :: rest := by
  obtain ⟨args, _, h⟩ := bind_eq_ok.mp h
  obtain ⟨results, _, h⟩ := bind_eq_ok.mp h
  cases h
  exact ⟨_, rfl⟩

/-- A function of a class has a line that shows its name, if it has a signature. -/
theorem classFunction_start {f : Function} {t : Text} (h : classFunction f = .ok t)
    (hne : f.signatures ≠ []) :
    indent 1 ++ Text.ofString "function " ++ f.name ++ [.scalar '('] <+: t := by
  obtain ⟨s, rest, hs⟩ := List.exists_cons_of_ne_nil hne
  obtain ⟨lines, hlines, h⟩ := bind_eq_ok.mp h
  rw [hs, List.mapM_cons] at hlines
  obtain ⟨line, hline, hlines⟩ := bind_eq_ok.mp hlines
  obtain ⟨others, _, hlines⟩ := bind_eq_ok.mp hlines
  obtain ⟨declared, hdeclared, hline⟩ := bind_eq_ok.mp hline
  obtain ⟨comment, _, hline⟩ := bind_eq_ok.mp hline
  obtain ⟨arguments, rfl⟩ := declaredSignature_start hdeclared
  cases hline
  cases hlines
  cases h
  exact ⟨arguments ++ (comment ++ ([.scalar '\n'] ++ Text.concat others)), by simp [Text.concat]⟩

/-- A property of the global table is declared under its key if this is its name. -/
theorem globalProperty_head {key t : Text} {p : Property} (hname : p.name = key)
    (h : globalProperty key p = .ok t) : declarationHead key p <:+: t := by
  subst hname
  cases p with
  | constant c =>
    obtain ⟨type, _, h⟩ := bind_eq_ok.mp h
    obtain ⟨comment, _, h⟩ := bind_eq_ok.mp h
    cases h
    exact ⟨[], type ++ (comment ++ [.scalar '\n']), by simp [declarationHead, Property.name]⟩
  | function f =>
    rw [globalProperty] at h
    split at h
    · next s hs =>
      obtain ⟨declared, hdeclared, h⟩ := bind_eq_ok.mp h
      obtain ⟨comment, _, h⟩ := bind_eq_ok.mp h
      obtain ⟨rest, rfl⟩ := declaredSignature_start hdeclared
      cases h
      exact ⟨[], rest ++ (comment ++ [.scalar '\n']), by simp [declarationHead, Property.name, hs]⟩
    · next hmany =>
      obtain ⟨type, _, h⟩ := bind_eq_ok.mp h
      obtain ⟨comment, _, h⟩ := bind_eq_ok.mp h
      have hlength : f.signatures.length ≠ 1 := fun hone ↦ by
        obtain ⟨s, hs⟩ := List.length_eq_one_iff.mp hone
        exact hmany s hs
      cases h
      exact ⟨[], type ++ (comment ++ [.scalar '\n']),
        by simp [declarationHead, Property.name, hlength]⟩
  | table t =>
    obtain ⟨body, _, h⟩ := bind_eq_ok.mp h
    cases h
    let heading := Text.ofString "\n---------------------------\n-- Global Table: " ++ t.name ++
      Text.ofString "\n---------------------------\n\n"
    exact ⟨heading, body ++ Text.ofString "\n\n",
      by simp [heading, declarationHead, Property.name, Text.ofString]⟩
  | valueClass c =>
    cases h
    exact ⟨[], c.name ++ [.scalar '\n'], by simp [declarationHead, Property.name]⟩

end Render

/-- The outputs of a document show keys: what is declared is called by its key, and the keys of
documentation are the paths of keys, besides the curated ones. -/
structure Document.ShowsKeys (d : Document) : Prop where
  globals : ∀ e ∈ d.globalTable.props, ∀ t, Render.globalProperty e.1 e.2 = .ok t →
    Render.declarationHead e.1 e.2 <:+: t
  types : ∀ e ∈ d.types, ∀ t, Render.aliasLine e.2 = .ok t →
    Text.ofString "type " ++ e.1 ++ Text.ofString " = " <+: t
  classes : ∀ e ∈ d.classes, ∀ t, Render.valueClass e.2 = .ok t →
    Text.ofString "declare class " ++ e.1 ++ [.scalar '\n'] <+: t
  classProps : ∀ c ∈ d.classes, ∀ e ∈ c.2.props, ∀ t, Render.classProperty e.2 = .ok t →
    Render.indent 1 ++ e.1 ++ Text.ofString " : " <+: t
  classFuncs : ∀ c ∈ d.classes, ∀ e ∈ c.2.funcs, ∀ t, Render.classFunction e.2 = .ok t →
    e.2.signatures ≠ [] →
      Render.indent 1 ++ Text.ofString "function " ++ e.1 ++ [.scalar '('] <+: t
  documentation : ∀ docs, d.docEntries = .ok docs → ∀ k, k ∈ Assoc.keys docs ↔
    (∃ e ∈ Render.curatedEntries, k = Render.docKey [e.1]) ∨
      ∃ path ∈ Render.entryPaths Render.byKey [] d.globalTable.props, k = Render.docKey path

namespace Document.NamedByKeys

variable {d : Document} (hd : d.NamedByKeys)
include hd

theorem documentation {docs : Assoc Text Render.DocEntry} (h : d.docEntries = .ok docs)
    (k : Text) : k ∈ Assoc.keys docs ↔
      (∃ e ∈ Render.curatedEntries, k = Render.docKey [e.1]) ∨
        ∃ path ∈ Render.entryPaths Render.byKey [] d.globalTable.props, k = Render.docKey path := by
  obtain ⟨docs₀, hdocs, h⟩ := bind_eq_ok.mp h
  have hglobals := Table.allNamedByKeys_iff.mpr (Table.namedByKeys_iff.mp hd.globalTable)
  cases h
  rw [Assoc.mem_keys_update, Render.keys_collectProperties hdocs,
    Render.entryPaths_byName hglobals, or_comm]
  simp [Assoc.keys, eq_comm]

/-- The outputs of a document in which everything is stored under its name show keys. -/
theorem showsKeys : d.ShowsKeys where
  globals e he _ h :=
    Render.globalProperty_head ((Table.namedByKeys_iff.mp hd.globalTable).1 e he) h
  types e he _ h := hd.types e he ▸ Render.aliasLine_start h
  classes e he _ h := hd.classes e he ▸ Render.valueClass_start h
  classProps c hc e he _ h := (hd.members c hc).props e he ▸ Render.classProperty_start h
  classFuncs c hc e he _ h hne := (hd.members c hc).funcs e he ▸ Render.classFunction_start h hne
  documentation _ hdocs k := hd.documentation hdocs k

end Document.NamedByKeys

end ScriptDefs
