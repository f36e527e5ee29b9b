import LicenseChooser.Proofs.Except
import LicenseChooser.Toml.Document
import Mathlib.Data.List.Nodup

/-!
Keys of TOML documents. A table takes a key once, whether a line, a dotted key or a header brings it;
so a name leads to one value at most. What is true of all values while a document is read is true of the
document if arrays and tables with distinct keys have it from the values in them.
-/

namespace LicenseChooser.Toml

/-- No table in it has two members of one name. -/
inductive Value.Distinct : Value → Prop
  | scalar (value : Scalar) (span : Span) : Distinct (.scalar value span)
  | array {items : List Value} {span : Span} : (∀ v ∈ items, Distinct v) →
      Distinct (.array items span)
  | table {members : List (Key × Value)} {span : Option Span} :
      (members.map (·.1.name)).Nodup → (∀ p ∈ members, Distinct p.2) →
      Distinct (.table members span)

/-- What arrays, and tables with distinct keys, have from the values in them. -/
structure Value.Inherited (V : Value → Prop) : Prop where
  array : ∀ {items : List Value} {span : Span}, (∀ v ∈ items, V v) → V (.array items span)
  table : ∀ {members : List (Key × Value)} {span : Option Span},
    (members.map (·.1.name)).Nodup → (∀ p ∈ members, V p.2) → V (.table members span)

theorem Value.inherited_distinct : Inherited Distinct := ⟨.array, .table⟩

variable {V : Value → Prop}

/-- No table in it has two members of one name while it is read, and all values are such. -/
inductive Node.Distinct (V : Value → Prop) : Node → Prop
  | value {v : Value} : V v → Distinct V (.value v)
  | table {origin : Origin} {members : List (Key × Node)} :
      (members.map (·.1.name)).Nodup → (∀ p ∈ members, Distinct V p.2) →
      Distinct V (.table origin members)
  | elements {tables : List (Span × List (Key × Node))} :
      (∀ t ∈ tables, (t.2.map (·.1.name)).Nodup) → (∀ t ∈ tables, ∀ p ∈ t.2, Distinct V p.2) →
      Distinct V (.elements tables)

namespace Members

/-- Members with names of their own, in which no table has two of one name either. -/
structure Distinct (V : Value → Prop) (m : Members) : Prop where
  names : (m.map (·.1.name)).Nodup
  nodes : ∀ p ∈ m, p.2.Distinct V

theorem distinct_nil : Distinct V [] := ⟨List.nodup_nil, by simp⟩

variable {m : Members}

theorem Distinct.node {name : String} {node : Node} (h : m.Distinct V)
    (hnode : node? name m = some node) : node.Distinct V := by
  obtain ⟨p, hp, rfl⟩ := Option.map_eq_some_iff.1 hnode
  exact h.nodes p (List.mem_of_find?_eq_some hp)

theorem Distinct.concat {key : Key} {node : Node} (h : m.Distinct V) (hnode : node.Distinct V)
    (hnew : key.name ∉ m.map (·.1.name)) : Distinct V (m ++ [(key, node)]) := by
  refine ⟨?_, ?_⟩
  · rw [List.map_append, List.map_singleton, ← List.concat_eq_append]
    exact h.names.concat hnew
  · rw [List.forall_mem_append]
    exact ⟨h.nodes, List.forall_mem_singleton.2 hnode⟩

theorem not_mem_of_node? {name : String} (h : node? name m = none) :
    name ∉ m.map (·.1.name) := by
  rw [node?, Option.map_eq_none_iff, List.find?_eq_none] at h
  intro hmem
  obtain ⟨p, hp, hname⟩ := List.mem_map.1 hmem
  exact h p hp (beq_iff_eq.2 hname)

theorem Distinct.replace {name : String} {node : Node} (h : m.Distinct V) (hnode : node.Distinct V) :
    Distinct V (m.replace name node) := by
  refine ⟨?_, ?_⟩
  · have hnames : (m.replace name node).map (·.1.name) = m.map (·.1.name) := by
      rw [Members.replace, List.map_map]
      apply List.map_congr_left
      intro p _
      rw [Function.comp_apply]
      split <;> rfl
    rw [hnames]
    exact h.names
  · intro p hp
    obtain ⟨q, hq, rfl⟩ := List.mem_map.1 hp
    split
    · exact hnode
    · exact h.nodes q hq

theorem distinct_of_table {origin : Origin} (h : (Node.table origin m).Distinct V) : m.Distinct V := by
  cases h with
  | table hnames hnodes => exact ⟨hnames, hnodes⟩

theorem Distinct.table (h : m.Distinct V) (origin : Origin) : (Node.table origin m).Distinct V :=
  .table h.names h.nodes

theorem distinct_of_elements {tables : List (Span × Members)} (h : (Node.elements tables).Distinct V) :
    ∀ t ∈ tables, Distinct V t.2 := by
  cases h with
  | elements hnames hnodes => exact fun t ht => ⟨hnames t ht, hnodes t ht⟩

theorem distinct_elements {tables : List (Span × Members)} (h : ∀ t ∈ tables, Distinct V t.2) :
    (Node.elements tables).Distinct V :=
  .elements (fun t ht => (h t ht).names) fun t ht => (h t ht).nodes

/-- A change of one table anywhere that keeps its keys distinct does so for the whole. -/
theorem distinct_changeAt {dotted : Bool} {change : Reached → Members → Except Cause Members}
    (hchange : ∀ {reached n n'}, Distinct V n → change reached n = .ok n' → Distinct V n')
    {before : List String} {path : List Key} {reached : Reached} {m' : Members} (hm : m.Distinct V)
    (h : changeAt dotted change before path reached m = .ok m') : m'.Distinct V := by
  induction path generalizing before reached m m' with
  | nil => exact hchange hm h
  | cons key path ih =>
      rw [changeAt] at h
      split at h
      · rename_i hnone
        obtain ⟨n, hn, rfl⟩ := exists_of_map_eq_ok h
        exact hm.concat ((ih distinct_nil hn).table _) (not_mem_of_node? hnone)
      · cases h
      · rename_i span n hnode
        split at h
        · cases h
        · obtain ⟨n', hn, rfl⟩ := exists_of_map_eq_ok h
          exact hm.replace ((ih (distinct_of_table (hm.node hnode)) hn).table _)
      · rename_i origin n _ hnode
        obtain ⟨n', hn, rfl⟩ := exists_of_map_eq_ok h
        exact hm.replace ((ih (distinct_of_table (hm.node hnode)) hn).table _)
      · rename_i tables hnode
        have htables := distinct_of_elements (hm.node hnode)
        split at h
        · cases h
          exact hm
        · rename_i span last hlast
          obtain ⟨n, hn, rfl⟩ := exists_of_map_eq_ok h
          have hlast := htables _ (List.mem_of_getLast? hlast)
          apply hm.replace
          apply distinct_elements
          rw [List.forall_mem_append]
          refine ⟨fun t ht => htables t (List.dropLast_subset _ ht), ?_⟩
          exact List.forall_mem_singleton.2 (ih hlast hn)

theorem distinct_addAt {table : Option (List String)} {path : List Key} {v : Value} {m' : Members}
    (hm : m.Distinct V) (hv : V v) (h : addAt table path v m = .ok m') : m'.Distinct V := by
  rw [addAt] at h
  split at h
  · cases h
    exact hm
  · rename_i key _
    refine distinct_changeAt (fun {reached n n'} hn hadd => ?_) hm h
    split at hadd
    · cases hadd
    · split at hadd
      · cases hadd
      · rename_i hnew
        cases hadd
        exact hn.concat (.value hv) (not_mem_of_node? (by simpa using hnew))

theorem distinct_openTable {outer : List String} {span : Span} {key : Key} {m' : Members}
    (hm : m.Distinct V) (h : openTable outer span key m = .ok m') : m'.Distinct V := by
  rw [openTable] at h
  split at h
  · rename_i hnone
    cases h
    exact hm.concat (distinct_nil.table _) (not_mem_of_node? hnone)
  · rename_i n hnode
    cases h
    have hothers : Distinct V (m.filter (·.1.name != key.name)) :=
      ⟨hm.names.sublist (List.filter_sublist.map _),
        fun p hp => hm.nodes p (List.mem_of_mem_filter hp)⟩
    refine hothers.concat ((distinct_of_table (hm.node hnode)).table _) ?_
    simp
  · cases h

theorem distinct_openElement {outer : List String} {span : Span} {key : Key} {m' : Members}
    (hm : m.Distinct V) (h : openElement outer span key m = .ok m') : m'.Distinct V := by
  rw [openElement] at h
  split at h
  · rename_i hnone
    cases h
    exact hm.concat (distinct_elements (List.forall_mem_singleton.2 distinct_nil))
      (not_mem_of_node? hnone)
  · rename_i tables hnode
    cases h
    apply hm.replace
    apply distinct_elements
    rw [List.forall_mem_append]
    exact ⟨distinct_of_elements (hm.node hnode), List.forall_mem_singleton.2 distinct_nil⟩
  · cases h

theorem distinct_openAt {element : Bool} {span : Span} {path : List Key} {m' : Members}
    (hm : m.Distinct V) (h : openAt element span path m = .ok m') : m'.Distinct V := by
  rw [openAt] at h
  split at h
  · cases h
    exact hm
  · refine distinct_changeAt (fun {_ n n'} hn hopen => ?_) hm h
    split at hopen
    · exact distinct_openElement hn hopen
    · exact distinct_openTable hn hopen

end Members

section Values

theorem membersToValues_eq (m : List (Key × Node)) :
    Node.membersToValues m = m.map fun p => (p.1, p.2.toValue) := by
  induction m with
  | nil => rfl
  | cons p m ih => rw [Node.membersToValues, ih, List.map_cons]

theorem tablesToValues_eq (tables : List (Span × List (Key × Node))) :
    Node.tablesToValues tables = tables.map fun t =>
      .table (Node.membersToValues t.2) (some (tableSpan t.1 t.2)) := by
  induction tables with
  | nil => rfl
  | cons t tables ih => rw [Node.tablesToValues, ih, List.map_cons]

theorem names_membersToValues (m : List (Key × Node)) :
    (Node.membersToValues m).map (·.1.name) = m.map (·.1.name) := by
  rw [membersToValues_eq, List.map_map]
  rfl

theorem forall_mem_membersToValues {m : List (Key × Node)} {P : Value → Prop} :
    (∀ p ∈ Node.membersToValues m, P p.2) ↔ ∀ p ∈ m, P p.2.toValue := by
  rw [membersToValues_eq, List.forall_mem_map]

variable (hV : Value.Inherited V)
include hV

theorem inherited_toValue {n : Node} (h : n.Distinct V) : V n.toValue := by
  induction h with
  | value hv => exact hv
  | @table origin members hnames _ ih =>
      have hmembers := forall_mem_membersToValues.2 ih
      rw [← names_membersToValues] at hnames
      cases origin <;> exact hV.table hnames hmembers
  | @elements tables hnames _ ih =>
      rw [Node.toValue, tablesToValues_eq]
      apply hV.array
      rw [List.forall_mem_map]
      intro t ht
      exact hV.table (names_membersToValues t.2 ▸ hnames t ht)
        (forall_mem_membersToValues.2 (ih t ht))

theorem inherited_membersToValues {m : Members} (h : m.Distinct V) (span : Option Span) :
    V (.table (Node.membersToValues m) span) :=
  hV.table (names_membersToValues m ▸ h.names)
    (forall_mem_membersToValues.2 fun p hp => inherited_toValue hV (h.nodes p hp))

end Values

/-- All values that an open container holds. -/
def Frame.values : Frame → List Value
  | .array _ before => before
  | .table _ before => before.map (·.2)

/-- No table of the document read so far has two members of one name, and all values that were read, in
the document or apart from it, are such. -/
structure Progress.Distinct (V : Value → Prop) (p : Progress) : Prop where
  root : p.root.Distinct V
  opened : ∀ frame ∈ p.opened, ∀ v ∈ frame.values, V v
  waiting : ∀ v ∈ p.waiting, V v

namespace Progress

variable {p p' : Progress}

theorem distinct_start : start.Distinct V := ⟨Members.distinct_nil, by simp [start], by simp [start]⟩

theorem Distinct.frames {frame : Frame} {outer : List Frame} (h : p.Distinct V)
    (hopened : p.opened = frame :: outer) :
    (∀ v ∈ frame.values, V v) ∧ ∀ f ∈ outer, ∀ v ∈ f.values, V v :=
  List.forall_mem_cons.1 (hopened ▸ h.opened)

theorem distinct_put {v : Value} (h : p.Distinct V) (hv : V v) : (p.put v).Distinct V := by
  rw [put]
  split
  · rename_i path before outer hopened
    have hframes := h.frames hopened
    refine ⟨h.root, List.forall_mem_cons.2 ⟨?_, hframes.2⟩, h.waiting⟩
    exact List.forall_mem_cons.2 ⟨hv, hframes.1⟩
  · rename_i path before outer hopened
    have hframes := h.frames hopened
    refine ⟨h.root, List.forall_mem_cons.2 ⟨?_, hframes.2⟩, h.waiting⟩
    exact List.forall_mem_cons.2 ⟨hv, hframes.1⟩
  · refine ⟨h.root, h.opened, ?_⟩
    rintro w ⟨⟩
    exact hv

theorem distinct_endLine (h : p.Distinct V) (hp : p.endLine = .ok p') : p'.Distinct V := by
  rw [endLine] at hp
  split at hp
  · cases hp
    exact h
  · rename_i v hwaiting
    dsimp only at hp
    split at hp
    · rename_i root hroot
      cases hp
      refine ⟨?_, h.opened, by simp⟩
      refine Members.distinct_changeAt (fun {_ n n'} hn hadd => ?_) h.root hroot
      exact Members.distinct_addAt hn (h.waiting v hwaiting) hadd
    · cases hp

theorem distinct_openHeader {element : Bool} {span : Span} (h : p.Distinct V)
    (hp : p.openHeader element span = .ok p') : p'.Distinct V := by
  rw [openHeader] at hp
  split at hp
  · rename_i root hroot
    cases hp
    exact ⟨Members.distinct_openAt h.root hroot, h.opened, h.waiting⟩
  · cases hp

theorem distinct_inlineMembers {pairs : List (List Key × Value)} {m : Members}
    (h : ∀ q ∈ pairs, V q.2) (hm : inlineMembers pairs = .ok m) : m.Distinct V :=
  foldlM_keeps (fun q hq _ _ hb => Members.distinct_addAt hb (h q hq)) Members.distinct_nil hm

section Close

variable (hV : Value.Inherited V)
include hV

theorem distinct_close {span : Span} (h : p.Distinct V) (hp : p.close span = .ok p') :
    p'.Distinct V := by
  rw [close] at hp
  split at hp
  · cases hp
    exact h
  · rename_i path before outer hopened
    have hframes := h.frames hopened
    cases hp
    apply distinct_put
    · exact ⟨h.root, hframes.2, h.waiting⟩
    · apply hV.array
      intro v hv
      exact hframes.1 v (List.mem_reverse.1 hv)
  · rename_i path before outer hopened
    have hframes := h.frames hopened
    split at hp
    · rename_i members hmembers
      cases hp
      have hdistinct := distinct_inlineMembers (fun q hq => hframes.1 q.2
        (List.mem_map_of_mem (List.mem_reverse.1 hq))) hmembers
      apply distinct_put
      · exact ⟨h.root, hframes.2, h.waiting⟩
      · exact inherited_membersToValues hV hdistinct (some span)
    · cases hp

theorem distinct_step {t : Token} (ht : ∀ x span, t = .scalar x span → V (.scalar x span))
    (h : p.Distinct V) (hp : p.step t = .ok p') : p'.Distinct V := by
  cases t with
  | key key =>
      rw [step, extend] at hp
      split at hp
      · cases hp
        exact ⟨h.root, h.opened, h.waiting⟩
      · cases hp
  | header element span => exact distinct_openHeader h hp
  | scalar value span =>
      cases hp
      exact distinct_put h (ht value span rfl)
  | openArray | openTable =>
      cases hp
      refine ⟨h.root, List.forall_mem_cons.2 ⟨?_, h.opened⟩, h.waiting⟩
      simp [Frame.values]
  | closeArray span | closeTable span => exact distinct_close hV h hp
  | endLine => exact distinct_endLine h hp
  | broken fault => cases hp

end Close

end Progress

/-- What the scalars of a text are, and arrays and tables have from the values in them, that is the whole
document that is read from it. -/
theorem inherited_of_read (hV : Value.Inherited V) {s : String}
    (hscalar : ∀ x span, .scalar x span ∈ tokens s → V (.scalar x span))
    {members : List (Key × Value)} (h : read s = .ok members) : V (.table members none) := by
  obtain ⟨p, hp, rfl⟩ := exists_of_map_eq_ok h
  have hdistinct : p.Distinct V := by
    refine foldlM_keeps (fun t ht _ _ hb => Progress.distinct_step hV ?_ hb)
      Progress.distinct_start hp
    rintro x span rfl
    exact hscalar x span ht
  exact inherited_membersToValues hV hdistinct.root none

/-- A document that is read is a table with distinct keys, and so is every table in it. -/
theorem distinct_of_read {s : String} {members : List (Key × Value)} (h : read s = .ok members) :
    (Value.table members none).Distinct :=
  inherited_of_read Value.inherited_distinct (fun x span _ => .scalar x span) h

/-- What stands under a name. -/
def member? (name : String) (members : List (Key × Value)) : Option Value :=
  (members.find? (·.1.name == name)).map (·.2)

end LicenseChooser.Toml
