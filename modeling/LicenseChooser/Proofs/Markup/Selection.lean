import LicenseChooser.Proofs.Except
import LicenseChooser.Proofs.Markup.Traversal
import Mathlib.Data.List.Nodup

/-!
Children selected by their own name and that of their parent, against the elements of the document in
order. All of them are selected and each once. But the children of a parent are listed together, so
those found inside one child come behind the other children of the same parent; where that makes no
difference, and only there, the order is that of the document.
-/

namespace LicenseChooser.Markup

namespace Content

/-- Every element at every depth in document order, behind the element that it is a child of; `around`
is the one whose content this is. -/
def kin (around : Element) : Content → List (Element × Element)
  | nil => []
  | text _ rest => rest.kin around
  | element name attributes inside rest =>
      (around, ⟨name, attributes, inside⟩) ::
        (inside.kin ⟨name, attributes, inside⟩ ++ rest.kin around)

theorem map_snd_kin (around : Element) (c : Content) : (c.kin around).map (·.2) = c.preorder := by
  induction c generalizing around with
  | nil => rfl
  | text s rest ih => exact ih around
  | element name attributes inside rest ihInside ih =>
      rw [kin, preorder, List.map_cons, List.map_append, ihInside, ih]

theorem mem_children_of_mem_kin {around : Element} {c : Content}
    (hc : ∀ e ∈ c.elements, e ∈ around.children) {k : Element × Element} (hk : k ∈ c.kin around) :
    k.2 ∈ k.1.children := by
  induction c generalizing around with
  | nil => cases hk
  | text s rest ih => exact ih hc hk
  | element name attributes inside rest ihInside ih =>
      rw [elements, List.forall_mem_cons] at hc
      rw [kin, List.mem_cons, List.mem_append] at hk
      rcases hk with rfl | hk | hk
      · exact hc.1
      · exact @ihInside ⟨name, attributes, inside⟩ (fun e he => he) hk
      · exact ih hc.2 hk

section Selection

variable (parent child : String)

/-- The elements named `child` that are children of one named `parent`, in document order. -/
def offspring (around : Element) (c : Content) : List Element :=
  ((c.kin around).filter fun k => k.1.name == parent && k.2.name == child).map (·.2)

/-- The children named `child` of each element named `parent` at any depth. -/
def gathered (c : Content) : List Element :=
  (c.preorder.filter (·.name == parent)).flatMap (·.childrenNamed child)

/-- Those that are not inside others, if what they are in is named `parent`. -/
def nearest (around : Element) (c : Content) : List Element :=
  if around.name = parent then c.elements.filter (·.name == child) else []

variable {parent child} {around : Element} {name : String} {attributes : List (String × String)}
  {inside rest : Content}

theorem offspring_element :
    (element name attributes inside rest).offspring parent child around =
      nearest parent child around (element name attributes inside nil) ++
        (inside.offspring parent child ⟨name, attributes, inside⟩ ++
          rest.offspring parent child around) := by
  by_cases hparent : around.name = parent <;> by_cases hchild : name = child <;>
    simp [offspring, kin, nearest, elements, hparent, hchild]

theorem nearest_element :
    nearest parent child around (element name attributes inside rest) =
      nearest parent child around (element name attributes inside nil) ++
        nearest parent child around rest := by
  by_cases hparent : around.name = parent <;> by_cases hchild : name = child <;>
    simp [nearest, elements, hparent, hchild]

theorem gathered_element :
    (element name attributes inside rest).gathered parent child =
      nearest parent child ⟨name, attributes, inside⟩ inside ++
        (inside.gathered parent child ++ rest.gathered parent child) := by
  by_cases hparent : name = parent <;>
    simp [gathered, preorder, nearest, hparent, Element.childrenNamed, Element.children]

theorem nearest_eq_nil_iff {c : Content} :
    nearest parent child around c = [] ↔
      (around.name = parent → ∀ y ∈ c.elements, y.name ≠ child) := by
  by_cases hparent : around.name = parent <;> simp [nearest, hparent]

theorem offspring_sublist (around : Element) (c : Content) :
    (c.offspring parent child around).Sublist c.preorder := by
  rw [← c.map_snd_kin around]
  exact List.filter_sublist.map _

theorem mem_preorder_of_mem_nearest {c : Content} {e : Element}
    (h : e ∈ nearest parent child around c) : e ∈ c.preorder := by
  rw [nearest] at h
  split at h
  · rw [preorder_eq_flatMap, List.mem_flatMap]
    exact ⟨e, List.mem_of_mem_filter h, List.mem_cons_self⟩
  · cases h

/-- Selecting by parents finds what is there in document order, each element once. -/
theorem gathered_perm (parent child : String) (around : Element) (c : Content) :
    (nearest parent child around c ++ c.gathered parent child).Perm
      (c.offspring parent child around) := by
  induction c generalizing around with
  | nil => simp [nearest, elements, gathered, preorder, offspring, kin]
  | text s rest ih => exact ih around
  | element name attributes inside rest ihInside ih =>
      rw [offspring_element, nearest_element, gathered_element, List.append_assoc]
      refine List.Perm.append_left _ ?_
      -- what is inside the first element moves in front of its siblings
      refine .trans ?_ ((ihInside ⟨name, attributes, inside⟩).append (ih around))
      rw [← List.append_assoc, ← List.append_assoc, ← List.append_assoc]
      refine List.Perm.append_right _ ?_
      rw [List.append_assoc]
      exact List.perm_append_comm

theorem offspring_eq_nil {c : Content} (haround : around.name ≠ parent)
    (hc : ∀ e ∈ c.preorder, e.name ≠ parent) : c.offspring parent child around = [] := by
  have hperm := gathered_perm parent child around c
  have hnone : c.preorder.filter (·.name == parent) = [] := by simpa using hc
  rw [nearest, if_neg haround, gathered, hnone] at hperm
  exact hperm.symm.eq_nil

/-- If it is in a `parent`, nothing is selected inside an element that comes before another one which is
selected itself. -/
def Orderly (parent child : String) (around : Element) (c : Content) : Prop :=
  around.name = parent → c.elements.Pairwise fun x y =>
    y.name = child → x.content.offspring parent child x = []

/-- The same at every depth. -/
def InStep (parent child : String) (around : Element) (c : Content) : Prop :=
  c.Orderly parent child around ∧ ∀ e ∈ c.preorder, e.content.Orderly parent child e

theorem inStep_element_iff :
    (element name attributes inside rest).InStep parent child around ↔
      inside.InStep parent child ⟨name, attributes, inside⟩ ∧ rest.InStep parent child around ∧
        (nearest parent child around rest = [] ∨
          inside.offspring parent child ⟨name, attributes, inside⟩ = []) := by
  rw [nearest_eq_nil_iff, InStep, InStep, InStep, Orderly, Orderly, elements, preorder,
    List.forall_mem_cons, List.forall_mem_append, List.pairwise_cons]
  constructor
  · rintro ⟨hpair, hself, hinside, hrest⟩
    refine ⟨⟨hself, hinside⟩, ⟨fun hparent => (hpair hparent).2, hrest⟩, ?_⟩
    by_cases hnone : inside.offspring parent child ⟨name, attributes, inside⟩ = []
    · exact .inr hnone
    · exact .inl fun hparent y hy hchild => hnone ((hpair hparent).1 y hy hchild)
  · rintro ⟨⟨hself, hinside⟩, ⟨hpair, hrest⟩, hnone⟩
    refine ⟨fun hparent => ⟨fun y hy hchild => ?_, hpair hparent⟩, hself, hinside, hrest⟩
    exact hnone.resolve_left fun hfree => hfree hparent y hy hchild

theorem gathered_of_inStep {c : Content} (h : c.InStep parent child around) :
    nearest parent child around c ++ c.gathered parent child =
      c.offspring parent child around := by
  induction c generalizing around with
  | nil => simp [nearest, elements, gathered, preorder, offspring, kin]
  | text s rest ih => exact ih h
  | element name attributes inside rest ihInside ih =>
      obtain ⟨hinside, hrest, hnone⟩ := inStep_element_iff.1 h
      rw [offspring_element, nearest_element, gathered_element, List.append_assoc,
        ← ihInside hinside, ← ih hrest]
      rcases hnone with hnone | hnone
      · rw [hnone, List.nil_append, List.nil_append, List.append_assoc]
      · rw [← ihInside hinside, List.append_eq_nil_iff] at hnone
        simp only [hnone.1, hnone.2, List.nil_append]

/-- Where no element occurs twice the order is that of the document in no other case. -/
theorem inStep_of_gathered {c : Content} (hnodup : c.preorder.Nodup)
    (h : nearest parent child around c ++ c.gathered parent child =
      c.offspring parent child around) : c.InStep parent child around := by
  induction c generalizing around with
  | nil => exact ⟨fun _ => .nil, by simp [preorder]⟩
  | text s rest ih => exact ih hnodup h
  | element name attributes inside rest ihInside ih =>
      let e : Element := ⟨name, attributes, inside⟩
      obtain ⟨hinside, hrest, hapart⟩ := List.nodup_append'.1 (List.nodup_cons.1 hnodup).2
      rw [offspring_element, nearest_element, gathered_element, List.append_assoc,
        List.append_cancel_left_eq, ← List.append_assoc (nearest parent child e inside)] at h
      have hlength := (gathered_perm parent child e inside).length_eq
      rw [inStep_element_iff]
      cases hnearest : nearest parent child around rest with
      | nil =>
          rw [hnearest, List.nil_append] at h
          obtain ⟨hfirst, hlast⟩ := List.append_inj h hlength
          refine ⟨ihInside hinside hfirst, ih hrest ?_, .inl rfl⟩
          rw [hnearest, List.nil_append, hlast]
      | cons y ys =>
          -- the first of them would be inside the element that comes before it
          have hnone : inside.offspring parent child e = [] := by
            cases hoff : inside.offspring parent child e with
            | nil => rfl
            | cons x xs =>
                rw [hnearest, hoff] at h
                obtain ⟨rfl, -⟩ := List.cons.inj h
                have hx : y ∈ inside.preorder := by
                  apply (offspring_sublist e inside).subset
                  rw [hoff]
                  exact List.mem_cons_self
                have hy : y ∈ rest.preorder := by
                  apply @mem_preorder_of_mem_nearest parent child around
                  rw [hnearest]
                  exact List.mem_cons_self
                exact absurd hy (List.disjoint_left.1 hapart hx)
          rw [hnone, List.length_nil, List.length_eq_zero_iff] at hlength
          rw [hlength, hnone, List.nil_append, List.nil_append] at h
          exact ⟨ihInside hinside (hlength.trans hnone.symm), ih hrest h, .inr hnone⟩

end Selection

end Content

namespace Document

variable (d : Document) (parent child : String)

/-- Every element but the root, in document order, behind the element that it is a child of. -/
def kin : List (Element × Element) := d.root.content.kin d.root

/-- The elements named `child` whose parent is named `parent`, in document order. -/
def offspring : List Element :=
  (d.kin.filter fun k => k.1.name == parent && k.2.name == child).map (·.2)

/-- No child of a `parent` that is selected comes behind another child in which something is. -/
def InStep : Prop := ∀ e ∈ d.descendants, e.content.Orderly parent child e

/-- No element of this name is inside another one. -/
def Apart (name : String) : Prop :=
  ∀ e ∈ d.descendants, e.name = name → ∀ x ∈ e.content.preorder, x.name ≠ name

variable {d parent child}

theorem descendants_eq_kin : d.descendants = d.root :: d.kin.map (·.2) := by
  rw [descendants, Element.descendants_eq_preorder, kin, Content.map_snd_kin]

theorem mem_children_of_mem_kin {k : Element × Element} (hk : k ∈ d.kin) : k.2 ∈ k.1.children :=
  Content.mem_children_of_mem_kin (fun _ he => he) hk

theorem select_eq_append :
    d.select parent child = Content.nearest parent child d.root d.root.content ++
      d.root.content.gathered parent child := by
  rw [select, descendants, Element.descendants_eq_preorder, Content.gathered, Content.nearest]
  by_cases hroot : d.root.name = parent
  · simp [hroot, Element.childrenNamed, Element.children]
  · simp [hroot]

theorem inStep_iff : d.InStep parent child ↔ d.root.content.InStep parent child d.root := by
  rw [InStep, descendants, Element.descendants_eq_preorder, List.forall_mem_cons, Content.InStep]

theorem select_of_inStep (h : d.InStep parent child) :
    d.select parent child = d.offspring parent child := by
  rw [select_eq_append]
  exact Content.gathered_of_inStep (inStep_iff.1 h)

/-- Where no `parent` is inside another one, selection follows the document. -/
theorem select_of_apart (h : d.Apart parent) :
    d.select parent child = d.offspring parent child := by
  refine select_of_inStep fun e he hname => List.pairwise_of_forall_mem_list fun x hx y _ _ => ?_
  have hbelow : ∀ z ∈ x :: x.content.preorder, z.name ≠ parent := by
    intro z hz
    apply h e he hname
    rw [Content.preorder_eq_flatMap]
    exact List.mem_flatMap.2 ⟨x, hx, hz⟩
  obtain ⟨hself, hinside⟩ := List.forall_mem_cons.1 hbelow
  exact Content.offspring_eq_nil hself hinside

theorem select_perm (d : Document) (parent child : String) :
    (d.select parent child).Perm (d.offspring parent child) := by
  rw [select_eq_append]
  exact Content.gathered_perm parent child d.root d.root.content

/-- Selection finds every child of that name and of such a parent once. It lists them as they stand in
the document if none that is selected comes behind a sibling with others inside; and if all elements
of the document differ, in no other case. -/
theorem select_offspring (d : Document) (parent child : String) :
    d.descendants = d.root :: d.kin.map (·.2) ∧
    (∀ k ∈ d.kin, k.2 ∈ k.1.children) ∧
    (d.select parent child).Perm (d.offspring parent child) ∧
    (d.InStep parent child → d.select parent child = d.offspring parent child) ∧
    (d.descendants.Nodup →
      d.select parent child = d.offspring parent child → d.InStep parent child) := by
  refine ⟨descendants_eq_kin, fun k hk => mem_children_of_mem_kin hk, d.select_perm parent child,
    select_of_inStep, fun hnodup hsame => ?_⟩
  rw [descendants, Element.descendants_eq_preorder, List.nodup_cons] at hnodup
  rw [select_eq_append] at hsame
  exact inStep_iff.2 (Content.inStep_of_gathered hnodup.2 hsame)

/-- The children of an outer parent come before those of the parents inside it, also where these stand
first. -/
theorem select_not_in_order :
    let first : Element := ⟨"c", [("i", "1")], .nil⟩
    let second : Element := ⟨"c", [("i", "2")], .nil⟩
    ∃ d, Document.parse "<p><p><c i='1'/></p><c i='2'/></p>" = .ok d ∧
      d.descendants.map (·.name) = ["p", "p", "c", "c"] ∧
      d.offspring "p" "c" = [first, second] ∧ d.select "p" "c" = [second, first] := by
  intro first second
  let inner : Element := ⟨"p", [], .cons first .nil⟩
  let d : Document := ⟨⟨"p", [], .cons inner (.cons second .nil)⟩⟩
  have hparse : (Document.parse "<p><p><c i='1'/></p><c i='2'/></p>").toOption = some d := by
    decide +kernel
  exact ⟨d, eq_ok_of_toOption hparse, by decide +kernel, rfl, by decide +kernel⟩

end Document

end LicenseChooser.Markup
