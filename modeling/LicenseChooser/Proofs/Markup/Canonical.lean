import LicenseChooser.Proofs.Markup.Printing
import LicenseChooser.Proofs.Markup.Traversal

/-!
Trees with the names that markup allows, written in the one way that the printer has. What is read is
the tree that was written, with names less their prefixes and without blank character data; and so an
attribute is found by the name that is left of it, and a text is made up of what was kept.
-/

namespace LicenseChooser.Markup

open Text

/-- The numbers of the characters that a name may begin with. A colon is none: it ends a prefix. -/
def isXmlNameStart (c : Char) : Bool :=
  ('A' ≤ c && c ≤ 'Z') || c == '_' || ('a' ≤ c && c ≤ 'z') ||
    [(0xC0, 0xD6), (0xD8, 0xF6), (0xF8, 0x2FF), (0x370, 0x37D), (0x37F, 0x1FFF), (0x200C, 0x200D),
      (0x2070, 0x218F), (0x2C00, 0x2FEF), (0x3001, 0xD7FF), (0xF900, 0xFDCF), (0xFDF0, 0xFFFD),
      (0x10000, 0xEFFFF)].any fun r => r.1 ≤ c.toNat && c.toNat ≤ r.2

def isXmlNameChar (c : Char) : Bool :=
  isXmlNameStart c || c == '-' || c == '.' || ('0' ≤ c && c ≤ '9') || c.toNat == 0xB7 ||
    (0x300 ≤ c.toNat && c.toNat ≤ 0x36F) || (0x203F ≤ c.toNat && c.toNat ≤ 0x2040)

def isXmlName (s : String) : Bool :=
  match s.toList with
  | [] => false
  | c :: rest => isXmlNameStart c && rest.all isXmlNameChar

/-- A name, with or without a prefix. -/
inductive IsQualifiedName : String → Prop
  | plain {name : String} : isXmlName name = true → IsQualifiedName name
  | prefixed {space name : String} :
      isXmlName space = true → isXmlName name = true → IsQualifiedName (space ++ ":" ++ name)

/-- What stands after the last colon of a name. -/
def baseName (s : String) : String :=
  String.ofList (s.toList.reverse.takeWhile (· != ':')).reverse

theorem isXmlNameChar_of_isXmlName {name : String} (h : isXmlName name = true) :
    name.toList ≠ [] ∧ ∀ c ∈ name.toList, isXmlNameChar c = true := by
  rw [isXmlName] at h
  split at h
  · exact absurd h Bool.false_ne_true
  · rename_i c rest hname
    obtain ⟨hstart, hrest⟩ := Bool.and_eq_true_iff.1 h
    rw [hname]
    exact ⟨List.cons_ne_nil _ _,
      List.forall_mem_cons.2 ⟨by simp [isXmlNameChar, hstart], List.all_eq_true.1 hrest⟩⟩

theorem isWordChar_of_isXmlNameChar {c : Char} (h : isXmlNameChar c = true) :
    isWordChar c = true ∧ c ≠ ':' := by
  refine ⟨isWordChar_of_all h (by decide), ?_⟩
  rintro rfl
  exact absurd h (by decide)

theorem isWord_of_isXmlName {name : String} (h : isXmlName name = true) :
    IsWord name ∧ ':' ∉ name.toList := by
  obtain ⟨hne, hchars⟩ := isXmlNameChar_of_isXmlName h
  exact ⟨⟨hne, fun c hc => (isWordChar_of_isXmlNameChar (hchars c hc)).1⟩,
    fun hc => (isWordChar_of_isXmlNameChar (hchars _ hc)).2 rfl⟩

theorem baseName_of_no_colon {name : String} (h : ':' ∉ name.toList) : baseName name = name := by
  have hpos : ∀ c ∈ name.toList.reverse, (c != ':') = true := fun c hc =>
    bne_iff_ne.2 fun he => h (he ▸ List.mem_reverse.1 hc)
  have hrun := run_append hpos [] (by simp)
  rw [List.append_nil] at hrun
  rw [baseName, hrun.1, List.reverse_reverse, String.ofList_toList]

theorem baseName_prefixed (space : String) {name : String} (h : ':' ∉ name.toList) :
    baseName (space ++ ":" ++ name) = name := by
  have hpos : ∀ c ∈ name.toList.reverse, (c != ':') = true := fun c hc =>
    bne_iff_ne.2 fun he => h (he ▸ List.mem_reverse.1 hc)
  have hreverse : (space ++ ":" ++ name).toList.reverse =
      name.toList.reverse ++ ':' :: space.toList.reverse := by simp
  rw [baseName, hreverse, (run_append hpos _ (by simp)).1, List.reverse_reverse,
    String.ofList_toList]

namespace IsQualifiedName

theorem isWord {name : String} (h : IsQualifiedName name) : IsWord name := by
  cases h with
  | plain h => exact (isWord_of_isXmlName h).1
  | @prefixed space name hspace hname =>
      obtain ⟨hs, -⟩ := isWord_of_isXmlName hspace
      obtain ⟨hn, -⟩ := isWord_of_isXmlName hname
      have hchars : (space ++ ":" ++ name).toList = space.toList ++ ':' :: name.toList := by simp
      rw [IsWord, hchars]
      refine ⟨by simp, fun c hc => ?_⟩
      rw [List.mem_append, List.mem_cons] at hc
      rcases hc with hc | rfl | hc
      · exact hs.2 c hc
      · decide
      · exact hn.2 c hc

/-- The reader cuts a name at its first colon; a qualified name has no other. -/
theorem shownName_eq {name : String} (h : IsQualifiedName name) :
    shownName name.toList = baseName name := by
  cases h with
  | plain h =>
      have hcolon := (isWord_of_isXmlName h).2
      rw [shownName_toList hcolon, baseName_of_no_colon hcolon]
  | @prefixed space name hspace hname =>
      have hpos : ∀ c ∈ space.toList, (c != ':') = true := fun c hc =>
        bne_iff_ne.2 fun he => (isWord_of_isXmlName hspace).2 (he ▸ hc)
      have hchars : (space ++ ":" ++ name).toList = space.toList ++ ':' :: name.toList := by simp
      rw [baseName_prefixed space (isWord_of_isXmlName hname).2, shownName, localName, hchars,
        (run_append hpos (':' :: name.toList) (by simp)).2, String.ofList_toList]

end IsQualifiedName

namespace Source

/-- Written in the one way there is: names are qualified names, the keys of a tag differ, character
data is not empty and does not meet other character data, and a CDATA section does not hold its own
end. -/
def Canonical : Source → Prop
  | nil => True
  | text s rest => s ≠ "" ∧ rest.startsWithText = false ∧ rest.Canonical
  | cdata s rest => ¬ [']', ']', '>'] <:+: s.toList ∧ rest.Canonical
  | element name attributes _ inside rest =>
      IsQualifiedName name ∧ (∀ a ∈ attributes, IsQualifiedName a.1) ∧
        (attributes.map (·.1)).Nodup ∧ inside.Canonical ∧ rest.Canonical

/-- The tree that is written, with names less their prefixes and without blank character data. -/
def plain : Source → Content
  | nil => .nil
  | text s rest => if allBlank s.toList then rest.plain else .text s rest.plain
  | cdata s rest => .text s rest.plain
  | element name attributes _ inside rest =>
      .element (baseName name) (attributes.map fun a => (baseName a.1, a.2)) inside.plain rest.plain

/-- The character data that is not lost, at every depth, in order. -/
def kept : Source → List String
  | nil => []
  | text s rest => if allBlank s.toList then rest.kept else s :: rest.kept
  | cdata s rest => s :: rest.kept
  | element _ _ _ inside rest => inside.kept ++ rest.kept

/-- An element as it is written. -/
structure Node where
  name : String
  attributes : List (String × String)
  inside : Source

namespace Node

/-- The document that consists of the element. -/
def source (n : Node) (short : Bool) : Source := .element n.name n.attributes short n.inside .nil

def element (n : Node) : Element :=
  ⟨baseName n.name, n.attributes.map fun a => (baseName a.1, a.2), n.inside.plain⟩

end Node

/-- Every element that is written, at every depth, in order. -/
def nodes : Source → List Node
  | nil => []
  | text _ rest | cdata _ rest => rest.nodes
  | element name attributes _ inside rest =>
      ⟨name, attributes, inside⟩ :: (inside.nodes ++ rest.nodes)

theorem Canonical.wellFormed {s : Source} (h : s.Canonical) : s.WellFormed := by
  induction s with
  | nil => trivial
  | text t rest ih => exact ⟨.inr h.2.1, ih h.2.2⟩
  | cdata t rest ih => exact ⟨h.1, ih h.2⟩
  | element name attributes short inside rest ihInside ih =>
      obtain ⟨hname, hkeys, hdistinct, hinside, hrest⟩ := h
      exact ⟨hname.isWord, fun a ha => (hkeys a ha).isWord, hdistinct, ihInside hinside, ih hrest⟩

theorem shownAttributes_eq {attributes : List (String × String)}
    (h : ∀ a ∈ attributes, IsQualifiedName a.1) :
    (attributes.map fun a => (shownName a.1.toList, a.2)) =
      attributes.map fun a => (baseName a.1, a.2) := by
  apply List.map_congr_left
  intro a ha
  rw [(h a ha).shownName_eq]

theorem Canonical.content_eq {s : Source} (h : s.Canonical) : s.content = s.plain := by
  induction s with
  | nil => rfl
  | text t rest ih => rw [content, plain, ih h.2.2]
  | cdata t rest ih => rw [content, plain, ih h.2]
  | element name attributes short inside rest ihInside ih =>
      obtain ⟨hname, hkeys, -, hinside, hrest⟩ := h
      rw [content, plain, hname.shownName_eq, shownAttributes_eq hkeys, ihInside hinside, ih hrest]

theorem preorder_plain (s : Source) : s.plain.preorder = s.nodes.map Node.element := by
  induction s with
  | nil => rfl
  | text t rest ih =>
      rw [plain, nodes, ← ih]
      split <;> rfl
  | cdata t rest ih => exact ih
  | element name attributes short inside rest ihInside ih =>
      rw [plain, nodes, Content.preorder, ihInside, ih, List.map_cons, List.map_append]
      rfl

theorem characters_plain (s : Source) : s.plain.characters = String.join s.kept := by
  induction s with
  | nil => rfl
  | text t rest ih =>
      rw [plain, kept]
      split
      · exact ih
      · rw [Content.characters, ih, String.join_cons]
  | cdata t rest ih => rw [plain, kept, Content.characters, ih, String.join_cons]
  | element name attributes short inside rest ihInside ih =>
      rw [plain, kept, Content.characters, ihInside, ih, String.join_append]

end Source

theorem lookup_map_fst (f : String → String) (attributes : List (String × String)) (name : String) :
    (attributes.map fun a => (f a.1, a.2)).lookup name =
      (attributes.find? fun a => f a.1 == name).map (·.2) := by
  induction attributes with
  | nil => rfl
  | cons a attributes ih =>
      rw [List.map_cons, List.lookup_cons, List.find?_cons, ih, BEq.comm]
      cases f a.1 == name <;> rfl

/-- A tree in canonical form is read as it was written: each element with its attributes and its
children, an attribute being the first with its name, and its text all that was kept of it. -/
theorem parse_canonical {n : Source.Node} {short : Bool} (h : (n.source short).Canonical) :
    ∃ d, Document.parse (n.source short).toXml = .ok d ∧
      d.root = n.element ∧
      d.descendants = (n.source short).nodes.map Source.Node.element ∧
      ∀ m ∈ (n.source short).nodes,
        (∀ name, m.element.attribute? name =
          (m.attributes.find? fun a => baseName a.1 == name).map (·.2)) ∧
        m.element.text = String.join m.inside.kept := by
  refine ⟨⟨n.element⟩, ?_, rfl, ?_, fun m _ => ⟨fun name => ?_, ?_⟩⟩
  · have hread := Document.parse_toXml h.wellFormed
    obtain ⟨hname, hkeys, -, hinside, -⟩ := h
    rw [hname.shownName_eq, Source.shownAttributes_eq hkeys, hinside.content_eq] at hread
    exact hread
  · rw [Document.descendants, Element.descendants_eq_preorder, Source.Node.source, Source.nodes,
      Source.nodes, List.append_nil, List.map_cons]
    exact congrArg (n.element :: ·) n.inside.preorder_plain
  · exact lookup_map_fst baseName m.attributes name
  · exact m.inside.characters_plain

theorem parse_canonical_prefixed :
    let n : Source.Node := ⟨"x:r", [("x:a", "<\"&>'\n"), ("a", "2")],
      .text " \t" (.cdata "" (.element "b" [] true .nil (.text "]]>" (.cdata " " .nil))))⟩
    (n.source false).Canonical ∧
    ∃ d, Document.parse (n.source false).toXml = .ok d ∧
      d.root = n.element ∧
      d.descendants = (n.source false).nodes.map Source.Node.element ∧
      ∀ m ∈ (n.source false).nodes,
        (∀ name, m.element.attribute? name =
          (m.attributes.find? fun a => baseName a.1 == name).map (·.2)) ∧
        m.element.text = String.join m.inside.kept := by
  intro n
  have hroot : IsQualifiedName "x:r" := @IsQualifiedName.prefixed "x" "r" (by decide) (by decide)
  have hkey : IsQualifiedName "x:a" := @IsQualifiedName.prefixed "x" "a" (by decide) (by decide)
  have hkeys : ∀ a ∈ n.attributes, IsQualifiedName a.1 :=
    List.forall_mem_cons.2 ⟨hkey, List.forall_mem_cons.2 ⟨.plain (by decide), by simp⟩⟩
  have hcanonical : (n.source false).Canonical :=
    ⟨hroot, hkeys, by decide, ⟨by decide, rfl, by decide, .plain (by decide), by simp, by simp,
      trivial, by decide, rfl, by decide, trivial⟩, trivial⟩
  exact ⟨hcanonical, parse_canonical hcanonical⟩

end LicenseChooser.Markup
