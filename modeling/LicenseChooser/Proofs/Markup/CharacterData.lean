import LicenseChooser.License.Reading
import LicenseChooser.Proofs.Except
import LicenseChooser.Proofs.Markup.Cutting
import LicenseChooser.Proofs.Markup.Traversal

/-!
What becomes of character data. Markup divides it into runs, and a run that is all white space is
dropped, wherever it stands: also one that alone separates two words. The text of an element is made
up of the other runs, so it is all that was written exactly if no run is blank.
-/

namespace LicenseChooser.Markup

open Text

/-- Character data between two pieces of markup, with references resolved, or a CDATA section. -/
structure Run where
  characters : String
  isSection : Bool
  deriving DecidableEq, Repr

namespace Run

/-- Whether it becomes part of the document. -/
def isKept (r : Run) : Bool := r.isSection || !allBlank r.characters.toList

/-- All characters of runs that follow each other. -/
def join (rs : List Run) : String := String.join (rs.map Run.characters)

theorem join_cons (r : Run) (rs : List Run) : join (r :: rs) = r.characters ++ join rs := by
  rw [join, List.map_cons, String.join_cons, join]

theorem join_append (rs rs' : List Run) : join (rs ++ rs') = join rs ++ join rs' := by
  rw [join, List.map_append, String.join_append, join, join]

theorem length_join_filter_le (rs : List Run) :
    (join (rs.filter isKept)).length ≤ (join rs).length := by
  induction rs with
  | nil => exact Nat.le_refl _
  | cons r rs ih =>
      rw [List.filter_cons, join_cons, String.length_append]
      split
      · rw [join_cons, String.length_append]
        omega
      · omega

/-- Nothing is missing from the characters that are kept exactly if all runs with characters are. -/
theorem join_filter_eq_join_iff {rs : List Run}
    (h : ∀ r ∈ rs, r.isKept = false → r.characters ≠ "") :
    join (rs.filter isKept) = join rs ↔ ∀ r ∈ rs, r.isKept = true := by
  constructor
  · induction rs with
    | nil => simp
    | cons r rs ih =>
        obtain ⟨hr, hrs⟩ := List.forall_mem_cons.1 h
        intro hsame
        rw [List.filter_cons, join_cons] at hsame
        cases hkept : r.isKept with
        | true =>
            rw [hkept, if_pos rfl, join_cons, String.append_right_inj] at hsame
            exact List.forall_mem_cons.2 ⟨hkept, ih hrs hsame⟩
        | false =>
            -- what is left is shorter by this run at least
            have hle := length_join_filter_le rs
            rw [hkept, if_neg Bool.false_ne_true] at hsame
            rw [hsame, String.length_append] at hle
            refine absurd ?_ (hr hkept)
            rw [← String.length_eq_zero_iff]
            omega
  · intro hall
    rw [List.filter_eq_self.2 hall]

end Run

/-- Content as it is written. Comments and instructions divide runs and leave nothing else. -/
inductive Written where
  | nil
  | run (r : Run) (rest : Written)
  | element (name : String) (attributes : List (String × String)) (inside rest : Written)
  deriving DecidableEq, Repr

namespace Written

/-- What is made of it: every element, and the runs that are kept. -/
def content : Written → Content
  | nil => .nil
  | run r rest => if r.isKept then .text r.characters rest.content else rest.content
  | element name attributes inside rest => .element name attributes inside.content rest.content

/-- The runs at every depth, in order. -/
def runs : Written → List Run
  | nil => []
  | run r rest => r :: rest.runs
  | element _ _ inside rest => inside.runs ++ rest.runs

/-- An element as it is written. -/
structure Node where
  name : String
  attributes : List (String × String)
  inside : Written
  deriving DecidableEq, Repr

def Node.element (n : Node) : Element := ⟨n.name, n.attributes, n.inside.content⟩

/-- The elements that are not inside others. -/
def children : Written → List Node
  | nil => []
  | run _ rest => rest.children
  | element name attributes inside rest => ⟨name, attributes, inside⟩ :: rest.children

/-- Every element, at every depth, in order. -/
def nodes : Written → List Node
  | nil => []
  | run _ rest => rest.nodes
  | element name attributes inside rest =>
      ⟨name, attributes, inside⟩ :: (inside.nodes ++ rest.nodes)

theorem characters_content (w : Written) :
    w.content.characters = Run.join (w.runs.filter Run.isKept) := by
  induction w with
  | nil => rfl
  | run r rest ih =>
      rw [content, runs, List.filter_cons]
      split
      · rw [Content.characters, Run.join_cons, ih]
      · exact ih
  | element name attributes inside rest ihInside ih =>
      rw [content, runs, Content.characters, List.filter_append, Run.join_append, ihInside, ih]

theorem elements_content (w : Written) : w.content.elements = w.children.map Node.element := by
  induction w with
  | nil => rfl
  | run r rest ih =>
      rw [content, children, ← ih]
      split <;> rfl
  | element name attributes inside rest _ ih =>
      rw [content, children, Content.elements, ih, List.map_cons]
      rfl

theorem preorder_content (w : Written) : w.content.preorder = w.nodes.map Node.element := by
  induction w with
  | nil => rfl
  | run r rest ih =>
      rw [content, nodes, ← ih]
      split <;> rfl
  | element name attributes inside rest ihInside ih =>
      rw [content, nodes, Content.preorder, ihInside, ih, List.map_cons, List.map_append]
      rfl

namespace Node

theorem text_element (n : Node) : n.element.text = Run.join (n.inside.runs.filter Run.isKept) :=
  n.inside.characters_content

theorem labelText_element (n : Node) (name : String) :
    labelText n.element name = ((n.inside.children.find? (·.name == name)).map fun m =>
      trim (Run.join (m.inside.runs.filter Run.isKept))).getD "" := by
  have hchild : n.element.child? name =
      (n.inside.children.find? (·.name == name)).map Node.element := by
    rw [Element.child?, Element.children, element, elements_content, List.find?_map]
    rfl
  rw [labelText, Element.childText?, hchild, Option.map_map, Option.map_map]
  simp only [Function.comp_def, text_element]

end Node

/-- The runs that are not inside elements. -/
def ownRuns : Written → List Run
  | nil => []
  | run r rest => r :: rest.ownRuns
  | element _ _ _ rest => rest.ownRuns

/-- Text in which some words are marked up: the elements hold character data only, and not all that is
outside of them is blank. -/
def IsMixed (w : Written) : Prop :=
  (∀ n ∈ w.children, n.inside.children = []) ∧
    ∃ r ∈ w.ownRuns, allBlank r.characters.toList = false

end Written

/-- The tokens spell content: as `Reads` says it, but with nothing dropped. -/
inductive Spells : List Token → Written → Prop
  | nil : Spells [] .nil
  | aside {ts w} : Spells ts w → Spells (.aside :: ts) w
  | cdata {s ts w} : Spells ts w → Spells (.cdata s :: ts) (.run ⟨String.ofList s, true⟩ w)
  | text {raw s ts w} :
      Decodes 0 raw (.ok s) → Spells ts w →
        Spells (.text raw :: ts) (.run ⟨String.ofList s, false⟩ w)
  | single {raw tag name attributes ts w} :
      StartTag raw tag (.ok attributes) → Unprefixed tag name → Spells ts w →
        Spells (.single raw :: ts) (.element (String.ofList name) attributes .nil w)
  | element {raw stop tag name attributes inner ts inside w} :
      StartTag raw tag (.ok attributes) → Unprefixed tag name → EndTag stop tag →
        Spells inner inside → Spells ts w →
        Spells (.open raw :: (inner ++ .close stop :: ts))
          (.element (String.ofList name) attributes inside w)

theorem reads_of_spells {ts : List Token} {w : Written} (h : Spells ts w) : Reads ts w.content := by
  induction h with
  | nil => exact .nil
  | aside _ ih => exact .aside ih
  | cdata _ ih => exact .cdata ih
  | @text raw s ts w hu _ ih =>
      cases hb : allBlank s with
      | true => simpa [Written.content, Run.isKept, hb] using Reads.blank hu hb ih
      | false => simpa [Written.content, Run.isKept, hb] using Reads.text hu hb ih
  | single htag hname _ ih => exact .single htag hname ih
  | element htag hname hend _ _ ihInside ih => exact .element htag hname hend ihInside ih

theorem exists_spells_of_reads {ts : List Token} {c : Content} (h : Reads ts c) :
    ∃ w, Spells ts w := by
  induction h with
  | nil => exact ⟨_, .nil⟩
  | aside _ ih =>
      obtain ⟨w, hw⟩ := ih
      exact ⟨w, .aside hw⟩
  | cdata _ ih =>
      obtain ⟨w, hw⟩ := ih
      exact ⟨_, .cdata hw⟩
  | text hu _ _ ih | blank hu _ _ ih =>
      obtain ⟨w, hw⟩ := ih
      exact ⟨_, .text hu hw⟩
  | single htag hname _ ih =>
      obtain ⟨w, hw⟩ := ih
      exact ⟨_, .single htag hname hw⟩
  | element htag hname hend _ _ ihInside ih =>
      obtain ⟨inside, hinside⟩ := ihInside
      obtain ⟨w, hw⟩ := ih
      exact ⟨_, .element htag hname hend hinside hw⟩

/-- An element with a name that is a word, and no attributes. -/
theorem Spells.plain {name : String} {inner ts : List Token} {inside w : Written}
    (hname : IsWord name) (hcolon : ':' ∉ name.toList) (hinner : Spells inner inside)
    (hrest : Spells ts w) :
    Spells (.open name.toList :: (inner ++ .close name.toList :: ts))
      (.element name [] inside w) := by
  have htag := @startTag_tagText name hname [] (by simp) (by simp)
  rw [Source.tagText_nil] at htag
  simpa only [String.ofList_toList, List.map_nil] using
    Spells.element htag (.plain hcolon) (endTag_word hname) hinner hrest

theorem Spells.plainText {text : String} {ts : List Token} {w : Written}
    (htext : (unescape text.toList).toOption = some text.toList) (hrest : Spells ts w) :
    Spells (.text text.toList :: ts) (.run ⟨text, false⟩ w) := by
  have hraw := decodes_iff.2 (eq_ok_of_toOption htext)
  simpa only [String.ofList_toList] using Spells.text hraw hrest

/-- The tokens of a text. A byte order mark at its start is not part of it. -/
def tokens (s : String) : List Token :=
  scan (if s.toList.head? = some '\uFEFF' then s.toList.tail else s.toList)

theorem ne_nil_of_decodes {raw s : List Char} (h : Decodes 0 raw (.ok s)) (hraw : raw ≠ []) :
    s ≠ [] := by
  rintro rfl
  generalize hr : (Except.ok [] : Except EntityError (List Char)) = r at h
  cases h with
  | nil => exact hraw rfl
  | @plain _ c _ r _ _ | @reference _ _ c _ r _ _ _ => cases r <;> cases hr
  | refused | unterminated => cases hr

theorem markup_ne_text {cs raw after : List Char} : markup cs ≠ .ok (.text raw, after) := by
  intro h
  unfold markup at h
  repeat' split at h
  all_goals cases h

theorem ne_nil_of_text_mem_scan {raw cs : List Char} (h : .text raw ∈ scan cs) : raw ≠ [] := by
  induction cs using scan.induct with
  | case1 =>
      rw [scan_nil] at h
      cases h
  | case2 cs t after hm ih =>
      rw [scan_of_markup hm, List.mem_cons] at h
      rcases h with rfl | h
      · exact absurd hm markup_ne_text
      · exact ih h
  | case3 cs e hm =>
      rw [scan_of_markup_error hm] at h
      simp at h
  | case4 c cs hc ih =>
      rw [scan_cons hc, List.mem_cons, Token.text.injEq] at h
      rcases h with rfl | h
      · exact List.cons_ne_nil _ _
      · exact ih h

/-- Every run that is dropped has characters. -/
theorem ne_empty_of_spells {ts : List Token} {w : Written} (h : Spells ts w)
    (hts : ∀ raw, .text raw ∈ ts → raw ≠ []) : ∀ r ∈ w.runs, r.isKept = false → r.characters ≠ "" := by
  induction h with
  | nil => simp [Written.runs]
  | aside _ ih => exact ih fun raw hraw => hts raw (List.mem_cons_of_mem _ hraw)
  | cdata _ ih =>
      refine List.forall_mem_cons.2 ⟨by simp [Run.isKept], ?_⟩
      exact ih fun raw hraw => hts raw (List.mem_cons_of_mem _ hraw)
  | @text raw s ts w hu _ ih =>
      refine List.forall_mem_cons.2 ⟨fun _ => ?_, ?_⟩
      · simpa using ne_nil_of_decodes hu (hts raw List.mem_cons_self)
      · exact ih fun raw hraw => hts raw (List.mem_cons_of_mem _ hraw)
  | single _ _ _ ih => exact ih fun raw hraw => hts raw (List.mem_cons_of_mem _ hraw)
  | element _ _ _ _ _ ihInside ih =>
      refine List.forall_mem_append.2 ⟨ihInside fun raw hraw => ?_, ih fun raw hraw => ?_⟩
      · exact hts raw (List.mem_cons_of_mem _ (List.mem_append_left _ hraw))
      · exact hts raw (List.mem_cons_of_mem _ (List.mem_append_right _ (List.mem_cons_of_mem _ hraw)))

theorem runs_subset_of_mem_nodes {w : Written} {n : Written.Node} (h : n ∈ w.nodes) :
    n.inside.runs ⊆ w.runs := by
  induction w with
  | nil => cases h
  | run r rest ih => exact fun r' hr' => List.mem_cons_of_mem _ (ih h hr')
  | element name attributes inside rest ihInside ih =>
      rw [Written.nodes, List.mem_cons, List.mem_append] at h
      rw [Written.runs]
      rcases h with rfl | h | h
      · exact List.subset_append_left _ _
      · exact List.Subset.trans (ihInside h) (List.subset_append_left _ _)
      · exact List.Subset.trans (ih h) (List.subset_append_right _ _)

theorem elements_of_ofEvents {ts : List Token} {d : Document} {w : Written}
    (h : Document.ofEvents (events [] ts) = .ok d) (hw : Spells ts w) :
    w.content.elements = [d.root] := by
  rw [ofEvents_of_reads (reads_of_spells hw)] at h
  match helements : w.content.elements, h with
  | [], h => cases h
  | [e], h =>
      cases h
      rfl
  | _ :: _ :: _, h => cases h

theorem exists_spells_of_ofEvents {ts : List Token} {d : Document}
    (h : Document.ofEvents (events [] ts) = .ok d) : ∃ w, Spells ts w := by
  obtain ⟨r, hr⟩ := exists_outcome ts
  rw [ofEvents_of_outcome hr] at h
  cases hr with
  | document hreads _ => exact exists_spells_of_reads hreads
  | malformed | secondRoot | unclosed | noRoot => cases h

theorem descendants_of_elements {d : Document} {w : Written} (h : w.content.elements = [d.root]) :
    d.descendants = w.nodes.map Written.Node.element := by
  rw [← w.preorder_content, Content.preorder_eq_flatMap, h, List.flatMap_singleton]
  exact d.root.descendants_eq_preorder

/-- The text of the element is what is written in it less the runs that are blank, so all of it exactly
if none is. A label in it is such a text, trimmed. -/
structure Written.Node.Keeps (n : Node) : Prop where
  text : n.element.text = Run.join (n.inside.runs.filter Run.isKept)
  whole : n.element.text = Run.join n.inside.runs ↔ ∀ r ∈ n.inside.runs, r.isKept = true
  label : ∀ name, labelText n.element name =
    ((n.inside.children.find? (·.name == name)).map fun m =>
      trim (Run.join (m.inside.runs.filter Run.isKept))).getD ""

/-- A document that is read has all elements that are written, and their texts but for blank runs. -/
theorem keeps_of_parse {s : String} {d : Document} (h : Document.parse s = .ok d) :
    (∃ w, Spells (tokens s) w) ∧ ∀ w, Spells (tokens s) w →
      d.descendants = w.nodes.map Written.Node.element ∧ ∀ n ∈ w.nodes, n.Keeps := by
  refine ⟨exists_spells_of_ofEvents h, fun w hw => ⟨?_, fun n hn => ⟨n.text_element, ?_, ?_⟩⟩⟩
  · exact descendants_of_elements (elements_of_ofEvents h hw)
  · have hruns := ne_empty_of_spells hw fun raw hraw => ne_nil_of_text_mem_scan hraw
    rw [n.text_element]
    exact Run.join_filter_eq_join_iff fun r hr => hruns r (runs_subset_of_mem_nodes hn hr)
  · exact n.labelText_element

theorem keeps_of_parse_divided :
    let s := "<a k='v'>x <!-- -->&#32;<b/><![CDATA[ ]]> &amp; <i> y</i>\n</a>"
    ∃ d, Document.parse s = .ok d ∧ d.root.text = "x   &  y" ∧
      (∃ w, Spells (tokens s) w) ∧ ∀ w, Spells (tokens s) w →
        d.descendants = w.nodes.map Written.Node.element ∧ ∀ n ∈ w.nodes, n.Keeps := by
  intro s
  let d : Document := ⟨⟨"a", [("k", "v")], .text "x " (.element "b" [] .nil
    (.text " " (.text " & " (.element "i" [] (.text " y" .nil) .nil))))⟩⟩
  have hparse : (Document.parse s).toOption = some d := by decide +kernel
  exact ⟨d, eq_ok_of_toOption hparse, by decide +kernel, keeps_of_parse (eq_ok_of_toOption hparse)⟩

/-- Two words are run together when each is marked up and a space is all that separates them. -/
theorem text_loses_space :
    let s := "<licenseclass><label>Say <b>no</b> <i>more</i></label></licenseclass>"
    ∃ d w n, Document.parse s = .ok d ∧ Spells (tokens s) w ∧ n ∈ w.nodes ∧ n.name = "label" ∧
      n.inside.IsMixed ∧ Run.join n.inside.runs = "Say no more" ∧ n.element ∈ d.descendants ∧
      n.element.text = "Say nomore" ∧ LicenseClass.parse "x" s = .ok ⟨"x", "Say nomore", []⟩ := by
  intro s
  let word (name text : String) (rest : Written) : Written :=
    .element name [] (.run ⟨text, false⟩ .nil) rest
  let n : Written.Node :=
    ⟨"label", [], .run ⟨"Say ", false⟩ (word "b" "no" (.run ⟨" ", false⟩ (word "i" "more" .nil)))⟩
  let w : Written := .element "licenseclass" [] (.element "label" [] n.inside .nil) .nil
  let d : Document := ⟨⟨"licenseclass", [], .cons n.element .nil⟩⟩
  have hparse : (Document.parse s).toOption = some d := by decide +kernel
  have htokens : tokens s = [.open "licenseclass".toList, .open "label".toList, .text "Say ".toList,
      .open "b".toList, .text "no".toList, .close "b".toList, .text " ".toList, .open "i".toList,
      .text "more".toList, .close "i".toList, .close "label".toList,
      .close "licenseclass".toList] := by
    decide +kernel
  have hspells : Spells (tokens s) w := by
    rw [htokens]
    have hmore := @Spells.plainText "more" _ _ (by decide +kernel) .nil
    have hi := @Spells.plain "i" _ _ _ _ (by decide) (by decide) hmore .nil
    have hno := @Spells.plainText "no" _ _ (by decide +kernel) .nil
    have hspace := @Spells.plainText " " _ _ (by decide +kernel) hi
    have hb := @Spells.plain "b" _ _ _ _ (by decide) (by decide) hno hspace
    have hsay := @Spells.plainText "Say " _ _ (by decide +kernel) hb
    have hlabel := @Spells.plain "label" _ _ _ _ (by decide) (by decide) hsay .nil
    exact @Spells.plain "licenseclass" _ _ _ _ (by decide) (by decide) hlabel .nil
  have hclass : (LicenseClass.parse "x" s).toOption = some ⟨"x", "Say nomore", []⟩ := by
    decide +kernel
  refine ⟨d, w, n, eq_ok_of_toOption hparse, hspells, ?_, rfl, ⟨?_, ?_⟩, by decide +kernel, ?_,
    by decide +kernel, eq_ok_of_toOption hclass⟩
  · decide +kernel
  · decide +kernel
  · exact ⟨⟨"Say ", false⟩, by decide +kernel, by decide +kernel⟩
  · decide +kernel

end LicenseChooser.Markup
