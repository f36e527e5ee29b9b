import LicenseChooser.Proofs.Markup.Tags
import LicenseChooser.Proofs.Markup.Traversal

/-!
Printed content reads back. The conditions are those of the reader: names are words, the keys of a tag
differ, no two runs of character data meet, and a CDATA section does not hold its own end. Texts and
attribute values may be anything. Character data that is blank is lost, and nothing else.
-/

namespace LicenseChooser.Markup

open Text

namespace Source

/-- Whether the first thing printed is character data. -/
def startsWithText : Source → Bool
  | text s rest => s != "" || rest.startsWithText
  | _ => false

/-- What can be read back. -/
def WellFormed : Source → Prop
  | nil => True
  | text s rest => (s = "" ∨ rest.startsWithText = false) ∧ rest.WellFormed
  | cdata s rest => ¬ [']', ']', '>'] <:+: s.toList ∧ rest.WellFormed
  | element name attributes _ inside rest =>
      IsWord name ∧ (∀ a ∈ attributes, IsWord a.1) ∧ (attributes.map (·.1)).Nodup ∧
        inside.WellFormed ∧ rest.WellFormed

def tokens : Source → List Token
  | nil => []
  | text s rest => if s = "" then rest.tokens else .text (escape s.toList) :: rest.tokens
  | cdata s rest => .cdata s.toList :: rest.tokens
  | element name attributes short inside rest =>
      if short && inside == nil then .single (tagText name attributes) :: rest.tokens
      else .open (tagText name attributes) :: (inside.tokens ++ .close name.toList :: rest.tokens)

/-- What is read: names without prefix, and no character data that is blank. -/
def content : Source → Content
  | nil => .nil
  | text s rest => if allBlank s.toList then rest.content else .text s rest.content
  | cdata s rest => .text s rest.content
  | element name attributes _ inside rest =>
      .element (shownName name.toList) (attributes.map fun a => (shownName a.1.toList, a.2))
        inside.content rest.content

end Source

/-- Whether no character data goes on here: the text is at its end or at markup. -/
def AtMarkup (cs : List Char) : Prop := ∀ c ∈ cs.head?, c = '<'

theorem scan_of_markup {cs after : List Char} {t : Token} (h : markup cs = .ok (t, after)) :
    scan ('<' :: cs) = t :: scan after := by
  rw [scan]
  split
  · rename_i t' after' h'
    rw [h, Except.ok.injEq, Prod.mk.injEq] at h'
    rw [h'.1, h'.2]
  · rename_i e h'
    simp [h] at h'

theorem scan_text {raw rest : List Char} (hne : raw ≠ []) (hraw : ∀ c ∈ raw, c ≠ '<')
    (hrest : AtMarkup rest) : scan (raw ++ rest) = .text raw :: scan rest := by
  cases raw with
  | nil => exact absurd rfl hne
  | cons c cs =>
      obtain ⟨hc, hcs⟩ := List.forall_mem_cons.1 hraw
      have hpos : ∀ d ∈ cs, (d != '<') = true := fun d hd => bne_iff_ne.2 (hcs d hd)
      have hstop : ∀ d ∈ rest.head?, (d != '<') = false := fun d hd =>
        bne_eq_false_iff_eq.2 (hrest d hd)
      obtain ⟨htake, hdrop⟩ := run_append hpos rest hstop
      rw [List.cons_append, scan, htake, hdrop]
      exact hc

theorem atMarkup_print {s : Source} (hs : s.startsWithText = false) {after : List Char}
    (ha : AtMarkup after) : AtMarkup (s.print ++ after) := by
  induction s with
  | nil => exact ha
  | text t rest ih =>
      simp only [Source.startsWithText, Bool.or_eq_false_iff, bne_eq_false_iff_eq] at hs
      simpa [Source.print, hs.1, escape] using ih hs.2
  | cdata t rest _ => simp [AtMarkup, Source.print]
  | element name attributes short inside rest _ _ => simp [AtMarkup, Source.print]

/-- The tokens of a printed text are those of its parts. -/
theorem scan_print {s : Source} (h : s.WellFormed) {after : List Char} (ha : AtMarkup after) :
    scan (s.print ++ after) = s.tokens ++ scan after := by
  induction s generalizing after with
  | nil => rfl
  | text t rest ih =>
      obtain ⟨hnext, hrest⟩ := h
      by_cases ht : t = ""
      · simpa [Source.print, Source.tokens, ht, escape] using ih hrest ha
      · have hne : escape t.toList ≠ [] := fun he =>
          ht (String.toList_inj.1 ((escape_eq_nil_iff _).1 he))
        have hmarkup := atMarkup_print (hnext.resolve_left ht) ha
        rw [Source.print, List.append_assoc,
          scan_text hne (fun c hc => (plain_of_mem_escape hc).1) hmarkup, ih hrest ha]
        simp only [Source.tokens, if_neg ht, List.cons_append]
  | cdata t rest ih =>
      have hprint : (Source.cdata t rest).print ++ after = '<' :: '!' :: '[' :: 'C' :: 'D' :: 'A' ::
          'T' :: 'A' :: '[' :: (t.toList ++ ']' :: ']' :: '>' :: (rest.print ++ after)) := by
        simp [Source.print]
      rw [hprint, scan_of_markup (markup_cdata h.1 _), ih h.2 ha]
      rfl
  | element name attributes short inside rest ihInside ih =>
      obtain ⟨hn, ha', -, hinside, hrest⟩ := h
      by_cases hs : (short && inside == .nil) = true
      · have hprint : (Source.element name attributes short inside rest).print ++ after =
            '<' :: (Source.tagText name attributes ++ '/' :: '>' :: (rest.print ++ after)) := by
          simp only [Source.print, hs, if_true, Source.tagText]
          simp
        rw [hprint, scan_of_markup (markup_single hn ha' _), ih hrest ha]
        simp only [Source.tokens, hs, if_true, List.cons_append]
      · have hprint : (Source.element name attributes short inside rest).print ++ after =
            '<' :: (Source.tagText name attributes ++ '>' :: (inside.print ++
              '<' :: '/' :: (name.toList ++ '>' :: (rest.print ++ after)))) := by
          simp only [Source.print, if_neg hs, Source.tagText]
          simp
        have hend : AtMarkup ('<' :: '/' :: (name.toList ++ '>' :: (rest.print ++ after))) := by
          simp [AtMarkup]
        rw [hprint, scan_of_markup (markup_open hn ha' _), ihInside hinside hend,
          scan_of_markup (markup_close hn _), ih hrest ha]
        simp only [Source.tokens, if_neg hs, List.cons_append, List.append_assoc]

/-- What is printed as the same text has the same tokens. -/
theorem tokens_eq_of_toXml_eq {s s' : Source} (h : s.WellFormed) (h' : s'.WellFormed)
    (hsame : s.toXml = s'.toXml) : s.tokens = s'.tokens := by
  have hend : AtMarkup [] := by simp [AtMarkup]
  have hprint : s.print = s'.print := String.ofList_inj.1 hsame
  have hscan := scan_print h hend
  rw [hprint, scan_print h' hend, List.append_cancel_right_eq] at hscan
  exact hscan.symm

theorem reads_tokens {s : Source} (h : s.WellFormed) : Reads s.tokens s.content := by
  induction s with
  | nil => exact .nil
  | text t rest ih =>
      have hrest := ih h.2
      simp only [Source.tokens, Source.content]
      by_cases ht : t = ""
      · simpa [ht, allBlank] using hrest
      · rw [if_neg ht]
        cases hb : allBlank t.toList with
        | true =>
            rw [if_pos rfl]
            exact .blank (decodes_escape _) hb hrest
        | false =>
            have hread := Reads.text (decodes_escape _) hb hrest
            rw [String.ofList_toList] at hread
            rwa [if_neg Bool.false_ne_true]
  | cdata t rest ih =>
      have hread : Reads (.cdata t.toList :: rest.tokens)
          (.text (String.ofList t.toList) rest.content) := .cdata (ih h.2)
      rwa [String.ofList_toList] at hread
  | element name attributes short inside rest ihInside ih =>
      obtain ⟨hn, ha, hd, hinside, hrest⟩ := h
      have htag := startTag_tagText hn ha hd
      have hname : Unprefixed name.toList (localName name.toList) := unprefixed_iff.2 rfl
      simp only [Source.tokens, Source.content]
      by_cases hs : (short && inside == .nil) = true
      · have hnil : inside = .nil := by simp_all
        rw [if_pos hs, hnil]
        exact .single htag hname (ih hrest)
      · rw [if_neg hs]
        exact .element htag hname (endTag_word hn) (ihInside hinside) (ih hrest)

/-- An element that holds one text, as it is read. -/
def Element.leaf (name characters : String) : Element :=
  ⟨name, [], if allBlank characters.toList then .nil else .text characters .nil⟩

namespace Element

theorem text_leaf (name characters : String) :
    (leaf name characters).text = if allBlank characters.toList then "" else characters := by
  simp only [leaf, text]
  split
  · rfl
  · exact String.append_empty

theorem children_leaf (name characters : String) : (leaf name characters).children = [] := by
  simp only [leaf, children]
  split <;> rfl

end Element

/-- The content that consists of these elements. -/
def Content.ofElements (es : List Element) : Content := es.foldr .cons .nil

theorem Content.elements_cons (e : Element) (c : Content) : (c.cons e).elements = e :: c.elements :=
  rfl

theorem Content.elements_ofElements (es : List Element) : (ofElements es).elements = es := by
  induction es with
  | nil => rfl
  | cons e es ih => exact congrArg (e :: ·) ih

namespace Source

theorem content_leaf (name characters : String) (rest : Source) :
    (leaf name characters rest).content =
      .cons (.leaf (shownName name.toList) characters) rest.content := rfl

theorem wellFormed_leaf {name : String} (hn : IsWord name) (characters : String) {rest : Source}
    (h : rest.WellFormed) : (leaf name characters rest).WellFormed :=
  ⟨hn, by simp, by simp, ⟨.inr rfl, trivial⟩, h⟩

variable {α : Type} {item : α → Source → Source} {element : α → Element}

/-- A list of sources that each print one element reads back as the list of these elements. -/
theorem content_ofList (xs : List α)
    (h : ∀ x ∈ xs, ∀ rest, (item x rest).content = .cons (element x) rest.content) :
    (ofList (xs.map item)).content = .ofElements (xs.map element) := by
  induction xs with
  | nil => rfl
  | cons x xs ih =>
      obtain ⟨hx, hxs⟩ := List.forall_mem_cons.1 h
      change (item x (ofList (xs.map item))).content = _
      rw [hx, ih hxs]
      rfl

theorem wellFormed_ofList (xs : List α)
    (h : ∀ x ∈ xs, ∀ rest : Source, rest.WellFormed → (item x rest).WellFormed) :
    (ofList (xs.map item)).WellFormed := by
  induction xs with
  | nil => trivial
  | cons x xs ih =>
      obtain ⟨hx, hxs⟩ := List.forall_mem_cons.1 h
      exact hx _ (ih hxs)

end Source

namespace Document

theorem find?_root {d : Document} {name : String} (h : d.root.name = name) :
    d.find? name = some d.root := by
  rw [find?, descendants, Element.descendants_eq_preorder, List.find?_cons_of_pos]
  simp [h]

theorem parse_toXml {name : String} {attributes : List (String × String)} {short : Bool}
    {inside : Source} (h : (Source.element name attributes short inside .nil).WellFormed) :
    parse (Source.element name attributes short inside .nil).toXml =
      .ok ⟨⟨shownName name.toList, attributes.map fun a => (shownName a.1.toList, a.2),
        inside.content⟩⟩ := by
  have hend : AtMarkup [] := by simp [AtMarkup]
  have hscan := scan_print h hend
  have hempty : scan [] = [] := by rw [scan]
  have hmark : (Source.element name attributes short inside .nil).print.head? ≠ some '\uFEFF' := by
    simp [Source.print]
  have hread : read (Source.element name attributes short inside .nil).print =
      events [] (Source.element name attributes short inside .nil).tokens := by
    rw [List.append_nil, hempty, List.append_nil] at hscan
    rw [read, if_neg hmark, hscan]
  rw [parse, Source.toXml, String.toList_ofList, hread, ofEvents_of_reads (reads_tokens h)]
  rfl

end Document

end LicenseChooser.Markup
