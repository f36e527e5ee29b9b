import LicenseChooser.Markup.Document
import LicenseChooser.Proofs.Markup.Attributes

/-!
Tokens by nesting. `Reads` says that a token list is complete content and which, by recursion over
its elements; `Begins` says the same of a list that leaves elements open. Both are stated without the
stack, and by what tags and character data say, not by what the reader makes of them. What the stack
does with such a list follows from one fact: complete content is put where the innermost open element,
or the top level, has been read to.
-/

namespace LicenseChooser.Markup

open Text

namespace Content

def append : Content → Content → Content
  | nil, after => after
  | text s rest, after => text s (rest.append after)
  | element name attributes inside rest, after => element name attributes inside (rest.append after)

theorem append_nil (c : Content) : c.append nil = c := by
  induction c with
  | nil => rfl
  | text s rest ih => simp only [append, ih]
  | element name attributes inside rest _ ih => simp only [append, ih]

theorem reverseOnto_reverseOnto (c before after : Content) :
    (c.reverseOnto before).reverseOnto after = before.reverseOnto (c.append after) := by
  induction c generalizing before with
  | nil => rfl
  | text s rest ih => simp only [reverseOnto, append, ih]
  | element name attributes inside rest _ ih => simp only [reverseOnto, append, ih]

end Content

/-- The tokens are complete content: nothing in them fails, and every element that begins in them
ends in them. -/
inductive Reads : List Token → Content → Prop
  | nil : Reads [] .nil
  | aside {ts c} : Reads ts c → Reads (.aside :: ts) c
  | cdata {s ts c} : Reads ts c → Reads (.cdata s :: ts) (.text (String.ofList s) c)
  | text {raw s ts c} :
      Decodes 0 raw (.ok s) → allBlank s = false → Reads ts c →
        Reads (.text raw :: ts) (.text (String.ofList s) c)
  | blank {raw s ts c} :
      Decodes 0 raw (.ok s) → allBlank s = true → Reads ts c → Reads (.text raw :: ts) c
  | single {raw tag name attributes ts c} :
      StartTag raw tag (.ok attributes) → Unprefixed tag name → Reads ts c →
        Reads (.single raw :: ts) (.element (String.ofList name) attributes .nil c)
  | element {raw stop tag name attributes inner ts inside c} :
      StartTag raw tag (.ok attributes) → Unprefixed tag name → EndTag stop tag →
        Reads inner inside → Reads ts c →
        Reads (.open raw :: (inner ++ .close stop :: ts))
          (.element (String.ofList name) attributes inside c)

/-- The tokens begin a document: nothing in them fails, the elements with the full names `opened`
are open after them, innermost first, and `top` is the content that is complete outside of these. -/
inductive Begins : List Token → List (List Char) → Content → Prop
  | complete {ts top} : Reads ts top → Begins ts [] top
  | inside {ts raw tag attributes inner opened top c} :
      Begins ts opened top → StartTag raw tag (.ok attributes) → Reads inner c →
        Begins (ts ++ .open raw :: inner) (tag :: opened) top

/-- Why a token is no event inside the `opened` elements. For character data it does not matter where
it stands. -/
inductive Token.Fails : List (List Char) → Token → MarkupError → Prop
  | open {opened raw tag e} : StartTag raw tag (.error e) → Fails opened (.open raw) e
  | single {opened raw tag e} : StartTag raw tag (.error e) → Fails opened (.single raw) e
  | unmatched {raw name} :
      EndTag raw name → Fails [] (.close raw) (.unmatchedEnd (String.ofList name))
  | mismatched {raw name expected outer} :
      EndTag raw name → name ≠ expected →
        Fails (expected :: outer) (.close raw)
          (.mismatchedEnd (String.ofList expected) (String.ofList name))
  | text {opened raw e} : Decodes 0 raw (.error e) → Fails opened (.text raw) (.entity e)
  | broken {opened e} : Fails opened (.broken e) e

/-- The same as the reader finds it. -/
def Token.fault? (opened : List (List Char)) : Token → Option MarkupError
  | .open raw | .single raw =>
      match tagAttributes raw with
      | .ok _ => none
      | .error e => some e
  | .close raw =>
      if opened.head? = some (endName raw) then none else some (endError opened (endName raw))
  | .text raw =>
      match unescape raw with
      | .ok _ => none
      | .error e => some (.entity e)
  | .cdata _ | .aside => none
  | .broken e => some e

theorem Token.fails_iff {opened : List (List Char)} {t : Token} {e : MarkupError} :
    t.Fails opened e ↔ t.fault? opened = some e := by
  constructor
  · intro h
    cases h with
    | «open» htag | single htag =>
        rw [fault?, (startTag_iff.1 htag).2]
    | unmatched hname =>
        rw [fault?, endTag_iff.1 hname]
        rfl
    | mismatched hname hne =>
        rw [fault?, endTag_iff.1 hname, if_neg (by simpa using hne.symm)]
        rfl
    | text hraw => rw [fault?, unescape, decodes_iff.1 hraw]
    | broken => rfl
  · intro h
    cases t with
    | «open» raw =>
        cases ha : tagAttributes raw <;> simp only [fault?, ha, reduceCtorEq, Option.some.injEq] at h
        exact h ▸ .open (startTag_iff.2 ⟨rfl, ha⟩)
    | single raw =>
        cases ha : tagAttributes raw <;> simp only [fault?, ha, reduceCtorEq, Option.some.injEq] at h
        exact h ▸ .single (startTag_iff.2 ⟨rfl, ha⟩)
    | close raw =>
        simp only [fault?, Option.ite_none_left_eq_some, Option.some.injEq] at h
        obtain ⟨hne, rfl⟩ := h
        cases opened with
        | nil => exact .unmatched (endTag_iff.2 rfl)
        | cons expected outer =>
            exact .mismatched (endTag_iff.2 rfl) fun he => hne (by rw [he, List.head?_cons])
    | text raw =>
        cases hu : unescape raw <;> simp only [fault?, hu, reduceCtorEq, Option.some.injEq] at h
        exact h ▸ .text (decodes_iff.2 hu)
    | cdata _ | aside => simp [fault?] at h
    | broken e' =>
        obtain rfl : e' = e := by simpa [fault?] using h
        exact .broken

theorem events_of_fault {opened : List (List Char)} {t : Token} {e : MarkupError}
    (h : t.fault? opened = some e) (rest : List Token) :
    events opened (t :: rest) = [.failed e] := by
  cases t with
  | «open» raw | single raw =>
      cases ha : tagAttributes raw <;> simp_all [Token.fault?, events]
  | close raw =>
      simp only [Token.fault?, Option.ite_none_left_eq_some, Option.some.injEq] at h
      simp only [events, if_neg h.1, h.2]
  | text raw =>
      cases hu : unescape raw <;> simp_all [Token.fault?, events]
  | cdata _ | aside => simp [Token.fault?] at h
  | broken e' => simp_all [Token.fault?, events]

namespace Reads

theorem append {ts ts' : List Token} {c c' : Content} (h : Reads ts c) (h' : Reads ts' c') :
    Reads (ts ++ ts') (c.append c') := by
  induction h with
  | nil => exact h'
  | aside _ ih => exact ih.aside
  | cdata _ ih => exact ih.cdata
  | text hu hb _ ih => exact ih.text hu hb
  | blank hu hb _ ih => exact ih.blank hu hb
  | single htag hname _ ih => exact .single htag hname ih
  | element htag hname hend hi _ _ ih =>
      simpa only [List.cons_append, List.append_assoc, Content.append] using
        Reads.element htag hname hend hi ih

theorem take {ts : List Token} {c : Content} (h : Reads ts c) (n : Nat)
    (hn : n ≤ c.elements.length) :
    ∃ before after c', ts = before ++ after ∧ Reads before c' ∧
      c'.elements = c.elements.take n := by
  induction h generalizing n with
  | nil => exact ⟨[], [], .nil, rfl, .nil, by simp [Content.elements]⟩
  | aside _ ih =>
      obtain ⟨before, after, c', rfl, hr, he⟩ := ih n hn
      exact ⟨_, after, c', rfl, hr.aside, he⟩
  | cdata _ ih =>
      obtain ⟨before, after, c', rfl, hr, he⟩ := ih n hn
      exact ⟨_, after, _, rfl, hr.cdata, he⟩
  | text hu hb _ ih =>
      obtain ⟨before, after, c', rfl, hr, he⟩ := ih n hn
      exact ⟨_, after, _, rfl, hr.text hu hb, he⟩
  | blank hu hb _ ih =>
      obtain ⟨before, after, c', rfl, hr, he⟩ := ih n hn
      exact ⟨_, after, c', rfl, hr.blank hu hb, he⟩
  | single htag hname _ ih =>
      cases n with
      | zero => exact ⟨[], _, .nil, rfl, .nil, rfl⟩
      | succ n =>
          obtain ⟨before, after, c', rfl, hr, he⟩ := ih n (by simpa [Content.elements] using hn)
          refine ⟨_, after, _, rfl, .single htag hname hr, ?_⟩
          simp only [Content.elements, he, List.take]
  | element htag hname hend hi _ _ ih =>
      cases n with
      | zero => exact ⟨[], _, .nil, rfl, .nil, rfl⟩
      | succ n =>
          obtain ⟨before, after, c', rfl, hr, he⟩ := ih n (by simpa [Content.elements] using hn)
          refine ⟨_, after, _, ?_, .element htag hname hend hi hr, ?_⟩
          · simp only [List.cons_append, List.append_assoc]
          · simp only [Content.elements, he, List.take]

end Reads

namespace Progress

/-- Puts complete content where the innermost open element, or the top level, has been read to. -/
def addContent (p : Progress) : Content → Except DocumentError Progress
  | .nil => .ok p
  | .text s rest => (p.addText s).addContent rest
  | .element name attributes inside rest =>
      (p.complete ⟨name, attributes, inside⟩).bind (·.addContent rest)

theorem addContent_opened (f : Frame) (outer : List Frame) (root : Option Element) (c : Content) :
    addContent ⟨f :: outer, root⟩ c =
      .ok ⟨{ f with before := c.reverseOnto f.before } :: outer, root⟩ := by
  induction c generalizing f with
  | nil => rfl
  | text s rest ih => exact ih (f.addText s)
  | element name attributes inside rest _ ih => exact ih (f.addElement ⟨name, attributes, inside⟩)

/-- The element that is the root when these are complete on the top level. -/
def soleElement : List Element → Except DocumentError (Option Element)
  | [] => .ok none
  | [e] => .ok (some e)
  | _ :: e :: _ => .error (.secondRoot e.name)

theorem addContent_top (root : Option Element) (c : Content) :
    addContent ⟨[], root⟩ c = (soleElement (root.toList ++ c.elements)).map (⟨[], ·⟩) := by
  induction c generalizing root with
  | nil => cases root <;> rfl
  | text s rest ih => exact ih root
  | element name attributes inside rest _ ih =>
      cases root with
      | none => exact ih (some ⟨name, attributes, inside⟩)
      | some r => rfl

end Progress

/-- Complete content among the events of a text goes where it belongs, whatever is open around it. -/
theorem foldlM_step_of_reads {ts : List Token} {c : Content} (h : Reads ts c)
    (opened : List (List Char)) (p : Progress) (rest : List Token) :
    (events opened (ts ++ rest)).foldlM Progress.step p =
      (p.addContent c).bind fun q => (events opened rest).foldlM Progress.step q := by
  -- on the nesting: an element is first the innermost open one, and then complete where `p` stands
  induction h generalizing opened p rest with
  | nil => rfl
  | aside _ ih => exact ih opened p rest
  | @cdata s _ _ _ ih => exact ih opened (p.addText (String.ofList s)) rest
  | @text raw s _ _ hraw hb _ ih =>
      have hu : unescape raw = .ok s := decodes_iff.1 hraw
      simp only [List.cons_append, events, hu, List.foldlM_cons, Progress.step,
        String.toList_ofList, hb]
      exact ih opened (p.addText (String.ofList s)) rest
  | @blank raw s _ _ hraw hb _ ih =>
      have hu : unescape raw = .ok s := decodes_iff.1 hraw
      simp only [List.cons_append, events, hu, List.foldlM_cons, Progress.step,
        String.toList_ofList, hb]
      exact ih opened p rest
  | @single raw tag name attributes _ c htag hname _ ih =>
      obtain ⟨rfl, ha⟩ := startTag_iff.1 htag
      obtain rfl := unprefixed_iff.1 hname
      simp only [List.cons_append, events, ha, List.foldlM_cons, Progress.step]
      change (p.complete ⟨String.ofList (localName (tagName raw)), attributes, .nil⟩).bind _ = _
      cases hp : p.complete ⟨String.ofList (localName (tagName raw)), attributes, .nil⟩ with
      | error e => simp only [Progress.addContent, hp, Except.bind]
      | ok q => simp only [Progress.addContent, hp, Except.bind, ih]
  | @element raw stop tag name attributes inner ts inside c htag hname hend _ _ ihInside ih =>
      obtain ⟨rfl, ha⟩ := startTag_iff.1 htag
      obtain rfl := unprefixed_iff.1 hname
      have hn := endTag_iff.1 hend
      let f : Frame := ⟨String.ofList (localName (tagName raw)), attributes, .nil⟩
      let full : Frame := { f with before := inside.reverseOnto .nil }
      have hclose : full.close = ⟨String.ofList (localName (tagName raw)), attributes, inside⟩ := by
        simp only [Frame.close, full, f, Content.reverseOnto_reverseOnto, Content.append_nil,
          Content.reverseOnto]
      have hstep : Progress.step ⟨full :: p.opened, p.root⟩ .close =
          p.complete ⟨String.ofList (localName (tagName raw)), attributes, inside⟩ := by
        rw [← hclose]; rfl
      simp only [List.cons_append, List.append_assoc, events, ha, List.foldlM_cons]
      change (events (tagName raw :: opened) (inner ++ .close stop :: (ts ++ rest))).foldlM
        Progress.step ⟨f :: p.opened, p.root⟩ = _
      rw [ihInside, Progress.addContent_opened]
      simp only [Except.bind, events, List.head?_cons, hn, if_true, List.foldlM_cons, List.tail_cons]
      change (Progress.step ⟨full :: p.opened, p.root⟩ .close).bind _ = _
      rw [hstep]
      cases hp : p.complete ⟨String.ofList (localName (tagName raw)), attributes, inside⟩ with
      | error e => simp only [Progress.addContent, hp, Except.bind]
      | ok q => simp only [Progress.addContent, hp, Except.bind, ih]

/-- The frames of open elements with these full names. -/
def Opens (frames : List Frame) (opened : List (List Char)) : Prop :=
  frames.map (·.name) = opened.map shownName

theorem foldlM_step_of_begins {ts : List Token} {opened : List (List Char)} {top : Content}
    (h : Begins ts opened top) :
    ∃ frames, Opens frames opened ∧ ∀ rest,
      (events [] (ts ++ rest)).foldlM Progress.step .start =
        (Progress.soleElement top.elements).bind fun root =>
          (events opened rest).foldlM Progress.step ⟨frames, root⟩ := by
  induction h with
  | complete hr =>
      refine ⟨[], rfl, fun rest => ?_⟩
      rw [foldlM_step_of_reads hr, Progress.start, Progress.addContent_top, Option.toList_none,
        List.nil_append]
      cases Progress.soleElement _ <;> rfl
  | @inside ts raw tag attributes inner opened top c _ htag hr ih =>
      obtain ⟨frames, hf, ih⟩ := ih
      obtain ⟨rfl, ha⟩ := startTag_iff.1 htag
      refine ⟨⟨shownName (tagName raw), attributes, c.reverseOnto .nil⟩ :: frames, ?_, fun rest => ?_⟩
      · simpa only [Opens, List.map_cons, List.cons.injEq, true_and] using hf
      · rw [List.append_assoc, List.cons_append, ih]
        congr 1
        funext root
        simp only [events, ha, List.foldlM_cons]
        change (events (tagName raw :: opened) (inner ++ rest)).foldlM Progress.step
          ⟨⟨shownName (tagName raw), attributes, .nil⟩ :: frames, root⟩ = _
        rw [foldlM_step_of_reads hr, Progress.addContent_opened]
        rfl

namespace Begins

theorem append {ts ts' : List Token} {opened : List (List Char)} {top c : Content}
    (h : Begins ts opened top) (h' : Reads ts' c) : ∃ top', Begins (ts ++ ts') opened top' := by
  cases h with
  | complete hr => exact ⟨_, .complete (hr.append h')⟩
  | inside hb htag hr =>
      refine ⟨top, ?_⟩
      simpa only [List.append_assoc, List.cons_append] using Begins.inside hb htag (hr.append h')

/-- A token without fault leads to another beginning of a document. -/
theorem snoc {ts : List Token} {opened : List (List Char)} {top : Content}
    (h : Begins ts opened top) {t : Token} (ht : t.fault? opened = none) :
    ∃ opened' top', Begins (ts ++ [t]) opened' top' := by
  cases t with
  | text raw =>
      cases hu : unescape raw with
      | error e => simp [Token.fault?, hu] at ht
      | ok s =>
          have hraw := decodes_iff.2 hu
          cases hb : allBlank s with
          | true => exact ⟨opened, h.append (.blank hraw hb .nil)⟩
          | false => exact ⟨opened, h.append (.text hraw hb .nil)⟩
  | «open» raw =>
      cases ha : tagAttributes raw with
      | error e => simp [Token.fault?, ha] at ht
      | ok attributes => exact ⟨_, _, .inside h (startTag_iff.2 ⟨rfl, ha⟩) .nil⟩
  | single raw =>
      cases ha : tagAttributes raw with
      | error e => simp [Token.fault?, ha] at ht
      | ok attributes =>
          have htag := startTag_iff.2 ⟨rfl, ha⟩
          exact ⟨opened, h.append (.single htag (unprefixed_iff.2 rfl) .nil)⟩
  | close stop =>
      simp only [Token.fault?, ite_eq_left_iff, reduceCtorEq, imp_false, Decidable.not_not] at ht
      cases h with
      | complete _ => simp at ht
      | @inside ts raw tag attributes inner opened _ c hb htag hr =>
          have hend : EndTag stop tag := endTag_iff.2 (by simpa using ht.symm)
          obtain ⟨top', h'⟩ := hb.append (.element htag (unprefixed_iff.2 rfl) hend hr .nil)
          exact ⟨opened, top', by simpa only [List.append_assoc, List.cons_append] using h'⟩
  | cdata s => exact ⟨opened, h.append (.cdata .nil)⟩
  | aside => exact ⟨opened, h.append (.aside .nil)⟩
  | broken e => simp [Token.fault?] at ht

/-- A token list begins a document as far as its first fault. -/
theorem extend {ts : List Token} {opened : List (List Char)} {top : Content}
    (h : Begins ts opened top) (rest : List Token) :
    (∃ opened' top', Begins (ts ++ rest) opened' top') ∨
      ∃ before t after opened' top' e, ts ++ rest = before ++ t :: after ∧
        Begins before opened' top' ∧ t.Fails opened' e := by
  induction rest generalizing ts opened top with
  | nil => exact .inl ⟨opened, top, by simpa using h⟩
  | cons t rest ih =>
      cases ht : t.fault? opened with
      | some e => exact .inr ⟨ts, t, rest, opened, top, e, rfl, h, Token.fails_iff.2 ht⟩
      | none =>
          obtain ⟨opened', top', h'⟩ := h.snoc ht
          simpa only [List.append_assoc, List.singleton_append] using ih h'

theorem outside {ts : List Token} {opened : List (List Char)} {top : Content}
    (h : Begins ts opened top) : ∃ before after, ts = before ++ after ∧ Reads before top := by
  induction h with
  | @complete ts _ hr => exact ⟨ts, [], by simp, hr⟩
  | inside _ _ _ ih =>
      obtain ⟨before, after, rfl, hr⟩ := ih
      exact ⟨before, _, List.append_assoc .., hr⟩

end Begins

/-- What a token list is. A document is complete content with one element outside of others. Else the
first token that fails, or that completes a second such element, decides; and without one, the
innermost element that is open at the end. -/
inductive Outcome : List Token → Except DocumentError Document → Prop
  | document {ts top root} : Reads ts top → top.elements = [root] → Outcome ts (.ok ⟨root⟩)
  | malformed {before t after opened top e} :
      Begins before opened top → top.elements.length ≤ 1 → t.Fails opened e →
        Outcome (before ++ t :: after) (.error (.malformed e))
  | secondRoot {before after top first second} :
      Reads before top → top.elements = [first, second] →
        Outcome (before ++ after) (.error (.secondRoot second.name))
  | unclosed {ts tag name outer top} :
      Begins ts (tag :: outer) top → Unprefixed tag name → top.elements.length ≤ 1 →
        Outcome ts (.error (.unclosed (String.ofList name)))
  | noRoot {ts top} : Reads ts top → top.elements = [] → Outcome ts (.error .noRoot)

theorem Progress.soleElement_of_length_le {es : List Element} (h : es.length ≤ 1) :
    soleElement es = .ok es.head? := by
  match es, h with
  | [], _ => rfl
  | [e], _ => rfl

theorem ofEvents_of_begins {ts : List Token} {opened : List (List Char)} {top : Content}
    (h : Begins ts opened top) :
    ∃ frames, Opens frames opened ∧
      Document.ofEvents (events [] ts) =
        (Progress.soleElement top.elements).bind fun root => Progress.finish ⟨frames, root⟩ := by
  obtain ⟨frames, hf, hfold⟩ := foldlM_step_of_begins h
  refine ⟨frames, hf, ?_⟩
  have := hfold []
  rw [List.append_nil] at this
  rw [Document.ofEvents, this]
  cases Progress.soleElement top.elements <;> rfl

theorem ofEvents_of_reads {ts : List Token} {top : Content} (h : Reads ts top) :
    Document.ofEvents (events [] ts) =
      (Progress.soleElement top.elements).bind fun root => Progress.finish ⟨[], root⟩ := by
  obtain ⟨frames, hf, hdoc⟩ := ofEvents_of_begins (.complete h)
  obtain rfl : frames = [] := by simpa [Opens] using hf
  exact hdoc

theorem ofEvents_of_outcome {ts : List Token} {r : Except DocumentError Document}
    (h : Outcome ts r) : Document.ofEvents (events [] ts) = r := by
  cases h with
  | document hr he => rw [ofEvents_of_reads hr, he]; rfl
  | malformed hb hl hf =>
      obtain ⟨frames, -, hfold⟩ := foldlM_step_of_begins hb
      rw [Document.ofEvents, hfold, events_of_fault (Token.fails_iff.1 hf),
        Progress.soleElement_of_length_le hl]
      rfl
  | @secondRoot before after top first second hr he =>
      obtain ⟨frames, -, hfold⟩ := foldlM_step_of_begins (.complete hr)
      rw [Document.ofEvents, hfold, he]
      rfl
  | unclosed hb hname hl =>
      obtain rfl := unprefixed_iff.1 hname
      obtain ⟨frames, hf, hdoc⟩ := ofEvents_of_begins hb
      rw [hdoc, Progress.soleElement_of_length_le hl]
      cases frames with
      | nil => simp [Opens] at hf
      | cons f outer =>
          simp only [Opens, shownName, List.map_cons, List.cons.injEq] at hf
          rw [← hf.1]
          rfl
  | noRoot hr he => rw [ofEvents_of_reads hr, he]; rfl

/-- With two elements complete outside of others it does not matter what follows them. -/
theorem Begins.outcome_of_two {ts : List Token} {opened : List (List Char)} {top : Content}
    (h : Begins ts opened top) (hl : ¬ top.elements.length ≤ 1) (rest : List Token) :
    ∃ r, Outcome (ts ++ rest) r := by
  obtain ⟨before, after, rfl, hr⟩ := h.outside
  obtain ⟨two, others, top', rfl, hr', he⟩ := hr.take 2 (by omega)
  have hlen : top'.elements.length = 2 := by rw [he, List.length_take]; omega
  match htwo : top'.elements, hlen with
  | [first, second], _ =>
      exact ⟨_, by simpa only [List.append_assoc] using Outcome.secondRoot hr' htwo⟩

theorem exists_outcome (ts : List Token) : ∃ r, Outcome ts r := by
  -- a second element outside of others comes before the fault and before the end, so it is asked first
  rcases Begins.extend (.complete .nil) ts with
    ⟨opened, top, hb⟩ | ⟨before, t, after, opened, top, e, hts, hb, hf⟩
  · by_cases hl : top.elements.length ≤ 1
    · rw [List.nil_append] at hb
      cases hb with
      | complete hr =>
          match he : top.elements, hl with
          | [], _ => exact ⟨_, .noRoot hr he⟩
          | [root], _ => exact ⟨_, .document hr he⟩
      | inside hb htag hr => exact ⟨_, .unclosed (.inside hb htag hr) (unprefixed_iff.2 rfl) hl⟩
    · simpa using hb.outcome_of_two hl []
  · rw [List.nil_append] at hts
    subst hts
    by_cases hl : top.elements.length ≤ 1
    · exact ⟨_, .malformed hb hl hf⟩
    · exact hb.outcome_of_two hl (t :: after)

/-- Reading with a stack gives the tree that the nesting of the tokens has, and each failure is the
one that comes first. -/
theorem ofEvents_eq_iff_outcome (ts : List Token) (r : Except DocumentError Document) :
    Document.ofEvents (events [] ts) = r ↔ Outcome ts r := by
  constructor
  · rintro rfl
    obtain ⟨r, h⟩ := exists_outcome ts
    rwa [ofEvents_of_outcome h]
  · exact ofEvents_of_outcome

end LicenseChooser.Markup
