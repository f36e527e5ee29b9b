import LicenseChooser.License.Reading
import LicenseChooser.Proofs.Except
import LicenseChooser.Proofs.Markup.Cutting
import Mathlib.Logic.Relation

/-!
Layout. White space, comments and instructions between tags, and the choice between the two forms of
an element without content, do not show in what is read: neither in the document nor in the error of a
text that is none. For the second this holds of tags whose parts are tags by themselves; a name may
also end in a slash or leave a quote open.
-/

namespace LicenseChooser

open Text

namespace Markup

/-- What may stand between tags and has no meaning: white space, comments and instructions. -/
inductive Filler : List Char → Prop
  | nil : Filler []
  | blank {c cs} : isBlank c = true → Filler cs → Filler (c :: cs)
  | comment {body cs} : ¬ ['-', '-', '>'] <:+: body → Filler cs →
      Filler ('<' :: '!' :: '-' :: '-' :: (body ++ '-' :: '-' :: '>' :: cs))
  | instruction {body cs} : body.head? ≠ some '>' → ¬ ['?', '>'] <:+: body → Filler cs →
      Filler ('<' :: '?' :: (body ++ '?' :: '>' :: cs))

def Token.isTag : Token → Bool
  | .open _ | .single _ | .close _ => true
  | _ => false

/-- The text ends where a tag ends. -/
def EndsWithTag (cs : List Char) : Prop := Whole cs ∧ ∃ t ∈ (scan cs).getLast?, t.isTag = true

instance : DecidablePred EndsWithTag := fun cs =>
  inferInstanceAs (Decidable (Whole cs ∧ ∃ t ∈ (scan cs).getLast?, t.isTag = true))

/-- What a tag without content holds apart from its slash, when its name is not empty and there are
a start tag and an end tag to put in its place. -/
structure Expandable (raw : List Char) : Prop where
  named : tagName raw ≠ []
  start : scan ('<' :: (raw ++ ['>'])) = [.open raw]
  stop : scan ('<' :: '/' :: (tagName raw ++ ['>'])) = [.close (tagName raw)]

/-- One change of layout: something is put between a tag and the next, or a tag without content is
replaced by a start tag and an end tag. -/
inductive Relays : List Char → List Char → Prop
  | fill {before filler after} : EndsWithTag before → Filler filler →
      Relays (before ++ '<' :: after) (before ++ filler ++ '<' :: after)
  | expand {before raw after} : Whole before → Expandable raw →
      Relays (before ++ '<' :: (raw ++ '/' :: '>' :: after))
        (before ++ '<' :: (raw ++ '>' :: '<' :: '/' :: (tagName raw ++ '>' :: after)))

/-- The texts differ by any number of such changes, made or undone. -/
def Relaid (s s' : String) : Prop :=
  Relation.EqvGen (fun s s' : String => Relays s.toList s'.toList) s s'

theorem unescapeFrom_of_no_reference (position : Nat) {cs : List Char} (h : ∀ c ∈ cs, c ≠ '&') :
    unescapeFrom position cs = .ok cs := by
  induction cs generalizing position with
  | nil => rw [unescapeFrom]
  | cons c cs ih =>
      obtain ⟨hc, hcs⟩ := List.forall_mem_cons.1 h
      rw [unescapeFrom_cons position hc, ih _ hcs]
      rfl

theorem unescape_of_allBlank {cs : List Char} (h : ∀ c ∈ cs, isBlank c = true) :
    unescape cs = .ok cs := by
  apply unescapeFrom_of_no_reference
  rintro c hc rfl
  exact absurd (h _ hc) (by decide)

theorem markup_comment {body : List Char} (h : ¬ ['-', '-', '>'] <:+: body) (rest : List Char) :
    markup ('!' :: '-' :: '-' :: (body ++ '-' :: '-' :: '>' :: rest)) = .ok (.aside, rest) := by
  have hbreak : breakOn ['-', '-', '>'] (body ++ '-' :: '-' :: '>' :: rest) = some (body, rest) :=
    breakOn_delimited (by decide : '>' ∉ ['-', '-']) h rest
  simp only [markup, hbreak]

theorem markup_closedInstruction {body : List Char} (hd : body.head? ≠ some '>')
    (h : ¬ ['?', '>'] <:+: body) (rest : List Char) :
    markup ('?' :: (body ++ '?' :: '>' :: rest)) = .ok (.aside, rest) := by
  have hbreak : breakOn ['?', '>'] (body ++ '?' :: '>' :: rest) = some (body, rest) :=
    breakOn_delimited (by decide : '>' ∉ ['?']) h rest
  have hhead : (body ++ '?' :: '>' :: rest).head? ≠ some '>' := by
    cases body with
    | nil => simp
    | cons c body => exact hd
  rw [markup_instruction hhead, hbreak]

/-- Blanks that follow each other are cut off as one token, which has no content. -/
theorem exists_reads_blanks {blanks : List Char} (hb : ∀ c ∈ blanks, isBlank c = true) :
    ∃ ts, Reads ts .nil ∧ ∀ rest, AtMarkup rest → scan (blanks ++ rest) = ts ++ scan rest := by
  by_cases hne : blanks = []
  · exact ⟨[], .nil, fun rest _ => by rw [hne]; rfl⟩
  · have hread : Reads [.text blanks] .nil :=
      .blank (decodes_iff.2 (unescape_of_allBlank hb)) (List.all_eq_true.2 hb) .nil
    refine ⟨_, hread, fun rest hrest => scan_text hne (fun c hc => ?_) hrest⟩
    rintro rfl
    exact absurd (hb _ hc) (by decide)

/-- Markup without content behind blanks adds one more token of none. -/
theorem exists_reads_aside {blanks body cs : List Char} {ts : List Token}
    (hb : ∀ c ∈ blanks, isBlank c = true)
    (hm : ∀ rest, markup (body ++ rest) = .ok (.aside, rest)) (hr : Reads ts .nil)
    (hcut : ∀ rest, AtMarkup rest → scan (cs ++ rest) = ts ++ scan rest) :
    ∃ ts, Reads ts .nil ∧
      ∀ rest, AtMarkup rest → scan (blanks ++ '<' :: (body ++ (cs ++ rest))) = ts ++ scan rest := by
  obtain ⟨before, hbefore, hblanks⟩ := exists_reads_blanks hb
  refine ⟨before ++ .aside :: ts, hbefore.append hr.aside, fun rest hrest => ?_⟩
  rw [hblanks _ (by simp [AtMarkup]), scan_of_markup (hm _), hcut rest hrest, List.append_assoc]
  rfl

/-- Filler is cut into tokens that have no content, and so are blanks in front of it. -/
theorem Filler.exists_reads {filler : List Char} (h : Filler filler) {blanks : List Char}
    (hb : ∀ c ∈ blanks, isBlank c = true) :
    ∃ ts, Reads ts .nil ∧
      ∀ rest, AtMarkup rest → scan (blanks ++ (filler ++ rest)) = ts ++ scan rest := by
  induction h generalizing blanks with
  | nil => exact exists_reads_blanks hb
  | @blank c cs hc _ ih =>
      -- it belongs to the token of the blanks before it
      have hmore : ∀ d ∈ blanks ++ [c], isBlank d = true :=
        List.forall_mem_append.2 ⟨hb, by simpa using hc⟩
      obtain ⟨ts, hr, hcut⟩ := ih hmore
      refine ⟨ts, hr, fun rest hrest => ?_⟩
      rw [← hcut rest hrest, List.append_assoc]
      rfl
  | @comment body cs hbody _ ih =>
      obtain ⟨ts, hr, hcut⟩ := ih (by simp : ∀ c ∈ [], isBlank c = true)
      have hm : ∀ rest, markup ('!' :: '-' :: '-' :: (body ++ ['-', '-', '>']) ++ rest) =
          .ok (.aside, rest) := fun rest => by simpa using markup_comment hbody rest
      simpa using exists_reads_aside hb hm hr hcut
  | @instruction body cs hd hbody _ ih =>
      obtain ⟨ts, hr, hcut⟩ := ih (by simp : ∀ c ∈ [], isBlank c = true)
      have hm : ∀ rest, markup ('?' :: (body ++ ['?', '>']) ++ rest) = .ok (.aside, rest) :=
        fun rest => by simpa using markup_closedInstruction hd hbody rest
      simpa using exists_reads_aside hb hm hr hcut

/-- Token lists that come to the same wherever they begin do so behind any tokens. -/
theorem foldlM_events_append {xs ys : List Token}
    (h : ∀ opened p, (events opened xs).foldlM Progress.step p =
      (events opened ys).foldlM Progress.step p) (ts : List Token) (opened : List (List Char))
    (p : Progress) :
    (events opened (ts ++ xs)).foldlM Progress.step p =
      (events opened (ts ++ ys)).foldlM Progress.step p := by
  induction ts generalizing opened p with
  | nil => exact h opened p
  | cons t ts ih =>
      rw [List.cons_append, List.cons_append]
      cases t with
      | «open» raw | single raw =>
          simp only [events]
          cases tagAttributes raw with
          | error e => rfl
          | ok attributes =>
              simp only [List.foldlM_cons, ih]
      | close raw =>
          simp only [events]
          split
          · simp only [List.foldlM_cons, ih]
          · rfl
      | text raw =>
          simp only [events]
          cases unescape raw with
          | error e => rfl
          | ok content => simp only [List.foldlM_cons, ih]
      | cdata content | aside => simp only [events, List.foldlM_cons, ih]
      | broken e => rfl

/-- Tokens without content come to nothing. -/
theorem foldlM_events_of_reads_nil {filler : List Token} (h : Reads filler .nil)
    (rest : List Token) (opened : List (List Char)) (p : Progress) :
    (events opened (filler ++ rest)).foldlM Progress.step p =
      (events opened rest).foldlM Progress.step p :=
  foldlM_step_of_reads h opened p rest

/-- A tag without content comes to the same as a start tag and an end tag, also where its attributes
are wrong. -/
theorem foldlM_events_expand {raw stop : List Char} (hstop : endName stop = tagName raw)
    (rest : List Token) (opened : List (List Char)) (p : Progress) :
    (events opened (.single raw :: rest)).foldlM Progress.step p =
      (events opened (.open raw :: .close stop :: rest)).foldlM Progress.step p := by
  cases ha : tagAttributes raw with
  | error e => simp only [events, ha]
  | ok attributes =>
      have htag : StartTag raw (tagName raw) (.ok attributes) := startTag_iff.2 ⟨rfl, ha⟩
      have hname : Unprefixed (tagName raw) (localName (tagName raw)) := unprefixed_iff.2 rfl
      have hend : EndTag stop (tagName raw) := endTag_iff.2 hstop
      have hsingle := foldlM_step_of_reads (.single htag hname .nil) opened p rest
      have hpair := foldlM_step_of_reads (.element htag hname hend .nil .nil) opened p rest
      exact hsingle.trans hpair.symm

theorem markup_of_scan {cs : List Char} {t : Token} (h : scan ('<' :: cs) = [t])
    (ht : ∀ e, t ≠ .broken e) : markup cs = .ok (t, []) := by
  cases hm : markup cs with
  | error e =>
      rw [scan_of_markup_error hm, List.singleton_inj] at h
      exact absurd h.symm (ht e)
  | ok result =>
      obtain ⟨t', after⟩ := result
      rw [scan_of_markup hm, List.cons.injEq] at h
      rw [h.1, eq_nil_of_scan h.2]

/-- In a start tag no quote is left open, and neither its first nor its last character makes it a tag of
another kind. -/
theorem splitTag_of_markup_open {raw : List Char} (h : markup (raw ++ ['>']) = .ok (.open raw, [])) :
    splitTag none (raw ++ ['>']) = some (raw, []) ∧ raw.getLast? ≠ some '/' ∧
      raw.head? ≠ some '/' ∧ raw.head? ≠ some '!' ∧ raw.head? ≠ some '?' := by
  unfold markup at h
  split at h
  · split at h
    · split at h <;> cases h
    · cases h
  · split at h
    · split at h <;> cases h
    · cases h
  · split at h
    · split at h
      · split at h
        · split at h <;> cases h
        · cases h
      · cases h
    · cases h
  · split at h
    · cases h
    · split at h <;> cases h
  · rename_i hmark hquestion
    obtain ⟨hd, hi⟩ := head?_of_tag hmark hquestion
    split at h
    · cases h
    · rename_i hslash hs
      split at h
      · cases h
      · rename_i hlast
        cases h
        cases raw with
        | nil => exact ⟨hs, hlast, by simp, by simp, by simp⟩
        | cons c raw =>
            refine ⟨hs, hlast, fun hc => ?_, hd, hi⟩
            cases hc
            exact hslash raw rfl
    · cases h

theorem splitTag_of_closed {quote : Option Char} {raw : List Char}
    (h : splitTag quote (raw ++ ['>']) = some (raw, [])) (rest : List Char) :
    splitTag quote (raw ++ rest) = (splitTag none rest).map fun p => (raw ++ p.1, p.2) := by
  induction raw generalizing quote with
  | nil =>
      cases quote with
      | none => simp
      | some q =>
          simp [splitTag] at h
  | cons c raw ih =>
      simp only [List.cons_append, splitTag] at h ⊢
      split at h
      · cases h
      · rename_i hend
        obtain ⟨⟨_, _⟩, hp, he⟩ := Option.map_eq_some_iff.1 h
        cases he
        rw [if_neg hend, ih hp, Option.map_map]
        rfl

theorem endName_tagName {raw : List Char} (h : tagName raw ≠ []) :
    endName (tagName raw) = tagName raw := by
  have hspace : ∀ c ∈ tagName raw, isSpace c = false := fun c hc => by
    simpa using List.all_eq_true.1 List.all_takeWhile c hc
  obtain ⟨before, last, hlast⟩ := (List.eq_nil_or_concat (tagName raw)).resolve_left h
  have hl : isSpace last = false := hspace last (by simp [hlast])
  simp [endName, hlast, hl]

namespace Expandable

variable {raw : List Char} (h : Expandable raw)
include h

theorem markup_start (after : List Char) : markup (raw ++ '>' :: after) = .ok (.open raw, after) := by
  have hm := markup_of_scan h.start (by simp)
  simpa using markup_append hm after

theorem markup_stop (after : List Char) :
    markup ('/' :: (tagName raw ++ '>' :: after)) = .ok (.close (tagName raw), after) := by
  have hm := markup_of_scan h.stop (by simp)
  simpa using markup_append hm after

theorem markup_whole (after : List Char) :
    markup (raw ++ '/' :: '>' :: after) = .ok (.single raw, after) := by
  obtain ⟨hclosed, -, hslash, hmark, hquestion⟩ :=
    splitTag_of_markup_open (markup_of_scan h.start (by simp))
  have hsplit : splitTag none (raw ++ '/' :: '>' :: after) = some (raw ++ ['/'], after) := by
    rw [splitTag_of_closed hclosed]
    simp [splitTag]
  cases raw with
  | nil => exact absurd rfl h.named
  | cons c raw =>
      have hd : (c :: raw ++ '/' :: '>' :: after).head? ≠ some '!' := hmark
      have hi : (c :: raw ++ '/' :: '>' :: after).head? ≠ some '?' := hquestion
      rw [markup_tag hd hi, hsplit]
      split
      · rename_i heq
        cases heq
        exact absurd rfl hslash
      · rename_i heq
        cases heq
        rw [if_pos List.getLast?_concat, List.dropLast_concat]
      · rename_i heq
        cases heq

end Expandable

/-- The text without a byte order mark at its start. -/
def unmarked (cs : List Char) : List Char := if cs.head? = some '\uFEFF' then cs.tail else cs

theorem unmarked_append {before rest : List Char} (h : before ≠ [] ∨ rest.head? = some '<') :
    unmarked (before ++ rest) = unmarked before ++ rest := by
  cases before with
  | nil =>
      have hhead := h.resolve_left (not_not_intro rfl)
      exact if_neg (by simp [hhead])
  | cons c before =>
      by_cases hc : c = '\uFEFF' <;> simp [unmarked, hc]

/-- A byte order mark is the beginning of a first run, and cutting it off leaves the other tokens. -/
theorem scan_unmarked (cs : List Char) :
    scan (unmarked cs) = scan cs ∨ ∃ run ts, scan cs = .text run :: ts ∧
      (scan (unmarked cs) = ts ∨ ∃ run', scan (unmarked cs) = .text run' :: ts) := by
  rw [unmarked]
  split
  · rename_i hmark
    exact .inr (scan_tail (by decide) hmark)
  · exact .inl rfl

theorem Whole.unmarked {cs : List Char} (h : Whole cs) : Whole (unmarked cs) := by
  intro t ht
  rcases scan_unmarked cs with hsame | ⟨run, ts, hcut, htail⟩
  · exact h t (hsame ▸ ht)
  · have hts : ∀ u ∈ ts, u.isBroken = false := fun u hu => h u (hcut ▸ List.mem_cons_of_mem _ hu)
    rcases htail with htail | ⟨run', htail⟩
    · exact hts t (htail ▸ ht)
    · rw [htail, List.mem_cons] at ht
      rcases ht with rfl | ht
      · rfl
      · exact hts t ht

theorem EndsWithTag.unmarked {cs : List Char} (h : EndsWithTag cs) : EndsWithTag (unmarked cs) := by
  obtain ⟨hwhole, t, ht, htag⟩ := h
  refine ⟨hwhole.unmarked, t, ?_, htag⟩
  rcases scan_unmarked cs with hsame | ⟨run, ts, hcut, htail⟩
  · rwa [hsame]
  · -- the tag is not the run, so it is the last of the other tokens
    have hlast : ts.getLast? = some t := by
      rw [hcut, List.getLast?_cons, Option.mem_def, Option.some.injEq] at ht
      cases hts : ts.getLast? with
      | none =>
          rw [hts] at ht
          subst ht
          cases htag
      | some last =>
          rw [hts] at ht
          exact congrArg some ht
    rcases htail with htail | ⟨run', htail⟩
    · rwa [htail]
    · rw [htail, List.getLast?_cons, hlast]
      rfl

theorem EndsWithTag.scan_append {before : List Char} (h : EndsWithTag before) (rest : List Char) :
    scan (before ++ rest) = scan before ++ scan rest := by
  obtain ⟨hwhole, t, ht, htag⟩ := h
  refine Markup.scan_append hwhole ?_
  rintro ⟨raw, hraw⟩
  rw [hraw, Option.mem_def, Option.some.injEq] at ht
  subst ht
  cases htag

theorem EndsWithTag.ne_nil {cs : List Char} (h : EndsWithTag cs) : cs ≠ [] := by
  rintro rfl
  obtain ⟨-, t, ht, -⟩ := h
  rw [scan_nil] at ht
  cases ht

/-- A change of layout is not seen in the document or in the error. -/
theorem ofEvents_read_of_relays {cs cs' : List Char} (h : Relays cs cs') :
    Document.ofEvents (read cs') = Document.ofEvents (read cs) := by
  -- behind the same tokens stand others that come to the same
  have hread : ∀ {before z : List Char}, before ≠ [] ∨ z.head? = some '<' →
      scan (unmarked before ++ z) = scan (unmarked before) ++ scan z →
      read (before ++ z) = events [] (scan (unmarked before) ++ scan z) := by
    intro before z hz hcut
    rw [← hcut, ← unmarked_append hz]
    rfl
  cases h with
  | @fill before filler after hb hf =>
      obtain ⟨ts, hr, hcut⟩ := hf.exists_reads (by simp : ∀ c ∈ [], isBlank c = true)
      have hfiller : scan (filler ++ '<' :: after) = ts ++ scan ('<' :: after) :=
        hcut ('<' :: after) (by simp [AtMarkup])
      rw [List.append_assoc, hread (.inl hb.ne_nil) (hb.unmarked.scan_append _),
        hread (.inl hb.ne_nil) (hb.unmarked.scan_append _), hfiller, Document.ofEvents,
        Document.ofEvents, foldlM_events_append (foldlM_events_of_reads_nil hr _)]
  | @expand before raw after hb he =>
      have hmarkup : ∀ cs, AtMarkup ('<' :: cs) := fun cs => by simp [AtMarkup]
      rw [hread (.inr rfl) (scan_append hb.unmarked fun _ => hmarkup _),
        hread (.inr rfl) (scan_append hb.unmarked fun _ => hmarkup _),
        scan_of_markup (he.markup_start _), scan_of_markup (he.markup_stop _),
        scan_of_markup (he.markup_whole _), Document.ofEvents, Document.ofEvents,
        foldlM_events_append (foldlM_events_expand (endName_tagName he.named) _)]

theorem parse_of_relaid {s s' : String} (h : Relaid s s') :
    Document.parse s' = Document.parse s := by
  induction h with
  | rel s s' h => exact ofEvents_read_of_relays h
  | refl s => rfl
  | symm s s' _ ih => exact ih.symm
  | trans s s' s'' _ _ ih ih' => exact ih'.trans ih

end Markup

open Markup

/-- Texts that differ in layout alone are the same document, or fail with the same error; so whatever
is asked of them, the answer is the same. -/
theorem readings_of_relaid {s s' : String} (h : Relaid s s') :
    Document.parse s' = Document.parse s ∧
      (∀ excluded, parseLicenseIds excluded s' = parseLicenseIds excluded s) ∧
      (∀ id, LicenseClass.parse id s' = LicenseClass.parse id s) ∧
      parseLicenseUri s' = parseLicenseUri s ∧
      (Document.parse s').map Document.licenseName? =
        (Document.parse s).map Document.licenseName? := by
  have hparse := parse_of_relaid h
  have hread : ∀ operation, readDocument operation s' = readDocument operation s := fun _ =>
    congrArg (Except.mapError _) hparse
  refine ⟨hparse, fun excluded => ?_, fun id => ?_, ?_, congrArg _ hparse⟩
  · rw [parseLicenseIds, parseLicenseIds, hread]
  · rw [LicenseClass.parse, LicenseClass.parse, hread]
  · rw [parseLicenseUri, parseLicenseUri, hread]

theorem readings_of_relaid_indented :
    let s := "<r><a x='1'/></r><b"
    let s' := "<r>\n<!-- > ---><?p >?><a x='1'></a></r>\u2003<b"
    Relaid s s' ∧
    Document.parse s' = Document.parse s ∧
      (∀ excluded, parseLicenseIds excluded s' = parseLicenseIds excluded s) ∧
      (∀ id, LicenseClass.parse id s' = LicenseClass.parse id s) ∧
      parseLicenseUri s' = parseLicenseUri s ∧
      (Document.parse s').map Document.licenseName? =
        (Document.parse s).map Document.licenseName? := by
  intro s s'
  have hfiller : Filler "\n<!-- > ---><?p >?>".toList :=
    .blank (by decide) (@Filler.comment [' ', '>', ' ', '-'] _ (by decide)
      (@Filler.instruction ['p', ' ', '>'] _ (by decide) (by decide) .nil))
  have hspace : Filler "\u2003".toList := .blank (by decide) .nil
  have htag : Expandable "a x='1'".toList :=
    ⟨by decide, by decide +kernel, by decide +kernel⟩
  have hfirst : Relays s.toList "<r>\n<!-- > ---><?p >?><a x='1'/></r><b".toList := by
    simpa [s] using
      @Relays.fill "<r>".toList _ "a x='1'/></r><b".toList (by decide +kernel) hfiller
  have hsecond : Relays "<r>\n<!-- > ---><?p >?><a x='1'/></r><b".toList
      "<r>\n<!-- > ---><?p >?><a x='1'></a></r><b".toList := by
    simpa [tagName, isSpace] using
      @Relays.expand "<r>\n<!-- > ---><?p >?>".toList _ "</r><b".toList (by decide +kernel) htag
  have hthird : Relays "<r>\n<!-- > ---><?p >?><a x='1'></a></r><b".toList s'.toList := by
    simpa [s'] using @Relays.fill "<r>\n<!-- > ---><?p >?><a x='1'></a></r>".toList _ "b".toList
      (by decide +kernel) hspace
  have hrelaid : Relaid s s' :=
    .trans _ _ _ (.rel s _ hfirst) (.trans _ _ _ (.rel _ _ hsecond) (.rel _ s' hthird))
  exact ⟨hrelaid, readings_of_relaid hrelaid⟩

/-- A name that ends in a slash, or in which a quote is left open, makes a tag without content, but no
start tag and end tag. -/
theorem parse_expanded_slash :
    scan "<a//>".toList = [.single "a/".toList] ∧
      (Document.parse "<a//>").toOption.map (·.root) = some ⟨"a/", [], .nil⟩ ∧
      Document.parse "<a/></a/>" = .error (.malformed (.unmatchedEnd "a/")) ∧
      scan "<a' k'='v'/>".toList = [.single "a' k'='v'".toList] ∧
      (Document.parse "<a' k'='v'/>").toOption.map (·.root) = some ⟨"a'", [("k'", "v")], .nil⟩ ∧
      Document.parse "<a' k'='v'></a'>" = .error (.malformed .openTag) :=
  ⟨by decide +kernel, by decide +kernel, eq_error_of_match (by decide +kernel), by decide +kernel,
    by decide +kernel, eq_error_of_match (by decide +kernel)⟩

end LicenseChooser
