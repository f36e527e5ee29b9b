import LicenseChooser.Markup.Error
import LicenseChooser.Text.Blank
import LicenseChooser.Text.Scan

/-!
Cutting a text into markup and the runs between it. A token keeps what was written; nothing is
decoded or compared here. Where the text stops being markup the tokens end with the reason.
-/

namespace LicenseChooser.Markup

open Text

inductive Token where
  /-- A run of characters outside markup; never empty. -/
  | text (raw : List Char)
  /-- What stands between the angle brackets of a start tag. -/
  | open (raw : List Char)
  /-- The same for a tag that ends in a slash, without that slash. -/
  | single (raw : List Char)
  /-- What follows the slash of an end tag. -/
  | close (raw : List Char)
  | cdata (content : List Char)
  /-- A comment, an instruction or a document type declaration. -/
  | aside
  | broken (cause : MarkupError)
  deriving DecidableEq, Repr

/-- Splits at the `>` that ends a tag; inside quotes, of which `quote` is open, none does. -/
def splitTag (quote : Option Char) : List Char → Option (List Char × List Char)
  | [] => none
  | c :: rest =>
      let next := match quote with
        | none => if c = '\'' ∨ c = '"' then some c else none
        | some q => if c = q then none else some q
      if quote = none ∧ c = '>' then some ([], rest)
      else (splitTag next rest).map fun (inside, after) => (c :: inside, after)

/-- Splits at the `>` that ends a declaration in which `depth` angle brackets are open. -/
def splitNested (depth : Nat) : List Char → Option (List Char × List Char)
  | [] => none
  | '>' :: rest =>
      if depth = 0 then some ([], rest)
      else (splitNested (depth - 1) rest).map fun (inside, after) => ('>' :: inside, after)
  | c :: rest =>
      (splitNested (if c = '<' then depth + 1 else depth) rest).map
        fun (inside, after) => (c :: inside, after)

/-- The blanks that may stand in a tag and end a document type's keyword. -/
private def isGap (c : Char) : Bool := c == ' ' || c == '\t' || c == '\r' || c == '\n'

/-- Whether `cs` begins with the keyword, in any case of ASCII letters. -/
def beginsWithKeyword (keyword cs : List Char) : Bool :=
  keyword.isPrefixOf (cs.map Char.toUpper)

/-- The token that begins after a `<`, and what follows it. -/
def markup (cs : List Char) : Except MarkupError (Token × List Char) :=
  match cs with
  | '!' :: '[' :: rest =>
      if ['C', 'D', 'A', 'T', 'A', '['].isPrefixOf rest then
        match breakOn [']', ']', '>'] (rest.drop 6) with
        | some (content, after) => .ok (.cdata content, after)
        | none => .error .openCData
      else .error .openCData
  | '!' :: '-' :: rest =>
      match rest with
      | '-' :: body =>
          match breakOn ['-', '-', '>'] body with
          | some (_, after) => .ok (.aside, after)
          | none => .error .openComment
      | _ => .error .openComment
  | '!' :: rest =>
      if beginsWithKeyword ['D'] rest then
        match splitNested 0 rest with
        | some (inside, after) =>
            if beginsWithKeyword ['D', 'O', 'C', 'T', 'Y', 'P', 'E'] inside then
              if (inside.drop 7).all isGap then .error .namelessDoctype else .ok (.aside, after)
            else .error .openDoctype
        | none => .error .openDoctype
      else .error .unknownDeclaration
  | '?' :: rest =>
      match rest with
      | '>' :: _ => .error .openInstruction
      | _ =>
          match breakOn ['?', '>'] rest with
          | some (_, after) => .ok (.aside, after)
          | none => .error .openInstruction
  | _ =>
      match splitTag none cs with
      | some ('/' :: raw, after) => .ok (.close raw, after)
      | some (raw, after) =>
          if raw.getLast? = some '/' then .ok (.single raw.dropLast, after)
          else .ok (.open raw, after)
      | none => .error .openTag

theorem length_of_splitTag {quote : Option Char} {cs inside after : List Char}
    (h : splitTag quote cs = some (inside, after)) : after.length ≤ cs.length := by
  induction cs generalizing quote inside with
  | nil => simp [splitTag] at h
  | cons c rest ih =>
      simp only [splitTag] at h
      split at h
      · simp only [Option.some.injEq, Prod.mk.injEq] at h
        simp [← h.2]
      · obtain ⟨⟨_, _⟩, hp, he⟩ := Option.map_eq_some_iff.1 h
        simp only [Prod.mk.injEq] at he
        obtain ⟨-, rfl⟩ := he
        have := ih hp
        simp
        omega

theorem length_of_splitNested {depth : Nat} {cs inside after : List Char}
    (h : splitNested depth cs = some (inside, after)) : after.length ≤ cs.length := by
  induction cs generalizing depth inside with
  | nil => simp [splitNested] at h
  | cons c rest ih =>
      unfold splitNested at h
      split at h
      · simp at *
      · rename_i heq
        simp only [List.cons.injEq] at heq
        obtain ⟨rfl, rfl⟩ := heq
        split at h
        · simp only [Option.some.injEq, Prod.mk.injEq] at h
          simp [← h.2]
        · obtain ⟨⟨_, _⟩, hp, he⟩ := Option.map_eq_some_iff.1 h
          simp only [Prod.mk.injEq] at he
          obtain ⟨-, rfl⟩ := he
          have := ih hp
          simp
          omega
      · rename_i heq
        simp only [List.cons.injEq] at heq
        obtain ⟨rfl, rfl⟩ := heq
        obtain ⟨⟨_, _⟩, hp, he⟩ := Option.map_eq_some_iff.1 h
        simp only [Prod.mk.injEq] at he
        obtain ⟨-, rfl⟩ := he
        have := ih hp
        simp
        omega

theorem length_of_markup {cs after : List Char} {t : Token}
    (h : markup cs = .ok (t, after)) : after.length ≤ cs.length := by
  unfold markup at h
  split at h
  · split at h
    · split at h
      · rename_i hb
        have := length_of_breakOn hb
        simp only [Except.ok.injEq, Prod.mk.injEq] at h
        simp only [List.length_drop] at this
        simp only [← h.2, List.length_cons]
        omega
      · simp at h
    · simp at h
  · split at h
    · split at h
      · rename_i hb
        have := length_of_breakOn hb
        simp only [Except.ok.injEq, Prod.mk.injEq] at h
        simp only [← h.2, List.length_cons]
        omega
      · simp at h
    · simp at h
  · split at h
    · split at h
      · rename_i hb
        have := length_of_splitNested hb
        split at h
        · split at h
          · simp at h
          · simp only [Except.ok.injEq, Prod.mk.injEq] at h
            simp only [← h.2, List.length_cons]
            omega
        · simp at h
      · simp at h
    · simp at h
  · split at h
    · simp at h
    · split at h
      · rename_i hb
        have := length_of_breakOn hb
        simp only [Except.ok.injEq, Prod.mk.injEq] at h
        simp only [← h.2, List.length_cons]
        omega
      · simp at h
  · split at h
    · rename_i hb
      have := length_of_splitTag hb
      simp only [Except.ok.injEq, Prod.mk.injEq] at h
      rw [← h.2]
      omega
    · rename_i hb
      have := length_of_splitTag hb
      split at h <;> simp only [Except.ok.injEq, Prod.mk.injEq] at h <;> rw [← h.2] <;> omega
    · simp at h

/-- The tokens of a text; after a broken one there are none. -/
def scan (cs : List Char) : List Token :=
  match cs with
  | [] => []
  | '<' :: rest =>
      match _h : markup rest with
      | .ok (t, after) => t :: scan after
      | .error e => [.broken e]
  | c :: rest => .text (c :: rest.takeWhile (· != '<')) :: scan (rest.dropWhile (· != '<'))
  termination_by cs.length
  decreasing_by
    · have := length_of_markup _h
      simp only [List.length_cons]
      omega
    · have := length_dropWhile_le (· != '<') rest
      simp only [List.length_cons]
      omega

end LicenseChooser.Markup
