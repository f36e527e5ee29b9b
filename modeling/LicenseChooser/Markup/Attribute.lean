import LicenseChooser.Markup.Entity

/-!
The attributes of a tag. They are read from the left, each value decoded before the next attribute
is looked at, so the first thing that is wrong is the one reported.
-/

namespace LicenseChooser.Markup

open Text

/-- What separates the parts of a tag. -/
def isSpace (c : Char) : Bool := c == ' ' || c == '\t' || c == '\r' || c == '\n'

/-- What follows the first colon of a qualified name; all of it without a colon. -/
def localName (name : List Char) : List Char :=
  match name.dropWhile (· != ':') with
  | _ :: rest => rest
  | [] => name

/-- One attribute as written: its key, where the key begins, its value between the quotes, and
what follows the closing quote, at its position. -/
structure RawAttribute where
  key : List Char
  keyStart : Nat
  value : List Char
  rest : List Char
  restStart : Nat

/-- The value that must follow a `=`. -/
def quotedValue (position : Nat) (cs : List Char) :
    Except AttributeError (List Char × List Char × Nat) :=
  let gap := cs.takeWhile isSpace
  let start := position + byteLength gap
  match cs.dropWhile isSpace with
  | [] => .error (.missingValue start)
  | quote :: rest =>
      if quote = '"' ∨ quote = '\'' then
        match breakOn [quote] rest with
        | some (value, after) => .ok (value, after, start + byteLength value + 2)
        | none => .error (.openValue (start + byteLength (quote :: rest)) quote)
      else .error (.unquotedValue start)

/-- What follows a key: blanks and a `=`. -/
def afterEquals (position : Nat) (cs : List Char) : Except AttributeError (List Char × Nat) :=
  let gap := cs.takeWhile isSpace
  match cs.dropWhile isSpace with
  | '=' :: rest => .ok (rest, position + byteLength gap + 1)
  | _ => .error (.missingEquals (position + byteLength gap))

/-- The attribute that begins with `first` at byte `position`. The first character belongs to the
key whatever it is. -/
def rawAttribute (seen : List (List Char × Nat)) (position : Nat) (first : Char)
    (cs : List Char) : Except AttributeError RawAttribute := do
  let key := first :: cs.takeWhile fun c => c != '=' && !isSpace c
  let (afterKey, valueStart) ←
    afterEquals (position + byteLength key) (cs.dropWhile fun c => c != '=' && !isSpace c)
  match seen.lookup key with
  | some previous => throw (.duplicated position previous)
  | none =>
      let (value, rest, restStart) ← quotedValue valueStart afterKey
      return ⟨key, position, value, rest, restStart⟩

theorem length_of_quotedValue {position : Nat} {cs value rest : List Char} {stop : Nat}
    (h : quotedValue position cs = .ok (value, rest, stop)) : rest.length ≤ cs.length := by
  have hd := length_dropWhile_le isSpace cs
  simp only [quotedValue] at h
  split at h
  · simp at h
  · rename_i quote tail heq
    rw [heq] at hd
    simp only [List.length_cons] at hd
    split at h
    · split at h
      · rename_i b a hb
        have := length_of_breakOn hb
        simp only [Except.ok.injEq, Prod.mk.injEq] at h
        obtain ⟨-, rfl, -⟩ := h
        omega
      · simp at h
    · simp at h

theorem length_of_afterEquals {position : Nat} {cs rest : List Char} {stop : Nat}
    (h : afterEquals position cs = .ok (rest, stop)) : rest.length ≤ cs.length := by
  have hd := length_dropWhile_le isSpace cs
  simp only [afterEquals] at h
  split at h
  · rename_i tail heq
    rw [heq] at hd
    simp only [Except.ok.injEq, Prod.mk.injEq, List.length_cons] at h hd
    obtain ⟨rfl, -⟩ := h
    omega
  · simp at h

theorem length_of_rawAttribute {seen : List (List Char × Nat)} {position : Nat} {first : Char}
    {cs : List Char} {a : RawAttribute} (h : rawAttribute seen position first cs = .ok a) :
    a.rest.length ≤ cs.length := by
  have hk := length_dropWhile_le (fun c => c != '=' && !isSpace c) cs
  simp only [rawAttribute, bind, Except.bind] at h
  split at h
  · simp at h
  · rename_i p hp
    have := length_of_afterEquals hp
    split at h
    · simp [throw, throwThe, MonadExceptOf.throw] at h
    · split at h
      · simp at h
      · rename_i q hq
        have := length_of_quotedValue hq
        simp only [pure, Except.pure, Except.ok.injEq] at h
        subst h
        simp only
        omega

/-- The attributes in the rest of a tag, which begins at byte `position`, as pairs of local name
and decoded value. Keys are compared in full with the keys `seen` before. -/
def readAttributes (seen : List (List Char × Nat)) (position : Nat) (cs : List Char) :
    Except MarkupError (List (String × String)) :=
  match _hc : cs.dropWhile isSpace with
  | [] => .ok []
  | first :: rest =>
      match _ha : rawAttribute seen (position + byteLength (cs.takeWhile isSpace)) first rest with
      | .error e => .error (.attribute e)
      | .ok a => do
          let value ← (unescape a.value).mapError .entity
          let others ← readAttributes ((a.key, a.keyStart) :: seen) a.restStart a.rest
          return (String.ofList (localName a.key), String.ofList value) :: others
  termination_by cs.length
  decreasing_by
    have h1 := length_dropWhile_le isSpace cs
    have h2 := length_of_rawAttribute _ha
    rw [_hc] at h1
    simp only [List.length_cons] at h1
    omega

end LicenseChooser.Markup
