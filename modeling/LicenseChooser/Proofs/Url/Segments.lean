import LicenseChooser.Http.Redirect
import LicenseChooser.Proofs.Url.Percent

/-!
URLs below a root. A value is written as one segment of a path, from which it can be told; and what a
URL is called on the wire is the same up to its path for all URLs below one root.
-/

namespace LicenseChooser.Url

open Http Text

/-- A value that can be one segment of a path: it is no dot segment, and has no character that is left
out of URLs. -/
def IsSegment (s : String) : Prop :=
  s ≠ "." ∧ s ≠ ".." ∧ '\t' ∉ s.toList ∧ '\n' ∉ s.toList ∧ '\r' ∉ s.toList

instance (s : String) : Decidable (IsSegment s) :=
  inferInstanceAs (Decidable (_ ∧ _ ∧ _ ∧ _ ∧ _))

/-- The written form of a segment in a web URL. -/
def segmentForm (s : String) : String := String.ofList (percentEncode specialSegmentSet s.toList)

theorem toList_segmentForm (s : String) :
    (segmentForm s).toList = percentEncode specialSegmentSet s.toList := String.toList_ofList

theorem readUtf8?_segmentForm (s : String) :
    readUtf8? (percentDecode (segmentForm s).toList) = some s.toList := by
  rw [toList_segmentForm, percentDecode_percentEncode rfl, readUtf8?_encodeUtf8]

theorem segmentForm_injective {s t : String} (h : segmentForm s = segmentForm t) : s = t := by
  have hread := readUtf8?_segmentForm s
  rw [h, readUtf8?_segmentForm, Option.some.injEq] at hread
  exact (String.toList_inj.1 hread).symm

theorem not_mem_segmentForm {c : Char} (hset : specialSegmentSet c = true)
    (hc : isEscapeChar c = false) (s : String) : c ∉ (segmentForm s).toList := by
  rw [toList_segmentForm]
  exact not_mem_percentEncode hset hc s.toList

theorem appendSegment_web (parts : List String) {s : String} (h : IsSegment s) :
    appendSegment .web parts s = openEnd parts ++ [segmentForm s] := by
  obtain ⟨hdot, hdots, htab, hline, hreturn⟩ := h
  have hkept : s.toList.filter (fun c => c != '\t' && c != '\n' && c != '\r') = s.toList := by
    rw [List.filter_eq_self]
    intro c hc
    have hne : c ≠ '\t' ∧ c ≠ '\n' ∧ c ≠ '\r' :=
      ⟨fun he => htab (he ▸ hc), fun he => hline (he ▸ hc), fun he => hreturn (he ▸ hc)⟩
    simp [hne]
  have hone : s.toList ≠ ['.'] := fun he => hdot (String.toList_inj.1 he)
  have htwo : s.toList ≠ ['.', '.'] := fun he => hdots (String.toList_inj.1 he)
  rw [appendSegment, if_neg (not_or.2 ⟨hdot, hdots⟩)]
  simp only [hkept, if_neg hone, if_neg htwo]
  rfl

/-- A value that is followed to another place and leaves nothing of its own in a path. -/
def IsDotSegment (s : String) : Prop := s = "." ∨ s = ".."

instance (s : String) : Decidable (IsDotSegment s) := inferInstanceAs (Decidable (_ ∨ _))

theorem appendSegment_dots (k : Kind) (parts : List String) {s : String} (h : IsDotSegment s) :
    appendSegment k parts s = parts := if_pos h

/-- A slash at the end of a path makes no difference to what is put below it. -/
theorem openEnd_popIfEmpty {base parts : List String} (hbase : "" ∉ base)
    (hparts : parts = base ∨ parts = base ++ [""]) : openEnd (popIfEmpty parts) = base := by
  have hopen : openEnd base = base := by
    rw [openEnd, if_neg]
    rintro rfl
    exact hbase List.mem_cons_self
  rcases hparts with rfl | rfl
  · have hlast : parts.getLast? ≠ some "" := fun h => hbase (List.mem_of_getLast? h)
    rw [popIfEmpty, if_neg fun h => hlast h.2, hopen]
  · cases base with
    | nil => rfl
    | cons first base =>
        have hlong : (first :: base ++ [""]).length ≥ 2 ∧
            (first :: base ++ [""]).getLast? = some "" :=
          ⟨by simp, List.getLast?_concat⟩
        rw [popIfEmpty, if_pos hlong, List.dropLast_concat, hopen]

theorem segmentForm_ne_empty {s : String} (h : s ≠ "") : segmentForm s ≠ "" := fun he =>
  h (segmentForm_injective (he.trans rfl))

/-- Below a path that is more than a lone slash every value adds one segment. -/
theorem foldl_appendSegment_web {parts segments : List String} (hne : parts ≠ [])
    (hslash : parts ≠ [""]) (hsegments : ∀ s ∈ segments, IsSegment s) :
    segments.foldl (appendSegment .web) parts = parts ++ segments.map segmentForm := by
  induction segments generalizing parts with
  | nil => rw [List.foldl_nil, List.map_nil, List.append_nil]
  | cons s segments ih =>
      obtain ⟨hs, hrest⟩ := List.forall_mem_cons.1 hsegments
      have hmore : parts ++ [segmentForm s] ≠ [""] := by
        intro h
        cases parts with
        | nil => exact hne rfl
        | cons x parts => simp at h
      rw [List.foldl_cons, appendSegment_web parts hs, openEnd, if_neg hslash,
        ih (by simp) hmore hrest, List.map_cons, List.append_assoc, List.singleton_append]

theorem toString_segments_append (xs ys : List String) :
    (Path.segments (xs ++ ys)).toString =
      (Path.segments xs).toString ++ (Path.segments ys).toString := by
  rw [Path.toString, Path.toString, Path.toString, List.map_append, String.join_append]

theorem authority_extractAuthorization {u v : Url} (h : v.authority = u.authority) :
    (extractAuthorization v).1.authority = (extractAuthorization u).1.authority := by
  unfold extractAuthorization
  rw [h]
  split
  · exact h
  · split
    · exact h
    · split
      · exact h
      · simp only [withoutUserinfo, h]

/-- User and password are all that a request leaves out of its URL. -/
theorem extractAuthorization_eq (u : Url) :
    (extractAuthorization u).1 = { u with authority := (extractAuthorization u).1.authority } := by
  unfold extractAuthorization
  split
  · rfl
  · split
    · rfl
    · split <;> rfl

theorem place_extractAuthorization (u : Url) :
    (extractAuthorization u).1.host? = u.host? ∧
      (extractAuthorization u).1.effectivePort? = u.effectivePort? := by
  have hwithout : u.withoutUserinfo.host? = u.host? ∧
      u.withoutUserinfo.effectivePort? = u.effectivePort? := by
    cases ha : u.authority <;> simp [withoutUserinfo, host?, effectivePort?, ha]
  unfold extractAuthorization
  split
  · exact ⟨rfl, rfl⟩
  · split
    · exact ⟨rfl, rfl⟩
    · split
      · exact ⟨rfl, rfl⟩
      · exact hwithout

theorem rest_extractAuthorization (u : Url) :
    (extractAuthorization u).1.scheme = u.scheme ∧ (extractAuthorization u).1.path = u.path ∧
      (extractAuthorization u).1.query = u.query := by
  rw [extractAuthorization_eq]
  exact ⟨rfl, rfl, rfl⟩

/-- What a URL is called in a request for it. -/
def wire (u : Url) : String := (extractAuthorization u).1.withoutFragment.toString

/-- What stands before the path. -/
def origin (u : Url) : String :=
  u.scheme ++ ":" ++ ((extractAuthorization u).1.authority.map Authority.toString).getD ""

theorem wire_below (root : Url) (query : Option String) {parts : List String}
    (h : ∀ x y more, parts = x :: y :: more → x ≠ "") :
    wire { root with query, path := .segments parts } =
      root.origin ++ (Path.segments parts).toString ++ (query.map ("?" ++ ·)).getD "" := by
  have hauthority : (extractAuthorization { root with query, path := .segments parts }).1.authority =
      (extractAuthorization root).1.authority := authority_extractAuthorization rfl
  rw [wire, extractAuthorization_eq, hauthority]
  have hdot : needsDot ⟨root.scheme, (extractAuthorization root).1.authority, .segments parts, query,
      none⟩ = false := by
    rw [needsDot]
    split
    · rename_i x more _ heq
      cases heq
      exact absurd rfl (h _ _ _ rfl)
    · rfl
  simp only [withoutFragment, toString, hdot, origin, Option.map_none, Option.getD_none,
    String.append_empty, Bool.false_eq_true, if_false]

end LicenseChooser.Url
