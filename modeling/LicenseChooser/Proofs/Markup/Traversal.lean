import LicenseChooser.Markup.Document

/-!
The elements of a tree as recursion on the content lists them: an element, what is below its first
child, and so on. The loop that puts children into the list while it goes through it comes to the same.
It ends, although the list grows, after one turn for each element of the tree.
-/

namespace LicenseChooser.Markup

namespace Content

/-- The child elements and what is below each of them make up all there is. -/
theorem preorder_eq_flatMap (c : Content) :
    c.preorder = c.elements.flatMap fun e => e :: e.content.preorder := by
  induction c with
  | nil => rfl
  | text s rest ih => exact ih
  | element name attributes inside rest _ ih =>
      rw [preorder, elements, List.flatMap_cons, ih, List.cons_append]

end Content

namespace Element

/-- The elements before position `i` have had their turn, and together with the trees of the others
they are the listing of `e`. -/
structure Splices (e : Element) (i : Nat) (out : List Element) : Prop where
  reached : i ≤ out.length
  listing : out.take i ++ (out.drop i).flatMap (fun x => x :: x.content.preorder) =
    e :: e.content.preorder

variable {e : Element} {i : Nat} {out : List Element}

theorem splices_start (e : Element) : e.Splices 0 [e] :=
  ⟨Nat.zero_le _, by simp⟩

theorem take_spliceAt (h : i < out.length) : (spliceAt out i).take (i + 1) = out.take (i + 1) := by
  rw [spliceAt, List.take_left' (by rw [List.length_take]; omega)]

/-- A turn puts the children of an element in place of what is below it. -/
theorem Splices.turn (h : e.Splices i out) (hi : i < out.length) :
    e.Splices (i + 1) (spliceAt out i) := by
  constructor
  · rw [spliceAt, List.length_append, List.length_take]
    omega
  · rw [take_spliceAt hi, drop_spliceAt hi, List.flatMap_append, children,
      ← Content.preorder_eq_flatMap, List.take_succ_eq_append_getElem hi, List.append_assoc,
      ← h.listing, List.drop_eq_getElem_cons hi, List.flatMap_cons]
    rfl

theorem Splices.lt_length_iff (h : e.Splices i out) :
    i < out.length ↔ i < (e :: e.content.preorder).length := by
  have hreached := h.reached
  rw [← h.listing, List.length_append, List.length_take, Nat.min_eq_left hreached]
  constructor
  · intro hi
    rw [List.drop_eq_getElem_cons hi, List.flatMap_cons, List.length_append, List.length_cons]
    omega
  · intro hlt
    rcases Nat.lt_or_ge i out.length with hi | hi
    · exact hi
    · rw [List.drop_eq_nil_of_le hi, List.flatMap_nil, List.length_nil] at hlt
      omega

/-- Nothing is left to do at the end of the list. -/
theorem Splices.eq_of_length_le (h : e.Splices i out) (hi : out.length ≤ i) :
    out = e :: e.content.preorder := by
  rw [← h.listing, List.take_of_length_le hi, List.drop_eq_nil_of_le hi, List.flatMap_nil,
    List.append_nil]

theorem Splices.splice_eq (h : e.Splices i out) : splice i out = e :: e.content.preorder := by
  induction i, out using splice.induct with
  | case1 i out hi ih =>
      rw [splice, if_pos hi]
      exact ih (h.turn hi)
  | case2 i out hi =>
      rw [splice, if_neg hi]
      exact h.eq_of_length_le (Nat.le_of_not_lt hi)

theorem descendants_eq_preorder (e : Element) : e.descendants = e :: e.content.preorder :=
  (splices_start e).splice_eq

theorem descendants_eq_flatMap (e : Element) :
    e.descendants = e :: e.children.flatMap descendants := by
  rw [descendants_eq_preorder, Content.preorder_eq_flatMap, children, funext descendants_eq_preorder]

section Turns

/-- The list after so many turns. -/
def spliced (e : Element) (turns : Nat) : List Element := (List.range turns).foldl spliceAt [e]

theorem spliced_succ (e : Element) (turns : Nat) :
    e.spliced (turns + 1) = spliceAt (e.spliced turns) turns := by
  rw [spliced, List.range_succ, List.foldl_append]
  rfl

theorem splices_spliced {turns : Nat} (h : turns ≤ e.descendants.length) :
    e.Splices turns (e.spliced turns) := by
  induction turns with
  | zero => exact splices_start e
  | succ turns ih =>
      have hturns := ih (Nat.le_of_succ_le h)
      rw [spliced_succ]
      refine hturns.turn (hturns.lt_length_iff.2 ?_)
      rw [← descendants_eq_preorder]
      omega

theorem spliced_length (e : Element) : e.spliced e.descendants.length = e.descendants := by
  have hall := splices_spliced (Nat.le_refl e.descendants.length)
  have hend := hall.lt_length_iff
  rw [← descendants_eq_preorder] at hend
  rw [hall.eq_of_length_le (by omega), descendants_eq_preorder]

/-- A turn past the end of the list leaves it as it is. -/
theorem spliced_of_le {turns : Nat} (h : e.descendants.length ≤ turns) :
    e.spliced turns = e.descendants := by
  obtain ⟨more, rfl⟩ := Nat.exists_eq_add_of_le h
  clear h
  induction more with
  | zero => exact spliced_length e
  | succ more ih =>
      rw [← Nat.add_assoc, spliced_succ, ih, spliceAt,
        List.getElem?_eq_none (Nat.le_add_right _ _), List.take_of_length_le (by omega),
        List.drop_eq_nil_of_le (by omega)]
      exact List.append_nil _

/-- The position is inside the list for as many turns as there are elements, and no longer. -/
theorem lt_length_spliced_iff (e : Element) (turns : Nat) :
    turns < (e.spliced turns).length ↔ turns < e.descendants.length := by
  rcases Nat.le_total turns e.descendants.length with h | h
  · rw [(splices_spliced h).lt_length_iff, descendants_eq_preorder]
  · rw [spliced_of_le h]

end Turns

end Element

end LicenseChooser.Markup
