import LicenseChooser.Proofs.Markup.Traversal
import Mathlib.Data.List.Lex

/-!
Document order by paths. A path says at each step which of the child elements comes next, so that two
elements of a tree that look the same are still two. Listing a tree goes through its paths in
lexicographic order: an element comes before those inside it, and these before its later siblings.
-/

namespace LicenseChooser.Markup

/-- The first step in which two paths differ decides, and a path comes before those that go on from
it. -/
def Precedes : List Nat → List Nat → Prop := List.Lex (· < ·)

theorem precedes_child (path : List Nat) (k : Nat) : Precedes path (path ++ [k]) := by
  have h := List.Lex.append_left (· < ·) (List.Lex.nil : Precedes [] [k]) path
  rwa [List.append_nil] at h

theorem precedes_sibling (path : List Nat) {k l : Nat} (h : k < l) :
    Precedes (path ++ [k]) (path ++ [l]) :=
  List.Lex.append_left (· < ·) (.rel h) path

theorem precedes_asymm {p q : List Nat} (h : Precedes p q) : ¬ Precedes q p := List.lt_asymm h

theorem precedes_irrefl (p : List Nat) : ¬ Precedes p p := List.lt_irrefl p

/-- The element at a path, if the path leads to one. -/
def Element.at? (e : Element) : List Nat → Option Element
  | [] => some e
  | k :: path => e.children[k]?.bind (·.at? path)

/-- The path in content that has one more element in front. -/
def later : List Nat → List Nat
  | [] => []
  | k :: path => (k + 1) :: path

namespace Content

/-- The element at a path that goes through this content. -/
def at? (c : Content) : List Nat → Option Element
  | [] => none
  | k :: path => c.elements[k]?.bind (·.at? path)

/-- The paths to the elements at every depth, in document order. -/
def paths : Content → List (List Nat)
  | nil => []
  | text _ rest => rest.paths
  | element _ _ inside rest => [0] :: (inside.paths.map (0 :: ·) ++ rest.paths.map later)

/-- No path stays where it is: its first step goes to a child. -/
theorem exists_cons_of_mem_paths {c : Content} {path : List Nat} (h : path ∈ c.paths) :
    ∃ k steps, path = k :: steps := by
  induction c generalizing path with
  | nil => cases h
  | text s rest ih => exact ih h
  | element name attributes inside rest _ ih =>
      rw [paths, List.mem_cons, List.mem_append, List.mem_map, List.mem_map] at h
      rcases h with rfl | ⟨p, -, rfl⟩ | ⟨p, hp, rfl⟩
      · exact ⟨0, [], rfl⟩
      · exact ⟨0, p, rfl⟩
      · obtain ⟨k, steps, rfl⟩ := ih hp
        exact ⟨k + 1, steps, rfl⟩

theorem at?_later (name : String) (attributes : List (String × String)) (inside rest : Content)
    (path : List Nat) : (element name attributes inside rest).at? (later path) = rest.at? path := by
  cases path <;> rfl

theorem map_at?_paths (c : Content) : c.paths.map c.at? = c.preorder.map some := by
  induction c with
  | nil => rfl
  | text s rest ih => exact ih
  | element name attributes inside rest ihInside ih =>
      rw [paths, preorder, List.map_cons, List.map_cons, List.map_append, List.map_append,
        List.map_map, List.map_map, ← ihInside, ← ih]
      refine congrArg₂ (· :: ·) rfl (congrArg₂ (· ++ ·) ?_ ?_)
      · apply List.map_congr_left
        intro path hpath
        obtain ⟨k, steps, rfl⟩ := exists_cons_of_mem_paths hpath
        rfl
      · apply List.map_congr_left
        intro path _
        exact at?_later name attributes inside rest path

theorem mem_paths_of_at? {c : Content} {path : List Nat} {x : Element} (h : c.at? path = some x) :
    path ∈ c.paths := by
  induction c generalizing path with
  | nil => cases path <;> cases h
  | text s rest ih =>
      cases path with
      | nil => cases h
      | cons k path => exact ih h
  | element name attributes inside rest ihInside ih =>
      rw [paths, List.mem_cons, List.mem_append]
      cases path with
      | nil => cases h
      | cons k path =>
          cases k with
          | zero =>
              cases path with
              | nil => exact .inl rfl
              | cons l path => exact .inr (.inl (List.mem_map_of_mem (ihInside h)))
          | succ k =>
              have hrest : k :: path ∈ rest.paths := ih h
              exact .inr (.inr (List.mem_map_of_mem hrest))

theorem precedes_later {p q : List Nat} (h : Precedes p q) : Precedes (later p) (later q) := by
  cases h with
  | nil => exact .nil
  | cons h => exact .cons h
  | rel h => exact .rel (Nat.succ_lt_succ h)

theorem pairwise_paths (c : Content) : c.paths.Pairwise Precedes := by
  induction c with
  | nil => exact .nil
  | text s rest ih => exact ih
  | element name attributes inside rest ihInside ih =>
      -- a path into the rest starts at a higher position than all paths to or into the first element
      have hrest : ∀ q ∈ rest.paths.map later, ∀ p, Precedes (0 :: p) q := by
        intro q hq p
        obtain ⟨r, hr, rfl⟩ := List.mem_map.1 hq
        obtain ⟨k, steps, rfl⟩ := exists_cons_of_mem_paths hr
        exact .rel (Nat.succ_pos k)
      rw [paths, List.pairwise_cons, List.pairwise_append]
      refine ⟨?_, ihInside.map _ fun _ _ h => .cons h, ih.map _ fun _ _ => precedes_later, ?_⟩
      · intro q hq
        rcases List.mem_append.1 hq with hq | hq
        · obtain ⟨r, hr, rfl⟩ := List.mem_map.1 hq
          obtain ⟨k, steps, rfl⟩ := exists_cons_of_mem_paths hr
          exact .cons .nil
        · exact hrest q hq []
      · intro p hp q hq
        obtain ⟨r, -, rfl⟩ := List.mem_map.1 hp
        exact hrest q hq r

end Content

namespace Element

/-- The paths to the element itself and to all elements below it, in document order. -/
def paths (e : Element) : List (List Nat) := [] :: e.content.paths

variable {e : Element}

theorem map_at?_paths (e : Element) : e.paths.map e.at? = e.descendants.map some := by
  rw [paths, descendants_eq_preorder, List.map_cons, List.map_cons, ← Content.map_at?_paths]
  refine congrArg₂ (· :: ·) rfl (List.map_congr_left fun path hpath => ?_)
  obtain ⟨k, steps, rfl⟩ := Content.exists_cons_of_mem_paths hpath
  rfl

theorem pairwise_paths (e : Element) : e.paths.Pairwise Precedes := by
  rw [paths, List.pairwise_cons]
  refine ⟨fun path hpath => ?_, e.content.pairwise_paths⟩
  obtain ⟨k, steps, rfl⟩ := Content.exists_cons_of_mem_paths hpath
  exact .nil

example : paths ⟨"a", [], .element "b" [] (.element "c" [] .nil .nil) (.element "d" [] .nil .nil)⟩ =
    [[], [0], [0, 0], [1]] := rfl

theorem nodup_paths (e : Element) : e.paths.Nodup :=
  e.pairwise_paths.imp fun h => by
    rintro rfl
    exact precedes_irrefl _ h

theorem mem_paths_of_at? {path : List Nat} {x : Element} (h : e.at? path = some x) :
    path ∈ e.paths := by
  cases path with
  | nil => exact List.mem_cons_self
  | cons k path => exact List.mem_cons_of_mem _ (Content.mem_paths_of_at? h)

theorem mem_paths_iff {path : List Nat} : path ∈ e.paths ↔ (e.at? path).isSome = true := by
  constructor
  · intro h
    have hmem : e.at? path ∈ e.descendants.map some := by
      rw [← map_at?_paths]
      exact List.mem_map_of_mem h
    obtain ⟨x, -, hx⟩ := List.mem_map.1 hmem
    rw [← hx]
    rfl
  · intro h
    obtain ⟨x, hx⟩ := Option.isSome_iff_exists.1 h
    exact mem_paths_of_at? hx

/-- Of two paths the one that precedes the other is listed first. -/
theorem lt_of_precedes {i j : Nat} {p q : List Nat} (hp : e.paths[i]? = some p)
    (hq : e.paths[j]? = some q) (h : Precedes p q) : i < j := by
  obtain ⟨hi, rfl⟩ := List.getElem?_eq_some_iff.1 hp
  obtain ⟨hj, rfl⟩ := List.getElem?_eq_some_iff.1 hq
  rcases Nat.lt_trichotomy i j with hlt | rfl | hgt
  · exact hlt
  · exact absurd h (precedes_irrefl _)
  · exact absurd h (precedes_asymm (List.pairwise_iff_getElem.1 e.pairwise_paths j i hj hi hgt))

/-- The first element of a kind in a listing is the one at whose path no other of that kind precedes
it. -/
theorem find?_descendants_iff {p : Element → Bool} {x : Element} :
    e.descendants.find? p = some x ↔
      ∃ path, e.at? path = some x ∧ p x = true ∧
        ∀ earlier y, Precedes earlier path → e.at? earlier = some y → p y = false := by
  have hmap := e.map_at?_paths
  rw [List.find?_eq_some_iff_append]
  constructor
  · rintro ⟨hx, before, after, hlist, hbefore⟩
    rw [hlist, List.map_append, List.map_cons] at hmap
    obtain ⟨first, others, hpaths, hfirst, hothers⟩ := List.map_eq_append_iff.1 hmap
    obtain ⟨path, last, rfl, hpath, -⟩ := List.map_eq_cons_iff.1 hothers
    refine ⟨path, hpath, hx, fun earlier y hprecedes hy => ?_⟩
    have hmem := mem_paths_of_at? hy
    have hsorted := e.pairwise_paths
    rw [hpaths, List.pairwise_append, List.pairwise_cons] at hsorted
    rw [hpaths, List.mem_append, List.mem_cons] at hmem
    rcases hmem with hmem | rfl | hmem
    · have hlisted : some y ∈ before.map some := by
        rw [← hfirst, ← hy]
        exact List.mem_map_of_mem hmem
      obtain ⟨z, hz, hzy⟩ := List.mem_map.1 hlisted
      rw [← Option.some.inj hzy]
      simpa using hbefore z hz
    · exact absurd hprecedes (precedes_irrefl _)
    · exact absurd hprecedes (precedes_asymm (hsorted.2.1.1 earlier hmem))
  · rintro ⟨path, hpath, hx, hearlier⟩
    obtain ⟨first, last, hpaths⟩ := List.append_of_mem (mem_paths_of_at? hpath)
    have hsorted := e.pairwise_paths
    rw [hpaths, List.pairwise_append] at hsorted
    rw [hpaths, List.map_append, List.map_cons, hpath, eq_comm] at hmap
    obtain ⟨before, others, hlist, hbefore, hothers⟩ := List.map_eq_append_iff.1 hmap
    obtain ⟨y, after, rfl, hy, -⟩ := List.map_eq_cons_iff.1 hothers
    refine ⟨hx, before, after, by rw [hlist, Option.some.inj hy], fun z hz => ?_⟩
    have hmem : some z ∈ first.map e.at? := hbefore ▸ List.mem_map_of_mem hz
    obtain ⟨earlier, hin, hz⟩ := List.mem_map.1 hmem
    rw [hearlier earlier z (hsorted.2.2 earlier hin path List.mem_cons_self) hz]
    rfl

theorem find?_descendants_eq_none_iff {p : Element → Bool} :
    e.descendants.find? p = none ↔ ∀ path x, e.at? path = some x → p x = false := by
  have hmem : ∀ x, x ∈ e.descendants ↔ ∃ path, e.at? path = some x := by
    intro x
    have hmap : some x ∈ e.descendants.map some ↔ x ∈ e.descendants := by simp
    rw [← hmap, ← map_at?_paths, List.mem_map]
    exact ⟨fun ⟨path, _, h⟩ => ⟨path, h⟩, fun ⟨path, h⟩ => ⟨path, mem_paths_of_at? h, h⟩⟩
  rw [List.find?_eq_none]
  constructor
  · intro h path x hx
    exact Bool.eq_false_iff.2 (h x ((hmem x).2 ⟨path, hx⟩))
  · intro h x hx
    obtain ⟨path, hpath⟩ := (hmem x).1 hx
    exact Bool.eq_false_iff.1 (h path x hpath)

end Element

/-- The loop that lists a tree takes one turn for each element and comes to what recursion gives: each
path once, a parent before its children and siblings as they stand. So looking for a name finds the
first element in document order that has it. -/
theorem descendants_inDocumentOrder :
    (∀ e : Element,
      (∀ turns, turns < (e.spliced turns).length ↔ turns < e.descendants.length) ∧
      e.spliced e.descendants.length = e.descendants ∧
      e.descendants = e :: e.children.flatMap Element.descendants ∧
      ∃ paths : List (List Nat),
        paths.map e.at? = e.descendants.map some ∧
        (∀ path, path ∈ paths ↔ (e.at? path).isSome = true) ∧
        paths.Nodup ∧
        (∀ (i j : Nat) path k, paths[i]? = some path → paths[j]? = some (path ++ [k]) → i < j) ∧
        (∀ (i j : Nat) path k l, k < l → paths[i]? = some (path ++ [k]) →
          paths[j]? = some (path ++ [l]) → i < j) ∧
        paths.Pairwise Precedes) ∧
    ∀ (d : Document) (name : String),
      (∀ e, d.find? name = some e ↔
        ∃ path, d.root.at? path = some e ∧ e.name = name ∧
          ∀ earlier x, Precedes earlier path → d.root.at? earlier = some x → x.name ≠ name) ∧
      (d.find? name = none ↔ ∀ path x, d.root.at? path = some x → x.name ≠ name) := by
  refine ⟨fun e => ⟨e.lt_length_spliced_iff, e.spliced_length, e.descendants_eq_flatMap, e.paths,
    e.map_at?_paths, fun _ => Element.mem_paths_iff, e.nodup_paths, ?_, ?_, e.pairwise_paths⟩,
    fun d name => ⟨fun e => ?_, ?_⟩⟩
  · intro i j path k hi hj
    exact Element.lt_of_precedes hi hj (precedes_child path k)
  · intro i j path k l h hi hj
    exact Element.lt_of_precedes hi hj (precedes_sibling path h)
  · rw [Document.find?, Document.descendants, Element.find?_descendants_iff]
    simp
  · rw [Document.find?, Document.descendants, Element.find?_descendants_eq_none_iff]
    simp

end LicenseChooser.Markup
