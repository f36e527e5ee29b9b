import LicenseChooser.Answers.Basic
import LicenseChooser.Proofs.Json.Objects
import LicenseChooser.Proofs.Pairs
import Mathlib.Data.List.Induction
import Mathlib.Data.List.Perm.Subperm

/-!
The order of answers. However they come in, one by one, as a list or as a JSON object, each key stands
where it came first and has the value it came with last.
-/

namespace LicenseChooser

/-- The keys of a list of pairs in the order in which they come first, each with the value it comes with
last. -/
def latest (pairs : List (String × String)) : List (String × String) :=
  (pairs.map (·.1)).eraseDups.filterMap fun key => pairs.findRev? (·.1 == key)

section Put

variable {key value : String} {items : List (String × String)}

theorem put_of_not_mem (h : key ∉ items.map (·.1)) :
    put key value items = items ++ [(key, value)] := by
  induction items with
  | nil => rfl
  | cons item items ih =>
      rw [List.map_cons, List.mem_cons, not_or] at h
      rw [put, if_neg (Ne.symm h.1), ih h.2, List.cons_append]

theorem lookup_put (key value : String) (items : List (String × String)) (k : String) :
    (put key value items).lookup k = if k = key then some value else items.lookup k := by
  induction items with
  | nil => exact lookup_cons_eq k key value []
  | cons item items ih =>
      obtain ⟨k', v'⟩ := item
      by_cases hitem : k' = key
      · rw [put, if_pos hitem, lookup_cons_eq, lookup_cons_eq, hitem]
        split <;> rfl
      · rw [put, if_neg hitem, lookup_cons_eq, lookup_cons_eq, ih]
        by_cases h : k = k'
        · rw [if_pos h, if_neg (h ▸ hitem), if_pos h]
        · rw [if_neg h, if_neg h]

/-- Recording an answer leaves every other one where it is. -/
theorem getElem?_put {k : String} (h : k ≠ key) (w : String) (items : List (String × String))
    (i : Nat) : (put key value items)[i]? = some (k, w) ↔ items[i]? = some (k, w) := by
  induction items generalizing i with
  | nil => cases i <;> simp [put, h.symm]
  | cons item items ih =>
      obtain ⟨k', v'⟩ := item
      by_cases hitem : k' = key
      · subst hitem
        cases i <;> simp [put, h.symm]
      · cases i with
        | zero => simp [put, hitem]
        | succ i => simpa [put, hitem] using ih i

/-- The value of a key is replaced where it stands, in whatever list the pairs come from. -/
theorem put_filterMap {g : String → Option (String × String)} {keys : List String}
    (hnodup : keys.Nodup) (hg : ∀ k ∈ keys, ∃ v, g k = some (k, v)) (h : key ∈ keys) :
    put key value (keys.filterMap g) =
      keys.filterMap fun k => if key = k then some (key, value) else g k := by
  induction keys with
  | nil => cases h
  | cons k keys ih =>
      obtain ⟨v, hv⟩ := hg k List.mem_cons_self
      rw [List.nodup_cons] at hnodup
      rw [List.filterMap_cons_some hv]
      by_cases hk : key = k
      · subst hk
        have hrest : keys.filterMap (fun k => if key = k then some (key, value) else g k) =
            keys.filterMap g := by
          apply List.filterMap_congr
          intro k hk
          exact if_neg (ne_of_mem_of_not_mem hk hnodup.1).symm
        simp [put, hrest]
      · have hrest := ih hnodup.2 (fun k hk => hg k (List.mem_cons_of_mem _ hk))
          ((List.mem_cons.1 h).resolve_left hk)
        simp [put, Ne.symm hk, hk, hv, hrest]

end Put

section Latest

theorem eraseDups_concat (keys : List String) (key : String) :
    (keys ++ [key]).eraseDups =
      if key ∈ keys then keys.eraseDups else keys.eraseDups ++ [key] := by
  rw [List.eraseDups_append]
  by_cases h : key ∈ keys
  · simp [List.removeAll, h]
  · simp [List.removeAll, h, List.eraseDups_cons]

theorem nodup_eraseDups (keys : List String) : keys.eraseDups.Nodup := by
  induction keys using List.reverseRecOn with
  | nil => exact List.nodup_nil
  | append_singleton keys key ih =>
      rw [eraseDups_concat]
      by_cases h : key ∈ keys
      · rwa [if_pos h]
      · rw [if_neg h]
        exact List.concat_eq_append ▸ ih.concat fun hk => h (List.mem_eraseDups.1 hk)

theorem findRev?_concat (pairs : List (String × String)) (p : String × String) (key : String) :
    (pairs ++ [p]).findRev? (·.1 == key) =
      if p.1 = key then some p else pairs.findRev? (·.1 == key) := by
  by_cases h : p.1 = key <;>
    simp [List.findRev?_eq_find?_reverse, h]

theorem findRev?_eq_some_iff {pairs : List (String × String)} {key : String}
    {p : String × String} :
    pairs.findRev? (·.1 == key) = some p ↔
      p.1 = key ∧ ∃ before after, pairs = before ++ p :: after ∧ ∀ q ∈ after, q.1 ≠ key := by
  rw [List.findRev?_eq_find?_reverse, List.find?_eq_some_iff_append, beq_iff_eq]
  refine and_congr_right fun _ => ?_
  constructor
  · rintro ⟨after, before, h, hafter⟩
    refine ⟨before.reverse, after.reverse, ?_, ?_⟩
    · rw [← List.reverse_reverse pairs, h]
      simp
    · simpa using hafter
  · rintro ⟨before, after, rfl, hafter⟩
    exact ⟨after.reverse, before.reverse, by simp, by simpa using hafter⟩

theorem exists_findRev? {pairs : List (String × String)} {key : String}
    (h : key ∈ pairs.map (·.1)) : ∃ v, pairs.findRev? (·.1 == key) = some (key, v) := by
  have hsome : (pairs.findRev? (·.1 == key)).isSome = true := by
    rw [List.findRev?_eq_find?_reverse, List.find?_isSome]
    obtain ⟨p, hp, rfl⟩ := List.mem_map.1 h
    exact ⟨p, List.mem_reverse.2 hp, beq_self_eq_true _⟩
  obtain ⟨p, hp⟩ := Option.isSome_iff_exists.1 hsome
  exact ⟨p.2, (findRev?_eq_some_iff.1 hp).1 ▸ hp⟩

theorem keys_latest (pairs : List (String × String)) :
    (latest pairs).map (·.1) = (pairs.map (·.1)).eraseDups := by
  rw [latest, List.map_filterMap]
  refine (List.filterMap_congr fun key hkey => ?_).trans List.filterMap_some
  obtain ⟨v, hv⟩ := exists_findRev? (List.mem_eraseDups.1 hkey)
  rw [hv, Option.map_some]

/-- A pair is the last one with its key. -/
theorem mem_latest (pairs : List (String × String)) (key value : String) :
    (key, value) ∈ latest pairs ↔
      ∃ before after, pairs = before ++ (key, value) :: after ∧ ∀ q ∈ after, q.1 ≠ key := by
  rw [latest, List.mem_filterMap]
  constructor
  · rintro ⟨k, -, h⟩
    obtain ⟨rfl, h⟩ := findRev?_eq_some_iff.1 h
    exact h
  · intro h
    refine ⟨key, List.mem_eraseDups.2 ?_, findRev?_eq_some_iff.2 ⟨rfl, h⟩⟩
    obtain ⟨before, after, rfl, -⟩ := h
    simp

/-- One more pair at the end is one more answer recorded. -/
theorem latest_concat (pairs : List (String × String)) (key value : String) :
    latest (pairs ++ [(key, value)]) = put key value (latest pairs) := by
  have hlast : ∀ keys : List String,
      (keys.filterMap fun k => (pairs ++ [(key, value)]).findRev? (·.1 == k)) =
        keys.filterMap fun k =>
          if key = k then some (key, value) else pairs.findRev? (·.1 == k) := fun keys =>
    List.filterMap_congr fun k _ => findRev?_concat pairs (key, value) k
  have hkeys : (pairs ++ [(key, value)]).map (·.1) = pairs.map (·.1) ++ [key] := List.map_append
  have hfound : ∀ k ∈ (pairs.map (·.1)).eraseDups, ∃ v, pairs.findRev? (·.1 == k) = some (k, v) :=
    fun k hk => exists_findRev? (List.mem_eraseDups.1 hk)
  rw [latest, hlast, hkeys, eraseDups_concat]
  by_cases h : key ∈ pairs.map (·.1)
  · rw [if_pos h, latest, put_filterMap (nodup_eraseDups _) hfound (List.mem_eraseDups.2 h)]
  · have hnew : key ∉ (latest pairs).map (·.1) := by
      rwa [keys_latest, List.mem_eraseDups]
    have hothers : (pairs.map (·.1)).eraseDups.filterMap
        (fun k => if key = k then some (key, value) else pairs.findRev? (·.1 == k)) =
          latest pairs := by
      apply List.filterMap_congr
      intro k hk
      exact if_neg (ne_of_mem_of_not_mem (List.mem_eraseDups.1 hk) h).symm
    rw [if_neg h, List.filterMap_append, hothers, put_of_not_mem hnew]
    simp

theorem latest_of_nodup {pairs : List (String × String)} (h : (pairs.map (·.1)).Nodup) :
    latest pairs = pairs := by
  induction pairs using List.reverseRecOn with
  | nil => rfl
  | append_singleton pairs p ih =>
      rw [List.map_append, List.nodup_append] at h
      have hnew : p.1 ∉ pairs.map (·.1) := fun hp => h.2.2 _ hp _ (List.mem_singleton_self _) rfl
      rw [latest_concat, ih h.1, put_of_not_mem hnew]

end Latest

namespace Answers

theorem ofList_append (pairs more : List (String × String)) :
    ofList (pairs ++ more) = (ofList pairs).insertAll more := List.foldl_append

theorem items_ofList (pairs : List (String × String)) : (ofList pairs).items = latest pairs := by
  induction pairs using List.reverseRecOn with
  | nil => rfl
  | append_singleton pairs p ih =>
      rw [ofList_append, latest_concat, ← ih]
      rfl

/-- Every set of answers comes from a list. -/
theorem ofList_items (a : Answers) : ofList a.items = a := by
  have h : (ofList a.items).items = a.items := by
    rw [items_ofList, latest_of_nodup a.nodup]
  cases a
  cases hl : ofList _
  simp_all

theorem get?_eq_some_iff (a : Answers) (key value : String) :
    a.get? key = some value ↔ (key, value) ∈ a.items :=
  lookup_eq_some_iff_mem a.nodup key value

theorem sameAs_iff (a b : Answers) : a.sameAs b = true ↔ ∀ key, a.get? key = b.get? key := by
  have hsubset : (a.items.all fun p => b.get? p.1 == some p.2) = true ↔ a.items ⊆ b.items := by
    rw [List.all_eq_true]
    refine forall₂_congr fun p _ => ?_
    rw [beq_iff_eq, get?_eq_some_iff]
  refine Iff.trans ?_ (perm_iff_lookup a.nodup b.nodup)
  rw [sameAs, Bool.and_eq_true, hsubset, beq_iff_eq, size, size]
  constructor
  · rintro ⟨hsize, hitems⟩
    exact (List.subperm_of_subset a.nodup.of_map hitems).perm_of_length_le (Nat.le_of_eq hsize.symm)
  · intro h
    exact ⟨h.length_eq, h.subset⟩

theorem ofJson_toJson (a : Answers) : ofJson a.toJson = .ok a := by
  have hwrites : Json.WritesObject a.toJson.toList a.items := by
    rw [toJson, String.toList_ofList]
    exact Json.writesObject_compact a.items
  rw [Json.ofJson_of_writesObject hwrites, ofList_items]

/-- Answers recorded one by one, collected, or decoded from any text of the JSON object with these
members are the same: each key where it came first, with the value it came with last. And whatever
answers there are, a key has one value, which `get?` finds; recording one more moves no other; order
does not matter to sameness; and JSON keeps them as they are. -/
theorem ordered :
    (∀ pairs : List (String × String),
      (pairs.foldl (fun a p => a.insert p.1 p.2) empty).items = latest pairs ∧
      (ofList pairs).items = latest pairs ∧
      (∀ s : String, Json.WritesObject s.toList pairs →
        ∃ a, ofJson s = .ok a ∧ a.items = latest pairs) ∧
      (latest pairs).map (·.1) = (pairs.map (·.1)).eraseDups ∧
      ∀ key value, (key, value) ∈ latest pairs ↔
        ∃ before after, pairs = before ++ (key, value) :: after ∧ ∀ q ∈ after, q.1 ≠ key) ∧
    ∀ a : Answers,
      (a.items.map (·.1)).Nodup ∧
      a.size = a.items.length ∧
      (∀ key value, a.get? key = some value ↔ (key, value) ∈ a.items) ∧
      (∀ key value, (a.insert key value).get? key = some value ∧
        ∀ (k w : String) (i : Nat), k ≠ key →
          ((a.insert key value).items[i]? = some (k, w) ↔ a.items[i]? = some (k, w))) ∧
      (∀ b : Answers, a.sameAs b = true ↔ ∀ key, a.get? key = b.get? key) ∧
      ofJson a.toJson = .ok a := by
  refine ⟨fun pairs => ⟨items_ofList pairs, items_ofList pairs, fun s hs => ?_, keys_latest pairs,
    mem_latest pairs⟩, fun a => ⟨a.nodup, rfl, get?_eq_some_iff a, fun key value => ⟨?_, ?_⟩,
    sameAs_iff a, ofJson_toJson a⟩⟩
  · exact ⟨ofList pairs, Json.ofJson_of_writesObject hs, items_ofList pairs⟩
  · exact (lookup_put key value a.items key).trans (if_pos rfl)
  · intro k w i h
    exact getElem?_put h w a.items i

theorem ordered_repeated :
    let pairs := [("a", "1"), ("b", "\u00fc"), ("a", "3")]
    let s := "\x7b \"a\" : \"1\",\n\"\\u0062\":\"\u00fc\", \"a\":\"3\"\x7d"
    Json.WritesObject s.toList pairs ∧
      (∃ a, ofJson s = .ok a ∧ a.items = latest pairs) ∧
      latest pairs = [("a", "3"), ("b", "\u00fc")] := by
  intro pairs s
  have hplain : ∀ (c : Char) (s : String), s.toList = [c] →
      0x20 ≤ c.toNat ∧ c ≠ '"' ∧ c ≠ '\\' → Json.Spells [c] s.toList := by
    rintro c s hs ⟨hcode, hquote, hslash⟩
    rw [hs]
    exact .plain hcode hquote hslash .nil
  have hblank : ∀ cs : List Char, cs.all Json.isSpace = true → Json.Blanks cs := fun _ =>
    List.all_eq_true.1
  have hfirst := Json.WritesMember.mk (hplain 'a' "a" rfl (by decide)) (hblank [' '] rfl)
    (hblank [' '] rfl) (hplain '1' "1" rfl (by decide))
  have hnumber : Json.Spells ['\\', 'u', '0', '0', '6', '2'] "b".toList :=
    @Json.Spells.unit '0' '0' '6' '2' 0x62 [] [] (by decide) (.inl (by decide)) .nil
  have hsecond := Json.WritesMember.mk hnumber Json.blanks_nil Json.blanks_nil
    (hplain '\u00fc' "\u00fc" rfl (by decide))
  have hthird := Json.WritesMember.mk (hplain 'a' "a" rfl (by decide)) Json.blanks_nil
    Json.blanks_nil (hplain '3' "3" rfl (by decide))
  have hs : Json.WritesObject s.toList pairs := by
    simpa [s] using Json.WritesObject.members Json.blanks_nil (hblank [' '] rfl) hfirst
      (.member Json.blanks_nil (hblank ['\n'] rfl) hsecond
        (.member Json.blanks_nil (hblank [' '] rfl) hthird (.close Json.blanks_nil)))
      Json.blanks_nil
  exact ⟨hs, (ordered.1 pairs).2.2.1 s hs, by decide⟩

end Answers

end LicenseChooser
