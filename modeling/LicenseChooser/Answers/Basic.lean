/-!
Answers to the questions of a license class, in the order in which the questions were first
answered. Each question has one answer; a later one takes the place of an earlier one.
-/

namespace LicenseChooser

/-- Replaces the value of a key, or adds the pair at the end. -/
def put (key value : String) : List (String × String) → List (String × String)
  | [] => [(key, value)]
  | (k, v) :: rest => if k = key then (key, value) :: rest else (k, v) :: put key value rest

theorem keys_put (key value : String) (items : List (String × String)) :
    (put key value items).map (·.1) =
      if key ∈ items.map (·.1) then items.map (·.1) else items.map (·.1) ++ [key] := by
  induction items with
  | nil => rfl
  | cons item rest ih =>
      obtain ⟨k, v⟩ := item
      simp only [put]
      by_cases h : k = key
      · simp [h]
      · have h' : ¬ key = k := fun e => h e.symm
        simp only [h, h', if_false, List.map_cons, ih, List.mem_cons, false_or]
        split <;> simp

theorem nodup_keys_put {key value : String} {items : List (String × String)}
    (h : (items.map (·.1)).Nodup) : ((put key value items).map (·.1)).Nodup := by
  rw [keys_put]
  split
  · exact h
  · rename_i hn
    rw [List.nodup_append]
    refine ⟨h, by simp, ?_⟩
    intro a ha b hb e
    simp only [List.mem_singleton] at hb
    exact hn (hb ▸ e ▸ ha)

structure Answers where
  items : List (String × String)
  nodup : (items.map (·.1)).Nodup
  deriving DecidableEq

namespace Answers

def empty : Answers := ⟨[], by simp⟩

/-- Records an answer. -/
def insert (a : Answers) (key value : String) : Answers :=
  ⟨put key value a.items, nodup_keys_put a.nodup⟩

/-- Records the answers of a list one after the other. -/
def insertAll (a : Answers) (pairs : List (String × String)) : Answers :=
  pairs.foldl (fun a p => a.insert p.1 p.2) a

def ofList (pairs : List (String × String)) : Answers := empty.insertAll pairs

def get? (a : Answers) (key : String) : Option String := a.items.lookup key

def size (a : Answers) : Nat := a.items.length

def isEmpty (a : Answers) : Bool := a.items.isEmpty

/-- Whether both give the same answers, in whatever order. -/
def sameAs (a b : Answers) : Bool :=
  a.size == b.size && a.items.all fun p => b.get? p.1 == some p.2

def toString (a : Answers) : String :=
  "\x7b" ++ ", ".intercalate (a.items.map fun p => p.1 ++ "=" ++ p.2) ++ "\x7d"

end Answers

end LicenseChooser
