/-!
# Tables

A finite map as a list of entries in the order of their first insertion. `set` keeps
an existing key in its place, so a table holds each key once as long as it is built
from `empty`; `get?_set` and `get?_erase` say what a look-up finds afterwards.
-/

namespace TokenBridge

structure Table (κ ν : Type) where
  entries : List (κ × ν)
  deriving DecidableEq, Repr

namespace Table

variable {κ ν : Type} [DecidableEq κ]

def empty : Table κ ν := ⟨[]⟩

def find (k : κ) : List (κ × ν) → Option ν
  | [] => none
  | (k', v) :: rest => if k' = k then some v else find k rest

def replace (k : κ) (v : ν) : List (κ × ν) → List (κ × ν)
  | [] => [(k, v)]
  | (k', v') :: rest => if k' = k then (k, v) :: rest else (k', v') :: replace k v rest

def get? (t : Table κ ν) (k : κ) : Option ν := find k t.entries

def set (t : Table κ ν) (k : κ) (v : ν) : Table κ ν := ⟨replace k v t.entries⟩

def erase (t : Table κ ν) (k : κ) : Table κ ν := ⟨t.entries.filter fun e => e.1 ≠ k⟩

def keys (t : Table κ ν) : List κ := t.entries.map (·.1)

def values (t : Table κ ν) : List ν := t.entries.map (·.2)

def size (t : Table κ ν) : Nat := t.entries.length

def isEmpty (t : Table κ ν) : Bool := t.entries.isEmpty

theorem find_replace (k k' : κ) (v : ν) (l : List (κ × ν)) :
    find k' (replace k v l) = if k = k' then some v else find k' l := by
  induction l with
  | nil => simp [replace, find]
  | cons e l ih =>
    by_cases h : e.1 = k
    · by_cases hk : k = k' <;> simp_all [replace, find]
    · by_cases hk : k = k'
      · subst hk
        simp [replace, find, h, ih]
      · have hk' : ¬ k' = k := fun e => hk e.symm
        by_cases he : e.1 = k' <;> simp [replace, find, h, ih, hk, he, hk']

theorem find_filter (k k' : κ) (l : List (κ × ν)) :
    find k' (l.filter fun e => e.1 ≠ k) = if k = k' then none else find k' l := by
  induction l with
  | nil => simp [find]
  | cons e l ih =>
    by_cases h : e.1 = k
    · by_cases hk : k = k' <;> simp_all [find]
    · by_cases he : e.1 = k'
      · have hk' : ¬ k' = k := fun hkk => h (he.trans hkk)
        have hk : ¬ k = k' := fun hkk => hk' hkk.symm
        simp [find, he, hk, hk']
      · simpa [find, h, he, List.filter_cons] using ih

@[simp] theorem get?_empty (k : κ) : (empty : Table κ ν).get? k = none := rfl

theorem get?_set (t : Table κ ν) (k k' : κ) (v : ν) :
    (t.set k v).get? k' = if k = k' then some v else t.get? k' := find_replace ..

@[simp] theorem get?_set_self (t : Table κ ν) (k : κ) (v : ν) : (t.set k v).get? k = some v := by
  simp [get?_set]

theorem get?_set_of_ne (t : Table κ ν) {k k' : κ} (v : ν) (h : k ≠ k') :
    (t.set k v).get? k' = t.get? k' := by simp [get?_set, h]

theorem replace_replace (k : κ) (v w : ν) (l : List (κ × ν)) :
    replace k w (replace k v l) = replace k w l := by
  induction l with
  | nil => simp [replace]
  | cons e l ih => by_cases h : e.1 = k <;> simp [replace, h, ih]

@[simp] theorem set_set (t : Table κ ν) (k : κ) (v w : ν) : (t.set k v).set k w = t.set k w := by
  simp [set, replace_replace]

theorem get?_erase (t : Table κ ν) (k k' : κ) :
    (t.erase k).get? k' = if k = k' then none else t.get? k' := find_filter ..

end Table

end TokenBridge
