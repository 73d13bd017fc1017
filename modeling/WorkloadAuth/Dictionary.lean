/-!
# Dictionaries

Finite maps from texts, listed by ascending key. Keys are compared by their code points, which is
also the order of their UTF-8 bytes. The entries determine a dictionary, so two dictionaries with
the same entries are equal.

* `Dictionary`: the entries, with the proof that their keys ascend.
* `get?`, `insert`, `erase`, `keys`, `ofList`.
* `get?_insert`, `get?_erase`: what a look-up answers after a change.
-/

namespace WorkloadAuth

universe u

/-- The keys of a list of entries ascend. -/
def Ascending {α : Type u} (entries : List (String × α)) : Prop :=
  entries.Pairwise (fun a b => a.1 < b.1)

/-- A finite map from texts. -/
structure Dictionary (α : Type u) where
  entries : List (String × α)
  ascending : Ascending entries

namespace Dictionary

variable {α : Type u}

/-! ## Entry lists -/

/-- The value of a key. -/
def lookup (key : String) : List (String × α) → Option α
  | [] => none
  | (k, v) :: rest => if k = key then some v else lookup key rest

/-- The entries with a value for a key, in the place of the key's entry or where it belongs. -/
def place (key : String) (value : α) : List (String × α) → List (String × α)
  | [] => [(key, value)]
  | (k, v) :: rest =>
    if key < k then (key, value) :: (k, v) :: rest
    else if key = k then (key, value) :: rest
    else (k, v) :: place key value rest

/-- The entries without that of a key. -/
def remove (key : String) (entries : List (String × α)) : List (String × α) :=
  entries.filter (fun e => e.1 ≠ key)

theorem mem_place {key : String} {value : α} {entries : List (String × α)} {e : String × α}
    (h : e ∈ place key value entries) : e = (key, value) ∨ e ∈ entries := by
  induction entries with
  | nil => simp_all [place]
  | cons x rest ih =>
    obtain ⟨k, v⟩ := x
    simp only [place] at h
    split at h
    · simpa using h
    · split at h
      · rcases List.mem_cons.1 h with h | h
        · exact .inl h
        · exact .inr (List.mem_cons_of_mem _ h)
      · rcases List.mem_cons.1 h with h | h
        · exact .inr (h ▸ List.mem_cons_self)
        · exact (ih h).imp id (List.mem_cons_of_mem _)

theorem ascending_place {key : String} {value : α} {entries : List (String × α)}
    (h : Ascending entries) : Ascending (place key value entries) := by
  induction entries with
  | nil => simp [Dictionary.place, Ascending]
  | cons x rest ih =>
    obtain ⟨k, v⟩ := x
    obtain ⟨hk, hrest⟩ := List.pairwise_cons.1 h
    simp only [Dictionary.place]
    split
    · rename_i hlt
      refine List.pairwise_cons.2 ⟨fun e he => ?_, h⟩
      rcases List.mem_cons.1 he with rfl | he
      · exact hlt
      · exact String.lt_trans hlt (hk e he)
    · split
      · rename_i heq
        exact List.pairwise_cons.2 ⟨fun e he => heq ▸ hk e he, hrest⟩
      · rename_i hlt hne
        refine List.pairwise_cons.2 ⟨fun e he => ?_, ih hrest⟩
        rcases mem_place he with rfl | he
        · exact Decidable.byContradiction fun hn =>
            hne (String.le_antisymm hn hlt)
        · exact hk e he

theorem ascending_remove {key : String} {entries : List (String × α)} (h : Ascending entries) :
    Ascending (remove key entries) :=
  List.Pairwise.filter _ h

/-! ## Operations -/

/-- The dictionary without entries. -/
def empty : Dictionary α := ⟨[], List.Pairwise.nil⟩

instance : Inhabited (Dictionary α) := ⟨empty⟩

/-- The value of a key. -/
def get? (d : Dictionary α) (key : String) : Option α := lookup key d.entries

/-- The keys, in ascending order. -/
def keys (d : Dictionary α) : List String := d.entries.map (·.1)

/-- The dictionary with a value for a key, instead of the key's earlier value if it had one. -/
def insert (d : Dictionary α) (key : String) (value : α) : Dictionary α :=
  ⟨place key value d.entries, ascending_place d.ascending⟩

/-- The dictionary without a key. -/
def erase (d : Dictionary α) (key : String) : Dictionary α :=
  ⟨remove key d.entries, ascending_remove d.ascending⟩

/-- The dictionary of a list of entries; the last value given for a key counts. -/
def ofList (entries : List (String × α)) : Dictionary α :=
  entries.foldl (fun d e => d.insert e.1 e.2) empty

@[ext] theorem ext {a b : Dictionary α} (h : a.entries = b.entries) : a = b := by
  cases a; cases b; cases h; rfl

instance [DecidableEq α] : DecidableEq (Dictionary α) := fun a b =>
  if h : a.entries = b.entries then isTrue (ext h) else isFalse fun e => h (e ▸ rfl)

instance [Repr α] : Repr (Dictionary α) := ⟨fun d n => reprPrec d.entries n⟩

/-! ## Look-up after a change -/

theorem lookup_place (key other : String) (value : α) (entries : List (String × α)) :
    lookup other (place key value entries) =
      if other = key then some value else lookup other entries := by
  induction entries with
  | nil => simp [place, lookup, eq_comm]
  | cons x rest ih =>
    obtain ⟨k, v⟩ := x
    simp only [place]
    split
    · simp [lookup, eq_comm]
    · split
      · rename_i heq
        subst heq
        by_cases h : key = other <;> simp [lookup, h, eq_comm]
      · rename_i hne
        by_cases h : k = other
        · subst h
          simp [lookup, Ne.symm hne]
        · simp [lookup, h, ih]

theorem lookup_remove (key other : String) (entries : List (String × α)) :
    lookup other (remove key entries) = if other = key then none else lookup other entries := by
  induction entries with
  | nil => simp [remove, lookup]
  | cons x rest ih =>
    obtain ⟨k, v⟩ := x
    simp only [remove] at ih ⊢
    by_cases hk : k = key
    · subst hk
      by_cases h : other = k
      · simp_all
      · simp_all [lookup, eq_comm]
    · by_cases h : k = other
      · subst h
        simp [lookup, hk]
      · simpa [lookup, hk, h] using ih

@[simp] theorem get?_empty (key : String) : (empty : Dictionary α).get? key = none := rfl

@[simp] theorem get?_insert (d : Dictionary α) (key other : String) (value : α) :
    (d.insert key value).get? other = if other = key then some value else d.get? other :=
  lookup_place key other value d.entries

@[simp] theorem get?_erase (d : Dictionary α) (key other : String) :
    (d.erase key).get? other = if other = key then none else d.get? other :=
  lookup_remove key other d.entries

end Dictionary

end WorkloadAuth
