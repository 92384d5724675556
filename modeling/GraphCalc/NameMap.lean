/-!
# Tables by name

A finite table from names to values, kept in ascending order of names, code point by code point, and
without repetition. The order makes the representation canonical: `NameMap.ext` says that two tables
that answer every look-up alike are equal. `find?_insert`, `find?_erase` and `find?_empty` say what each
operation does to look-ups; the other lemmas follow the listing of names.

A set of names is a table without values.
-/

namespace GraphCalc

/-- A table in ascending order of names. -/
structure NameMap (α : Type) where
  entries : List (String × α)
  ascending : entries.Pairwise (fun a b => a.1 < b.1)

namespace NameMap

variable {α : Type}

/-- The entries with one added or replaced, in order. -/
def insertEntry (name : String) (value : α) : List (String × α) → List (String × α)
  | [] => [(name, value)]
  | entry :: rest =>
    if name < entry.1 then (name, value) :: entry :: rest
    else if name = entry.1 then (name, value) :: rest
    else entry :: insertEntry name value rest

theorem mem_insertEntry {name : String} {value : α} {entry : String × α}
    {entries : List (String × α)} (h : entry ∈ insertEntry name value entries) :
    entry = (name, value) ∨ entry ∈ entries := by
  induction entries with
  | nil => simpa [insertEntry] using h
  | cons head rest ih =>
    simp only [insertEntry] at h
    split at h
    · simpa using h
    · split at h
      · rcases List.mem_cons.mp h with same | tail
        · exact .inl same
        · exact .inr (List.mem_cons_of_mem _ tail)
      · rcases List.mem_cons.mp h with same | tail
        · exact .inr (by simp [same])
        · rcases ih tail with fresh | old
          · exact .inl fresh
          · exact .inr (List.mem_cons_of_mem _ old)

theorem ascending_insertEntry (name : String) (value : α) {entries : List (String × α)}
    (h : entries.Pairwise (fun a b => a.1 < b.1)) :
    (insertEntry name value entries).Pairwise (fun a b => a.1 < b.1) := by
  induction entries with
  | nil => simp [insertEntry]
  | cons head rest ih =>
    obtain ⟨below, tail⟩ := List.pairwise_cons.mp h
    simp only [insertEntry]
    split
    · rename_i less
      refine List.pairwise_cons.mpr ⟨fun entry member => ?_, h⟩
      rcases List.mem_cons.mp member with same | later
      · exact same ▸ less
      · exact String.lt_trans less (below entry later)
    · rename_i notLess
      split
      · rename_i same
        exact List.pairwise_cons.mpr ⟨fun entry member => same ▸ below entry member, tail⟩
      · rename_i different
        refine List.pairwise_cons.mpr ⟨fun entry member => ?_, ih tail⟩
        rcases mem_insertEntry member with fresh | old
        · exact fresh ▸ Std.lt_of_le_of_ne (String.not_lt.mp notLess) (Ne.symm different)
        · exact below entry old

/-- The value beside the first occurrence of a name. -/
def lookupEntry (name : String) : List (String × α) → Option α
  | [] => none
  | entry :: rest => if name = entry.1 then some entry.2 else lookupEntry name rest

def empty : NameMap α := ⟨[], .nil⟩

instance : EmptyCollection (NameMap α) := ⟨empty⟩

/-- The value that a table gives to a name. -/
def find? (t : NameMap α) (name : String) : Option α := lookupEntry name t.entries

/-- The table that gives one name a new value and treats all others as before. -/
def insert (t : NameMap α) (name : String) (value : α) : NameMap α :=
  ⟨insertEntry name value t.entries, ascending_insertEntry name value t.ascending⟩

/-- The table without one name. -/
def erase (t : NameMap α) (name : String) : NameMap α :=
  ⟨t.entries.filter (·.1 ≠ name), t.ascending.filter _⟩

def contains (t : NameMap α) (name : String) : Bool := (t.find? name).isSome

/-- The names of a table in ascending order. -/
def names (t : NameMap α) : List String := t.entries.map (·.1)

def size (t : NameMap α) : Nat := t.entries.length

/-- The table of a list of pairs, of which a later one wins. -/
def ofList (pairs : List (String × α)) : NameMap α :=
  pairs.foldl (fun t pair => t.insert pair.1 pair.2) ∅

/-- The entries of both tables; where both have a name, the second one's. -/
def union (s t : NameMap α) : NameMap α :=
  t.entries.foldl (fun s entry => s.insert entry.1 entry.2) s

instance : Union (NameMap α) := ⟨union⟩

@[simp] theorem find?_empty (name : String) : (∅ : NameMap α).find? name = none := rfl

theorem lookupEntry_insertEntry (name other : String) (value : α) (entries : List (String × α)) :
    lookupEntry other (insertEntry name value entries) =
      if other = name then some value else lookupEntry other entries := by
  induction entries with
  | nil => rfl
  | cons head rest ih =>
    simp only [insertEntry]
    split
    · rfl
    · split
      · rename_i same
        simp only [lookupEntry, same]
        split <;> rfl
      · rename_i different
        simp only [lookupEntry, ih]
        split
        · rename_i same
          rw [if_neg (same ▸ Ne.symm different)]
        · rfl

theorem find?_insert (t : NameMap α) (name other : String) (value : α) :
    (t.insert name value).find? other = if other = name then some value else t.find? other :=
  lookupEntry_insertEntry name other value t.entries

theorem find?_erase (t : NameMap α) (name other : String) :
    (t.erase name).find? other = if other = name then none else t.find? other := by
  simp only [find?, erase]
  induction t.entries with
  | nil => simp [lookupEntry]
  | cons head rest ih =>
    by_cases erased : head.1 = name
    · simp only [erased, ne_eq, not_true_eq_false, decide_false, Bool.false_eq_true,
        not_false_eq_true, List.filter_cons_of_neg, lookupEntry]
      rw [ih]
      split <;> rfl
    · simp only [erased, ne_eq, not_false_eq_true, decide_true, List.filter_cons_of_pos,
        lookupEntry, ih]
      split
      · rename_i same
        rw [if_neg (same ▸ erased)]
      · rfl

theorem lookupEntry_eq_none_iff {name : String} {entries : List (String × α)} :
    lookupEntry name entries = none ↔ name ∉ entries.map (·.1) := by
  induction entries with
  | nil => simp [lookupEntry]
  | cons head rest ih => by_cases same : name = head.1 <;> simp [lookupEntry, same, ih]

theorem lookupEntry_eq_none_of_lt {name : String} {entries : List (String × α)}
    (below : ∀ entry ∈ entries, name < entry.1) : lookupEntry name entries = none := by
  rw [lookupEntry_eq_none_iff]
  intro member
  obtain ⟨entry, listed, same⟩ := List.mem_map.mp member
  exact String.lt_irrefl _ (same ▸ below entry listed)

/-- A table lists exactly the names that it gives a value to. -/
theorem find?_eq_none_iff {t : NameMap α} {name : String} :
    t.find? name = none ↔ name ∉ t.names :=
  lookupEntry_eq_none_iff

theorem names_ascending (t : NameMap α) : t.names.Pairwise (· < ·) :=
  List.pairwise_map.mpr t.ascending

theorem find?_foldl_insert {entries : List (String × α)}
    (ascending : entries.Pairwise (fun a b => a.1 < b.1)) (s : NameMap α) (name : String) :
    (entries.foldl (fun s entry => s.insert entry.1 entry.2) s).find? name =
      (lookupEntry name entries).or (s.find? name) := by
  induction entries generalizing s with
  | nil => rfl
  | cons head rest ih =>
    obtain ⟨below, tail⟩ := List.pairwise_cons.mp ascending
    rw [List.foldl_cons, ih tail, find?_insert, lookupEntry]
    split
    · rename_i same
      rw [lookupEntry_eq_none_of_lt (same ▸ below)]
      rfl
    · rfl

theorem find?_union (s t : NameMap α) (name : String) :
    (s ∪ t).find? name = (t.find? name).or (s.find? name) :=
  find?_foldl_insert t.ascending s name

theorem entries_eq_of_lookup {s t : List (String × α)}
    (hs : s.Pairwise (fun a b => a.1 < b.1)) (ht : t.Pairwise (fun a b => a.1 < b.1))
    (h : ∀ name, lookupEntry name s = lookupEntry name t) : s = t := by
  induction s generalizing t with
  | nil =>
    cases t with
    | nil => rfl
    | cons head rest => simpa [lookupEntry] using h head.1
  | cons first others ih =>
    cases t with
    | nil => simpa [lookupEntry] using h first.1
    | cons head rest =>
      obtain ⟨belowFirst, othersAscend⟩ := List.pairwise_cons.mp hs
      obtain ⟨belowHead, restAscend⟩ := List.pairwise_cons.mp ht
      have names : first.1 = head.1 := by
        apply Classical.byContradiction
        intro different
        by_cases less : first.1 < head.1
        · have missing : lookupEntry first.1 (head :: rest) = none :=
            lookupEntry_eq_none_of_lt fun entry member => by
            rcases List.mem_cons.mp member with same | later
            · exact same ▸ less
            · exact String.lt_trans less (belowHead entry later)
          rw [← h] at missing
          simp [lookupEntry] at missing
        · have greater : head.1 < first.1 :=
            Std.lt_of_le_of_ne (String.not_lt.mp less) (Ne.symm different)
          have missing : lookupEntry head.1 (first :: others) = none :=
            lookupEntry_eq_none_of_lt fun entry member => by
            rcases List.mem_cons.mp member with same | later
            · exact same ▸ greater
            · exact String.lt_trans greater (belowFirst entry later)
          rw [h] at missing
          simp [lookupEntry] at missing
      have values : first.2 = head.2 := by simpa [lookupEntry, names] using h first.1
      have tails : others = rest := by
        refine ih othersAscend restAscend fun name => ?_
        by_cases same : name = head.1
        · subst same
          rw [lookupEntry_eq_none_of_lt belowHead, lookupEntry_eq_none_of_lt (names ▸ belowFirst)]
        · have := h name
          simpa [lookupEntry, names, same] using this
      rw [tails, show first = head from Prod.ext names values]

/-- Tables that answer every look-up alike are equal. -/
@[ext] theorem ext {s t : NameMap α} (h : ∀ name, s.find? name = t.find? name) : s = t := by
  have := entries_eq_of_lookup s.ascending t.ascending h
  cases s; cases t; cases this; rfl

/-- The last of several values for one name counts. -/
theorem insert_insert (t : NameMap α) (name : String) (older newer : α) :
    (t.insert name older).insert name newer = t.insert name newer := by
  refine ext fun other => ?_
  simp only [find?_insert]
  split <;> rfl

end NameMap

/-- A finite set of names, in ascending order. -/
abbrev NameSet := NameMap Unit

namespace NameSet

def singleton (name : String) : NameSet := NameMap.insert ∅ name ()

instance : Membership String NameSet := ⟨fun s name => s.find? name = some ()⟩

theorem mem_iff {s : NameSet} {name : String} : name ∈ s ↔ s.find? name = some () := Iff.rfl

@[simp] theorem mem_singleton {name other : String} : other ∈ singleton name ↔ other = name := by
  by_cases same : other = name <;> simp [mem_iff, singleton, NameMap.find?_insert, same]

@[simp] theorem not_mem_empty (name : String) : name ∉ (∅ : NameSet) := nofun

@[simp] theorem mem_union {s t : NameSet} {name : String} :
    name ∈ s ∪ t ↔ name ∈ s ∨ name ∈ t := by
  simp only [mem_iff, NameMap.find?_union]
  cases t.find? name <;> simp

@[simp] theorem mem_erase {s : NameSet} {name other : String} :
    other ∈ s.erase name ↔ other ∈ s ∧ other ≠ name := by
  simp only [mem_iff, NameMap.find?_erase]
  by_cases same : other = name <;> simp [same]

theorem mem_foldl_union {α : Type} (f : α → NameSet) (items : List α) (start : NameSet)
    {name : String} :
    name ∈ items.foldl (fun names a => names ∪ f a) start ↔
      name ∈ start ∨ ∃ a ∈ items, name ∈ f a := by
  induction items generalizing start with
  | nil => simp
  | cons a items ih => simp [ih, or_assoc]

theorem mem_names {s : NameSet} {name : String} : name ∈ s.names ↔ name ∈ s := by
  have listed : s.find? name = none ↔ name ∉ s.names := NameMap.find?_eq_none_iff
  simp only [mem_iff]
  cases h : s.find? name <;> simp_all

/-- Sets with the same members are equal. -/
theorem ext {s t : NameSet} (h : ∀ name, name ∈ s ↔ name ∈ t) : s = t := by
  refine NameMap.ext fun name => ?_
  have := h name
  simp only [mem_iff] at this
  cases hs : s.find? name <;> cases ht : t.find? name <;> simp_all

end NameSet

end GraphCalc
