/-!
# Dictionaries

A dictionary maps strings to values.  Its entries stand in strictly ascending
order of their keys, by code points, which is also the order of their UTF-8
bytes.  So a dictionary is determined by its look-ups, and lists its entries in
the order in which reports show them.
-/

namespace WebCompat

structure Dictionary (α : Type) where
  entries : List (String × α)
  ascending : entries.Pairwise fun a b => a.1 < b.1

namespace Dictionary

variable {α β : Type}

def empty : Dictionary α where
  entries := []
  ascending := List.Pairwise.nil

instance : EmptyCollection (Dictionary α) := ⟨empty⟩

instance : Inhabited (Dictionary α) := ⟨empty⟩

/-!
# Entries in ascending order

An entry goes to the one place that keeps the keys ascending.
-/

/-- Puts an entry in its place, instead of the one with its key if there is one. -/
def insertEntry (key : String) (value : α) : List (String × α) → List (String × α)
  | [] => [(key, value)]
  | entry :: rest =>
      if key < entry.1 then (key, value) :: entry :: rest
      else if entry.1 < key then entry :: insertEntry key value rest
      else (key, value) :: rest

theorem mem_insertEntry {key : String} {value : α} {entries : List (String × α)}
    {entry : String × α} (h : entry ∈ insertEntry key value entries) :
    entry = (key, value) ∨ entry ∈ entries := by
  induction entries with
  | nil =>
      simpa [insertEntry] using h
  | cons first rest ih =>
      simp only [insertEntry] at h
      split at h
      · simpa using h
      · split at h
        · rcases List.mem_cons.1 h with h | h
          · exact Or.inr (by simp [h])
          · exact (ih h).imp_right fun h => by simp [h]
        · rcases List.mem_cons.1 h with h | h
          · exact Or.inl h
          · exact Or.inr (by simp [h])

theorem ascending_insertEntry (key : String) (value : α) {entries : List (String × α)}
    (h : entries.Pairwise fun a b => a.1 < b.1) :
    (insertEntry key value entries).Pairwise fun a b => a.1 < b.1 := by
  induction entries with
  | nil =>
      simp [insertEntry]
  | cons first rest ih =>
      have hfirst : ∀ {entry}, entry ∈ rest → first.1 < entry.1 :=
        fun hentry => List.rel_of_pairwise_cons h hentry
      simp only [insertEntry]
      split
      · rename_i hlt
        refine List.Pairwise.cons ?_ h
        intro entry hentry
        rcases List.mem_cons.1 hentry with rfl | hentry
        · exact hlt
        · exact String.lt_trans hlt (hfirst hentry)
      · split
        · rename_i hlt
          refine List.Pairwise.cons ?_ (ih h.of_cons)
          intro entry hentry
          rcases mem_insertEntry hentry with rfl | hentry
          · exact hlt
          · exact hfirst hentry
        · rename_i hge hle
          have heq : key = first.1 :=
            String.le_antisymm (String.not_lt.1 hle) (String.not_lt.1 hge)
          refine List.Pairwise.cons ?_ h.of_cons
          intro entry hentry
          exact heq ▸ hfirst hentry

/-! # Changes and look-ups -/

def insert (key : String) (value : α) (dictionary : Dictionary α) : Dictionary α where
  entries := insertEntry key value dictionary.entries
  ascending := ascending_insertEntry key value dictionary.ascending

def erase (key : String) (dictionary : Dictionary α) : Dictionary α where
  entries := dictionary.entries.filter fun entry => entry.1 != key
  ascending := dictionary.ascending.filter _

def get? (dictionary : Dictionary α) (key : String) : Option α :=
  dictionary.entries.lookup key

def contains (dictionary : Dictionary α) (key : String) : Bool :=
  (dictionary.get? key).isSome

def keys (dictionary : Dictionary α) : List String :=
  dictionary.entries.map Prod.fst

def values (dictionary : Dictionary α) : List α :=
  dictionary.entries.map Prod.snd

def size (dictionary : Dictionary α) : Nat :=
  dictionary.entries.length

def isEmpty (dictionary : Dictionary α) : Bool :=
  dictionary.entries.isEmpty

def insertMany (dictionary : Dictionary α) (entries : List (String × α)) : Dictionary α :=
  entries.foldl (fun built entry => built.insert entry.1 entry.2) dictionary

/-- The dictionary of the given entries; of several entries of one key the last one counts. -/
def ofList (entries : List (String × α)) : Dictionary α :=
  empty.insertMany entries

/-!
# Look-ups after a change

An entry that was put in its place answers for its own key and for no other.
-/

theorem lookup_cons_eq_ite (sought : String) (entry : String × α)
    (entries : List (String × α)) :
    (entry :: entries).lookup sought =
      if sought = entry.1 then some entry.2 else entries.lookup sought := by
  rw [List.lookup_cons]
  by_cases h : sought = entry.1
  · simp [h]
  · have hbeq : (sought == entry.1) = false := by simp [h]
    rw [hbeq, if_neg h]

theorem lookup_insertEntry (key : String) (value : α) (sought : String)
    (entries : List (String × α)) :
    (insertEntry key value entries).lookup sought =
      if sought = key then some value else entries.lookup sought := by
  induction entries with
  | nil =>
      simp only [insertEntry, lookup_cons_eq_ite]
  | cons first rest ih =>
      simp only [insertEntry]
      split
      · exact lookup_cons_eq_ite sought (key, value) (first :: rest)
      · split
        · rename_i hlt
          rw [lookup_cons_eq_ite, lookup_cons_eq_ite, ih]
          by_cases h : sought = first.1
          · have hne : ¬sought = key := fun heq => by
              rw [← h, heq] at hlt
              exact String.lt_irrefl key hlt
            rw [if_pos h, if_neg hne, if_pos h]
          · rw [if_neg h, if_neg h]
        · rename_i hge hle
          have heq : key = first.1 :=
            String.le_antisymm (String.not_lt.1 hle) (String.not_lt.1 hge)
          rw [lookup_cons_eq_ite, lookup_cons_eq_ite, ← heq]
          by_cases h : sought = key
          · rw [if_pos h, if_pos h]
          · rw [if_neg h, if_neg h, if_neg h]

@[simp]
theorem get?_insert (dictionary : Dictionary α) (key : String) (value : α)
    (sought : String) :
    (dictionary.insert key value).get? sought =
      if sought = key then some value else dictionary.get? sought :=
  lookup_insertEntry key value sought dictionary.entries

@[simp]
theorem get?_empty (key : String) : (empty : Dictionary α).get? key = none :=
  rfl

end Dictionary
end WebCompat
