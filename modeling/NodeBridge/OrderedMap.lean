/-!
Finite maps that remember the order in which their keys came. Writing to a key that is
already there changes its value and keeps its place; a new key goes to the end.
-/

namespace NodeBridge

/-- Writes one entry of an association list. -/
def putEntry {κ α : Type} [DecidableEq κ] (key : κ) (value : α) : List (κ × α) → List (κ × α)
  | [] => [(key, value)]
  | entry :: rest =>
      if entry.1 = key then (key, value) :: rest else entry :: putEntry key value rest

section Entries

variable {κ α β : Type} [DecidableEq κ]

theorem keys_put_entry (key : κ) (value : α) (entries : List (κ × α)) :
    (putEntry key value entries).map Prod.fst =
      if key ∈ entries.map Prod.fst then entries.map Prod.fst
      else entries.map Prod.fst ++ [key] := by
  induction entries with
  | nil => simp [putEntry]
  | cons entry rest induction =>
      by_cases same : entry.1 = key
      · simp [putEntry, same]
      · have different : ¬key = entry.1 := fun equal => same equal.symm
        by_cases member : key ∈ rest.map Prod.fst
        · simp only [List.mem_map] at member
          simp_all [putEntry]
        · simp_all [putEntry]

theorem nodup_put_entry (key : κ) (value : α) {entries : List (κ × α)}
    (distinct : (entries.map Prod.fst).Nodup) :
    ((putEntry key value entries).map Prod.fst).Nodup := by
  rw [keys_put_entry]
  split
  · exact distinct
  · next absent =>
      rw [List.nodup_append]
      refine ⟨distinct, by simp, ?_⟩
      intro left member right single same
      rw [List.mem_singleton] at single
      exact absent (single ▸ same ▸ member)

theorem lookup_cons_entry [BEq κ] [LawfulBEq κ] (key : κ) (entry : κ × α)
    (rest : List (κ × α)) :
    (entry :: rest).lookup key = if key = entry.1 then some entry.2 else rest.lookup key := by
  obtain ⟨name, value⟩ := entry
  by_cases same : key = name
  · simp [same]
  · have different : (key == name) = false := by simp [same]
    simp [List.lookup_cons, different, same]

theorem lookup_put_entry (key other : κ) (value : α) (entries : List (κ × α)) :
    (putEntry key value entries).lookup other =
      if other = key then some value else entries.lookup other := by
  induction entries with
  | nil => simp [putEntry, lookup_cons_entry]
  | cons entry rest induction =>
      by_cases same : entry.1 = key
      · subst same
        by_cases found : other = entry.1 <;> simp [putEntry, lookup_cons_entry, found]
      · by_cases found : other = entry.1
        · simp [putEntry, lookup_cons_entry, same, found]
        · simp [putEntry, lookup_cons_entry, same, found, induction]

theorem lookup_eq_some_iff_mem [BEq κ] [LawfulBEq κ] {entries : List (κ × α)}
    (distinct : (entries.map Prod.fst).Nodup) (key : κ) (value : α) :
    entries.lookup key = some value ↔ (key, value) ∈ entries := by
  induction entries with
  | nil => simp
  | cons entry rest induction =>
      obtain ⟨name, held⟩ := entry
      rw [List.map_cons, List.nodup_cons] at distinct
      rw [lookup_cons_entry, List.mem_cons, Prod.mk.injEq]
      by_cases same : key = name
      · subst same
        have absent : (key, value) ∉ rest := by
          intro member
          have named := List.mem_map_of_mem (f := Prod.fst) member
          exact distinct.1 named
        rw [if_pos rfl, Option.some.injEq, or_iff_left absent, eq_self, true_and]
        exact eq_comm
      · rw [if_neg same, induction distinct.2]
        simp [same]

theorem put_entry_of_not_mem (key : κ) (value : α) {entries : List (κ × α)}
    (absent : key ∉ entries.map Prod.fst) :
    putEntry key value entries = entries ++ [(key, value)] := by
  induction entries with
  | nil => rfl
  | cons entry rest induction =>
      simp only [List.map_cons, List.mem_cons, not_or] at absent
      have different : ¬entry.1 = key := fun equal => absent.1 equal.symm
      simp [putEntry, different, induction absent.2]

omit [DecidableEq κ] in
/-- A key that comes after others is none of them. -/
theorem not_mem_of_nodup_append {front rest : List (κ × α)} {entry : κ × α}
    (distinct : ((front ++ entry :: rest).map Prod.fst).Nodup) :
    entry.1 ∉ front.map Prod.fst := by
  rw [List.map_append, List.nodup_append] at distinct
  intro member
  exact distinct.2.2 entry.1 member entry.1 (by simp) rfl

theorem put_entry_put_entry (key : κ) (first second : α) (entries : List (κ × α)) :
    putEntry key second (putEntry key first entries) = putEntry key second entries := by
  induction entries with
  | nil => simp [putEntry]
  | cons entry rest induction =>
      by_cases same : entry.1 = key
      · simp [putEntry, same]
      · simp [putEntry, same, induction]

theorem map_put_entry (change : α → β) (key : κ) (value : α) (entries : List (κ × α)) :
    (putEntry key value entries).map (fun entry => (entry.1, change entry.2)) =
      putEntry key (change value) (entries.map fun entry => (entry.1, change entry.2)) := by
  induction entries with
  | nil => rfl
  | cons entry rest induction =>
      by_cases same : entry.1 = key
      · simp [putEntry, same]
      · simp [putEntry, same, induction]

theorem lookup_map_values [BEq κ] [LawfulBEq κ] (change : α → β) (key : κ)
    (entries : List (κ × α)) :
    (entries.map fun entry => (entry.1, change entry.2)).lookup key =
      (entries.lookup key).map change := by
  induction entries with
  | nil => rfl
  | cons entry rest induction =>
      rw [List.map_cons, lookup_cons_entry, lookup_cons_entry, induction]
      split <;> rfl

/-- Where two readings of the entries differ under one key only, the second is a writing of that
key into the first. -/
theorem map_eq_put_entry [BEq κ] [LawfulBEq κ] {change other : α → β} {key : κ} {value : α}
    {entries : List (κ × α)} (distinct : (entries.map Prod.fst).Nodup)
    (found : entries.lookup key = some value)
    (same : ∀ entry ∈ entries, entry.1 ≠ key → other entry.2 = change entry.2) :
    entries.map (fun entry => (entry.1, other entry.2)) =
      putEntry key (other value) (entries.map fun entry => (entry.1, change entry.2)) := by
  induction entries with
  | nil => cases found
  | cons entry rest induction =>
      rw [List.map_cons, List.nodup_cons] at distinct
      rw [lookup_cons_entry] at found
      by_cases named : entry.1 = key
      · rw [if_pos named.symm, Option.some.injEq] at found
        have others : rest.map (fun entry => (entry.1, other entry.2)) =
            rest.map fun entry => (entry.1, change entry.2) := by
          apply List.map_congr_left
          intro later member
          have different : later.1 ≠ key := by
            rw [← named]
            intro equal
            exact distinct.1 (equal ▸ List.mem_map_of_mem member)
          rw [same later (List.mem_cons_of_mem _ member) different]
        simp [putEntry, named, found, others]
      · rw [if_neg fun equal => named equal.symm] at found
        have tail := induction distinct.2 found fun later member =>
          same later (List.mem_cons_of_mem _ member)
        simp [putEntry, named, tail, same entry List.mem_cons_self named]

end Entries

/-- A finite map in the order of its keys' first writing. -/
structure OrderedMap (κ α : Type) where
  entries : List (κ × α)
  distinct : (entries.map Prod.fst).Nodup
deriving DecidableEq

namespace OrderedMap

variable {κ α β : Type}

theorem ext_entries {left right : OrderedMap κ α} (same : left.entries = right.entries) :
    left = right := by
  cases left
  cases right
  cases same
  rfl

def empty : OrderedMap κ α := ⟨[], List.nodup_nil⟩

instance : Inhabited (OrderedMap κ α) := ⟨empty⟩

def keys (map : OrderedMap κ α) : List κ := map.entries.map Prod.fst

def values (map : OrderedMap κ α) : List α := map.entries.map Prod.snd

def size (map : OrderedMap κ α) : Nat := map.entries.length

def isEmpty (map : OrderedMap κ α) : Bool := map.entries.isEmpty

variable [DecidableEq κ]

def find? (map : OrderedMap κ α) (key : κ) : Option α := map.entries.lookup key

def contains (map : OrderedMap κ α) (key : κ) : Bool := (map.find? key).isSome

def insert (map : OrderedMap κ α) (key : κ) (value : α) : OrderedMap κ α :=
  ⟨putEntry key value map.entries, nodup_put_entry key value map.distinct⟩

/-- The map of all entries, written one after the other. -/
def ofList (entries : List (κ × α)) : OrderedMap κ α :=
  entries.foldl (fun map entry => map.insert entry.1 entry.2) empty

omit [DecidableEq κ] in
theorem nodup_map_values (change : κ → α → β) (map : OrderedMap κ α) :
    ((map.entries.map fun entry => (entry.1, change entry.1 entry.2)).map Prod.fst).Nodup := by
  rw [List.map_map]
  exact map.distinct

/-- The same keys with other values. -/
def map (change : α → β) (source : OrderedMap κ α) : OrderedMap κ β :=
  ⟨source.entries.map fun entry => (entry.1, change entry.2),
    nodup_map_values (fun _ value => change value) source⟩

omit [DecidableEq κ] in
theorem nodup_filter (keep : κ × α → Bool) (map : OrderedMap κ α) :
    ((map.entries.filter keep).map Prod.fst).Nodup :=
  map.distinct.sublist (List.filter_sublist.map Prod.fst)

/-- The entries that pass a test, in their order. -/
def filter (keep : κ → α → Bool) (source : OrderedMap κ α) : OrderedMap κ α :=
  ⟨source.entries.filter fun entry => keep entry.1 entry.2,
    nodup_filter (fun entry => keep entry.1 entry.2) source⟩

/-- Maps that hold the same values, in whatever order their keys came. -/
def Same (left right : OrderedMap κ α) : Prop := ∀ key, left.find? key = right.find? key

theorem Same.refl (map : OrderedMap κ α) : map.Same map := fun _ => rfl

theorem find_eq_some_iff (map : OrderedMap κ α) (key : κ) (value : α) :
    map.find? key = some value ↔ (key, value) ∈ map.entries :=
  lookup_eq_some_iff_mem map.distinct key value

theorem same_of_mem_iff {left right : OrderedMap κ α}
    (members : ∀ key value, (key, value) ∈ left.entries ↔ (key, value) ∈ right.entries) :
    left.Same right := by
  intro key
  apply Option.ext
  intro value
  rw [find_eq_some_iff, find_eq_some_iff]
  exact members key value

theorem find_insert (map : OrderedMap κ α) (key other : κ) (value : α) :
    (map.insert key value).find? other = if other = key then some value else map.find? other :=
  lookup_put_entry key other value map.entries

theorem find_empty (key : κ) : (empty : OrderedMap κ α).find? key = none := rfl

theorem foldl_insert_entries (entries : List (κ × α)) (start : OrderedMap κ α)
    (distinct : ((start.entries ++ entries).map Prod.fst).Nodup) :
    (entries.foldl (fun map entry => map.insert entry.1 entry.2) start).entries =
      start.entries ++ entries := by
  induction entries generalizing start with
  | nil => simp
  | cons entry rest induction =>
      have absent : entry.1 ∉ start.entries.map Prod.fst := not_mem_of_nodup_append distinct
      have inserted : (start.insert entry.1 entry.2).entries = start.entries ++ [entry] :=
        put_entry_of_not_mem entry.1 entry.2 absent
      rw [List.foldl_cons, induction _ (by rw [inserted]; simpa using distinct), inserted]
      simp

theorem entries_of_list {entries : List (κ × α)} (distinct : (entries.map Prod.fst).Nodup) :
    (ofList entries).entries = entries := by
  simpa [ofList, empty] using foldl_insert_entries entries empty (by simpa [empty] using distinct)

theorem of_list_entries (map : OrderedMap κ α) : ofList map.entries = map :=
  ext_entries (entries_of_list map.distinct)

theorem insert_insert (map : OrderedMap κ α) (key : κ) (first second : α) :
    (map.insert key first).insert key second = map.insert key second :=
  ext_entries (put_entry_put_entry key first second map.entries)

theorem map_insert (change : α → β) (source : OrderedMap κ α) (key : κ) (value : α) :
    (source.insert key value).map change = (source.map change).insert key (change value) :=
  ext_entries (map_put_entry change key value source.entries)

theorem keys_insert_new {source : OrderedMap κ α} {key : κ} (absent : key ∉ source.keys)
    (value : α) : (source.insert key value).keys = source.keys ++ [key] :=
  (keys_put_entry key value source.entries).trans (if_neg absent)

theorem not_mem_keys_of_find {source : OrderedMap κ α} {key : κ}
    (absent : source.find? key = none) : key ∉ source.keys := by
  intro member
  obtain ⟨entry, held, rfl⟩ := List.mem_map.mp member
  have found := (source.find_eq_some_iff entry.1 entry.2).mpr held
  rw [absent] at found
  cases found

theorem find_map (change : α → β) (source : OrderedMap κ α) (key : κ) :
    (source.map change).find? key = (source.find? key).map change :=
  lookup_map_values change key source.entries

omit [DecidableEq κ] in
theorem map_congr {change other : α → β} {source : OrderedMap κ α}
    (same : ∀ entry ∈ source.entries, change entry.2 = other entry.2) :
    source.map change = source.map other :=
  ext_entries (List.map_congr_left fun entry member => by rw [same entry member])

theorem map_eq_insert {change other : α → β} {source : OrderedMap κ α} {key : κ} {value : α}
    (found : source.find? key = some value)
    (same : ∀ entry ∈ source.entries, entry.1 ≠ key → other entry.2 = change entry.2) :
    source.map other = (source.map change).insert key (other value) :=
  ext_entries (map_eq_put_entry source.distinct found same)

end OrderedMap

end NodeBridge
