import NodeBridge.Decode.Field

/-!
What a successful reading tells about what was read: each step of it succeeded, and each
entry of a map was read from some value.
-/

namespace NodeBridge

theorem bind_eq_ok {ε α β : Type} {first : Except ε α} {next : α → Except ε β} {value : β} :
    (first >>= next) = .ok value ↔ ∃ middle, first = .ok middle ∧ next middle = .ok value := by
  cases first with
  | error error => simp [bind, Except.bind]
  | ok middle => simp [bind, Except.bind]

theorem map_eq_ok {ε α β : Type} {first : Except ε α} {change : α → β} {value : β} :
    first.map change = .ok value ↔ ∃ middle, first = .ok middle ∧ change middle = value := by
  cases first with
  | error error => simp [Except.map]
  | ok middle => simp [Except.map]

theorem map_eq_error {ε α β : Type} {first : Except ε α} {change : α → β} {error : ε} :
    first.map change = .error error ↔ first = .error error := by
  cases first <;> simp [Except.map]

theorem exists_of_is_ok {ε α : Type} {outcome : Except ε α} (succeeds : outcome.isOk = true) :
    ∃ value, outcome = .ok value := by
  cases outcome with
  | error error => cases succeeds
  | ok value => exact ⟨value, rfl⟩

theorem mem_put_entry {κ α : Type} [DecidableEq κ] {key : κ} {value : α} {entry : κ × α}
    {entries : List (κ × α)} (member : entry ∈ putEntry key value entries) :
    entry = (key, value) ∨ entry ∈ entries := by
  induction entries with
  | nil => exact .inl (List.mem_singleton.mp member)
  | cons head entries induction =>
      unfold putEntry at member
      split at member
      · rcases List.mem_cons.mp member with same | rest
        · exact .inl same
        · exact .inr (List.mem_cons_of_mem _ rest)
      · rcases List.mem_cons.mp member with same | rest
        · exact .inr (same ▸ List.mem_cons_self)
        · rcases induction rest with written | there
          · exact .inl written
          · exact .inr (List.mem_cons_of_mem _ there)

theorem OrderedMap.mem_of_list {κ α : Type} [DecidableEq κ] {entries : List (κ × α)}
    {entry : κ × α} (member : entry ∈ (OrderedMap.ofList entries).entries) : entry ∈ entries := by
  have general : ∀ (entries : List (κ × α)) (start : OrderedMap κ α),
      entry ∈ (entries.foldl (fun map entry => map.insert entry.1 entry.2) start).entries →
        entry ∈ entries ∨ entry ∈ start.entries := by
    intro entries
    induction entries with
    | nil =>
        intro start there
        exact .inr there
    | cons head entries induction =>
        intro start there
        rcases induction _ there with rest | inserted
        · exact .inl (List.mem_cons_of_mem _ rest)
        · rcases mem_put_entry inserted with same | before
          · exact .inl (same ▸ List.mem_cons_self)
          · exact .inr before
  rcases general entries empty member with there | nowhere
  · exact there
  · cases nowhere

theorem Decode.of_mem_entries {α : Type} {read : String → Json → Decoded α} {fields : Fields}
    {values : List (String × α)} (reads : entries read fields = .ok values)
    {entry : String × α} (member : entry ∈ values) :
    ∃ json, read entry.1 json = .ok entry.2 := by
  induction fields generalizing values with
  | nil =>
      cases reads
      cases member
  | cons field fields induction =>
      simp only [entries, bind_eq_ok] at reads
      obtain ⟨value, first, rest, others, same⟩ := reads
      cases same
      rcases List.mem_cons.mp member with rfl | there
      · exact ⟨field.2, first⟩
      · exact induction others there

theorem Decode.of_mem_map {α : Type} {what : String} {read : String → Json → Decoded α}
    {json : Json} {map : OrderedMap String α} (reads : Decode.map what read json = .ok map)
    {entry : String × α} (member : entry ∈ map.entries) :
    ∃ json, read entry.1 json = .ok entry.2 := by
  simp only [Decode.map, bind_eq_ok] at reads
  obtain ⟨fields, -, values, listed, same⟩ := reads
  cases same
  exact of_mem_entries listed (OrderedMap.mem_of_list member)

theorem Decode.of_mem_each {α : Type} {read : Json → Decoded α} {items : List Json}
    {values : List α} (reads : each read items = .ok values) {value : α}
    (member : value ∈ values) : ∃ json, read json = .ok value := by
  induction items generalizing values with
  | nil =>
      cases reads
      cases member
  | cons item items induction =>
      simp only [each, bind_eq_ok] at reads
      obtain ⟨head, first, rest, others, same⟩ := reads
      cases same
      rcases List.mem_cons.mp member with rfl | there
      · exact ⟨item, first⟩
      · exact induction others there

theorem Decode.of_mem_list_of {α : Type} {what : String} {read : Json → Decoded α} {json : Json}
    {values : List α} (reads : listOf what read json = .ok values) {value : α}
    (member : value ∈ values) : ∃ json, read json = .ok value := by
  simp only [listOf, bind_eq_ok] at reads
  obtain ⟨items, -, listed⟩ := reads
  exact of_mem_each listed member

theorem Decode.of_optional {α : Type} {read : Json → Decoded α} {json : Json} {value : α}
    (reads : optional read json = .ok (some value)) : read json = .ok value := by
  unfold optional at reads
  split at reads
  · cases reads
  · rw [map_eq_ok] at reads
    obtain ⟨other, found, same⟩ := reads
    rw [found, Option.some.inj same]

end NodeBridge
