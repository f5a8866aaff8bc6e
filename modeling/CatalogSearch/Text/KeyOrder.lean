/-!
# Entries ordered by key

Lists of entries whose keys ascend, so that each key occurs once. Putting in an entry keeps the
order (`KeyOrder.ascends_put`) and replaces an entry with the same key (`KeyOrder.lookup_put`).
-/

namespace CatalogSearch

namespace KeyOrder

variable {α : Type}

/-- Puts an entry where its key belongs, in place of an entry with the same key. -/
def put (key : String) (value : α) : List (String × α) → List (String × α)
  | [] => [(key, value)]
  | (other, present) :: rest =>
      if key < other then (key, value) :: (other, present) :: rest
      else if key = other then (key, value) :: rest
      else (other, present) :: put key value rest

/-- Puts in entries one after the other. -/
def putAll (entries : List (String × α)) (added : List (String × α)) : List (String × α) :=
  added.foldl (fun entries (key, value) => put key value entries) entries

/-- The entries ordered by key, with the last of each key. -/
def sort (entries : List (String × α)) : List (String × α) :=
  putAll [] entries

/-- The keys ascend, so none is repeated. -/
def Ascends (entries : List (String × α)) : Prop :=
  (entries.map Prod.fst).Pairwise (· < ·)

/-- Looking up a key finds the first entry for it. -/
theorem lookup_cons (key name : String) (value : α) (rest : List (String × α)) :
    List.lookup name ((key, value) :: rest) =
      if name = key then some value else rest.lookup name := by
  by_cases same : name = key
  · simp [same]
  · have other : (name == key) = false := by simpa using same
    simp [List.lookup_cons, other, same]

/-- Where keys differ, a key has the value of its only entry. -/
theorem lookup_eq_some_iff {entries : List (String × α)} (distinct : (entries.map Prod.fst).Nodup)
    {key : String} {value : α} : entries.lookup key = some value ↔ (key, value) ∈ entries := by
  induction entries with
  | nil => simp
  | cons entry rest ih =>
      obtain ⟨name, present⟩ := entry
      have ⟨absent, tail⟩ := List.nodup_cons.mp distinct
      rw [lookup_cons]
      by_cases same : key = name
      · subst same
        have later : (key, value) ∉ rest := fun member =>
          absent (List.mem_map.mpr ⟨(key, value), member, rfl⟩)
        simp only [↓reduceIte, Option.some.injEq, List.mem_cons, Prod.mk.injEq, true_and, later,
          or_false]
        exact eq_comm
      · simp only [same, ↓reduceIte, ih tail, List.mem_cons, Prod.mk.injEq, false_and, false_or]

/-- A key that has been put in has the value, and every other key what it had. -/
theorem lookup_put (key name : String) (value : α) (entries : List (String × α)) :
    (put key value entries).lookup name =
      if name = key then some value else entries.lookup name := by
  induction entries with
  | nil => rw [put, lookup_cons]
  | cons entry rest ih =>
      obtain ⟨other, present⟩ := entry
      unfold put
      split
      · rw [lookup_cons]
      · split
        · rename_i replaced
          subst replaced
          rw [lookup_cons, lookup_cons]
          split <;> rfl
        · rename_i kept
          rw [lookup_cons, ih, lookup_cons]
          by_cases asked : name = key
          · rw [if_pos asked, if_pos asked, if_neg fun same => kept (asked.symm.trans same)]
          · rw [if_neg asked, if_neg asked]

/-- A key whose entries are kept has the value that it had, and every other key nothing. -/
theorem lookup_filter (keep : String → Bool) (name : String) (entries : List (String × α)) :
    (entries.filter fun entry => keep entry.1).lookup name =
      if keep name then entries.lookup name else none := by
  induction entries with
  | nil => simp
  | cons entry rest ih =>
      obtain ⟨key, present⟩ := entry
      cases kept : keep key with
      | true =>
          rw [List.filter_cons_of_pos (by exact kept), lookup_cons, ih, lookup_cons]
          by_cases asked : name = key
          · rw [if_pos asked, if_pos asked, asked, if_pos kept]
          · rw [if_neg asked, if_neg asked]
      | false =>
          rw [List.filter_cons_of_neg (by simp [kept]), ih, lookup_cons]
          by_cases asked : name = key
          · rw [asked, if_neg (by simp [kept]), if_neg (by simp [kept])]
          · rw [if_neg asked]

/-- The keys after putting in an entry are the old ones and the new one. -/
theorem mem_keys_put {key name : String} {value : α} {entries : List (String × α)} :
    name ∈ (put key value entries).map Prod.fst ↔
      name = key ∨ name ∈ entries.map Prod.fst := by
  induction entries with
  | nil => simp [put]
  | cons entry rest ih =>
      obtain ⟨other, present⟩ := entry
      unfold put
      split
      · simp
      · split
        · rename_i same
          subst same
          simp
        · simp only [List.map_cons, List.mem_cons, ih]
          grind

/-- Putting in an entry keeps the keys in order. -/
theorem ascends_put {key : String} {value : α} {entries : List (String × α)}
    (ascends : Ascends entries) : Ascends (put key value entries) := by
  induction entries with
  | nil => simp [put, Ascends]
  | cons entry rest ih =>
      obtain ⟨other, present⟩ := entry
      have ⟨above, tail⟩ := List.pairwise_cons.mp ascends
      unfold put
      split
      · rename_i before
        refine List.pairwise_cons.mpr ⟨fun name later => ?_, ascends⟩
        rcases List.mem_cons.mp later with same | later
        · rw [same]
          exact before
        · exact String.lt_trans before (above name later)
      · rename_i notBefore
        split
        · rename_i same
          subst same
          exact ascends
        · rename_i different
          refine List.pairwise_cons.mpr ⟨fun name later => ?_, ih tail⟩
          rcases mem_keys_put.mp later with same | later
          · rw [same]
            have := String.le_total key other
            grind
          · exact above name later

/-- Putting in entries keeps the keys in order. -/
theorem ascends_putAll {entries added : List (String × α)} (ascends : Ascends entries) :
    Ascends (putAll entries added) := by
  induction added generalizing entries with
  | nil => exact ascends
  | cons entry rest ih => exact ih (ascends_put ascends)

/-- Ordered entries have ascending keys. -/
theorem ascends_sort (entries : List (String × α)) : Ascends (sort entries) :=
  ascends_putAll .nil

/-- An entry whose key comes after all others is put at the end. -/
theorem put_of_forall_lt {key : String} {value : α} {entries : List (String × α)}
    (after : ∀ name ∈ entries.map Prod.fst, name < key) :
    put key value entries = entries ++ [(key, value)] := by
  induction entries with
  | nil => rfl
  | cons entry rest ih =>
      obtain ⟨other, present⟩ := entry
      have before : other < key := after other List.mem_cons_self
      have different : key ≠ other := (String.ne_of_lt before).symm
      rw [put, if_neg (String.lt_asymm before), if_neg different,
        ih fun name later => after name (List.mem_cons_of_mem other later), List.cons_append]

/-- Entries that come behind all others are put in at the end. -/
theorem putAll_of_ascends {entries added : List (String × α)}
    (ascends : Ascends (entries ++ added)) : putAll entries added = entries ++ added := by
  induction added generalizing entries with
  | nil => exact (List.append_nil entries).symm
  | cons entry rest ih =>
      obtain ⟨key, value⟩ := entry
      have split : entries ++ (key, value) :: rest = entries ++ [(key, value)] ++ rest := by
        rw [List.append_assoc, List.singleton_append]
      have after : ∀ name ∈ entries.map Prod.fst, name < key := by
        rw [Ascends, List.map_append] at ascends
        exact fun name member =>
          (List.pairwise_append.mp ascends).2.2 name member key List.mem_cons_self
      rw [split] at ascends ⊢
      rw [← ih ascends, ← put_of_forall_lt after]
      rfl

/-- Entries in order stay as they are. -/
theorem sort_of_ascends {entries : List (String × α)} (ascends : Ascends entries) :
    sort entries = entries :=
  putAll_of_ascends ascends

/-- An entry after putting one in is that one or an old one. -/
theorem mem_put {key : String} {value : α} {entry : String × α} {entries : List (String × α)}
    (member : entry ∈ put key value entries) : entry = (key, value) ∨ entry ∈ entries := by
  induction entries with
  | nil => simpa [put] using member
  | cons first rest ih =>
      obtain ⟨other, present⟩ := first
      unfold put at member
      split at member
      · exact List.mem_cons.mp member
      · split at member
        · exact (List.mem_cons.mp member).imp_right (List.mem_cons_of_mem _)
        · rcases List.mem_cons.mp member with same | later
          · exact .inr (List.mem_cons.mpr (.inl same))
          · exact (ih later).imp_right (List.mem_cons_of_mem _)

/-- Every entry of the result was there before or has been put in. -/
theorem mem_putAll {entry : String × α} {entries added : List (String × α)}
    (member : entry ∈ putAll entries added) : entry ∈ entries ∨ entry ∈ added := by
  induction added generalizing entries with
  | nil => exact .inl member
  | cons first rest ih =>
      rcases ih member with early | late
      · rcases mem_put early with same | old
        · exact .inr (List.mem_cons.mpr (.inl same))
        · exact .inl old
      · exact .inr (List.mem_cons_of_mem _ late)

/-- What has been put in counts before what was there. -/
theorem lookup_putAll {entries added : List (String × α)}
    (distinct : (added.map Prod.fst).Nodup) (name : String) :
    (putAll entries added).lookup name = (added.lookup name).or (entries.lookup name) := by
  induction added generalizing entries with
  | nil => rfl
  | cons entry rest ih =>
      obtain ⟨key, value⟩ := entry
      have ⟨absent, tail⟩ := List.nodup_cons.mp distinct
      have step : (putAll entries ((key, value) :: rest)).lookup name =
          (rest.lookup name).or ((put key value entries).lookup name) := ih tail
      rw [step, lookup_put, lookup_cons]
      by_cases same : name = key
      · rw [if_pos same, if_pos same]
        have later : rest.lookup name = none := List.lookup_eq_none_iff.mpr fun other member => by
          rw [bne_iff_ne, same]
          exact fun equal => absent (List.mem_map.mpr ⟨other, member, equal.symm⟩)
        rw [later]
        rfl
      · rw [if_neg same, if_neg same]

/-- Entries with different keys hold the same when they are in order. -/
theorem lookup_sort {entries : List (String × α)} (distinct : (entries.map Prod.fst).Nodup)
    (name : String) : (sort entries).lookup name = entries.lookup name := by
  rw [sort, lookup_putAll distinct]
  exact Option.or_none

/-- Of the values put in for a key the last counts. -/
theorem lookup_putAll_reverse {entries added : List (String × α)} (name : String) :
    (putAll entries added).lookup name = (added.reverse.lookup name).or (entries.lookup name) := by
  induction added generalizing entries with
  | nil => rfl
  | cons entry rest ih =>
      obtain ⟨key, value⟩ := entry
      have step : (putAll entries ((key, value) :: rest)).lookup name =
          (rest.reverse.lookup name).or ((put key value entries).lookup name) := ih
      rw [step, lookup_put, List.reverse_cons, List.lookup_append, lookup_cons, Option.or_assoc]
      split <;> rfl

/-- Of entries with one key the last counts. -/
theorem lookup_sort_reverse (name : String) (entries : List (String × α)) :
    (sort entries).lookup name = entries.reverse.lookup name := by
  rw [sort, lookup_putAll_reverse]
  exact Option.or_none

/-- The keys of the result are those that were there and those that have been put in. -/
theorem mem_keys_putAll {name : String} {entries added : List (String × α)} :
    name ∈ (putAll entries added).map Prod.fst ↔
      name ∈ added.map Prod.fst ∨ name ∈ entries.map Prod.fst := by
  induction added generalizing entries with
  | nil => simp [putAll]
  | cons entry rest ih =>
      obtain ⟨key, value⟩ := entry
      have step : name ∈ (putAll entries ((key, value) :: rest)).map Prod.fst ↔
          name ∈ rest.map Prod.fst ∨ name ∈ (put key value entries).map Prod.fst := ih
      rw [step, mem_keys_put, List.map_cons, List.mem_cons]
      exact or_left_comm.trans or_assoc.symm

/-- Putting entries in order keeps their keys. -/
theorem mem_keys_sort {name : String} {entries : List (String × α)} :
    name ∈ (sort entries).map Prod.fst ↔ name ∈ entries.map Prod.fst := by
  rw [sort, mem_keys_putAll]
  simp

/-- Ascending keys are not repeated. -/
theorem nodup_keys_of_ascends {entries : List (String × α)} (ascends : Ascends entries) :
    (entries.map Prod.fst).Nodup :=
  ascends.imp fun before => (String.ne_of_lt before)

end KeyOrder

end CatalogSearch
