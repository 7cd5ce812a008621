/-!
# Properties

The properties of an entity are pairs of a key and a value, in order, with distinct keys.
Inserting under a key that is there replaces the value and keeps the position of the pair;
a new key goes to the end. Erasing keeps the order of the other pairs.

`get?_insert` says what a property is after an insertion; `keys_insert_of_mem` and
`keys_insert_of_not_mem` say where it stands.
-/

namespace Brushwork

/-- Pairs of a key and a value in order, with distinct keys. -/
structure Properties where
  entries : List (String × String)
  distinct : (entries.map Prod.fst).Nodup

namespace Properties

theorem ext_entries {p q : Properties} (h : p.entries = q.entries) : p = q := by
  cases p; cases q; cases h; rfl

instance : DecidableEq Properties := fun p q =>
  if h : p.entries = q.entries then isTrue (ext_entries h) else isFalse fun hpq => h (hpq ▸ rfl)

/-- No properties. -/
def empty : Properties :=
  ⟨[], List.nodup_nil⟩

instance : Inhabited Properties := ⟨empty⟩

/-- The keys in order. -/
def keys (p : Properties) : List String :=
  p.entries.map Prod.fst

/-- The value under a key. -/
def get? (p : Properties) (key : String) : Option String :=
  p.entries.lookup key

/-- Replace the value under `key` wherever it stands. -/
def replaceValue (key value : String) (e : String × String) : String × String :=
  if e.1 = key then (e.1, value) else e

theorem map_fst_replaceValue (key value : String) (es : List (String × String)) :
    (es.map (replaceValue key value)).map Prod.fst = es.map Prod.fst := by
  rw [List.map_map]
  refine List.map_congr_left fun e _ => ?_
  simp only [Function.comp_apply, replaceValue]
  split <;> rfl

/-- Set the value under a key : in place if the key is there, else at the end. -/
def insert (p : Properties) (key value : String) : Properties :=
  if h : key ∈ p.keys then
    ⟨p.entries.map (replaceValue key value), by
      rw [map_fst_replaceValue]
      exact p.distinct⟩
  else
    ⟨p.entries ++ [(key, value)], by
      have h : ∀ a ∈ p.entries.map Prod.fst, a ≠ key := fun a ha hak => h (hak ▸ ha)
      simpa [List.nodup_append, p.distinct] using h⟩

/-- Remove the pair with a key. -/
def erase (p : Properties) (key : String) : Properties :=
  ⟨p.entries.filter (·.1 ≠ key), p.distinct.sublist (List.filter_sublist.map _)⟩

/-- The properties that pairs give when inserted in order. -/
def ofList (es : List (String × String)) : Properties :=
  es.foldl (fun p e => p.insert e.1 e.2) empty

theorem keys_insert_of_mem {p : Properties} {key : String} (value : String)
    (h : key ∈ p.keys) : (p.insert key value).keys = p.keys := by
  rw [insert, dif_pos h]
  exact map_fst_replaceValue key value p.entries

theorem keys_insert_of_not_mem {p : Properties} {key : String} (value : String)
    (h : key ∉ p.keys) : (p.insert key value).keys = p.keys ++ [key] := by
  rw [insert, dif_neg h]
  simp [keys]

theorem lookup_cons_of_ne {key k : String} (v : String) (es : List (String × String))
    (hne : key ≠ k) : ((k, v) :: es).lookup key = es.lookup key := by
  rw [List.lookup_cons, beq_eq_false_iff_ne.2 hne]

/-- Replacing the value under a key changes the value under no other. -/
theorem lookup_map_replaceValue_of_ne {key key' : String} (value : String)
    (hne : key' ≠ key) :
    ∀ es : List (String × String),
      (es.map (replaceValue key value)).lookup key' = es.lookup key'
  | [] => rfl
  | (k, v) :: es => by
    have ih := lookup_map_replaceValue_of_ne value hne es
    by_cases hk : k = key
    · subst hk
      simpa [replaceValue, lookup_cons_of_ne _ _ hne] using ih
    · by_cases hk' : key' = k
      · simp [replaceValue, hk, hk']
      · simpa [replaceValue, hk, lookup_cons_of_ne _ _ hk'] using ih

/-- Replacing the value under a key that is there sets it. -/
theorem lookup_map_replaceValue_self (key value : String) :
    ∀ es : List (String × String), key ∈ es.map Prod.fst →
      (es.map (replaceValue key value)).lookup key = some value
  | [], h => by simp at h
  | (k, v) :: es, h => by
    by_cases hk : k = key
    · simp [replaceValue, hk]
    · have hmem : key ∈ es.map Prod.fst := by simpa [Ne.symm hk] using h
      have ih := lookup_map_replaceValue_self key value es hmem
      simpa [replaceValue, hk, lookup_cons_of_ne _ _ (Ne.symm hk)] using ih

theorem get?_insert (p : Properties) (key value key' : String) :
    (p.insert key value).get? key' = if key' = key then some value else p.get? key' := by
  unfold get? insert
  split
  case isTrue h =>
    split
    case isTrue hk =>
      rw [hk]
      exact lookup_map_replaceValue_self key value p.entries h
    case isFalse hk => exact lookup_map_replaceValue_of_ne value hk p.entries
  case isFalse h =>
    have hnone : p.entries.lookup key = none := by
      rw [List.lookup_eq_none_iff]
      intro e he
      simpa using fun hk => h (List.mem_map.2 ⟨e, he, hk.symm⟩)
    by_cases hk : key' = key
    · simp [List.lookup_append, hk, hnone]
    · simp [List.lookup_append, lookup_cons_of_ne _ _ hk, hk]

end Properties

end Brushwork
