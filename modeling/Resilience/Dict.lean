/-!
Maps from strings, kept in strictly increasing order of their keys. Two dictionaries that answer
every look-up alike are equal.
-/

namespace Resilience

/-- Finitely many entries, one per key, in increasing order of the keys. -/
structure Dict (α : Type) where
  entries : List (String × α)
  ordered : entries.Pairwise (fun a b => a.1 < b.1)
deriving DecidableEq

namespace Dict

variable {α β : Type}

def empty : Dict α := ⟨[], .nil⟩

instance : Inhabited (Dict α) := ⟨empty⟩
instance : EmptyCollection (Dict α) := ⟨empty⟩

def isEmpty (d : Dict α) : Bool := d.entries.isEmpty

def keys (d : Dict α) : List String := d.entries.map (·.1)

/-- The value of the first entry for `key`. -/
def lookup (key : String) : List (String × α) → Option α
  | [] => none
  | (k, v) :: rest => if k = key then some v else lookup key rest

def get? (d : Dict α) (key : String) : Option α := lookup key d.entries

def contains (d : Dict α) (key : String) : Bool := (d.get? key).isSome

/-- Puts an entry in its place in an ordered list; an entry with the same key gives way. -/
def place (key : String) (value : α) : List (String × α) → List (String × α)
  | [] => [(key, value)]
  | (k, v) :: rest =>
    if key < k then (key, value) :: (k, v) :: rest
    else if key = k then (key, value) :: rest
    else (k, v) :: place key value rest

theorem mem_place {key : String} {value : α} {e : String × α} {l : List (String × α)}
    (h : e ∈ place key value l) : e = (key, value) ∨ e ∈ l := by
  induction l with
  | nil => simpa [place] using h
  | cons head rest ih =>
    obtain ⟨k, v⟩ := head
    rw [place] at h
    split at h
    · simpa using h
    · split at h <;> grind

theorem place_ordered {key : String} {value : α} {l : List (String × α)}
    (h : l.Pairwise (fun a b => a.1 < b.1)) :
    (place key value l).Pairwise (fun a b => a.1 < b.1) := by
  induction l with
  | nil => simp [place]
  | cons head rest ih =>
    obtain ⟨k, v⟩ := head
    obtain ⟨hk, hrest⟩ := List.pairwise_cons.1 h
    rw [place]
    split
    · next hlt =>
      refine List.pairwise_cons.2 ⟨fun e he => ?_, h⟩
      rcases List.mem_cons.1 he with rfl | he
      · exact hlt
      · exact String.lt_trans hlt (hk e he)
    · split
      · next heq => exact List.pairwise_cons.2 ⟨fun e he => heq ▸ hk e he, hrest⟩
      · next hlt hne =>
        refine List.pairwise_cons.2 ⟨fun e he => ?_, ih hrest⟩
        rcases mem_place he with rfl | he
        · grind
        · exact hk e he

def insert (d : Dict α) (key : String) (value : α) : Dict α :=
  ⟨place key value d.entries, place_ordered d.ordered⟩

/-- Inserts the entries from left to right, so the last one for a key wins. -/
def insertAll (d : Dict α) (entries : List (String × α)) : Dict α :=
  entries.foldl (fun d e => d.insert e.1 e.2) d

def ofList (entries : List (String × α)) : Dict α := empty.insertAll entries

/-- Both sets of entries; those of `e` win. -/
def merge (d e : Dict α) : Dict α := d.insertAll e.entries

def filter (d : Dict α) (p : String → α → Bool) : Dict α :=
  ⟨d.entries.filter (fun e => p e.1 e.2), d.ordered.filter _⟩

theorem lookup_place (key other : String) (value : α) (l : List (String × α)) :
    lookup other (place key value l) = if other = key then some value else lookup other l := by
  induction l with
  | nil => simp [place, lookup, eq_comm]
  | cons head rest ih =>
    obtain ⟨k, v⟩ := head
    rw [place]
    split
    · simp [lookup, eq_comm]
    · split
      · next heq => subst heq; by_cases h : other = key <;> simp [lookup, h, Ne.symm]
      · next hne =>
        by_cases hk : k = other
        · subst hk; simp [lookup, Ne.symm hne]
        · simp [lookup, hk, ih]

theorem lookup_eq_none {key : String} {l : List (String × α)} (h : ∀ e ∈ l, e.1 ≠ key) :
    lookup key l = none := by
  induction l with
  | nil => rfl
  | cons head rest ih =>
    rw [lookup, if_neg (h head List.mem_cons_self)]
    exact ih fun e he => h e (List.mem_cons_of_mem _ he)

theorem lookup_eq_none_of_lt {key : String} {l : List (String × α)} (h : ∀ e ∈ l, key < e.1) :
    lookup key l = none :=
  lookup_eq_none fun e he heq => String.lt_irrefl key (by simpa [heq] using h e he)

@[simp] theorem get?_empty (key : String) : (empty : Dict α).get? key = none := rfl

@[simp] theorem get?_emptyCollection (key : String) : (∅ : Dict α).get? key = none := rfl

@[simp] theorem get?_insert (d : Dict α) (key other : String) (value : α) :
    (d.insert key value).get? other = if other = key then some value else d.get? other :=
  lookup_place ..

@[simp] theorem contains_insert (d : Dict α) (key other : String) (value : α) :
    (d.insert key value).contains other = (decide (other = key) || d.contains other) := by
  rw [contains, get?_insert, contains]
  split <;> simp [*]

theorem lookup_isSome_iff {key : String} {l : List (String × α)} :
    (lookup key l).isSome ↔ key ∈ l.map (·.1) := by
  induction l with
  | nil => simp [lookup]
  | cons head rest ih =>
    rw [lookup]
    split
    · next heq => simp [heq]
    · next hne => simp [ih, Ne.symm hne]

/-- There is at most one entry for a key. -/
theorem filterMap_eq_lookup {key : String} (f : α → β) {l : List (String × α)}
    (h : l.Pairwise (fun a b => a.1 < b.1)) :
    (l.filterMap fun e => if e.1 = key then some (f e.2) else none) =
      ((lookup key l).map f).toList := by
  induction l with
  | nil => rfl
  | cons head rest ih =>
    obtain ⟨hhead, hrest⟩ := List.pairwise_cons.1 h
    by_cases hkey : head.1 = key
    · have hnone : lookup key rest = none := lookup_eq_none_of_lt (hkey ▸ hhead)
      rw [List.filterMap_cons, if_pos hkey, ih hrest, lookup, if_pos hkey, hnone]
      rfl
    · rw [List.filterMap_cons, if_neg hkey, ih hrest, lookup, if_neg hkey]

theorem mem_keys_iff {d : Dict α} {key : String} : key ∈ d.keys ↔ d.contains key = true :=
  lookup_isSome_iff.symm

/-- The keys are listed in increasing order. -/
theorem pairwise_keys (d : Dict α) : d.keys.Pairwise (· < ·) := List.pairwise_map.2 d.ordered

theorem entries_eq_of_lookup {l m : List (String × α)}
    (hl : l.Pairwise (fun a b => a.1 < b.1)) (hm : m.Pairwise (fun a b => a.1 < b.1))
    (h : ∀ key, lookup key l = lookup key m) : l = m := by
  induction l generalizing m with
  | nil =>
    match m with
    | [] => rfl
    | (k, v) :: rest => simpa [lookup] using h k
  | cons head l ih =>
    obtain ⟨k, v⟩ := head
    match m, hm, h with
    | [], _, h => simpa [lookup] using h k
    | (k', v') :: m, hm, h =>
      obtain ⟨hk, hltail⟩ := List.pairwise_cons.1 hl
      obtain ⟨hk', hmtail⟩ := List.pairwise_cons.1 hm
      have hnone := lookup_eq_none_of_lt hk
      have hnone' := lookup_eq_none_of_lt hk'
      have hkk : k = k' := by
        have first := h k
        have second := h k'
        rcases (by grind : k < k' ∨ k = k' ∨ k' < k) with hlt | heq | hlt
        · have : lookup k m = none := lookup_eq_none_of_lt fun e he => String.lt_trans hlt (hk' e he)
          simp [lookup, this, (by grind : k' ≠ k)] at first
        · exact heq
        · have : lookup k' l = none := lookup_eq_none_of_lt fun e he => String.lt_trans hlt (hk e he)
          simp [lookup, this, (by grind : k ≠ k')] at second
      subst hkk
      have hv : v = v' := by simpa [lookup] using h k
      subst hv
      have : l = m := ih hltail hmtail fun key => by
        by_cases hkey : k = key
        · subst hkey; rw [hnone, hnone']
        · simpa [lookup, hkey] using h key
      rw [this]

/-- A dictionary is what it answers. -/
theorem ext_get? {d e : Dict α} (h : ∀ key, d.get? key = e.get? key) : d = e := by
  obtain ⟨l, hl⟩ := d
  obtain ⟨m, hm⟩ := e
  simpa using entries_eq_of_lookup hl hm h

theorem get?_insertAll {l : List (String × α)} (h : l.Pairwise (fun a b => a.1 < b.1))
    (d : Dict α) (key : String) : (d.insertAll l).get? key = (lookup key l).or (d.get? key) := by
  induction l generalizing d with
  | nil => rfl
  | cons head rest ih =>
    obtain ⟨k, v⟩ := head
    obtain ⟨hk, hrest⟩ := List.pairwise_cons.1 h
    have hinsert : d.insertAll ((k, v) :: rest) = (d.insert k v).insertAll rest := rfl
    rw [hinsert, ih hrest, get?_insert, lookup]
    by_cases heq : k = key
    · subst heq
      rw [lookup_eq_none_of_lt hk]
      simp
    · simp [heq, Ne.symm heq]

theorem get?_merge (d e : Dict α) (key : String) :
    (d.merge e).get? key = (e.get? key).or (d.get? key) :=
  get?_insertAll e.ordered d key

theorem lookup_filter {key : String} {p : String → α → Bool} {l : List (String × α)}
    (h : l.Pairwise (fun a b => a.1 < b.1)) :
    lookup key (l.filter fun e => p e.1 e.2) = (lookup key l).filter (p key) := by
  induction l with
  | nil => rfl
  | cons head rest ih =>
    obtain ⟨k, v⟩ := head
    obtain ⟨hk, hrest⟩ := List.pairwise_cons.1 h
    by_cases hkey : k = key
    · subst hkey
      have hnone : lookup k rest = none := lookup_eq_none_of_lt hk
      cases hp : p k v <;> simp [Option.filter, hp, lookup, ih hrest, hnone]
    · cases hp : p k v <;> simp [hp, lookup, hkey, ih hrest]

theorem get?_filter (d : Dict α) (p : String → α → Bool) (key : String) :
    (d.filter p).get? key = (d.get? key).filter (p key) :=
  lookup_filter d.ordered

/-- A dictionary is put together from its own entries. -/
theorem ofList_entries (d : Dict α) : ofList d.entries = d :=
  ext_get? fun key => (get?_insertAll d.ordered empty key).trans (Option.or_none ..)

end Dict

end Resilience
