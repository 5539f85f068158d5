import Cbs.Library.Dictionary

/-!
# Bounded caches with reverse indices

A cache drops the least recently used entry when it is full.  A reverse index lists the keys of a
group, so that all of them can be removed without a search.
-/

structure Lru (κ ν : Type) where
  capacity : Nat
  positive : 0 < capacity
  /-- The entries, the most recently used one first. -/
  table : Dictionary κ ν
  bounded : table.keys.length ≤ capacity

namespace Lru

variable {κ ν : Type} [DecidableEq κ]

def empty (capacity : Nat) (positive : 0 < capacity) : Lru κ ν where
  capacity := capacity
  positive := positive
  table := ∅
  bounded := Nat.zero_le _

def peek (cache : Lru κ ν) (key : κ) : Option ν :=
  cache.table.lookup key

theorem length_keys_insert {table : Dictionary κ ν} {key : κ} {value : ν} (stored : key ∈ table) :
    (table.insert key value).keys.length = table.keys.length := by
  rw [AList.keys_insert, List.length_cons, List.length_erase_of_mem stored]
  have := List.length_pos_of_mem stored
  omega

/-- The value stored under a key, which becomes the most recently used one. -/
def get (cache : Lru κ ν) (key : κ) : Lru κ ν × Option ν :=
  match found : cache.table.lookup key with
  | none => (cache, none)
  | some value =>
    ({ cache with
        table := cache.table.insert key value
        bounded := by
          rw [length_keys_insert (AList.lookup_isSome.mp (by simp [found]))]
          exact cache.bounded },
      some value)

/-- The entries that stay when a key is stored, and the one that has to go: the previous value of
the key, or the least recently used entry of a full cache. -/
def makeRoom (cache : Lru κ ν) (key : κ) : Dictionary κ ν × Option (κ × ν) :=
  if key ∈ cache.table then (cache.table, (cache.table.lookup key).map (key, ·))
  else if cache.table.keys.length = cache.capacity then
    match cache.table.entries.getLast? with
    | none => (cache.table, none)
    | some last => (cache.table.erase last.1, some (last.1, last.2))
  else (cache.table, none)

theorem length_makeRoom (cache : Lru κ ν) (key : κ) (value : ν) :
    ((cache.makeRoom key).1.insert key value).keys.length ≤ cache.capacity := by
  have bounded := cache.bounded
  have positive := cache.positive
  unfold makeRoom
  split_ifs with stored full
  · rw [length_keys_insert stored]
    exact bounded
  · cases found : cache.table.entries.getLast? with
    | none =>
      rw [List.getLast?_eq_none_iff] at found
      rw [AList.keys, found] at full
      simp only [List.keys, List.map_nil, List.length_nil] at full
      omega
    | some last =>
      have inside : last.1 ∈ cache.table.keys :=
        List.mem_keys_of_mem (List.mem_of_getLast? found)
      have length := List.length_erase_of_mem inside
      have shorter := List.length_erase_le (a := key) (l := cache.table.keys.erase last.1)
      rw [AList.keys_insert, AList.keys_erase, List.length_cons]
      omega
  · have shorter := List.length_erase_le (a := key) (l := cache.table.keys)
    dsimp only
    rw [AList.keys_insert, List.length_cons]
    omega

/-- Store a value, with the entry that had to go. -/
def push (cache : Lru κ ν) (key : κ) (value : ν) : Lru κ ν × Option (κ × ν) :=
  ({ cache with
      table := (cache.makeRoom key).1.insert key value
      bounded := cache.length_makeRoom key value },
    (cache.makeRoom key).2)

def pop (cache : Lru κ ν) (key : κ) : Lru κ ν where
  capacity := cache.capacity
  positive := cache.positive
  table := cache.table.erase key
  bounded := by
    have shorter := List.length_erase_le (a := key) (l := cache.table.keys)
    have bounded := cache.bounded
    rw [AList.keys_erase]
    omega

@[simp]
theorem peek_empty (capacity : Nat) (positive : 0 < capacity) (key : κ) :
    (empty capacity positive : Lru κ ν).peek key = none :=
  rfl

@[simp]
theorem get_snd (cache : Lru κ ν) (key : κ) : (cache.get key).2 = cache.peek key := by
  unfold get peek
  split
  · rename_i found
    exact found.symm
  · rename_i found
    exact found.symm

@[simp]
theorem peek_get (cache : Lru κ ν) (key other : κ) :
    (cache.get key).1.peek other = cache.peek other := by
  unfold get
  split
  · rfl
  · rename_i value found
    rw [peek, peek, Dictionary.lookup_insert_eq]
    split
    · rename_i same
      rw [same, found]
    · rfl

@[simp]
theorem peek_pop (cache : Lru κ ν) (key other : κ) :
    (cache.pop key).peek other = if other = key then none else cache.peek other :=
  Dictionary.lookup_erase_eq ..

theorem lookup_of_makeRoom {cache : Lru κ ν} {key other : κ} {value : ν}
    (stays : (cache.makeRoom key).1.lookup other = some value) : cache.peek other = some value := by
  unfold makeRoom at stays
  split_ifs at stays
  · exact stays
  · cases found : cache.table.entries.getLast? with
    | none =>
      rw [found] at stays
      exact stays
    | some last =>
      rw [found, Dictionary.lookup_erase_eq] at stays
      split_ifs at stays
      exact stays
  · exact stays

theorem peek_push_self (cache : Lru κ ν) (key : κ) (value : ν) :
    (cache.push key value).1.peek key = some value :=
  AList.lookup_insert _

theorem peek_of_push {cache : Lru κ ν} {key other : κ} {value found : ν} (different : other ≠ key)
    (present : (cache.push key value).1.peek other = some found) :
    cache.peek other = some found := by
  rw [peek, push, AList.lookup_insert_ne different] at present
  exact lookup_of_makeRoom present

theorem lookup_makeRoom_evicted {cache : Lru κ ν} {key other : κ} {gone : ν}
    (evicted : (cache.makeRoom key).2 = some (other, gone)) (different : other ≠ key) :
    (cache.makeRoom key).1.lookup other = none := by
  unfold makeRoom at evicted ⊢
  split_ifs at evicted ⊢
  · obtain ⟨value, stored, same⟩ := Option.map_eq_some_iff.mp evicted
    exact absurd (congrArg Prod.fst same).symm different
  · cases found : cache.table.entries.getLast? with
    | none =>
      rw [found] at evicted
      cases evicted
    | some last =>
      rw [found] at evicted
      obtain rfl : last.1 = other := congrArg Prod.fst (Option.some.inj evicted)
      exact AList.lookup_erase ..

theorem peek_push_evicted {cache : Lru κ ν} {key other : κ} {value gone : ν}
    (evicted : (cache.push key value).2 = some (other, gone)) (different : other ≠ key) :
    (cache.push key value).1.peek other = none := by
  rw [peek, push, AList.lookup_insert_ne different]
  exact lookup_makeRoom_evicted evicted different

theorem peek_of_evicted {cache : Lru κ ν} {key other : κ} {value gone : ν}
    (evicted : (cache.push key value).2 = some (other, gone)) : cache.peek other = some gone := by
  change (cache.makeRoom key).2 = _ at evicted
  unfold makeRoom at evicted
  split_ifs at evicted
  · obtain ⟨stored, found, same⟩ := Option.map_eq_some_iff.mp evicted
    cases same
    exact found
  · cases found : cache.table.entries.getLast? with
    | none =>
      rw [found] at evicted
      cases evicted
    | some last =>
      rw [found] at evicted
      cases evicted
      exact AList.mem_lookup_iff.mpr (List.mem_of_getLast? found)

theorem peek_push_of_kept {cache : Lru κ ν} {key other : κ} {value : ν} (different : other ≠ key)
    (kept : ∀ gone, (cache.push key value).2 ≠ some (other, gone)) :
    (cache.push key value).1.peek other = cache.peek other := by
  change ∀ gone, (cache.makeRoom key).2 ≠ _ at kept
  rw [peek, push, AList.lookup_insert_ne different]
  unfold makeRoom at kept ⊢
  split_ifs at kept ⊢
  · rfl
  · cases found : cache.table.entries.getLast? with
    | none => rfl
    | some last =>
      rw [found] at kept
      have stays : other ≠ last.1 := by
        rintro rfl
        exact kept last.2 rfl
      exact AList.lookup_erase_ne stays
  · rfl

end Lru

/-- The keys that belong to each group. -/
abbrev ReverseIndex (γ κ : Type) : Type :=
  Dictionary γ (List κ)

namespace ReverseIndex

variable {γ κ ν : Type} [DecidableEq γ] [DecidableEq κ]

def members (index : ReverseIndex γ κ) (group : γ) : List κ :=
  (index.lookup group).getD []

def add (index : ReverseIndex γ κ) (group : γ) (key : κ) : ReverseIndex γ κ :=
  index.insert group
    (if key ∈ index.members group then index.members group else key :: index.members group)

/-- Take a key from a group, and drop a group that becomes empty. -/
def discard (index : ReverseIndex γ κ) (group : γ) (key : κ) : ReverseIndex γ κ :=
  match index.lookup group with
  | none => index
  | some keys =>
    if (keys.filter (· ≠ key)).isEmpty then index.erase group
    else index.insert group (keys.filter (· ≠ key))

omit [DecidableEq κ] in
theorem members_insert (index : ReverseIndex γ κ) (group other : γ) (keys : List κ) :
    members (index.insert group keys) other =
      if other = group then keys else index.members other := by
  rw [members, Dictionary.lookup_insert_eq]
  split_ifs <;> rfl

omit [DecidableEq κ] in
theorem members_erase (index : ReverseIndex γ κ) (group other : γ) :
    members (index.erase group) other = if other = group then [] else index.members other := by
  rw [members, Dictionary.lookup_erase_eq]
  split_ifs <;> rfl

theorem mem_add {index : ReverseIndex γ κ} {group other : γ} {key member : κ} :
    member ∈ (index.add group key).members other ↔
      other = group ∧ member = key ∨ member ∈ index.members other := by
  rw [add, members_insert]
  by_cases same : other = group
  · subst same
    rw [if_pos rfl]
    split_ifs with present
    · constructor
      · exact Or.inr
      · rintro (⟨-, rfl⟩ | inside)
        · exact present
        · exact inside
    · simp
  · simp [same]

theorem mem_discard {index : ReverseIndex γ κ} {group other : γ} {key member : κ} :
    member ∈ (index.discard group key).members other ↔
      member ∈ index.members other ∧ ¬ (other = group ∧ member = key) := by
  unfold discard
  cases found : index.lookup group with
  | none =>
    have absent : index.members group = [] := by rw [members, found, Option.getD_none]
    constructor
    · intro inside
      refine ⟨inside, ?_⟩
      rintro ⟨rfl, -⟩
      rw [absent] at inside
      cases inside
    · exact And.left
  | some keys =>
    have present : index.members group = keys := by rw [members, found, Option.getD_some]
    have kept : member ∈ keys.filter (· ≠ key) ↔ member ∈ keys ∧ member ≠ key := by
      simp [List.mem_filter]
    dsimp only
    by_cases same : other = group
    · subst same
      split_ifs with none
      · rw [List.isEmpty_iff] at none
        rw [none] at kept
        rw [members_erase, if_pos rfl, present]
        simpa using kept
      · rw [members_insert, if_pos rfl, present, kept]
        simp
    · split_ifs
      · simp [members_erase, same]
      · simp [members_insert, same]

/-- Remove keys from a cache, and from the index of the groups that their entries belong to. -/
def popAll (groupOf : ν → γ) : List κ → Lru κ ν → ReverseIndex γ κ → Lru κ ν × ReverseIndex γ κ
  | [], cache, index => (cache, index)
  | key :: keys, cache, index =>
    match cache.peek key with
    | none => popAll groupOf keys cache index
    | some entry => popAll groupOf keys (cache.pop key) (index.discard (groupOf entry) key)

theorem peek_popAll (groupOf : ν → γ) (keys : List κ) (cache : Lru κ ν)
    (index : ReverseIndex γ κ) (key : κ) :
    (popAll groupOf keys cache index).1.peek key =
      if key ∈ keys then none else cache.peek key := by
  induction keys generalizing cache index with
  | nil => rfl
  | cons first keys ih =>
    unfold popAll
    cases found : cache.peek first with
    | none =>
      rw [ih]
      by_cases same : key = first
      · subst same
        simp [found]
      · simp [same]
    | some entry =>
      rw [ih, Lru.peek_pop]
      by_cases same : key = first
      · subst same
        simp
      · simp [same]

theorem mem_popAll {groupOf : ν → γ} {keys : List κ} {cache : Lru κ ν} {index : ReverseIndex γ κ}
    {key : κ} (kept : key ∉ keys) (group : γ) :
    key ∈ (popAll groupOf keys cache index).2.members group ↔ key ∈ index.members group := by
  induction keys generalizing cache index with
  | nil => rfl
  | cons first keys ih =>
    rw [List.mem_cons, not_or] at kept
    unfold popAll
    cases cache.peek first with
    | none => exact ih kept.2
    | some entry =>
      rw [ih kept.2, mem_discard]
      simp [kept.1]

/-- The index lists the keys of the cache and no others, each in the group of its entry, and it has
no empty groups. -/
structure Lists (groupOf : ν → γ) (index : ReverseIndex γ κ) (cache : Lru κ ν) : Prop where
  mem_iff : ∀ key group, key ∈ index.members group ↔
    ∃ entry, cache.peek key = some entry ∧ groupOf entry = group
  nonempty : ∀ group keys, index.lookup group = some keys → keys ≠ []

/-- The index without an entry that had to go for a key; the previous entry of the key itself stays
listed. -/
def dropEvicted (groupOf : ν → γ) (index : ReverseIndex γ κ) (key : κ) :
    Option (κ × ν) → ReverseIndex γ κ
  | none => index
  | some (other, gone) => if other = key then index else index.discard (groupOf gone) other

/-- If an index lists every entry, it does so after another entry was added. -/
theorem listed_push {groupOf : ν → γ} {index : ReverseIndex γ κ} {cache : Lru κ ν} {key : κ}
    {entry : ν} (listed : ∀ other found, cache.peek other = some found →
      other ∈ index.members (groupOf found)) (other : κ) (found : ν)
    (present : (cache.push key entry).1.peek other = some found) :
    other ∈ ((dropEvicted groupOf index key (cache.push key entry).2).add
      (groupOf entry) key).members (groupOf found) := by
  by_cases same : other = key
  · subst same
    rw [Lru.peek_push_self] at present
    obtain rfl := Option.some.inj present
    exact mem_add.mpr (Or.inl ⟨rfl, rfl⟩)
  · have before := listed other found (Lru.peek_of_push same present)
    refine mem_add.mpr (Or.inr ?_)
    cases gone : (cache.push key entry).2 with
    | none => exact before
    | some pair =>
      obtain ⟨evicted, old⟩ := pair
      simp only [dropEvicted]
      split_ifs with isKey
      · exact before
      · refine mem_discard.mpr ⟨before, fun removed => ?_⟩
        rw [removed.2, Lru.peek_push_evicted gone isKey] at present
        cases present

theorem nonempty_add {index : ReverseIndex γ κ} {group : γ} {key : κ}
    (nonempty : ∀ other keys, index.lookup other = some keys → keys ≠ []) :
    ∀ other keys, (index.add group key).lookup other = some keys → keys ≠ [] := by
  intro other keys found
  rw [add, Dictionary.lookup_insert_eq] at found
  split_ifs at found with same present
  · obtain rfl := Option.some.inj found
    exact List.ne_nil_of_mem present
  · obtain rfl := Option.some.inj found
    exact List.cons_ne_nil _ _
  · exact nonempty other keys found

theorem nonempty_discard {index : ReverseIndex γ κ} {group : γ} {key : κ}
    (nonempty : ∀ other keys, index.lookup other = some keys → keys ≠ []) :
    ∀ other keys, (index.discard group key).lookup other = some keys → keys ≠ [] := by
  intro other keys found
  unfold discard at found
  cases listed : index.lookup group with
  | none =>
    rw [listed] at found
    exact nonempty other keys found
  | some members =>
    rw [listed] at found
    dsimp only at found
    split_ifs at found with isLast
    · rw [Dictionary.lookup_erase_eq] at found
      split_ifs at found
      exact nonempty other keys found
    · rw [Dictionary.lookup_insert_eq] at found
      split_ifs at found
      · obtain rfl := Option.some.inj found
        exact fun empty => isLast (by rw [empty]; rfl)
      · exact nonempty other keys found

section Lists

variable {groupOf : ν → γ} {index : ReverseIndex γ κ} {cache : Lru κ ν}

theorem lists_empty (groupOf : ν → γ) (capacity : Nat) (positive : 0 < capacity) :
    Lists groupOf (∅ : ReverseIndex γ κ) (.empty capacity positive) :=
  ⟨fun key group => by simp [members], fun group keys found => by simp at found⟩

variable (lists : Lists groupOf index cache)

include lists

theorem Lists.of_peek_eq {other : Lru κ ν}
    (same : ∀ key, other.peek key = cache.peek key) : Lists groupOf index other :=
  ⟨fun key group => by rw [same, lists.mem_iff], lists.nonempty⟩

theorem Lists.push {key : κ} {entry : ν}
    (stays : ∀ old, cache.peek key = some old → groupOf old = groupOf entry) :
    Lists groupOf ((dropEvicted groupOf index key (cache.push key entry).2).add (groupOf entry) key)
      (cache.push key entry).1 := by
  have listed : ∀ other group, other ≠ key →
      (other ∈ (dropEvicted groupOf index key (cache.push key entry).2).members group ↔
        ∃ found, (cache.push key entry).1.peek other = some found ∧ groupOf found = group) := by
    intro other group different
    cases evicted : (cache.push key entry).2 with
    | none =>
      rw [Lru.peek_push_of_kept different (by simp [evicted])]
      exact lists.mem_iff other group
    | some pair =>
      obtain ⟨victim, gone⟩ := pair
      unfold dropEvicted
      dsimp only
      split_ifs with own
      · have kept : ∀ left, (cache.push key entry).2 ≠ some (other, left) := by
          rw [evicted]
          rintro left ⟨⟩
          exact different own
        rw [Lru.peek_push_of_kept different kept]
        exact lists.mem_iff other group
      · by_cases isVictim : other = victim
        · subst isVictim
          rw [Lru.peek_push_evicted evicted different, mem_discard, lists.mem_iff,
            Lru.peek_of_evicted evicted]
          simp only [Option.some.injEq, exists_eq_left', reduceCtorEq, false_and, exists_false,
            iff_false, not_and, not_not, and_true]
          exact Eq.symm
        · have kept : ∀ left, (cache.push key entry).2 ≠ some (other, left) := by
            rw [evicted]
            rintro left ⟨⟩
            exact isVictim rfl
          rw [Lru.peek_push_of_kept different kept, mem_discard, lists.mem_iff]
          simp [isVictim]
  have own : ∀ group, key ∈ (dropEvicted groupOf index key (cache.push key entry).2).members group →
      group = groupOf entry := by
    intro group inside
    have before : key ∈ index.members group := by
      cases evicted : (cache.push key entry).2 with
      | none => simpa [evicted, dropEvicted] using inside
      | some pair =>
        obtain ⟨victim, gone⟩ := pair
        rw [evicted, dropEvicted] at inside
        split_ifs at inside
        · exact inside
        · exact (mem_discard.mp inside).1
    obtain ⟨old, found, rfl⟩ := (lists.mem_iff key group).mp before
    exact stays old found
  refine ⟨fun other group => ?_, nonempty_add ?_⟩
  · rw [mem_add]
    by_cases same : other = key
    · subst same
      rw [Lru.peek_push_self]
      simp only [and_true, Option.some.injEq, exists_eq_left']
      constructor
      · rintro (rfl | inside)
        · rfl
        · exact (own group inside).symm
      · intro isGroup
        exact Or.inl isGroup.symm
    · simpa [same] using listed other group same
  · cases (cache.push key entry).2 with
    | none => exact lists.nonempty
    | some pair =>
      obtain ⟨victim, gone⟩ := pair
      rw [dropEvicted]
      split_ifs
      · exact lists.nonempty
      · exact nonempty_discard lists.nonempty

theorem Lists.popAll (keys : List κ) :
    Lists groupOf (popAll groupOf keys cache index).2 (popAll groupOf keys cache index).1 := by
  induction keys generalizing cache index with
  | nil => exact lists
  | cons first keys ih =>
    unfold ReverseIndex.popAll
    cases found : cache.peek first with
    | none => exact ih lists
    | some entry =>
      refine ih ⟨fun key group => ?_, nonempty_discard lists.nonempty⟩
      rw [mem_discard, lists.mem_iff, Lru.peek_pop]
      by_cases same : key = first
      · subst same
        rw [found, if_pos rfl]
        simp only [Option.some.injEq, exists_eq_left', and_true, reduceCtorEq, false_and,
          exists_false, iff_false, not_and, not_not]
        exact Eq.symm
      · rw [if_neg same]
        simp [same]

variable {δ : Type} [DecidableEq δ] (group : γ) (otherGroup : ν → δ) (other : ReverseIndex δ κ)

/-- Removing the keys of a group removes the entries of the group and no others. -/
theorem Lists.peek_popAll (key : κ) :
    (ReverseIndex.popAll otherGroup (index.members group) cache other).1.peek key =
      (cache.peek key).filter (groupOf · ≠ group) := by
  have listed := lists.mem_iff key group
  rw [ReverseIndex.peek_popAll]
  cases found : cache.peek key with
  | none => simp
  | some entry =>
    simp only [found, Option.some.injEq, exists_eq_left'] at listed
    simp [listed, Option.filter]

/-- Removing the keys of a group from the cache, and the group from the index. -/
theorem Lists.erase :
    Lists groupOf (index.erase group)
      (ReverseIndex.popAll otherGroup (index.members group) cache other).1 := by
  refine ⟨fun key found => ?_, fun found keys listed => ?_⟩
  · rw [members_erase, lists.peek_popAll]
    by_cases same : found = group
    · simp [same, Option.filter_eq_some_iff]
    · rw [if_neg same, lists.mem_iff]
      refine exists_congr fun entry => and_congr_left fun isFound => ?_
      simp [Option.filter_eq_some_iff, isFound, same]
  · rw [Dictionary.lookup_erase_eq] at listed
    split_ifs at listed
    exact lists.nonempty found keys listed

end Lists

end ReverseIndex
