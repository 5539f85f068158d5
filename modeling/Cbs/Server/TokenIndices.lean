import Mathlib.Data.List.Induction
import Cbs.Server.TokenCache

/-!
# The reverse indices of the token cache

The indices by prefix and by owner stay in step with the cache through evictions, replacements and
bulk removals: they list the digests that are cached, and no others.
-/

namespace Cbs

inductive CacheOperation where
  | insert (digest : Digest) (entry : CachedToken)
  | get (digest : Digest)
  | removeByPrefix (tokenPrefix : String)
  | removeByOwner (email : String)
  deriving DecidableEq

def CacheOperation.exec (cache : TokenCache) : CacheOperation → TokenCache
  | insert digest entry => cache.insert digest entry
  | get digest => (cache.get digest).1
  | removeByPrefix tokenPrefix => cache.removeByPrefix tokenPrefix
  | removeByOwner email => cache.removeByOwner email

/-- Tokens that are stored under one digest have the same prefix and the same owner. -/
def ConsistentInserts (operations : List CacheOperation) : Prop :=
  ∀ digest first second, .insert digest first ∈ operations → .insert digest second ∈ operations →
    first.tokenPrefix = second.tokenPrefix ∧ first.ownerEmail = second.ownerEmail

namespace TokenCache

/-- Both indices list what is cached, and nothing else. -/
structure Exact (cache : TokenCache) : Prop where
  byPrefix : ReverseIndex.Lists CachedToken.tokenPrefix cache.byPrefix cache.bySha256
  byOwner : ReverseIndex.Lists CachedToken.ownerEmail cache.byOwner cache.bySha256

variable {cache : TokenCache}

theorem exact_new (capacity : Nat) (positive : 0 < capacity) : (new capacity positive).Exact :=
  ⟨ReverseIndex.lists_empty _ _ _, ReverseIndex.lists_empty _ _ _⟩

variable (exact : cache.Exact)
include exact

theorem Exact.get (digest : Digest) : (cache.get digest).1.Exact :=
  ⟨exact.byPrefix.of_peek_eq (cache.bySha256.peek_get digest),
    exact.byOwner.of_peek_eq (cache.bySha256.peek_get digest)⟩

/-- A token may be stored under a digest that has the same prefix and owner already. -/
theorem Exact.insert {digest : Digest} {entry : CachedToken}
    (stays : ∀ old, cache.peek digest = some old →
      old.tokenPrefix = entry.tokenPrefix ∧ old.ownerEmail = entry.ownerEmail) :
    (cache.insert digest entry).Exact := by
  refine ⟨?_, ?_⟩
  · exact exact.byPrefix.push fun old found => (stays old found).1
  · exact exact.byOwner.push fun old found => (stays old found).2

theorem Exact.removeByPrefix (tokenPrefix : String) : (cache.removeByPrefix tokenPrefix).Exact :=
  ⟨exact.byPrefix.erase tokenPrefix _ _, exact.byOwner.popAll _⟩

theorem Exact.removeByOwner (email : String) : (cache.removeByOwner email).Exact :=
  ⟨exact.byPrefix.popAll _, exact.byOwner.erase email _ _⟩

theorem Exact.peek_removeByPrefix (tokenPrefix : String) (digest : Digest) :
    (cache.removeByPrefix tokenPrefix).peek digest =
      (cache.peek digest).filter (·.tokenPrefix ≠ tokenPrefix) :=
  exact.byPrefix.peek_popAll tokenPrefix _ _ digest

theorem Exact.peek_removeByOwner (email : String) (digest : Digest) :
    (cache.removeByOwner email).peek digest =
      (cache.peek digest).filter (·.ownerEmail ≠ email) :=
  exact.byOwner.peek_popAll email _ _ digest

end TokenCache

/-- Every cached token was stored, and the indices are exact. -/
theorem exact_of_operations (capacity : Nat) (positive : 0 < capacity)
    {operations : List CacheOperation} (consistent : ConsistentInserts operations) :
    (operations.foldl CacheOperation.exec (.new capacity positive)).Exact ∧
      ∀ digest entry,
        (operations.foldl CacheOperation.exec (.new capacity positive)).peek digest = some entry →
          .insert digest entry ∈ operations := by
  induction operations using List.reverseRecOn with
  | nil => exact ⟨TokenCache.exact_new capacity positive, by simp⟩
  | append_singleton operations operation ih =>
    obtain ⟨exact, stored⟩ := ih fun digest first second isFirst isSecond =>
      consistent digest first second (by simp [isFirst]) (by simp [isSecond])
    rw [List.foldl_append, List.foldl_cons, List.foldl_nil]
    generalize operations.foldl CacheOperation.exec (.new capacity positive) = cache at exact stored
    cases operation with
    | insert digest entry =>
      refine ⟨exact.insert fun old found => ?_, fun other found present => ?_⟩
      · exact consistent digest old entry (by simp [stored digest old found]) (by simp)
      · by_cases same : other = digest
        · subst same
          have isEntry := cache.bySha256.peek_push_self other entry
          obtain rfl : found = entry := Option.some.inj (present.symm.trans isEntry)
          simp
        · simp [stored other found (Lru.peek_of_push same present)]
    | get digest =>
      refine ⟨exact.get digest, fun other found present => ?_⟩
      have before : cache.peek other = some found :=
        (cache.peek_get digest other).symm.trans present
      simp [stored other found before]
    | removeByPrefix tokenPrefix =>
      refine ⟨exact.removeByPrefix tokenPrefix, fun other found present => ?_⟩
      simp [stored other found (TokenCache.peek_of_removeByPrefix present).1]
    | removeByOwner email =>
      refine ⟨exact.removeByOwner email, fun other found present => ?_⟩
      simp [stored other found (TokenCache.peek_of_removeByOwner present).1]

/-- After every sequence of operations the indices list the cached digests and no others, without
empty sets; and a removal then removes the entries that it is about and no others. -/
theorem token_indices_exact (capacity : Nat) (positive : 1 ≤ capacity)
    (operations : List CacheOperation) (consistent : ConsistentInserts operations) :
    let cache := operations.foldl CacheOperation.exec (.new capacity positive)
    (∀ digest tokenPrefix, digest ∈ cache.byPrefix.members tokenPrefix ↔
        ∃ entry, cache.peek digest = some entry ∧ entry.tokenPrefix = tokenPrefix) ∧
      (∀ digest email, digest ∈ cache.byOwner.members email ↔
        ∃ entry, cache.peek digest = some entry ∧ entry.ownerEmail = email) ∧
      (∀ tokenPrefix digests, cache.byPrefix.lookup tokenPrefix = some digests → digests ≠ []) ∧
      (∀ email digests, cache.byOwner.lookup email = some digests → digests ≠ []) ∧
      (∀ email digest, (cache.removeByOwner email).peek digest =
        (cache.peek digest).filter (·.ownerEmail ≠ email)) ∧
      ∀ tokenPrefix digest, (cache.removeByPrefix tokenPrefix).peek digest =
        (cache.peek digest).filter (·.tokenPrefix ≠ tokenPrefix) := by
  obtain ⟨exact, -⟩ := exact_of_operations capacity positive consistent
  exact ⟨exact.byPrefix.mem_iff, exact.byOwner.mem_iff, exact.byPrefix.nonempty,
    exact.byOwner.nonempty, exact.peek_removeByOwner, exact.peek_removeByPrefix⟩

def sampleToken (ownerEmail tokenPrefix : String) : CachedToken :=
  ⟨.apiKey, 1, ownerEmail, tokenPrefix, none⟩

/-- Two tokens in a cache for one: the first is evicted. -/
def evictingInserts : List CacheOperation :=
  [.insert 1 (sampleToken "alice@example.com" "cbsk_a"), .get 1,
    .insert 2 (sampleToken "bob@example.com" "cbsk_b"),
    .insert 2 (sampleToken "bob@example.com" "cbsk_b")]

/-- The digest of an evicted token is not listed any more. -/
theorem token_indices_exact_of_eviction :
    (evictingInserts.foldl CacheOperation.exec (.new 1 Nat.one_pos)).peek 2 =
        some (sampleToken "bob@example.com" "cbsk_b") ∧
      (1 : Digest) ∉ (evictingInserts.foldl CacheOperation.exec
        (.new 1 Nat.one_pos)).byPrefix.members "cbsk_a" := by
  have consistent : ConsistentInserts evictingInserts := by
    intro digest first second isFirst isSecond
    simp only [evictingInserts, List.mem_cons, CacheOperation.insert.injEq, reduceCtorEq,
      List.not_mem_nil, or_false, false_or, or_self] at isFirst isSecond
    rcases isFirst with ⟨rfl, rfl⟩ | ⟨rfl, rfl⟩
    · rcases isSecond with ⟨-, rfl⟩ | ⟨different, -⟩
      · exact ⟨rfl, rfl⟩
      · exact absurd different (by decide)
    · rcases isSecond with ⟨different, -⟩ | ⟨-, rfl⟩
      · exact absurd different (by decide)
      · exact ⟨rfl, rfl⟩
  have exact := token_indices_exact 1 Nat.one_pos evictingInserts consistent
  have evicted : (evictingInserts.foldl CacheOperation.exec (.new 1 Nat.one_pos)).peek 1 =
      none := by
    decide +kernel
  refine ⟨by decide +kernel, fun listed => ?_⟩
  obtain ⟨entry, present, -⟩ := (exact.1 1 "cbsk_a").mp listed
  rw [evicted] at present
  cases present

end Cbs
