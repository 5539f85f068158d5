import Cbs.Library.Cache

/-!
# The token cache

Verified API keys and robot tokens are kept in a bounded cache under the digest of the bearer
string.  Two reverse indices list the digests by key prefix and by owner, by construction all of
them.
-/

namespace Cbs

open ReverseIndex

abbrev Digest : Type := BitVec 256

inductive TokenKind where
  | apiKey
  | robotToken
  deriving DecidableEq

/-- A row of one of the two token tables. -/
structure TokenRef where
  kind : TokenKind
  id : Int
  deriving DecidableEq

structure CachedToken where
  kind : TokenKind
  tokenId : Int
  ownerEmail : String
  tokenPrefix : String
  expiresAt : Option Int
  deriving DecidableEq

def CachedToken.ref (entry : CachedToken) : TokenRef :=
  ⟨entry.kind, entry.tokenId⟩

structure TokenCache where
  bySha256 : Lru Digest CachedToken
  byPrefix : ReverseIndex String Digest
  byOwner : ReverseIndex String Digest
  listedByPrefix : ∀ digest entry, bySha256.peek digest = some entry →
    digest ∈ byPrefix.members entry.tokenPrefix
  listedByOwner : ∀ digest entry, bySha256.peek digest = some entry →
    digest ∈ byOwner.members entry.ownerEmail

namespace TokenCache

def new (capacity : Nat) (positive : 0 < capacity) : TokenCache where
  bySha256 := .empty capacity positive
  byPrefix := ∅
  byOwner := ∅
  listedByPrefix := by simp
  listedByOwner := by simp

def peek (cache : TokenCache) (digest : Digest) : Option CachedToken :=
  cache.bySha256.peek digest

/-- The entry under a digest, which becomes the most recently used one. -/
def get (cache : TokenCache) (digest : Digest) : TokenCache × Option CachedToken :=
  ({ cache with
      bySha256 := (cache.bySha256.get digest).1
      listedByPrefix := by simpa using cache.listedByPrefix
      listedByOwner := by simpa using cache.listedByOwner },
    (cache.bySha256.get digest).2)

/-- The reverse indices without an entry that was evicted to make room for a digest; the previous
entry of the digest itself stays listed. -/
def removeFromReverseMaps (cache : TokenCache) (digest : Digest)
    (evicted : Option (Digest × CachedToken)) :
    ReverseIndex String Digest × ReverseIndex String Digest :=
  (cache.byPrefix.dropEvicted CachedToken.tokenPrefix digest evicted,
    cache.byOwner.dropEvicted CachedToken.ownerEmail digest evicted)

def insert (cache : TokenCache) (digest : Digest) (entry : CachedToken) : TokenCache :=
  let pushed := cache.bySha256.push digest entry
  let cleaned := cache.removeFromReverseMaps digest pushed.2
  { bySha256 := pushed.1
    byPrefix := cleaned.1.add entry.tokenPrefix digest
    byOwner := cleaned.2.add entry.ownerEmail digest
    listedByPrefix := listed_push cache.listedByPrefix
    listedByOwner := listed_push cache.listedByOwner }

def removeByPrefix (cache : TokenCache) (tokenPrefix : String) : TokenCache :=
  let hashes := cache.byPrefix.members tokenPrefix
  let popped := popAll CachedToken.ownerEmail hashes cache.bySha256 cache.byOwner
  { bySha256 := popped.1
    byPrefix := cache.byPrefix.erase tokenPrefix
    byOwner := popped.2
    listedByPrefix := by
      intro digest entry present
      rw [peek_popAll] at present
      split_ifs at present with removed
      have listed := cache.listedByPrefix digest entry present
      rw [members_erase]
      split_ifs with same
      · rw [same] at listed
        exact absurd listed removed
      · exact listed
    listedByOwner := by
      intro digest entry present
      rw [peek_popAll] at present
      split_ifs at present with removed
      exact (mem_popAll removed _).mpr (cache.listedByOwner digest entry present) }

def removeByOwner (cache : TokenCache) (email : String) : TokenCache :=
  let hashes := cache.byOwner.members email
  let popped := popAll CachedToken.tokenPrefix hashes cache.bySha256 cache.byPrefix
  { bySha256 := popped.1
    byPrefix := popped.2
    byOwner := cache.byOwner.erase email
    listedByPrefix := by
      intro digest entry present
      rw [peek_popAll] at present
      split_ifs at present with removed
      exact (mem_popAll removed _).mpr (cache.listedByPrefix digest entry present)
    listedByOwner := by
      intro digest entry present
      rw [peek_popAll] at present
      split_ifs at present with removed
      have listed := cache.listedByOwner digest entry present
      rw [members_erase]
      split_ifs with same
      · rw [same] at listed
        exact absurd listed removed
      · exact listed }

variable {cache : TokenCache} {digest other : Digest} {entry found : CachedToken}

@[simp]
theorem peek_new (capacity : Nat) (positive : 0 < capacity) (digest : Digest) :
    (new capacity positive).peek digest = none :=
  rfl

@[simp]
theorem get_snd (cache : TokenCache) (digest : Digest) : (cache.get digest).2 = cache.peek digest :=
  cache.bySha256.get_snd digest

@[simp]
theorem peek_get (cache : TokenCache) (digest other : Digest) :
    (cache.get digest).1.peek other = cache.peek other :=
  cache.bySha256.peek_get digest other

theorem peek_of_insert (present : (cache.insert digest entry).peek other = some found) :
    found = entry ∨ cache.peek other = some found := by
  by_cases same : other = digest
  · subst same
    have stored := cache.bySha256.peek_push_self other entry
    exact Or.inl (Option.some.inj (present.symm.trans stored))
  · exact Or.inr (Lru.peek_of_push same present)

theorem peek_of_removeByPrefix {tokenPrefix : String}
    (present : (cache.removeByPrefix tokenPrefix).peek digest = some entry) :
    cache.peek digest = some entry ∧ entry.tokenPrefix ≠ tokenPrefix := by
  rw [peek, removeByPrefix, peek_popAll] at present
  split_ifs at present with removed
  refine ⟨present, ?_⟩
  rintro rfl
  exact removed (cache.listedByPrefix digest entry present)

theorem peek_of_removeByOwner {email : String}
    (present : (cache.removeByOwner email).peek digest = some entry) :
    cache.peek digest = some entry ∧ entry.ownerEmail ≠ email := by
  rw [peek, removeByOwner, peek_popAll] at present
  split_ifs at present with removed
  refine ⟨present, ?_⟩
  rintro rfl
  exact removed (cache.listedByOwner digest entry present)

end TokenCache

end Cbs
