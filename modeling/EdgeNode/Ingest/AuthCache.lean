import EdgeNode.Ingest.Admission

/-!
# The cache of authentications

The HTTP boundary remembers whom a presented credential belongs to, under the digest of the
credential. The entries are a map, and a queue of their keys says which one has to go when the cache
is full. A key that is put in again keeps its place in the queue.
-/

namespace EdgeNode

namespace Ingest

structure CachedAuthentication (α : Type) where
  authentication : α
  expiresAtMs : ℕ
  deriving DecidableEq, Repr

structure AuthCache (κ α : Type) where
  entries : AList fun _ : κ => CachedAuthentication α
  order : List κ

structure AuthCacheConfig where
  authCacheCapacity : ℕ := 64
  authCacheTtlMs : ℕ := 60000
  deriving DecidableEq, Repr

namespace AuthCache

variable {κ α : Type} [DecidableEq κ]

def empty : AuthCache κ α where
  entries := ∅
  order := []

def cacheRemove (key : κ) (cache : AuthCache κ α) : AuthCache κ α where
  entries := cache.entries.erase key
  order := cache.order.filter fun candidate => candidate != key

/-- An entry that is found expired is taken out. The clock was read before the lock was taken. -/
def cacheGet (now : ℕ) (key : κ) (cache : AuthCache κ α) : Option α × AuthCache κ α :=
  if (cache.entries.lookup key).any fun entry => entry.expiresAtMs ≤ now then
    (none, cache.cacheRemove key)
  else ((cache.entries.lookup key).map (·.authentication), cache)

/-- Takes keys from the front of the queue as long as the cache is full. -/
def evict (capacity : ℕ) : AList (fun _ : κ => CachedAuthentication α) → List κ → AuthCache κ α
  | entries, [] => ⟨entries, []⟩
  | entries, oldest :: order =>
    if capacity ≤ entries.keys.length then evict capacity (entries.erase oldest) order
    else ⟨entries, oldest :: order⟩

def cacheInsert (config : AuthCacheConfig) (now : ℕ) (key : κ) (authentication : α)
    (cache : AuthCache κ α) : AuthCache κ α :=
  let room :=
    if key ∈ cache.entries then cache
    else
      let evicted := evict config.authCacheCapacity cache.entries cache.order
      { evicted with order := evicted.order ++ [key] }
  { room with
    entries := room.entries.insert key ⟨authentication, satU64 (now + config.authCacheTtlMs)⟩ }

/-- A call of one of the three, with the reading of the clock it was made with. -/
inductive Call (κ α : Type) where
  | get (now : ℕ) (key : κ)
  | insert (now : ℕ) (key : κ) (authentication : α)
  | remove (key : κ)
  deriving DecidableEq, Repr

def serve (config : AuthCacheConfig) (cache : AuthCache κ α) : Call κ α → AuthCache κ α
  | .get now key => (cache.cacheGet now key).2
  | .insert now key authentication => cache.cacheInsert config now key authentication
  | .remove key => cache.cacheRemove key

def caches (config : AuthCacheConfig) (calls : List (Call κ α)) : List (AuthCache κ α) :=
  calls.scanl (serve config) empty

def after (config : AuthCacheConfig) (calls : List (Call κ α)) : AuthCache κ α :=
  calls.foldl (serve config) empty

end AuthCache

end Ingest

end EdgeNode
