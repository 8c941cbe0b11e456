import EdgeNode.Ingest.AuthCache

/-!
# The cache and its queue

The queue lists the keys of the cache, each of them once, in the order they were put in. The second
half is a statement about a whole run: of two keys in the queue the first one has been in the cache
since a moment when the other was not.
-/

namespace EdgeNode

namespace Ingest

namespace AuthCache

variable {κ α : Type} [DecidableEq κ]

/-! ## The queue and the keys -/

structure Listed (cache : AuthCache κ α) : Prop where
  perm : cache.order.Perm cache.entries.keys

omit [DecidableEq κ] in
theorem Listed.nodup {cache : AuthCache κ α} (h : cache.Listed) : cache.order.Nodup :=
  h.perm.nodup_iff.2 cache.entries.nodupKeys

omit [DecidableEq κ] in
theorem Listed.mem_iff {cache : AuthCache κ α} (h : cache.Listed) {k : κ} :
    k ∈ cache.order ↔ k ∈ cache.entries := h.perm.mem_iff.trans AList.mem_keys.symm

theorem Listed.cacheRemove {cache : AuthCache κ α} (h : cache.Listed) (key : κ) :
    (cache.cacheRemove key).Listed := by
  have horder : (cache.cacheRemove key).order = cache.order.erase key :=
    (h.nodup.erase_eq_filter key).symm
  have hkeys : (cache.cacheRemove key).entries.keys = cache.entries.keys.erase key :=
    AList.keys_erase key cache.entries
  exact ⟨horder ▸ hkeys ▸ h.perm.erase key⟩

theorem cacheGet_snd (now : ℕ) (key : κ) (cache : AuthCache κ α) :
    (cache.cacheGet now key).2 = cache ∨ (cache.cacheGet now key).2 = cache.cacheRemove key := by
  rw [cacheGet]
  split_ifs
  · exact .inr rfl
  · exact .inl rfl

theorem cacheGet_fst {now : ℕ} {key : κ} {cache : AuthCache κ α} {authentication : α}
    (h : (cache.cacheGet now key).1 = some authentication) :
    ∃ entry, cache.entries.lookup key = some entry ∧ entry.authentication = authentication
      ∧ now < entry.expiresAtMs := by
  by_cases hexpired : (cache.entries.lookup key).any fun entry => entry.expiresAtMs ≤ now
  · rw [cacheGet, if_pos hexpired] at h
    exact nomatch h
  · rw [cacheGet, if_neg hexpired] at h
    obtain ⟨entry, hentry, rfl⟩ := Option.map_eq_some_iff.1 h
    rw [hentry] at hexpired
    simp only [Option.any_some, decide_eq_true_eq, not_le] at hexpired
    exact ⟨entry, hentry, rfl, hexpired⟩

/-- Eviction takes a first part of the queue, and the keys that stay are those of the rest. There is
room for one more afterwards. -/
theorem evict_spec {capacity : ℕ} (hcap : 1 ≤ capacity) :
    ∀ (order : List κ) (entries : AList fun _ : κ => CachedAuthentication α),
      order.Perm entries.keys →
        (∃ popped, order = popped ++ (evict capacity entries order).order)
          ∧ (evict capacity entries order).Listed
          ∧ (evict capacity entries order).entries.keys.length < capacity
  | [], entries, h => by
    refine ⟨⟨[], rfl⟩, ⟨h⟩, ?_⟩
    show entries.keys.length < capacity
    rw [← h.length_eq]
    exact hcap
  | oldest :: order, entries, h => by
    rw [evict]
    split_ifs with hfull
    · have herase : order.Perm (entries.erase oldest).keys := by
        rw [AList.keys_erase]
        exact (List.cons_perm_iff_perm_erase.1 h).2
      obtain ⟨⟨popped, horder⟩, hlisted, hroom⟩ := evict_spec hcap order _ herase
      exact ⟨⟨oldest :: popped, congrArg (oldest :: ·) horder⟩, hlisted, hroom⟩
    · exact ⟨⟨[], rfl⟩, ⟨h⟩, Nat.lt_of_not_le hfull⟩

/-- What an insertion does to the queue and to the keys: nothing if the key is there, and otherwise
it goes to the end, after a first part of the queue was evicted. -/
inductive Inserted (capacity : ℕ) (cache : AuthCache κ α) (key : κ) (cache' : AuthCache κ α) :
    Prop where
  | replaced (hkey : key ∈ cache.entries) (horder : cache'.order = cache.order)
      (hkeys : cache'.entries.keys.Perm cache.entries.keys)
  | added (popped kept : List κ) (hkey : key ∉ cache.entries) (hsplit : cache.order = popped ++ kept)
      (horder : cache'.order = kept ++ [key]) (hkeys : cache'.entries.keys.Perm (key :: kept))
      (hroom : kept.length < capacity)

theorem cacheInsert_inserted {config : AuthCacheConfig} (hcap : 1 ≤ config.authCacheCapacity)
    {cache : AuthCache κ α} (h : cache.Listed) (now : ℕ) (key : κ) (authentication : α) :
    Inserted config.authCacheCapacity cache key
      (cache.cacheInsert config now key authentication) := by
  rw [cacheInsert]
  split_ifs with hkey
  · refine .replaced hkey rfl ?_
    rw [AList.keys_insert]
    exact (List.perm_cons_erase (AList.mem_keys.1 hkey)).symm
  · obtain ⟨⟨popped, hsplit⟩, hlisted, hroom⟩ := evict_spec hcap cache.order cache.entries h.perm
    refine .added popped _ hkey hsplit rfl ?_ (hlisted.perm.length_eq ▸ hroom)
    -- the key is not among those that stay, so the map does not replace anything
    have hnew : key ∉ (evict config.authCacheCapacity cache.entries cache.order).entries.keys := by
      rw [← AList.mem_keys, ← hlisted.mem_iff]
      intro hmem
      exact hkey (h.mem_iff.1 (hsplit ▸ List.mem_append_right popped hmem))
    rw [AList.keys_insert, List.erase_of_not_mem hnew]
    exact hlisted.perm.symm.cons key

theorem serve_cases {config : AuthCacheConfig} (hcap : 1 ≤ config.authCacheCapacity)
    {cache : AuthCache κ α} (h : cache.Listed) (call : Call κ α) :
    cache.serve config call = cache ∨ (∃ key, cache.serve config call = cache.cacheRemove key)
      ∨ ∃ key, Inserted config.authCacheCapacity cache key (cache.serve config call) := by
  cases call with
  | get now key =>
    rcases cacheGet_snd now key cache with hget | hget
    · exact .inl hget
    · exact .inr (.inl ⟨key, hget⟩)
  | insert now key authentication =>
    exact .inr (.inr ⟨key, cacheInsert_inserted hcap h now key authentication⟩)
  | remove key => exact .inr (.inl ⟨key, rfl⟩)

structure Sound (capacity : ℕ) (cache : AuthCache κ α) : Prop extends cache.Listed where
  bounded : cache.entries.keys.length ≤ capacity

omit [DecidableEq κ] in
theorem sound_empty {capacity : ℕ} : (empty : AuthCache κ α).Sound capacity where
  perm := .nil
  bounded := Nat.zero_le _

omit [DecidableEq κ] in
theorem Inserted.sound {capacity : ℕ} {cache cache' : AuthCache κ α} {key : κ}
    (hins : Inserted capacity cache key cache') (h : cache.Sound capacity) :
    cache'.Sound capacity := by
  cases hins with
  | replaced hkey horder hkeys =>
    exact ⟨⟨horder ▸ h.perm.trans hkeys.symm⟩, hkeys.length_eq ▸ h.bounded⟩
  | added popped kept hkey hsplit horder hkeys hroom =>
    refine ⟨⟨?_⟩, ?_⟩
    · rw [horder]
      exact (List.perm_append_singleton key kept).trans hkeys.symm
    · rw [hkeys.length_eq]
      exact hroom

theorem Sound.cacheRemove {capacity : ℕ} {cache : AuthCache κ α} (h : cache.Sound capacity)
    (key : κ) : (cache.cacheRemove key).Sound capacity where
  toListed := h.toListed.cacheRemove key
  bounded := by
    show (cache.entries.erase key).keys.length ≤ capacity
    rw [AList.keys_erase]
    exact (List.length_erase_le).trans h.bounded

theorem Sound.serve {config : AuthCacheConfig} (hcap : 1 ≤ config.authCacheCapacity)
    {cache : AuthCache κ α} (h : cache.Sound config.authCacheCapacity) (call : Call κ α) :
    (cache.serve config call).Sound config.authCacheCapacity := by
  rcases serve_cases hcap h.toListed call with hsame | ⟨key, hremoved⟩ | ⟨key, hins⟩
  · exact hsame.symm ▸ h
  · exact hremoved.symm ▸ h.cacheRemove key
  · exact hins.sound h

/-! ## How long a key is held -/

/-- At the end of a trace, `k` has been in the cache since a moment when `k'` was not. -/
def HeldLonger (trace : List (AuthCache κ α)) (k k' : κ) : Prop :=
  ∃ earlier cache later, trace = earlier ++ cache :: later ∧ k ∈ cache.entries
    ∧ k' ∉ cache.entries ∧ ∀ c ∈ later, k ∈ c.entries

omit [DecidableEq κ] in
theorem HeldLonger.concat {trace : List (AuthCache κ α)} {k k' : κ} (h : HeldLonger trace k k')
    {cache : AuthCache κ α} (hk : k ∈ cache.entries) : HeldLonger (trace ++ [cache]) k k' := by
  obtain ⟨earlier, c, later, rfl, hin, hout, hlater⟩ := h
  refine ⟨earlier, c, later ++ [cache], by simp, hin, hout, fun d hd => ?_⟩
  rcases List.mem_append.1 hd with hd | hd
  · exact hlater d hd
  · rw [List.mem_singleton.1 hd]
    exact hk

omit [DecidableEq κ] in
theorem heldLonger_new {trace : List (AuthCache κ α)} {cache cache' : AuthCache κ α} {k key : κ}
    (hk : k ∈ cache.entries) (hkey : key ∉ cache.entries) (hstays : k ∈ cache'.entries) :
    HeldLonger (trace ++ [cache] ++ [cache']) k key :=
  ⟨trace, cache, [cache'], by simp, hk, hkey, by simpa using hstays⟩

def Ordered (trace : List (AuthCache κ α)) (cache : AuthCache κ α) : Prop :=
  cache.order.Pairwise (HeldLonger trace)

omit [DecidableEq κ] in
theorem Ordered.kept {trace : List (AuthCache κ α)} {cache cache' : AuthCache κ α}
    (h : Ordered trace cache) {kept : List κ} (hkept : kept.Sublist cache.order)
    (hstay : ∀ k ∈ kept, k ∈ cache'.entries) :
    kept.Pairwise (HeldLonger (trace ++ [cache'])) :=
  (List.Pairwise.sublist hkept h).imp_of_mem fun hk _ hlonger => hlonger.concat (hstay _ hk)

theorem Ordered.serve {config : AuthCacheConfig} (hcap : 1 ≤ config.authCacheCapacity)
    {trace : List (AuthCache κ α)} {cache : AuthCache κ α}
    (hsound : cache.Sound config.authCacheCapacity) (h : Ordered (trace ++ [cache]) cache)
    (call : Call κ α) :
    Ordered (trace ++ [cache] ++ [cache.serve config call]) (cache.serve config call) := by
  have hsound' := hsound.serve hcap call
  rcases serve_cases hcap hsound.toListed call with hsame | ⟨key, hremoved⟩ | ⟨key, hins⟩
  · rw [hsame] at hsound' ⊢
    exact h.kept (.refl _) fun k hk => hsound'.mem_iff.1 hk
  · rw [hremoved] at hsound' ⊢
    exact h.kept List.filter_sublist fun k hk => hsound'.mem_iff.1 hk
  · cases hins with
    | replaced hkey horder hkeys =>
      rw [Ordered, horder]
      exact h.kept (.refl _) fun k hk => hsound'.mem_iff.1 (horder.symm ▸ hk)
    | added popped kept hkey hsplit horder hkeys hroom =>
      have hstay : ∀ k ∈ kept, k ∈ (cache.serve config call).entries := fun k hk =>
        hsound'.mem_iff.1 (horder.symm ▸ List.mem_append_left _ hk)
      rw [Ordered, horder, List.pairwise_append]
      refine ⟨h.kept (hsplit ▸ List.sublist_append_right popped kept) hstay,
        List.pairwise_singleton _ _, fun k hk k' hk' => ?_⟩
      rw [List.mem_singleton.1 hk']
      have hthere : k ∈ cache.entries :=
        hsound.mem_iff.1 (hsplit.symm ▸ List.mem_append_right _ hk)
      exact heldLonger_new hthere hkey (hstay k hk)

theorem run_ordered {config : AuthCacheConfig} (hcap : 1 ≤ config.authCacheCapacity) :
    ∀ (calls : List (Call κ α)) (trace : List (AuthCache κ α)) (cache : AuthCache κ α),
      cache.Sound config.authCacheCapacity → Ordered (trace ++ [cache]) cache →
        (calls.foldl (AuthCache.serve config) cache).Sound config.authCacheCapacity
          ∧ Ordered (trace ++ calls.scanl (AuthCache.serve config) cache)
            (calls.foldl (AuthCache.serve config) cache)
  | [], trace, cache, hsound, h => ⟨hsound, by simpa using h⟩
  | call :: calls, trace, cache, hsound, h => by
    have hrest := run_ordered hcap calls (trace ++ [cache]) (cache.serve config call)
      (hsound.serve hcap call) (h.serve hcap hsound call)
    rw [List.append_assoc, List.singleton_append] at hrest
    rw [List.foldl_cons, List.scanl_cons]
    exact hrest

omit [DecidableEq κ] in
theorem Inserted.evicted {capacity : ℕ} {trace : List (AuthCache κ α)}
    {cache cache' : AuthCache κ α} {key k k' : κ} (hins : Inserted capacity cache key cache')
    (hlisted : cache.Listed) (h : Ordered trace cache) (hk : k ∈ cache.entries)
    (hgone : k ∉ cache'.entries) (hk' : k' ∈ cache.entries) (hstays : k' ∈ cache'.entries) :
    HeldLonger trace k k' := by
  rw [AList.mem_keys] at hgone hstays
  cases hins with
  | replaced hkey horder hkeys => exact absurd (hkeys.mem_iff.2 (AList.mem_keys.1 hk)) hgone
  | added popped kept hkey hsplit horder hkeys hroom =>
    rw [hkeys.mem_iff, List.mem_cons, not_or] at hgone
    rw [hkeys.mem_iff, List.mem_cons] at hstays
    rw [Ordered, hsplit, List.pairwise_append] at h
    have hmem : k ∈ popped ++ kept := hsplit ▸ hlisted.mem_iff.2 hk
    have hpopped : k ∈ popped := (List.mem_append.1 hmem).resolve_right hgone.2
    have hkept : k' ∈ kept := hstays.resolve_left fun heq => hkey (heq ▸ hk')
    exact h.2.2 k hpopped k' hkept

/-- After any calls the queue is a listing of the cached keys without duplicates and the cache is
within its capacity; an insertion takes out only keys that were held longer than all that stay, and
no lookup returns an entry that has expired. -/
theorem auth_cache_consistent (config : AuthCacheConfig) (hcap : 1 ≤ config.authCacheCapacity)
    (calls : List (Call κ α)) :
    ((after config calls).order.Nodup
      ∧ (after config calls).order.Perm (after config calls).entries.keys)
    ∧ (after config calls).entries.keys.length ≤ config.authCacheCapacity
    ∧ (∀ now key authentication, ∀ k ∈ (after config calls).entries,
        k ∉ ((after config calls).cacheInsert config now key authentication).entries →
        ∀ k' ∈ (after config calls).entries,
          k' ∈ ((after config calls).cacheInsert config now key authentication).entries →
            HeldLonger (caches config calls) k k')
    ∧ ∀ now key authentication, ((after config calls).cacheGet now key).1 = some authentication →
        ∃ entry, (after config calls).entries.lookup key = some entry
          ∧ entry.authentication = authentication ∧ ¬ entry.expiresAtMs ≤ now := by
  obtain ⟨hsound, hordered⟩ := run_ordered hcap calls [] empty sound_empty .nil
  refine ⟨⟨hsound.nodup, hsound.perm⟩, hsound.bounded, ?_, ?_⟩
  · intro now key authentication k hk hgone k' hk' hstays
    have hins := cacheInsert_inserted hcap hsound.toListed now key authentication
    exact hins.evicted hsound.toListed hordered hk hgone hk' hstays
  · intro now key authentication hget
    obtain ⟨entry, hentry, hauth, hlt⟩ := cacheGet_fst hget
    exact ⟨entry, hentry, hauth, Nat.not_le.2 hlt⟩

/-- With room for two, the first of two keys makes place for a third. -/
theorem third_key_evicts_first :
    1 ≤ (AuthCacheConfig.mk 2 60000).authCacheCapacity
      ∧ HeldLonger (caches (κ := ℕ) (α := ℕ) ⟨2, 60000⟩ [.insert 0 1 10, .insert 5 2 20, .get 6 1])
        1 2 := by
  refine ⟨by decide, ?_⟩
  exact (auth_cache_consistent ⟨2, 60000⟩ (by decide)
    [.insert 0 1 10, .insert 5 2 20, .get 6 1]).2.2.1 9 3 30 1 (by decide) (by decide) 2
    (by decide) (by decide)

end AuthCache

end Ingest

end EdgeNode
