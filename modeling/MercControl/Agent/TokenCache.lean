import Mathlib.Algebra.BigOperators.Group.List.Basic
import Mathlib.Algebra.Ring.Nat
import Mathlib.Data.List.AList
import Mathlib.Data.List.Dedup
import Mathlib.Data.List.Induction

/-!
# The tokenization cache

The cache keeps its entries in a map and their keys in a queue, the one used
last at the back.  The bytes of the entries are counted beside them, in
saturating arithmetic.
-/

namespace MercControl.Agent.TokenCache

def usizeMax : Nat := 2 ^ 64 - 1

def saturatingAdd (a b : Nat) : Nat := min (a + b) usizeMax

structure Entry (Encoding : Type*) where
  encoding : Encoding
  bytes : Nat

abbrev Entries (Key Encoding : Type*) := AList fun _ : Key => Entry Encoding

structure State (Key Encoding : Type*) where
  entries : Entries Key Encoding := ∅
  order : List Key := []
  bytes : Nat := 0
  hits : Nat := 0
  misses : Nat := 0
  evictions : Nat := 0

structure TokenizationCache where
  maxEntries : Nat
  maxBytes : Nat
  positive : 0 < maxEntries ∧ 0 < maxBytes

inductive Call (Key Encoding : Type*)
  | get (key : Key)
  | insert (key : Key) (encoding : Encoding)

variable {Key Encoding : Type*} [DecidableEq Key]

def size (entries : Entries Key Encoding) (key : Key) : Nat :=
  ((entries.lookup key).map Entry.bytes).getD 0

def removeKey (order : List Key) (key : Key) : List Key := order.erase key

def touch (order : List Key) (key : Key) : List Key := removeKey order key ++ [key]

namespace State

variable (state : State Key Encoding) (key : Key)

def get : Option Encoding × State Key Encoding :=
  match state.entries.lookup key with
  | some entry =>
    (some entry.encoding,
      { state with
        hits := saturatingAdd state.hits 1
        order := touch state.order key })
  | none => (none, { state with misses := saturatingAdd state.misses 1 })

/-- Takes a key out of the map and its bytes off the counter. -/
def remove : State Key Encoding :=
  { state with
    entries := state.entries.erase key
    bytes := state.bytes - size state.entries key }

/-- Takes out the entry that a new one replaces. -/
def replace : State Key Encoding :=
  if key ∈ state.entries then { state.remove key with order := removeKey state.order key }
  else state

end State

namespace TokenizationCache

def new (maxEntries maxBytes : Nat) : TokenizationCache :=
  ⟨max maxEntries 1, max maxBytes 1, by omega, by omega⟩

variable (cache : TokenizationCache) (encodingBytes : Encoding → Nat)

/-- The eviction loop, over the keys that are still in the queue. -/
def evict (bytes : Nat) : List Key → State Key Encoding → State Key Encoding
  | [], state => { state with order := [] }
  | oldest :: rest, state =>
    if cache.maxEntries ≤ state.entries.keys.length ∨
        cache.maxBytes < saturatingAdd state.bytes bytes then
      if oldest ∈ state.entries then
        evict bytes rest
          { state.remove oldest with evictions := saturatingAdd state.evictions 1 }
      else evict bytes rest state
    else { state with order := oldest :: rest }

def insert (state : State Key Encoding) (key : Key) (encoding : Encoding) : State Key Encoding :=
  let bytes := encodingBytes encoding
  if cache.maxBytes < bytes then state
  else
    let state := cache.evict bytes (state.replace key).order (state.replace key)
    { state with
      bytes := saturatingAdd state.bytes bytes
      entries := state.entries.insert key ⟨encoding, bytes⟩
      order := state.order ++ [key] }

def call (state : State Key Encoding) : Call Key Encoding → State Key Encoding
  | .get key => (state.get key).2
  | .insert key encoding => cache.insert encodingBytes state key encoding

def run (calls : List (Call Key Encoding)) : State Key Encoding :=
  calls.foldl (cache.call encodingBytes) {}

/-- The keys used by the calls.  An encoding that is too large uses none. -/
def uses : List (Call Key Encoding) → List Key :=
  List.filterMap fun
    | .get key => some key
    | .insert key encoding => if encodingBytes encoding ≤ cache.maxBytes then some key else none

/-- The encoding of the last insert under the key that was not too large. -/
def latest (key : Key) (calls : List (Call Key Encoding)) : Option Encoding :=
  calls.foldl (fun found call =>
    match call with
    | .insert other encoding =>
      if other = key ∧ encodingBytes encoding ≤ cache.maxBytes then some encoding else found
    | .get _ => found) none

/-- An entry of the given bytes can join entries of the given sizes. -/
def Fits (bytes : Nat) (sizes : List Nat) : Prop :=
  sizes.length < cache.maxEntries ∧ sizes.sum + bytes ≤ cache.maxBytes

/-- Without its first `n` sizes the list leaves room, and not without fewer. -/
def Evicts (bytes : Nat) (sizes : List Nat) (n : Nat) : Prop :=
  cache.Fits bytes (sizes.drop n) ∧ ∀ m < n, ¬ cache.Fits bytes (sizes.drop m)

/-- The key is cached, and of the other keys the shortest prefix is evicted. -/
def Inserts (state : State Key Encoding) (key : Key) (entry : Entry Encoding)
    (next : State Key Encoding) : Prop :=
  let queue := state.order.erase key
  next.entries.lookup key = some entry ∧
    ∃ n, cache.Evicts entry.bytes (queue.map (size state.entries)) n ∧
      next.order = queue.drop n ++ [key] ∧
      ∀ other ∈ queue.drop n, next.entries.lookup other = state.entries.lookup other

end TokenizationCache

open TokenizationCache

variable {cache : TokenizationCache} {order : List Key} {key : Key} {bytes : Nat}
  {original entries : Entries Key Encoding} {state : State Key Encoding}
  {encodingBytes : Encoding → Nat}

/-- The queue lists each cached key once, its entry is the original one, and the
counter is the sum of the sizes. -/
structure Listed (original : Entries Key Encoding) (order : List Key)
    (entries : Entries Key Encoding) (bytes : Nat) : Prop where
  perm : order.Perm entries.keys
  lookup_eq : ∀ key ∈ order, entries.lookup key = original.lookup key
  bytes_eq : bytes = (order.map (size original)).sum

namespace Listed

variable (listed : Listed original order entries bytes)
include listed

theorem nodup : order.Nodup :=
  listed.perm.nodup_iff.mpr entries.keys_nodup

theorem mem_iff : key ∈ order ↔ key ∈ entries := by
  rw [listed.perm.mem_iff, AList.mem_keys]

theorem erase (mem : key ∈ order) :
    Listed original (order.erase key) (entries.erase key) (bytes - size entries key) where
  perm := by simpa using listed.perm.erase key
  lookup_eq other isOther := by
    obtain ⟨different, mem⟩ := listed.nodup.mem_erase_iff.mp isOther
    rw [AList.lookup_erase_ne different, listed.lookup_eq other mem]
  bytes_eq := by
    rw [listed.bytes_eq, size, listed.lookup_eq key mem, ← size, ← List.sum_map_erase _ mem,
      Nat.add_sub_cancel_left]

theorem touch (mem : key ∈ order) : Listed original (order.erase key ++ [key]) entries bytes := by
  have perm : (order.erase key ++ [key]).Perm order :=
    List.perm_append_comm.trans (List.perm_cons_erase mem).symm
  refine ⟨perm.trans listed.perm, fun other isOther => ?_, ?_⟩
  · exact listed.lookup_eq other (perm.mem_iff.mp isOther)
  · rw [listed.bytes_eq, (perm.map _).sum_eq]

theorem insert (fresh : key ∉ order) (entry : Entry Encoding) :
    Listed (entries.insert key entry) (order ++ [key]) (entries.insert key entry)
      (bytes + entry.bytes) where
  perm := by
    rw [AList.keys_insert, List.erase_of_not_mem (mt listed.perm.mem_iff.mpr fresh)]
    exact List.perm_append_comm.trans (listed.perm.cons key)
  lookup_eq _ _ := rfl
  bytes_eq := by
    have same : order.map (size (entries.insert key entry)) = order.map (size original) := by
      refine List.map_congr_left fun other mem => ?_
      rw [size, AList.lookup_insert_ne (ne_of_mem_of_not_mem mem fresh),
        listed.lookup_eq other mem, size]
    simp [same, size, listed.bytes_eq]

/-- The condition of the eviction loop, which saturation does not change. -/
theorem full_iff (added : Nat) (bounded : cache.maxBytes < usizeMax) :
    (cache.maxEntries ≤ entries.keys.length ∨ cache.maxBytes < saturatingAdd bytes added) ↔
      ¬ cache.Fits added (order.map (size original)) := by
  rw [Fits, saturatingAdd, ← listed.bytes_eq, List.length_map, listed.perm.length_eq]
  omega

end Listed

theorem evict_spec (bounded : cache.maxBytes < usizeMax) {added : Nat}
    (small : added ≤ cache.maxBytes) (listed : Listed original order state.entries state.bytes) :
    ∃ n, cache.Evicts added (order.map (size original)) n ∧
      (cache.evict added order state).order = order.drop n ∧
      Listed original (order.drop n) (cache.evict added order state).entries
        (cache.evict added order state).bytes := by
  induction order generalizing state with
  | nil => exact ⟨0, ⟨⟨cache.positive.1, by simpa using small⟩, by simp⟩, rfl, listed⟩
  | cons oldest rest ih =>
    have full := listed.full_iff added bounded
    by_cases fits : cache.Fits added ((oldest :: rest).map (size original))
    · rw [evict, if_neg (full.not.mpr (not_not.mpr fits))]
      exact ⟨0, ⟨fits, by simp⟩, rfl, listed⟩
    · have mem : oldest ∈ oldest :: rest := List.mem_cons_self
      rw [evict, if_pos (full.mpr fits), if_pos (listed.mem_iff.mp mem)]
      have later := listed.erase mem
      rw [List.erase_cons_head] at later
      obtain ⟨n, ⟨fitting, shortest⟩, kept⟩ :=
        @ih { state.remove oldest with evictions := saturatingAdd state.evictions 1 } later
      refine ⟨n + 1, ⟨fitting, ?_⟩, kept⟩
      rintro (_ | m) below
      · exact fits
      · exact shortest m (by omega)

structure Sound (cache : TokenizationCache) (state : State Key Encoding) : Prop where
  listed : Listed state.entries state.order state.entries state.bytes
  entries_le : state.entries.keys.length ≤ cache.maxEntries
  bytes_le : state.bytes ≤ cache.maxBytes

theorem replace_spec (key : Key)
    (listed : Listed state.entries state.order state.entries state.bytes) :
    (state.replace key).order = state.order.erase key ∧
      Listed state.entries (state.order.erase key) (state.replace key).entries
        (state.replace key).bytes := by
  by_cases cached : key ∈ state.entries
  · rw [State.replace, if_pos cached]
    exact ⟨rfl, listed.erase (listed.mem_iff.mpr cached)⟩
  · rw [State.replace, if_neg cached, List.erase_of_not_mem (mt listed.mem_iff.mp cached)]
    exact ⟨rfl, listed⟩

theorem insert_spec (bounded : cache.maxBytes < usizeMax) (sound : Sound cache state) (key : Key)
    {encoding : Encoding} (small : encodingBytes encoding ≤ cache.maxBytes) :
    Sound cache (cache.insert encodingBytes state key encoding) ∧
      cache.Inserts state key ⟨encoding, encodingBytes encoding⟩
        (cache.insert encodingBytes state key encoding) := by
  obtain ⟨order_eq, replaced⟩ := replace_spec key sound.listed
  obtain ⟨n, evicts, left, kept⟩ := evict_spec bounded small replaced
  have fresh : key ∉ (state.order.erase key).drop n :=
    mt List.mem_of_mem_drop sound.listed.nodup.not_mem_erase
  have inserted := kept.insert fresh ⟨encoding, encodingBytes encoding⟩
  obtain ⟨count, fits⟩ := evicts.1
  rw [← List.map_drop, ← kept.bytes_eq] at fits
  rw [← List.map_drop, List.length_map] at count
  simp only [TokenizationCache.insert, Inserts, not_lt.mpr small, if_false, order_eq, left,
    AList.lookup_insert, true_and, saturatingAdd, min_eq_left (fits.trans bounded.le)]
  refine ⟨⟨inserted, ?_, fits⟩, n, evicts, rfl, fun other mem => ?_⟩
  · rw [← inserted.perm.length_eq, List.length_append]
    exact count
  · rw [AList.lookup_insert_ne (ne_of_mem_of_not_mem mem fresh), kept.lookup_eq other mem]

theorem dedup_append_singleton (keys : List Key) (key : Key) :
    (keys ++ [key]).dedup = keys.dedup.erase key ++ [key] := by
  induction keys with
  | nil => simp
  | cons first rest ih =>
    by_cases again : first ∈ rest
    · simp [again, ih]
    · by_cases same : first = key
      · subst same
        simp [again, ih]
      · simp [again, same, ih]

theorem used_last {used kept : List Key} (recent : order.Sublist used.dedup)
    (sublist : kept.Sublist (order.erase key)) :
    (kept ++ [key]).Sublist (used ++ [key]).dedup := by
  rw [dedup_append_singleton]
  exact (sublist.trans (recent.erase key)).append (.refl _)

theorem call_sound (bounded : cache.maxBytes < usizeMax) (sound : Sound cache state)
    {used : List Key} (recent : state.order.Sublist used.dedup) (call : Call Key Encoding) :
    Sound cache (cache.call encodingBytes state call) ∧
      (cache.call encodingBytes state call).order.Sublist
        (used ++ cache.uses encodingBytes [call]).dedup := by
  cases call with
  | get key =>
    simp only [TokenizationCache.call, State.get]
    cases found : state.entries.lookup key with
    | some entry =>
      have cached : key ∈ state.order :=
        sound.listed.mem_iff.mpr (AList.lookup_isSome.mp (by rw [found]; rfl))
      exact ⟨{ sound with listed := sound.listed.touch cached }, used_last recent (.refl _)⟩
    | none =>
      have unlisted : key ∉ state.order :=
        mt sound.listed.mem_iff.mp (AList.lookup_eq_none.mp found)
      refine ⟨{ sound with }, (List.sublist_append_left _ [key]).trans (used_last recent ?_)⟩
      rw [List.erase_of_not_mem unlisted]
  | insert key encoding =>
    by_cases small : encodingBytes encoding ≤ cache.maxBytes
    · obtain ⟨inserted, -, n, -, order_eq, -⟩ := insert_spec bounded sound key small
      refine ⟨inserted, ?_⟩
      simpa [TokenizationCache.call, order_eq, uses, small] using
        used_last recent (List.drop_sublist n (state.order.erase key))
    · have refused : cache.insert encodingBytes state key encoding = state :=
        if_pos (not_le.mp small)
      simpa [TokenizationCache.call, refused, uses, small] using ⟨sound, recent⟩

theorem run_sound (bounded : cache.maxBytes < usizeMax) (calls : List (Call Key Encoding)) :
    Sound cache (cache.run encodingBytes calls) ∧
      (cache.run encodingBytes calls).order.Sublist (cache.uses encodingBytes calls).dedup := by
  induction calls using List.reverseRecOn with
  | nil => exact ⟨⟨⟨.nil, by simp [run], rfl⟩, Nat.zero_le _, Nat.zero_le _⟩, .slnil⟩
  | append_singleton calls call ih =>
    rw [run, List.foldl_append, ← run, uses, List.filterMap_append]
    exact call_sound bounded ih.1 ih.2 call

/-- After any calls, the queue lists each cached key once, in the order of the
last uses.  The counts are exact and within their limits, and what a fitting
insert evicts is the shortest prefix of the queue. -/
theorem token_cache_is_lru (cache : TokenizationCache) (bounded : cache.maxBytes < usizeMax)
    (encodingBytes : Encoding → Nat) (calls : List (Call Key Encoding)) :
    let state := cache.run encodingBytes calls
    state.order.Perm state.entries.keys ∧
      state.order.Sublist (cache.uses encodingBytes calls).dedup ∧
      state.bytes = (state.order.map (size state.entries)).sum ∧
      state.entries.keys.length ≤ cache.maxEntries ∧ state.bytes ≤ cache.maxBytes ∧
      ∀ key encoding, encodingBytes encoding ≤ cache.maxBytes →
        cache.Inserts state key ⟨encoding, encodingBytes encoding⟩
          (cache.insert encodingBytes state key encoding) := by
  intro state
  obtain ⟨sound, recent⟩ := run_sound bounded calls
  exact ⟨sound.listed.perm, recent, sound.listed.bytes_eq, sound.entries_le, sound.bytes_le,
    fun key encoding small => (insert_spec bounded sound key small).2⟩

theorem token_cache_is_lru_two_inserts :
    ((new 2 10).run (fun n : Nat => n) [.insert 0 7, .insert 1 5]).bytes ≤ (new 2 10).maxBytes :=
  (token_cache_is_lru (new 2 10) (by decide) (fun n : Nat => n)
    [.insert 0 7, .insert 1 5]).2.2.2.2.1

/-- Under the largest byte limit the counter saturates below the sum. -/
theorem token_cache_counter_saturates :
    let state := (new 2 usizeMax).run (fun n : Nat => n) [.insert 0 (2 ^ 63), .insert 1 (2 ^ 63)]
    state.bytes < (state.order.map (size state.entries)).sum := by
  decide

theorem lookup_of_erase {entry : Entry Encoding} {other : Key}
    (found : (entries.erase other).lookup key = some entry) :
    entries.lookup key = some entry := by
  by_cases same : key = other
  · rw [same, AList.lookup_erase] at found
    cases found
  · rwa [AList.lookup_erase_ne same] at found

theorem lookup_of_evict {entry : Entry Encoding}
    (found : (cache.evict bytes order state).entries.lookup key = some entry) :
    state.entries.lookup key = some entry := by
  induction order generalizing state with
  | nil => exact found
  | cons oldest rest ih =>
    rw [evict] at found
    split_ifs at found
    · exact lookup_of_erase (ih found)
    · exact ih found
    · exact found

theorem lookup_run {entry : Entry Encoding} (calls : List (Call Key Encoding))
    (found : (cache.run encodingBytes calls).entries.lookup key = some entry) :
    cache.latest encodingBytes key calls = some entry.encoding := by
  induction calls using List.reverseRecOn with
  | nil => cases found
  | append_singleton calls call ih =>
    rw [run, List.foldl_append, ← run] at found
    rw [latest, List.foldl_append, ← latest]
    cases call with
    | get other =>
      refine ih ?_
      simp only [List.foldl_cons, List.foldl_nil, TokenizationCache.call, State.get] at found
      split at found <;> exact found
    | insert other encoding =>
      simp only [List.foldl_cons, List.foldl_nil, TokenizationCache.call,
        TokenizationCache.insert] at found ⊢
      split_ifs at found with large
      · rw [if_neg fun stored => absurd large (not_lt.mpr stored.2)]
        exact ih found
      · by_cases same : other = key
        · subst same
          rw [AList.lookup_insert] at found
          cases found
          rw [if_pos ⟨rfl, not_lt.mp large⟩]
        · rw [if_neg fun stored => same stored.1]
          rw [AList.lookup_insert_ne (Ne.symm same)] at found
          have kept := lookup_of_evict found
          unfold State.replace at kept
          split_ifs at kept
          · exact ih (lookup_of_erase kept)
          · exact ih kept

/-- A hit is the encoding that was inserted last under the key, whatever was
evicted or refused in between. -/
theorem token_cache_coherent (cache : TokenizationCache) (encodingBytes : Encoding → Nat)
    (calls : List (Call Key Encoding)) (key : Key) :
    ((cache.run encodingBytes calls).get key).1 = none ∨
      ((cache.run encodingBytes calls).get key).1 = cache.latest encodingBytes key calls := by
  unfold State.get
  split
  · rename_i found
    exact .inr (lookup_run calls found).symm
  · exact .inl rfl

end MercControl.Agent.TokenCache
