import Gowaves.GoLib.GoMap

/-!
# The cached, Bloom-filtered key-value store (`pkg/keyvalue/leveldb.go`, `bloom_filter.go`)

`KeyVal` keeps its data in LevelDB and puts two layers in front of it: a `freecache` cache of
values and a `steakknife/bloomfilter` filter of the `xxhash` digests of the keys ever written.
`Get` asks the cache, then the filter, then the database, and caches what the database
returned; `Has` asks the filter, then the cache, then the database.  `Put` and `Delete` write
the database and update the cache; `Flush` writes a batch to the database, then replays it into
the cache and into the filter.  `Close` stores the filter, and `NewKeyVal` loads it back or
rebuilds it from the keys of the database.

## Model

The database is a map; a read of it may fail with an error other than `ErrNotFound`, and the
error is an input of `get` and `has`; writes succeed.  The cache, the filter and the hash are
third-party code: their calls are parameters (`CacheOps`, `FilterOps`), and the results use only
what their documentation promises (`CacheOps.Spec`, `FilterOps.Spec`): a new cache is empty, a
successful `Set` stores the value, `Del` removes the key, and neither makes up a value for
another key (evictions only drop entries); a digest added to the filter is contained from then
on.  `mapCache` and `digestSet` meet these laws.

## Results

* `Inv` — every cached value is the database's, and every key of the database passes the
  filter.  Every operation keeps it when no read fails (`step_inv`), and a store just opened
  has it.
* `get_run_refinesStore` — so a store opened on any database and driven by any sequence of
  `Put`, `Delete`, `Flush`, `Get`, `Has` and reopenings answers every `Get` and `Has` as the
  plain map of the committed writes does (`Store.run`).
* `get_cachesFailedRead` — a failing read breaks it: `Get` caches the `nil` value it got with
  the error, and the next `Get` of the key returns that empty value as found, while the
  database still holds the stored one.
-/

set_option autoImplicit false

namespace Gowaves.KeyValue

open GoLib

/-- Keys and values. -/
abbrev Bytes := List UInt8

/-- The errors of a read: `ErrNotFound`, or an error of LevelDB passed on. -/
inductive KeyValError where
  | notFound
  | db (msg : String)
  deriving DecidableEq, Repr

/-! ## The Bloom filter -/

/-- The calls `bloomFilter` makes: `bloomfilter.NewOptimal` with the store's parameters, the
`xxhash` digest of a key, and the filter's `Add` and `Contains` of a digest. -/
structure FilterOps (F : Type) where
  new : F
  hash : Bytes → UInt64
  add : F → UInt64 → F
  contains : F → UInt64 → Bool

/-- A Bloom filter has no false negatives: a digest added is contained, and stays contained
when more are added. -/
structure FilterOps.Spec {F : Type} (ops : FilterOps F) : Prop where
  contains_add_self : ∀ f h, ops.contains (ops.add f h) h = true
  contains_add_of : ∀ f h h', ops.contains f h' = true → ops.contains (ops.add f h) h' = true

namespace BloomFilter

variable {F : Type} (ops : FilterOps F)

/-- `bloomFilter.add`: writing a key to an `xxhash` digest never fails. -/
def add (f : F) (data : Bytes) : F := ops.add f (ops.hash data)

/-- `bloomFilter.notInTheSet`. -/
def notInTheSet (f : F) (data : Bytes) : Bool := !ops.contains f (ops.hash data)

variable {ops}

theorem notInTheSet_add_self (hs : ops.Spec) (f : F) (data : Bytes) :
    notInTheSet ops (add ops f data) data = false := by
  simp [notInTheSet, add, hs.contains_add_self]

theorem notInTheSet_add_of (hs : ops.Spec) {f : F} {data : Bytes}
    (h : notInTheSet ops f data = false) (other : Bytes) :
    notInTheSet ops (add ops f other) data = false := by
  simp only [notInTheSet, Bool.not_eq_false'] at h ⊢
  exact hs.contains_add_of _ _ _ h

end BloomFilter

/-! ## The cache -/

/-- The calls the store makes to `freecache`: `NewCache` of a size, `Set` with no expiry (an
error, or the cache holding the entry), `Del`, and `Get` (the value, or `ErrNotFound`). -/
structure CacheOps (C : Type) where
  new : Nat → C
  set : C → Bytes → Bytes → Option C
  del : C → Bytes → C
  get : C → Bytes → Option Bytes

/-- What `freecache` documents of these calls: a new cache is empty, a successful `Set` stores
the value, `Del` removes the key, and neither makes up a value for another key. -/
structure CacheOps.Spec {C : Type} (ops : CacheOps C) : Prop where
  get_new : ∀ size key, ops.get (ops.new size) key = none
  get_set_self : ∀ c key value c', ops.set c key value = some c' → ops.get c' key = some value
  get_set_of_ne : ∀ c key value c' key' v, ops.set c key value = some c' → key' ≠ key →
    ops.get c' key' = some v → ops.get c key' = some v
  get_del_self : ∀ c key, ops.get (ops.del c key) key = none
  get_del_of_ne : ∀ c key key' v, key' ≠ key → ops.get (ops.del c key) key' = some v →
    ops.get c key' = some v

namespace Cache

variable {C : Type} (ops : CacheOps C)

/-- `addToCache` (of `KeyVal` and of `batch`): `Set`, and `Del` when it fails. -/
def addToCache (c : C) (key value : Bytes) : C :=
  match ops.set c key value with
  | some c => c
  | none => ops.del c key

variable {ops}

theorem get_addToCache_self (hs : ops.Spec) (c : C) (key value : Bytes) {v : Bytes}
    (hv : ops.get (addToCache ops c key value) key = some v) : v = value := by
  unfold addToCache at hv
  split at hv
  · rename_i c' hset
    rw [hs.get_set_self _ _ _ _ hset] at hv
    exact (Option.some.inj hv).symm
  · rw [hs.get_del_self] at hv
    cases hv

theorem get_addToCache_of_ne (hs : ops.Spec) (c : C) {key key' : Bytes} (value : Bytes)
    (h : key' ≠ key) {v : Bytes} (hv : ops.get (addToCache ops c key value) key' = some v) :
    ops.get c key' = some v := by
  unfold addToCache at hv
  split at hv
  · rename_i c' hset
    exact hs.get_set_of_ne _ _ _ _ _ _ hset h hv
  · exact hs.get_del_of_ne _ _ _ _ h hv

end Cache

/-! ## Batches -/

/-- `pair`: a write of a batch. -/
structure Pair where
  key : Bytes
  value : Bytes
  deletion : Bool

section Pair

variable {C F : Type}

/-- The write of a pair to the database, as `leveldbBatch` records it. -/
def Pair.applyDb (db : GoMap Bytes Bytes) (p : Pair) : GoMap Bytes Bytes :=
  if p.deletion then db.delete p.key else db.insert p.key p.value

/-- The write of a pair to the cache, as `batch.addToCache` makes it. -/
def Pair.applyCache (ops : CacheOps C) (c : C) (p : Pair) : C :=
  if p.deletion then ops.del c p.key else Cache.addToCache ops c p.key p.value

/-- The key of a pair added to the filter, as `batch.addToFilter` adds it. -/
def Pair.applyFilter (ops : FilterOps F) (f : F) (p : Pair) : F :=
  if p.deletion then f else BloomFilter.add ops f p.key

end Pair

/-! ## The store -/

/-- `KeyVal`, with the filter that `NewKeyVal` always sets. -/
structure KeyVal (C F : Type) where
  db : GoMap Bytes Bytes
  filter : F
  cache : C

namespace KeyVal

variable {C F : Type} (cops : CacheOps C) (fops : FilterOps F)

/-- `KeyVal.Get`, with the error of the database read if it fails: the cache, the filter,
then the database, whose answer is cached, `nil` with an error included. -/
def get (kv : KeyVal C F) (key : Bytes) (readError : Option String) :
    Except KeyValError Bytes × KeyVal C F :=
  match cops.get kv.cache key with
  | some val => (.ok val, kv)
  | none =>
    if BloomFilter.notInTheSet fops kv.filter key then (.error .notFound, kv)
    else
      match readError, kv.db.get key with
      | some e, _ => (.error (.db e), { kv with cache := Cache.addToCache cops kv.cache key [] })
      | none, none => (.error .notFound, kv)
      | none, some val => (.ok val, { kv with cache := Cache.addToCache cops kv.cache key val })

/-- `KeyVal.Has`: the filter, the cache, then the database. -/
def has (kv : KeyVal C F) (key : Bytes) (readError : Option String) : Except KeyValError Bool :=
  if BloomFilter.notInTheSet fops kv.filter key then .ok false
  else if (cops.get kv.cache key).isSome then .ok true
  else
    match readError with
    | some e => .error (.db e)
    | none => .ok (kv.db.get key).isSome

/-- `KeyVal.Delete`. -/
def delete (kv : KeyVal C F) (key : Bytes) : KeyVal C F :=
  { kv with cache := cops.del kv.cache key, db := kv.db.delete key }

/-- `KeyVal.Put`. -/
def put (kv : KeyVal C F) (key val : Bytes) : KeyVal C F :=
  { db := kv.db.insert key val, filter := BloomFilter.add fops kv.filter key,
    cache := Cache.addToCache cops kv.cache key val }

/-- `KeyVal.Flush`: the batch written to the database, then replayed into the cache and into
the filter. -/
def flush (kv : KeyVal C F) (batch : List Pair) : KeyVal C F :=
  { db := batch.foldl Pair.applyDb kv.db, cache := batch.foldl (Pair.applyCache cops) kv.cache,
    filter := batch.foldl (Pair.applyFilter fops) kv.filter }

/-- `initBloomFilter` when no filter is stored: a new filter with every key of the database. -/
def rebuildFilter (db : GoMap Bytes Bytes) : F :=
  db.foldl (fun f e => BloomFilter.add fops f e.1) fops.new

/-- `NewKeyVal` on a database: a new cache, and the filter stored at the last `Close` or, when
there is none, one rebuilt from the database. -/
def newKeyVal (db : GoMap Bytes Bytes) (cacheSize : Nat) (stored : Option F) : KeyVal C F :=
  { db, cache := cops.new cacheSize,
    filter := match stored with
      | some f => f
      | none => rebuildFilter fops db }

/-- `Close` followed by `NewKeyVal` on the same path: the filter loaded back, or rebuilt when
loading it fails. -/
def reopen (kv : KeyVal C F) (cacheSize : Nat) (loaded : Bool) : KeyVal C F :=
  newKeyVal cops fops kv.db cacheSize (if loaded then some kv.filter else none)

end KeyVal

/-! ## Runs -/

/-- The operations on the store. -/
inductive Op where
  | put (key val : Bytes)
  | delete (key : Bytes)
  | flush (batch : List Pair)
  | get (key : Bytes)
  | has (key : Bytes)
  | reopen (cacheSize : Nat) (loaded : Bool)

section Runs

variable {C F : Type} (cops : CacheOps C) (fops : FilterOps F)

/-- One operation, with every read of the database succeeding. -/
def KeyVal.step (kv : KeyVal C F) : Op → KeyVal C F
  | .put key val => kv.put cops fops key val
  | .delete key => kv.delete cops key
  | .flush batch => kv.flush cops fops batch
  | .get key => (kv.get cops fops key none).2
  | .has _ => kv
  | .reopen cacheSize loaded => kv.reopen cops fops cacheSize loaded

/-- A run of operations. -/
def KeyVal.run (kv : KeyVal C F) : List Op → KeyVal C F
  | [] => kv
  | op :: ops => (kv.step cops fops op).run ops

end Runs

/-- The store the code stands for: a map of the committed writes. -/
def Store.apply (db : GoMap Bytes Bytes) : Op → GoMap Bytes Bytes
  | .put key val => db.insert key val
  | .delete key => db.delete key
  | .flush batch => batch.foldl Pair.applyDb db
  | .get _ | .has _ | .reopen _ _ => db

/-- A run of the map of committed writes. -/
def Store.run (db : GoMap Bytes Bytes) : List Op → GoMap Bytes Bytes
  | [] => db
  | op :: ops => Store.run (Store.apply db op) ops

/-- A read of the map: the value, or `ErrNotFound`. -/
def Store.get (db : GoMap Bytes Bytes) (key : Bytes) : Except KeyValError Bytes :=
  match db.get key with
  | some v => .ok v
  | none => .error .notFound

/-! ## The invariant -/

/-- Every cached value is the database's, and every key of the database passes the filter. -/
structure KeyVal.Inv {C F : Type} (cops : CacheOps C) (fops : FilterOps F) (kv : KeyVal C F) :
    Prop where
  cache_db : ∀ key v, cops.get kv.cache key = some v → kv.db.get key = some v
  filter_db : ∀ key, (kv.db.get key).isSome → BloomFilter.notInTheSet fops kv.filter key = false

namespace KeyVal

variable {C F : Type} {cops : CacheOps C} {fops : FilterOps F}

theorem get_of_inv {kv : KeyVal C F} (h : kv.Inv cops fops) (key : Bytes) :
    (kv.get cops fops key none).1 = Store.get kv.db key := by
  unfold get Store.get
  cases hc : cops.get kv.cache key with
  | some v => simp [h.cache_db key v hc]
  | none =>
    cases hd : kv.db.get key with
    | none => simp
    | some v =>
      have hf := h.filter_db key (by simp [hd])
      simp [hf]

theorem has_of_inv {kv : KeyVal C F} (h : kv.Inv cops fops) (key : Bytes) :
    kv.has cops fops key none = .ok (kv.db.get key).isSome := by
  unfold has
  cases hd : kv.db.get key with
  | none =>
    have hc : cops.get kv.cache key = none := by
      cases hc : cops.get kv.cache key with
      | none => rfl
      | some v => rw [h.cache_db key v hc] at hd; cases hd
    simp [hc]
  | some v =>
    have hf := h.filter_db key (by simp [hd])
    simp [hf]

theorem cache_db_addToCache (hc : cops.Spec) {c : C} {db : GoMap Bytes Bytes}
    (h : ∀ key v, cops.get c key = some v → db.get key = some v) (k val : Bytes) :
    ∀ key v, cops.get (Cache.addToCache cops c k val) key = some v →
      (db.insert k val).get key = some v := by
  intro key v hv
  by_cases hk : key = k
  · subst hk
    rw [Cache.get_addToCache_self hc c key val hv, GoMap.get_insert_self]
  · rw [GoMap.get_insert_ne _ _ hk]
    exact h key v (Cache.get_addToCache_of_ne hc c val hk hv)

theorem cache_db_del (hc : cops.Spec) {c : C} {db : GoMap Bytes Bytes}
    (h : ∀ key v, cops.get c key = some v → db.get key = some v) (k : Bytes) :
    ∀ key v, cops.get (cops.del c k) key = some v → (db.delete k).get key = some v := by
  intro key v hv
  by_cases hk : key = k
  · subst hk
    rw [hc.get_del_self] at hv
    cases hv
  · rw [GoMap.get_delete_ne _ hk]
    exact h key v (hc.get_del_of_ne _ _ _ _ hk hv)

theorem filter_db_insert (hf : fops.Spec) {f : F} {db : GoMap Bytes Bytes}
    (h : ∀ key, (db.get key).isSome → BloomFilter.notInTheSet fops f key = false) (k val : Bytes) :
    ∀ key, ((db.insert k val).get key).isSome →
      BloomFilter.notInTheSet fops (BloomFilter.add fops f k) key = false := by
  intro key hk
  by_cases hkk : key = k
  · subst hkk
    exact BloomFilter.notInTheSet_add_self hf f key
  · rw [GoMap.get_insert_ne _ _ hkk] at hk
    exact BloomFilter.notInTheSet_add_of hf (h key hk) k

theorem filter_db_delete {f : F} {db : GoMap Bytes Bytes}
    (h : ∀ key, (db.get key).isSome → BloomFilter.notInTheSet fops f key = false) (k : Bytes) :
    ∀ key, ((db.delete k).get key).isSome → BloomFilter.notInTheSet fops f key = false := by
  intro key hk
  by_cases hkk : key = k
  · subst hkk
    simp at hk
  · rw [GoMap.get_delete_ne _ hkk] at hk
    exact h key hk

theorem inv_foldl (hc : cops.Spec) (hf : fops.Spec) (batch : List Pair) :
    ∀ (db : GoMap Bytes Bytes) (c : C) (f : F),
      (⟨db, f, c⟩ : KeyVal C F).Inv cops fops →
        (⟨batch.foldl Pair.applyDb db, batch.foldl (Pair.applyFilter fops) f,
          batch.foldl (Pair.applyCache cops) c⟩ : KeyVal C F).Inv cops fops := by
  induction batch with
  | nil => intro db c f h; exact h
  | cons p ps ih =>
    intro db c f h
    apply ih
    cases hp : p.deletion with
    | true =>
      simp only [Pair.applyDb, Pair.applyCache, Pair.applyFilter, hp, if_true]
      exact ⟨cache_db_del hc h.cache_db p.key, filter_db_delete h.filter_db p.key⟩
    | false =>
      simp only [Pair.applyDb, Pair.applyCache, Pair.applyFilter, hp, Bool.false_eq_true,
        if_false]
      exact ⟨cache_db_addToCache hc h.cache_db p.key p.value,
        filter_db_insert hf h.filter_db p.key p.value⟩

theorem notInTheSet_foldl_add (hf : fops.Spec) :
    ∀ (es : GoMap Bytes Bytes) (f : F) (key : Bytes),
      (BloomFilter.notInTheSet fops f key = false ∨ (es.get key).isSome) →
        BloomFilter.notInTheSet fops (es.foldl (fun f e => BloomFilter.add fops f e.1) f) key =
          false
  | [], f, key, h => by simpa using h
  | e :: es, f, key, h => by
    apply notInTheSet_foldl_add hf es
    rw [GoMap.get_cons] at h
    by_cases he : e.1 = key
    · left
      subst he
      exact BloomFilter.notInTheSet_add_self hf _ _
    · rcases h with h | h
      · left
        exact BloomFilter.notInTheSet_add_of hf h _
      · right
        simpa [he] using h

theorem rebuildFilter_db (hf : fops.Spec) (db : GoMap Bytes Bytes) :
    ∀ key, (db.get key).isSome → BloomFilter.notInTheSet fops (rebuildFilter fops db) key = false :=
  fun key hk => notInTheSet_foldl_add hf db _ key (Or.inr hk)

theorem newKeyVal_inv (hc : cops.Spec) (hf : fops.Spec) (db : GoMap Bytes Bytes)
    (cacheSize : Nat) (stored : Option F)
    (hstored : ∀ f, stored = some f → ∀ key, (db.get key).isSome →
      BloomFilter.notInTheSet fops f key = false) :
    (newKeyVal cops fops db cacheSize stored).Inv cops fops := by
  refine ⟨fun key v hv => ?_, ?_⟩
  · simp only [newKeyVal, hc.get_new] at hv
    cases hv
  · cases stored with
    | some f => exact hstored f rfl
    | none => exact rebuildFilter_db hf db

theorem get_inv (hc : cops.Spec) {kv : KeyVal C F} (h : kv.Inv cops fops) (key : Bytes) :
    (kv.get cops fops key none).2.Inv cops fops := by
  cases hca : cops.get kv.cache key with
  | some v => simp only [get, hca]; exact h
  | none =>
    cases hf : BloomFilter.notInTheSet fops kv.filter key with
    | true => simp only [get, hca, hf, if_true]; exact h
    | false =>
      cases hd : kv.db.get key with
      | none => simp only [get, hca, hf, hd, Bool.false_eq_true, if_false]; exact h
      | some v =>
        simp only [get, hca, hf, hd, Bool.false_eq_true, if_false]
        refine ⟨fun key' v' hv' => ?_, h.filter_db⟩
        have hins := cache_db_addToCache hc h.cache_db key v key' v' hv'
        by_cases hk : key' = key
        · subst hk
          rw [GoMap.get_insert_self] at hins
          rw [hd, hins]
        · rwa [GoMap.get_insert_ne _ _ hk] at hins

/-- **Every operation keeps the invariant** when no read of the database fails. -/
theorem step_inv (hc : cops.Spec) (hf : fops.Spec) {kv : KeyVal C F} (h : kv.Inv cops fops)
    (op : Op) : (kv.step cops fops op).Inv cops fops := by
  cases op with
  | put key val =>
    exact ⟨cache_db_addToCache hc h.cache_db key val, filter_db_insert hf h.filter_db key val⟩
  | delete key => exact ⟨cache_db_del hc h.cache_db key, filter_db_delete h.filter_db key⟩
  | flush batch => exact inv_foldl hc hf batch kv.db kv.cache kv.filter h
  | get key => exact get_inv hc h key
  | has key => exact h
  | reopen cacheSize loaded =>
    apply newKeyVal_inv hc hf
    intro f hfs
    cases loaded with
    | true => cases hfs; exact h.filter_db
    | false => cases hfs

theorem db_get (cops : CacheOps C) (fops : FilterOps F) (kv : KeyVal C F) (key : Bytes)
    (readError : Option String) :
    (kv.get cops fops key readError).2.db = kv.db := by
  unfold get
  split
  · rfl
  · split
    · rfl
    · split <;> rfl

theorem db_run (cops : CacheOps C) (fops : FilterOps F) (kv : KeyVal C F) :
    ∀ ops, (kv.run cops fops ops).db = Store.run kv.db ops
  | [] => rfl
  | op :: ops => by
    rw [run, db_run cops fops _ ops, Store.run]
    congr 1
    cases op
    case get key => exact db_get cops fops kv key none
    all_goals rfl

theorem run_inv (hc : cops.Spec) (hf : fops.Spec) {kv : KeyVal C F} (h : kv.Inv cops fops) :
    ∀ ops, (kv.run cops fops ops).Inv cops fops
  | [] => h
  | op :: ops => run_inv hc hf (step_inv hc hf h op) ops

/-- **The store refines a map of its committed writes**: opened on any database, with the
filter rebuilt or loaded back, after any run of operations whose reads succeed, `Get` returns
the value of the last committed write of the key, or `ErrNotFound` when that write is a
deletion or there is none, and `Has` says whether there is a value. -/
theorem get_run_refinesStore (hc : cops.Spec) (hf : fops.Spec) (db : GoMap Bytes Bytes)
    (cacheSize : Nat) (ops : List Op) (key : Bytes) :
    (((newKeyVal cops fops db cacheSize none).run cops fops ops).get cops fops key none).1 =
        Store.get (Store.run db ops) key ∧
      ((newKeyVal cops fops db cacheSize none).run cops fops ops).has cops fops key none =
        .ok ((Store.run db ops).get key).isSome := by
  have h := run_inv hc hf (newKeyVal_inv hc hf db cacheSize none (by simp)) ops
  have hdb := db_run cops fops (newKeyVal cops fops db cacheSize none) ops
  exact ⟨by rw [get_of_inv h, hdb]; rfl, by rw [has_of_inv h, hdb]; rfl⟩

/-- **A failed read is cached as a found empty value**: a stored key that is not cached, whose
read fails, is cached with the `nil` value the failed read returned, when the cache takes the
entry, and the next `Get` of the key returns that empty value as found, while the database holds
another. -/
theorem get_cachesFailedRead (hc : cops.Spec) (kv : KeyVal C F) (key v : Bytes) (e : String)
    (hdb : kv.db.get key = some v) (hv : v ≠ []) (hcache : cops.get kv.cache key = none)
    (hfilter : BloomFilter.notInTheSet fops kv.filter key = false)
    (hset : (cops.set kv.cache key []).isSome) :
    (kv.get cops fops key (some e)).1 = .error (.db e) ∧
      (((kv.get cops fops key (some e)).2.get cops fops key none).1 = .ok []) ∧
      (kv.get cops fops key (some e)).2.db.get key = some v ∧ Store.get kv.db key ≠ .ok [] := by
  obtain ⟨c', hc'⟩ := Option.isSome_iff_exists.mp hset
  have hcached : cops.get (Cache.addToCache cops kv.cache key []) key = some [] := by
    rw [Cache.addToCache, hc']
    exact hc.get_set_self _ _ _ _ hc'
  refine ⟨by simp [get, hcache, hfilter], by simp [get, hcache, hfilter, hcached],
    by simp [get, hcache, hfilter, hdb], ?_⟩
  simp [Store.get, hdb, hv]

end KeyVal

/-! ## Instances of the laws -/

/-- A cache that takes every entry and never evicts one. -/
def mapCache : CacheOps (GoMap Bytes Bytes) where
  new _ := []
  set c key value := some (c.insert key value)
  del c key := c.delete key
  get c key := c.get key

theorem mapCache_spec : mapCache.Spec where
  get_new _ _ := rfl
  get_set_self c key value c' h := by
    cases h
    exact GoMap.get_insert_self _ _ _
  get_set_of_ne c key value c' key' v h hne hv := by
    cases h
    change (c.insert key value).get key' = some v at hv
    rwa [GoMap.get_insert_ne _ _ hne] at hv
  get_del_self c key := GoMap.get_delete_self _ _
  get_del_of_ne c key key' v hne hv := by
    change (c.delete key).get key' = some v at hv
    rwa [GoMap.get_delete_ne _ hne] at hv

/-- A filter that keeps the digests themselves: a set, with no false positive. -/
def digestSet (hash : Bytes → UInt64) : FilterOps (List UInt64) where
  new := []
  hash := hash
  add f h := h :: f
  contains f h := f.contains h

theorem digestSet_spec (hash : Bytes → UInt64) : (digestSet hash).Spec where
  contains_add_self f h := by simp [digestSet]
  contains_add_of f h h' hin := by simp_all [digestSet]

namespace KeyVal

/-- A store opened on `[1] ↦ [5]` with a cache that takes every entry: a `Put` of `[2]`, then a
`Delete` of `[1]`, and the reads answer as the map of these writes. -/
theorem get_run_refinesStore_putDelete :
    mapCache.Spec ∧ (digestSet fun k => k.length.toUInt64).Spec ∧
      (((newKeyVal mapCache (digestSet fun k => k.length.toUInt64) [([1], [5])] 0 none).run
          mapCache (digestSet fun k => k.length.toUInt64) [.put [2] [7], .delete [1]]).get
          mapCache (digestSet fun k => k.length.toUInt64) [1] none).1 =
        Store.get (Store.run [([1], [5])] [.put [2] [7], .delete [1]]) [1] ∧
      ((newKeyVal mapCache (digestSet fun k => k.length.toUInt64) [([1], [5])] 0 none).run
          mapCache (digestSet fun k => k.length.toUInt64) [.put [2] [7], .delete [1]]).has
          mapCache (digestSet fun k => k.length.toUInt64) [1] none =
        .ok ((Store.run [([1], [5])] [.put [2] [7], .delete [1]]).get [1]).isSome :=
  ⟨mapCache_spec, digestSet_spec _,
    get_run_refinesStore mapCache_spec (digestSet_spec _) [([1], [5])] 0
      [.put [2] [7], .delete [1]] [1]⟩

theorem get_cachesFailedRead_corrupted :
    let kv : KeyVal (GoMap Bytes Bytes) (List UInt64) := ⟨[([1], [5])], [1], []⟩
    let fops := digestSet fun k => k.length.toUInt64
    mapCache.Spec ∧ kv.db.get [1] = some [5] ∧ [5] ≠ ([] : Bytes) ∧
      mapCache.get kv.cache [1] = none ∧ BloomFilter.notInTheSet fops kv.filter [1] = false ∧
      (mapCache.set kv.cache [1] []).isSome ∧
      (kv.get mapCache fops [1] (some "leveldb: corrupted")).1 = .error (.db "leveldb: corrupted") ∧
      (((kv.get mapCache fops [1] (some "leveldb: corrupted")).2.get mapCache fops [1] none).1 =
        .ok []) ∧
      (kv.get mapCache fops [1] (some "leveldb: corrupted")).2.db.get [1] = some [5] ∧
      Store.get kv.db [1] ≠ .ok [] :=
  ⟨mapCache_spec, rfl, by decide, rfl, by decide, rfl,
    get_cachesFailedRead mapCache_spec _ [1] [5] "leveldb: corrupted" rfl (by decide) rfl
      (by decide) rfl⟩

end KeyVal

end Gowaves.KeyValue
