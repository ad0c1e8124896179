import BheBackend.Types

/-!
# The node configuration and `New`'s sanitising passes

`New` (`src/bhe/backend.go`, lines 87–107) starts by rewriting the configuration it
is handed: a missing or non-positive miner gas price becomes the default
(`sanitizeGasPrice`), and on an archive node (`NoPruning`) the dirty trie cache budget
is handed over to the clean trie cache and the snapshot cache
(`redistributeCaches`). The rewritten budgets become the chain's `CacheConfig` and,
summed, the downloader's cache allowance `cacheLimit` (lines 156–163 and 183).

The spec describes the hand-over as moving the whole dirty budget. It does not:
`D * 3 / 5 + D * 2 / 5` is `D - 1` whenever `5 ∤ D`, so with snapshots on one
megabyte of the budget is lost (`redistributeCaches_loses_budget`), and with
snapshots on and `3 * D ≥ 2^63` the product wraps and the clean budget shrinks.
`redistributeCaches_budgets` states exactly what the pass does inside the range of a
Go `int`: the dirty budget is emptied, no other budget shrinks, the total drops by the
rounding loss, and `cacheLimit` is the new total.
-/

namespace BheBackend

/-- Modelled from the spec: `downloader.SyncMode`, whose declaration is not under src/.
The spec names the full-class modes, light sync ("wrong node variant") and
unrecognised modes; an unrecognised one keeps its `uint32` code for the error text. -/
inductive SyncMode where
  | full
  | fast
  | light
  | unknown (code : Nat)
  deriving DecidableEq, Repr

/-- Modelled from the spec: `SyncMode.IsValid`, "unrecognized sync modes" fail. -/
def SyncMode.isValid : SyncMode → Bool
  | .unknown _ => false
  | _ => true

/-- Modelled from the spec: `BHEash.Mode`, declared outside src/. The spec names the
production, fake, test and shared modes; any other value takes the switch's default. -/
inductive PowMode where
  | normal
  | fake
  | test
  | shared
  | other (code : Nat)
  deriving DecidableEq, Repr

/-- The engine `CreateConsensusEngine` builds: clique, or `BHEash` in some mode. -/
inductive Engine where
  | clique
  | ethash (mode : PowMode)
  deriving DecidableEq, Repr

/-- Whether the engine has `SetThreads` (the `threaded` interface): every `BHEash`
engine does, clique does not. -/
def Engine.threaded : Engine → Bool
  | .clique => false
  | .ethash _ => true

/-- The fields of `eth.Config` that the backend reads. -/
structure Config where
  syncMode : SyncMode
  /-- `Miner.GasPrice`, a `*big.Int` that may be `nil`. -/
  minerGasPrice : Option Int
  minerBHEerbase : Address
  noPruning : Bool
  trieCleanCache : Int
  trieDirtyCache : Int
  snapshotCache : Int
  skipBcVersionCheck : Bool
  networkId : Nat
  /-- `TxPool.Locals`. -/
  txPoolLocals : List Address
  /-- `TxPool.Journal`, the path of the pool's journal of local transactions (`""`: no
  journal). -/
  txPoolJournal : String
  lightServ : Int
  lightPeers : Int
  /-- `GPO.Default`, a `*big.Int` that may be `nil`. -/
  gpoDefault : Option Int
  /-- `BHEash.PowMode`. -/
  powMode : PowMode
  deriving DecidableEq, Repr

/-- Lines 95–98: a `nil` or non-positive gas price is replaced by the default
(`DefaultConfig.Miner.GasPrice`, declared outside src/ and so a parameter). -/
def sanitizeGasPrice (defaultGasPrice : Int) (c : Config) : Config :=
  match c.minerGasPrice with
  | some p => if p ≤ 0 then { c with minerGasPrice := some defaultGasPrice } else c
  | none => { c with minerGasPrice := some defaultGasPrice }

/-- Lines 99–107: on an archive node the dirty trie budget `D` is handed over, `3D/5`
to the clean cache and `2D/5` to the snapshot cache when snapshots are on, all of it to
the clean cache otherwise, and the dirty budget is zeroed. -/
def redistributeCaches (c : Config) : Config :=
  if c.noPruning = true ∧ c.trieDirtyCache > 0 then
    let c :=
      if c.snapshotCache > 0 then
        { c with
          trieCleanCache := goAdd c.trieCleanCache (goDiv (goMul c.trieDirtyCache 3) 5)
          snapshotCache := goAdd c.snapshotCache (goDiv (goMul c.trieDirtyCache 2) 5) }
      else
        { c with trieCleanCache := goAdd c.trieCleanCache c.trieDirtyCache }
    { c with trieDirtyCache := 0 }
  else c

/-- The three budgets of `core.CacheConfig` that `New` fills from the configuration
(its other fields pass straight to `core.NewBlockChain`). -/
structure CacheConfig where
  trieCleanLimit : Int
  trieDirtyLimit : Int
  snapshotLimit : Int
  deriving DecidableEq, Repr

/-- Lines 156–163. -/
def cacheConfigOf (c : Config) : CacheConfig :=
  { trieCleanLimit := c.trieCleanCache
    trieDirtyLimit := c.trieDirtyCache
    snapshotLimit := c.snapshotCache }

/-- Line 183: the cache allowance handed to `NewProtocolManager`. -/
def cacheLimit (cc : CacheConfig) : Int :=
  goAdd (goAdd cc.trieCleanLimit cc.trieDirtyLimit) cc.snapshotLimit

/-- The configured total of the three budgets. -/
def Config.cacheTotal (c : Config) : Int :=
  c.trieCleanCache + c.trieDirtyCache + c.snapshotCache

/-! ## The redistribution inside the range of `int` -/

/-- The range in which the pass computes without wrapping: non-negative budgets, the
configured total below `2^63`, and, with snapshots on, `3 * D` below `2^63`. -/
structure Config.CachesFit (c : Config) : Prop where
  clean_nonneg : 0 ≤ c.trieCleanCache
  snapshot_nonneg : 0 ≤ c.snapshotCache
  dirty_mul_lt : 0 < c.snapshotCache → 3 * c.trieDirtyCache < 2 ^ 63
  total_lt : c.cacheTotal < 2 ^ 63

section Redistribute

variable {c : Config}

/-- With snapshots on, the pass adds `3D/5` and `2D/5`. -/
theorem redistributeCaches_snapshot (hp : c.noPruning = true) (hD : 0 < c.trieDirtyCache)
    (hs : 0 < c.snapshotCache) (hfit : c.CachesFit) :
    redistributeCaches c =
      { c with
        trieCleanCache := c.trieCleanCache + c.trieDirtyCache * 3 / 5
        snapshotCache := c.snapshotCache + c.trieDirtyCache * 2 / 5
        trieDirtyCache := 0 } := by
  obtain ⟨hc, -, h3, ht⟩ := hfit
  have h3 := h3 hs
  unfold Config.cacheTotal at ht
  have hm3 : goMul c.trieDirtyCache 3 = c.trieDirtyCache * 3 :=
    goMul_of_inRange ⟨by omega, by omega⟩
  have hm2 : goMul c.trieDirtyCache 2 = c.trieDirtyCache * 2 :=
    goMul_of_inRange ⟨by omega, by omega⟩
  have hd3 := goDiv_of_nonneg (b := 5) (by omega : 0 ≤ c.trieDirtyCache * 3) (by decide)
    (by omega)
  have hd2 := goDiv_of_nonneg (b := 5) (by omega : 0 ≤ c.trieDirtyCache * 2) (by decide)
    (by omega)
  simp only [redistributeCaches, hp, hD, hs, true_and, if_true, gt_iff_lt, hm3, hm2, hd3, hd2]
  rw [goAdd_of_inRange ⟨by omega, by omega⟩, goAdd_of_inRange ⟨by omega, by omega⟩]

/-- With snapshots off, the whole budget goes to the clean cache. -/
theorem redistributeCaches_no_snapshot (hp : c.noPruning = true) (hD : 0 < c.trieDirtyCache)
    (hs : c.snapshotCache ≤ 0) (hfit : c.CachesFit) :
    redistributeCaches c =
      { c with trieCleanCache := c.trieCleanCache + c.trieDirtyCache, trieDirtyCache := 0 } := by
  obtain ⟨hc, hs0, -, ht⟩ := hfit
  unfold Config.cacheTotal at ht
  simp only [redistributeCaches, hp, hD, true_and, if_true, gt_iff_lt, not_lt.mpr hs, if_false]
  rw [goAdd_of_inRange ⟨by omega, by omega⟩]

/-- Inside the range, `cacheLimit` is the plain sum of the three limits. -/
theorem cacheLimit_of_fit (hc : 0 ≤ c.trieCleanCache) (hd : 0 ≤ c.trieDirtyCache)
    (hs : 0 ≤ c.snapshotCache) (ht : c.cacheTotal < 2 ^ 63) :
    cacheLimit (cacheConfigOf c) = c.cacheTotal := by
  unfold Config.cacheTotal at ht ⊢
  simp only [cacheLimit, cacheConfigOf]
  rw [goAdd_of_inRange (a := c.trieCleanCache) ⟨by omega, by omega⟩,
    goAdd_of_inRange ⟨by omega, by omega⟩]

/-- The rounding loss of the `3/5`–`2/5` split: one unit exactly when `5 ∤ D`. -/
theorem split_fifths (D : Int) :
    D * 3 / 5 + D * 2 / 5 = D - (if D % 5 ≠ 0 then 1 else 0) := by
  have h : D % 5 = 0 ∨ D % 5 = 1 ∨ D % 5 = 2 ∨ D % 5 = 3 ∨ D % 5 = 4 := by omega
  rcases h with h | h | h | h | h <;> simp only [h] <;> omega

/-- **The archive-node hand-over.** Inside the range of `int`, the pass empties the
dirty budget and shrinks no other budget; the total drops by the rounding loss of
`D * 3 / 5 + D * 2 / 5`, one when snapshots are on and `5 ∤ D`, and the downloader's
`cacheLimit` is the new total. -/
theorem redistributeCaches_budgets (hp : c.noPruning = true) (hD : 0 < c.trieDirtyCache)
    (hfit : c.CachesFit) :
    (redistributeCaches c).trieDirtyCache = 0 ∧
      c.trieCleanCache ≤ (redistributeCaches c).trieCleanCache ∧
      c.snapshotCache ≤ (redistributeCaches c).snapshotCache ∧
      (redistributeCaches c).cacheTotal =
        c.cacheTotal - (if 0 < c.snapshotCache ∧ c.trieDirtyCache % 5 ≠ 0 then 1 else 0) ∧
      cacheLimit (cacheConfigOf (redistributeCaches c)) = (redistributeCaches c).cacheTotal := by
  have ⟨hc, hs0, _, ht⟩ := hfit
  unfold Config.cacheTotal at ht ⊢
  have h5 := split_fifths c.trieDirtyCache
  by_cases hs : 0 < c.snapshotCache
  · rw [redistributeCaches_snapshot hp hD hs hfit]
    refine ⟨rfl, ?_, ?_, ?_, cacheLimit_of_fit ?_ le_rfl ?_ ?_⟩ <;>
      simp only [Config.cacheTotal, hs, true_and] <;> omega
  · rw [redistributeCaches_no_snapshot hp hD (not_lt.mp hs) hfit]
    refine ⟨rfl, ?_, le_rfl, ?_, cacheLimit_of_fit ?_ le_rfl hs0 ?_⟩ <;>
      simp only [Config.cacheTotal, hs, false_and, if_false] <;> omega

end Redistribute

/-- An archive-node configuration with the given clean, dirty and snapshot budgets. -/
def archiveConfig (clean dirty snapshot : Int) : Config :=
  { syncMode := .full, minerGasPrice := none, minerBHEerbase := Address.zero,
    noPruning := true, trieCleanCache := clean, trieDirtyCache := dirty,
    snapshotCache := snapshot, skipBcVersionCheck := false, networkId := 1,
    txPoolLocals := [], txPoolJournal := "transactions.rlp", lightServ := 0, lightPeers := 0, gpoDefault := none,
    powMode := .normal }

/-- An archive node with 10 MB clean, 7 MB dirty and 4 MB snapshot cache ends with
14, 0 and 6: one megabyte of the 21 is lost, and the allowance is 20. -/
theorem archiveConfig_budgets :
    (archiveConfig 10 7 4).noPruning = true ∧ 0 < (archiveConfig 10 7 4).trieDirtyCache ∧
      (archiveConfig 10 7 4).CachesFit ∧
      (redistributeCaches (archiveConfig 10 7 4)).trieDirtyCache = 0 ∧
      (archiveConfig 10 7 4).trieCleanCache ≤ (redistributeCaches (archiveConfig 10 7 4)).trieCleanCache ∧
      (archiveConfig 10 7 4).snapshotCache ≤ (redistributeCaches (archiveConfig 10 7 4)).snapshotCache ∧
      (redistributeCaches (archiveConfig 10 7 4)).cacheTotal =
        (archiveConfig 10 7 4).cacheTotal - (if 0 < (archiveConfig 10 7 4).snapshotCache ∧
          (archiveConfig 10 7 4).trieDirtyCache % 5 ≠ 0 then 1 else 0) ∧
      cacheLimit (cacheConfigOf (redistributeCaches (archiveConfig 10 7 4))) =
        (redistributeCaches (archiveConfig 10 7 4)).cacheTotal :=
  have hfit : (archiveConfig 10 7 4).CachesFit :=
    ⟨by decide, by decide, fun _ => by decide, by decide⟩
  ⟨rfl, by decide, hfit, redistributeCaches_budgets rfl (by decide) hfit⟩

/-- The hand-over does not conserve the budget: with one megabyte of dirty cache and
snapshots on, the configured total `2` becomes `1`; and with `D = 2^62` the product
`D * 3` wraps, so the clean budget becomes negative although the total fits. -/
theorem redistributeCaches_loses_budget :
    (archiveConfig 0 1 1).cacheTotal = 2 ∧
      (redistributeCaches (archiveConfig 0 1 1)).cacheTotal = 1 ∧
      (archiveConfig 0 (2 ^ 62) 1).cacheTotal < 2 ^ 63 ∧
      (redistributeCaches (archiveConfig 0 (2 ^ 62) 1)).trieCleanCache < 0 := by
  decide

end BheBackend
