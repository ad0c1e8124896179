import BheBackend.Config

/-!
# The mining controller: node state and the backend's calls

The mutable part of a `BHEereum` service (`src/bhe/backend.go`) is the mining
identity behind `s.lock` (the `BHEerbase` address and the gas price) and what the
backend has told its collaborators: the engine's thread count, the pool's gas price,
clique's signer, the protocol manager's `acceptTxs` flag and the miner. `Node` holds
it; a collaborator setting is the value the backend last gave it (`none`: never
given). `Env` holds what is fixed for the service's lifetime: the engine, the account
manager and `TxPool.Locals`.

The miner (`miner.Miner`) is outside src/. The backend only calls it, so it is
modelled by the calls it has received, newest first, and by its contract: `Mining()`
holds after a `Start` until the next `Stop` (`Miner.mining`), and its coinbase is the
one it was most recently given (`Miner.coinbase`).

Each function below is one Go method run without interruption: `bheerbase`
(`BHEerbase()`, lines 329–350), `setBHEerbase` (406–413), `startMining` (418–459, up
to the goroutine it launches, which stays in `starting`), `stopMining` (463–473),
`isLocalBlock` (357–378) and `shouldPreserve` (383–404). `Schedule` splits the calls
into their critical sections (a call between two of them is a `Call` in `calls`) and
interleaves them; `Serial` checks that the sections run back to back are these
functions.

`startMining_launch` is what the rest of the development uses of `StartMining` run
alone: it launches the miner with the address `BHEerbase()` resolves, now stored, or it
launches nothing and keeps the stored address or caches the first account.
-/

namespace BheBackend

/-! ## The miner -/

/-- A call the backend makes on the miner. -/
inductive MinerCall where
  /-- `Start(eb)`, run by the goroutine `StartMining` launches. -/
  | start (coinbase : Address)
  /-- `Stop()`. -/
  | stop
  /-- `SetBHEerbase(addr)`. -/
  | setBHEerbase (coinbase : Address)
  deriving DecidableEq, Repr

/-- `Mining()` after the calls `ms` (newest first): a `Start` not yet followed by a
`Stop`. -/
def Miner.mining : List MinerCall → Bool
  | [] => false
  | .start _ :: _ => true
  | .stop :: _ => false
  | .setBHEerbase _ :: ms => Miner.mining ms

/-- The number of `Start`s the miner received since its last `Stop`. -/
def Miner.startsSinceStop : List MinerCall → Nat
  | [] => 0
  | .start _ :: ms => Miner.startsSinceStop ms + 1
  | .stop :: _ => 0
  | .setBHEerbase _ :: ms => Miner.startsSinceStop ms

/-- The coinbase most recently given to the miner, by `Start` or `SetBHEerbase`. -/
def Miner.coinbase : List MinerCall → Option Address
  | [] => none
  | .start a :: _ => some a
  | .stop :: ms => Miner.coinbase ms
  | .setBHEerbase a :: _ => some a

/-! ## The environment and the node -/

/-- What a running node's calls read and never change. The account manager's wallets
are fixed for a whole run: no wallet is opened, closed or changed while the calls run,
and the results over runs rest on it. -/
structure Env where
  engine : Engine
  /-- `engine.Author(header)`. -/
  author : Header → Except String Address
  /-- `AccountManager().Wallets()`, each wallet as its `Accounts()`. -/
  wallets : List (List Address)
  /-- `accountManager.Find(...)`: a wallet holding the address, or its error text. -/
  find : Address → Except String Unit
  /-- `config.TxPool.Locals`. -/
  locals : List Address

/-- Who made a `BHEerbase()` call: a caller outside the backend, or `StartMining`
(line 439), which goes on to launch the miner with the address. -/
inductive Caller where
  | external
  | startMining
  deriving DecidableEq, Repr

/-- A call between two of its critical sections: what it runs next. -/
inductive Call where
  /-- `BHEerbase()` read the zero address; the account lookup is next. -/
  | bheerbaseLookup (caller : Caller)
  /-- `BHEerbase()` holds `accounts[0]`; its locked write is next. -/
  | bheerbaseWrite (caller : Caller) (account : Address)
  /-- `SetBHEerbase(addr)` has written; its `s.miner.SetBHEerbase(addr)` is next. -/
  | setBHEerbaseMiner (addr : Address)
  /-- `StartMining` has set the thread count; its `IsMining()` check and, on a miner not
  mining, the pool's gas price are next (lines 431–436). -/
  | startMiningCheck
  /-- `StartMining` calls `BHEerbase()`; the `RLock`'d read is next (line 439). -/
  | startMiningRead
  /-- `StartMining` has the address `eb`; clique's authorization, `acceptTxs` and
  `go s.miner.Start(eb)` are next (lines 444–456). -/
  | startMiningLaunch (eb : Address)
  /-- `StopMining()` has set the thread count; `s.miner.Stop()` is next (line 472). -/
  | stopMiningStop
  deriving DecidableEq, Repr

/-- The mutable state of a node. -/
structure Node where
  /-- `s.BHEerbase`, guarded by `s.lock`. -/
  bheerbase : Address
  /-- `s.gasPrice`, guarded by `s.lock`. -/
  gasPrice : Int
  /-- The engine's thread count (`SetThreads`). -/
  threads : Option Int
  /-- The transaction pool's gas price (`txPool.SetGasPrice`). -/
  poolGasPrice : Option Int
  /-- The signer clique was authorized with (`clique.Authorize`). -/
  signer : Option Address
  /-- `protocolManager.acceptTxs`. -/
  acceptTxs : Option Nat
  /-- The calls the miner has received, newest first. -/
  miner : List MinerCall
  /-- The coinbases of the `go s.miner.Start(eb)` goroutines not yet run. -/
  starting : List Address
  /-- The calls in flight. -/
  calls : List Call
  deriving DecidableEq, Repr

/-- The node as `New` builds it: the configured address and sanitised price, and the
thread count `CreateConsensusEngine` set. -/
def Node.init (bheerbase : Address) (gasPrice : Int) (threads : Option Int) : Node :=
  { bheerbase, gasPrice, threads, poolGasPrice := none, signer := none,
    acceptTxs := none, miner := [], starting := [], calls := [] }

/-- `IsMining()` (line 475). -/
def isMining (s : Node) : Bool := Miner.mining s.miner

/-! ## The mining address -/

/-- `wallets[0].Accounts()[0]`, when both exist. -/
def firstAccount : List (List Address) → Option Address
  | (a :: _) :: _ => some a
  | _ => none

/-- `BHEerbase()` (lines 329–350) run without interruption: the stored address if
set, else the first account of the first wallet, cached. -/
def bheerbase (env : Env) (s : Node) : Except String Address × Node :=
  if s.bheerbase ≠ Address.zero then (.ok s.bheerbase, s)
  else
    match firstAccount env.wallets with
    | some a => (.ok a, { s with bheerbase := a })
    | none => (.error "BHEerbase must be explicitly specified", s)

/-- `SetBHEerbase(addr)` (lines 406–413) run without interruption. -/
def setBHEerbase (addr : Address) (s : Node) : Node :=
  { s with bheerbase := addr, miner := .setBHEerbase addr :: s.miner }

/-! ## Starting and stopping the miner -/

/-- `SetThreads(threads)` on a threaded engine; nothing on another. -/
def setThreads (env : Env) (threads : Int) (s : Node) : Node :=
  if env.engine.threaded then { s with threads := some threads } else s

/-- The tail of `StartMining` once the address is known (lines 444–456): clique must
find a local wallet for it and is authorized with it; then transactions are accepted
and the miner's `Start` is launched as a goroutine. -/
def launchMiner (env : Env) (eb : Address) (s : Node) : Node × Option String :=
  let launch (s : Node) : Node × Option String :=
    ({ s with acceptTxs := some 1, starting := s.starting ++ [eb] }, none)
  match env.engine with
  | .clique =>
    match env.find eb with
    | .ok () => launch { s with signer := some eb }
    | .error e => (s, some ("signer missing: " ++ e))
  | .ethash _ => launch s

/-- Lines 431–456, for a miner not yet mining: the pool gets the gas price, the address
is resolved, and the miner is launched with it. -/
def initMiner (env : Env) (s : Node) : Node × Option String :=
  let s := { s with poolGasPrice := some s.gasPrice }
  match bheerbase env s with
  | (.ok eb, s) => launchMiner env eb s
  | (.error e, s) => (s, some ("BHEerbase missing: " ++ e))

/-- The synchronous part of `StartMining(threads)` (lines 418–459), with Go's returned
`error`. -/
def startMining (env : Env) (threads : Int) (s : Node) : Node × Option String :=
  let s := setThreads env (if threads = 0 then -1 else threads) s
  if isMining s then (s, none) else initMiner env s

/-- `StopMining()` (lines 463–473). -/
def stopMining (env : Env) (s : Node) : Node :=
  let s := setThreads env (-1) s
  { s with miner := .stop :: s.miner }

/-- A `go s.miner.Start(eb)` goroutine runs: the miner receives `Start(eb)`. -/
def deliverStart (eb : Address) (s : Node) : Node :=
  { s with miner := .start eb :: s.miner }

/-! ## Reorg preservation -/

/-- `isLocalBlock(block)` (lines 357–378): the author is the stored address or one of
`TxPool.Locals`; an author the engine cannot recover is not local. -/
def isLocalBlock (env : Env) (s : Node) (block : Block) : Bool :=
  match env.author block.header with
  | .error _ => false
  | .ok author => author == s.bheerbase || env.locals.any (· == author)

/-- `shouldPreserve(block)` (lines 383–404): never under clique, else `isLocalBlock`. -/
def shouldPreserve (env : Env) (s : Node) (block : Block) : Bool :=
  match env.engine with
  | .clique => false
  | .ethash _ => isLocalBlock env s block

/-! ## Frame lemmas -/

@[simp] theorem setThreads_bheerbase (env : Env) (t : Int) (s : Node) :
    (setThreads env t s).bheerbase = s.bheerbase := by
  unfold setThreads; split <;> rfl

@[simp] theorem setThreads_miner (env : Env) (t : Int) (s : Node) :
    (setThreads env t s).miner = s.miner := by
  unfold setThreads; split <;> rfl

@[simp] theorem setThreads_starting (env : Env) (t : Int) (s : Node) :
    (setThreads env t s).starting = s.starting := by
  unfold setThreads; split <;> rfl

@[simp] theorem setThreads_calls (env : Env) (t : Int) (s : Node) :
    (setThreads env t s).calls = s.calls := by
  unfold setThreads; split <;> rfl

/-- `BHEerbase()` touches nothing but the stored address. -/
theorem bheerbase_snd (env : Env) (s : Node) :
    ∃ a, (bheerbase env s).2 = { s with bheerbase := a } := by
  unfold bheerbase
  split
  · exact ⟨s.bheerbase, rfl⟩
  · split
    · exact ⟨_, rfl⟩
    · exact ⟨s.bheerbase, rfl⟩

/-- With an address set, `BHEerbase()` returns it and changes nothing. -/
theorem bheerbase_of_ne_zero {env : Env} {s : Node} (h : s.bheerbase ≠ Address.zero) :
    bheerbase env s = (.ok s.bheerbase, s) := by
  simp [bheerbase, h]

/-- The address `BHEerbase()` resolves depends only on the stored address. -/
theorem bheerbase_fst_congr {env : Env} {s₁ s₂ : Node} (h : s₁.bheerbase = s₂.bheerbase) :
    (bheerbase env s₁).1 = (bheerbase env s₂).1 := by
  simp only [bheerbase, h]
  split <;> (try split) <;> rfl

/-- `BHEerbase()` fails only with no address set and no account to fall back to, and
then changes nothing. -/
theorem bheerbase_error {env : Env} {s : Node} {e : String} (h : (bheerbase env s).1 = .error e) :
    s.bheerbase = Address.zero ∧ firstAccount env.wallets = none ∧
      e = "BHEerbase must be explicitly specified" ∧ (bheerbase env s).2 = s := by
  unfold bheerbase at h ⊢
  split at h
  · cases h
  · rename_i hz
    split at h
    · cases h
    · cases h
      exact ⟨not_not.mp hz, by assumption, rfl, by simp [hz, *]⟩

@[simp] theorem stopMining_bheerbase (env : Env) (s : Node) :
    (stopMining env s).bheerbase = s.bheerbase := by simp [stopMining]

@[simp] theorem stopMining_miner (env : Env) (s : Node) :
    (stopMining env s).miner = .stop :: s.miner := by simp [stopMining]

@[simp] theorem stopMining_starting (env : Env) (s : Node) :
    (stopMining env s).starting = s.starting := by simp [stopMining]

@[simp] theorem stopMining_calls (env : Env) (s : Node) :
    (stopMining env s).calls = s.calls := by simp [stopMining]

/-- A resolved address is the stored one, or the first account when none is stored; the
call then caches it. -/
theorem bheerbase_ok {env : Env} {s : Node} {a : Address} (h : (bheerbase env s).1 = .ok a) :
    (bheerbase env s).2 = { s with bheerbase := a } ∧
      (s.bheerbase ≠ Address.zero ∧ a = s.bheerbase ∨
        s.bheerbase = Address.zero ∧ firstAccount env.wallets = some a) := by
  unfold bheerbase at h ⊢
  by_cases hz : s.bheerbase = Address.zero
  · cases hf : firstAccount env.wallets with
    | none => simp [hz, hf] at h
    | some b =>
      simp only [hz, hf, ne_eq, not_true_eq_false, if_false, Except.ok.injEq] at h
      subst h
      simp [hz, hf]
  · simp only [hz, ne_eq, not_false_eq_true, if_true, Except.ok.injEq] at h
    subst h
    simp [hz]

/-- The launch touches neither the miner nor the address; it adds at most the one
goroutine. -/
theorem launchMiner_frame (env : Env) (eb : Address) (s : Node) :
    (launchMiner env eb s).1.miner = s.miner ∧ (launchMiner env eb s).1.calls = s.calls ∧
      (launchMiner env eb s).1.bheerbase = s.bheerbase ∧
      ((launchMiner env eb s).1.starting = s.starting ∨
        (launchMiner env eb s).1.starting = s.starting ++ [eb]) := by
  unfold launchMiner
  split <;> [split; skip] <;> simp

/-- `initMiner` leaves the miner's calls and the address calls in flight alone, keeps
an address already set, and launches at most one goroutine. -/
theorem initMiner_frame (env : Env) (s : Node) :
    (initMiner env s).1.miner = s.miner ∧ (initMiner env s).1.calls = s.calls ∧
      (s.bheerbase ≠ Address.zero → (initMiner env s).1.bheerbase = s.bheerbase) ∧
      ((initMiner env s).1.starting = s.starting ∨
        ∃ eb, (initMiner env s).1.starting = s.starting ++ [eb]) := by
  unfold initMiner
  dsimp only
  obtain ⟨a, ha⟩ := bheerbase_snd env { s with poolGasPrice := some s.gasPrice }
  rcases h : bheerbase env { s with poolGasPrice := some s.gasPrice } with ⟨_ | eb, s'⟩ <;>
    rw [h] at ha <;> subst ha
  · exact ⟨rfl, rfl, fun hne => by simpa [bheerbase_of_ne_zero (s := { s with
      poolGasPrice := some s.gasPrice }) hne] using h.symm, .inl rfl⟩
  · obtain ⟨hm, hc, hbh, hst⟩ := launchMiner_frame env eb { s with
      poolGasPrice := some s.gasPrice, bheerbase := a }
    refine ⟨hm, hc, fun hne => ?_, hst.imp_right fun h => ⟨eb, h⟩⟩
    rw [hbh]
    simpa [bheerbase_of_ne_zero (s := { s with poolGasPrice := some s.gasPrice }) hne]
      using (congrArg (·.2.bheerbase) h).symm

/-- `initMiner` either launches the miner with the address `BHEerbase()` resolves, now
stored, or launches nothing and keeps the stored address or caches the first account. -/
theorem initMiner_launch (env : Env) (s : Node) :
    ((initMiner env s).1.starting = s.starting ∧
        ((initMiner env s).1.bheerbase = s.bheerbase ∨
          s.bheerbase = Address.zero ∧
            firstAccount env.wallets = some (initMiner env s).1.bheerbase)) ∨
      (bheerbase env s).1 = .ok (initMiner env s).1.bheerbase ∧
        (initMiner env s).1.starting = s.starting ++ [(initMiner env s).1.bheerbase] := by
  have hfst := @bheerbase_fst_congr env { s with poolGasPrice := some s.gasPrice } s rfl
  unfold initMiner
  dsimp only
  rcases hb : bheerbase env { s with poolGasPrice := some s.gasPrice } with ⟨e | eb, s'⟩ <;>
    rw [hb] at hfst <;> dsimp only
  · obtain ⟨-, -, -, hs⟩ := bheerbase_error (congrArg Prod.fst hb)
    rw [hb] at hs
    subst hs
    exact .inl ⟨rfl, .inl rfl⟩
  · obtain ⟨hs, hb'⟩ := bheerbase_ok (congrArg Prod.fst hb)
    rw [hb] at hs
    subst hs
    obtain ⟨-, -, hbh, hst⟩ := launchMiner_frame env eb { s with
      poolGasPrice := some s.gasPrice, bheerbase := eb }
    rw [hbh]
    rcases hst with hst | hst
    · exact .inl ⟨hst, hb'.imp (fun h => h.2) fun h => h⟩
    · exact .inr ⟨hfst.symm, hst⟩

section StartMining

variable (env : Env) (t : Int) (s : Node)

/-- `StartMining` as a whole leaves the miner's calls and the address calls in flight
alone, keeps an address already set, and launches nothing or, on a miner not mining,
one goroutine. -/
theorem startMining_frame :
    (startMining env t s).1.miner = s.miner ∧ (startMining env t s).1.calls = s.calls ∧
      (s.bheerbase ≠ Address.zero → (startMining env t s).1.bheerbase = s.bheerbase) ∧
      ((startMining env t s).1.starting = s.starting ∨
        isMining s = false ∧ ∃ eb, (startMining env t s).1.starting = s.starting ++ [eb]) := by
  unfold startMining
  generalize (if t = 0 then -1 else t) = t'
  dsimp only
  split
  · simp
  · rename_i hm
    obtain ⟨h1, h2, h3, h4⟩ := initMiner_frame env (setThreads env t' s)
    simp only [isMining, setThreads_miner, setThreads_starting, setThreads_bheerbase,
      Bool.not_eq_true] at hm h1 h3 h4 ⊢
    exact ⟨h1, h2.trans (setThreads_calls env t' s), h3, h4.imp_right fun h => ⟨hm, h⟩⟩

/-- `StartMining` launches the miner, on a miner not mining, with the address `BHEerbase()`
resolves, now stored; or it launches nothing, and keeps the stored address or caches
the first account. -/
theorem startMining_launch :
    ((startMining env t s).1.starting = s.starting ∧
        ((startMining env t s).1.bheerbase = s.bheerbase ∨
          s.bheerbase = Address.zero ∧
            firstAccount env.wallets = some (startMining env t s).1.bheerbase)) ∨
      isMining s = false ∧ (bheerbase env s).1 = .ok (startMining env t s).1.bheerbase ∧
        (startMining env t s).1.starting = s.starting ++ [(startMining env t s).1.bheerbase] := by
  unfold startMining
  generalize (if t = 0 then -1 else t) = t'
  dsimp only
  split
  · simp
  · rename_i hm
    have hfst := @bheerbase_fst_congr env _ _ (setThreads_bheerbase env t' s)
    simp only [isMining, setThreads_miner, Bool.not_eq_true] at hm
    simpa only [setThreads_starting, setThreads_bheerbase, hfst, isMining, hm, true_and]
      using initMiner_launch env (setThreads env t' s)

end StartMining

end BheBackend
