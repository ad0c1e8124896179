import BheBackend.Node

/-!
# Building, starting and stopping the service

`new` (`New`, lines 87–207) builds the service in a fixed order, opening the chain
database and creating or starting the subsystems that `stop` (`Stop`, lines 535–552)
later closes; any failure returns `nil` and an error at once. `start` (`Start`, lines
508–531) launches the service's goroutines and the networking layer. Every subsystem
these calls open or start is a `Resource`, and a `World` lists those still open or
running; the collaborators' outcomes (`Collab`) are arbitrary, so every statement below
holds for every way each of them can fail.

Neither function undoes its own work on an error exit. `new` aborts the remaining steps
and releases nothing: `new_running` follows it exit by exit, so after an error it leaves
running exactly what it acquired before the failing step, a prefix of its acquisitions
ending at one of five points, empty exactly when it failed before the database was open
(`new_error_running`, `new_error_leaves_acquired`); a genesis failure leaks the database
and a protocol-manager failure the chain, its bloom indexer and the transaction pool
(`new_error_leaks_resources`). `start` fails exactly on its peer check, and by then it
has started the ENR entry updater and the bloom-retrieval workers and set
`netRPCService`, which it keeps (`start_error_effects`,
`start_light_peer_error_leaves_workers`).

Mirroring notes:

- A collaborator's outcome is a field of `Collab`; its other effects are not modelled.
- `World.release` erases the first copy of a resource, so a world is read as a multiset
  of running subsystems.
- `s.miner.Stop()` and the `eventMux.Stop()` after it end the miner and its loop, so
  `stop` releases `miner`; the event mux belongs to the node and is not modelled. The
  ENR entry updater (`startBHEEntryUpdate`, outside src/) waits on the chain's head
  subscription, which `s.blockchain.Stop()` closes, so `stop` releases it with the chain.
-/

namespace BheBackend

/-- A subsystem the service opens or starts. -/
inductive Resource where
  /-- The chain database, `ctx.OpenDatabaseWithFreezer` (line 111). -/
  | chainDb
  /-- The consensus engine, `CreateConsensusEngine` (line 126). -/
  | engine
  /-- The bloom indexer, `NewBloomIndexer` (line 132). -/
  | bloomIndexer
  /-- The chain, `core.NewBlockChain` (line 165). -/
  | blockchain
  /-- The bloom indexer running on the chain, `bloomIndexer.Start` (line 175). -/
  | bloomIndexing
  /-- The transaction pool, `core.NewTxPool` (line 180). -/
  | txPool
  /-- The protocol manager, `NewProtocolManager` (line 188). -/
  | protocolManager
  /-- The miner and its mining loop, `miner.New` (line 191). -/
  | miner
  /-- The ENR entry updater, `startBHEEntryUpdate` (line 509). -/
  | enrUpdater
  /-- The bloom-retrieval workers, `startBloomHandlers` (line 512). -/
  | bloomHandlers
  /-- The networking layer, `protocolManager.Start` (line 526). -/
  | protocolManagerLoops
  /-- The light server, `lesServer.Start` (line 528). -/
  | lesServer
  deriving DecidableEq, Repr

/-- What lives outside the service: what it has open or running, and the marks it
leaves in the chain database. -/
structure World where
  running : List Resource
  /-- The database version marker (`rawdb.ReadDatabaseVersion`). -/
  dbVersion : Option Nat
  /-- The block a compatibility rewind set the head to (`blockchain.SBHEead`). -/
  rewoundTo : Option Nat
  deriving DecidableEq, Repr

/-- Open or start `r`. -/
def World.acquire (w : World) (r : Resource) : World := { w with running := w.running ++ [r] }

/-- Close or stop `r`. -/
def World.release (w : World) (r : Resource) : World := { w with running := w.running.erase r }

/-- The error `core.SetupGenesisBlock` returns. -/
inductive GenesisErr where
  | none
  /-- A `*params.ConfigCompatError`: recoverable by rewinding to the given block. -/
  | compat (rewindTo : Nat)
  | fatal (msg : String)
  deriving DecidableEq, Repr

/-- What `New` reads from outside src/: its collaborators' outcomes and constants. -/
structure Collab where
  /-- The error of `ctx.OpenDatabaseWithFreezer`, if any. -/
  openDatabase : Option String
  /-- Whether the genesis chain configuration sets `Clique`. -/
  genesisClique : Bool
  genesisErr : GenesisErr
  /-- The error of `core.NewBlockChain`, if any. -/
  newBlockChain : Option String
  /-- `ctx.ResolvePath`: a path resolved against the node's data directory. -/
  resolvePath : String → String
  /-- The error of `NewProtocolManager`, given the cache allowance. -/
  newProtocolManager : Int → Option String
  /-- The error of `setupDiscovery`, if any. -/
  setupDiscovery : Option String
  /-- `core.BlockChainVersion`. -/
  blockChainVersion : Nat
  /-- `params.VersionWithMeta`. -/
  versionWithMeta : String
  /-- `DefaultConfig.Miner.GasPrice`. -/
  defaultGasPrice : Int

/-- The service `New` returns. -/
structure Service where
  /-- The configuration as `New` rewrote it: the sanitised price, the redistributed
  caches and the resolved journal path. -/
  config : Config
  engine : Engine
  node : Node
  /-- The cache allowance `NewProtocolManager` was given. -/
  cacheLimit : Int
  /-- The gas price oracle's default price. -/
  gpoDefault : Int
  /-- Whether `AddLesServer` installed a light server. -/
  lesServer : Bool
  /-- `s.netRPCService`, built from the network version. -/
  netRPCService : Option Nat
  /-- The peer budget `protocolManager.Start` was given. -/
  maxPeers : Option Int

/-- `CreateConsensusEngine` (lines 227–257): clique when the chain configures it,
whatever the proof-of-work mode; else `BHEash` in the fake, test or shared mode, or a
production engine with CPU mining disabled (`SetThreads(-1)`). Returns the thread
count the backend set. -/
def createConsensusEngine (cliqueConfigured : Bool) (mode : PowMode) : Engine × Option Int :=
  if cliqueConfigured then (.clique, none)
  else
    match mode with
    | .fake => (.ethash .fake, none)
    | .test => (.ethash .test, none)
    | .shared => (.ethash .shared, none)
    | _ => (.ethash .normal, some (-1))

/-- Lines 142–149: a database newer than the code is refused; an older or unversioned
one is marked with the current version, unless the check is skipped. -/
def checkDatabaseVersion (k : Collab) (cfg : Config) (w : World) : Except String World :=
  if cfg.skipBcVersionCheck then .ok w
  else
    match w.dbVersion with
    | some v =>
      if v > k.blockChainVersion then
        .error ("database version is v" ++ toString v ++ ", GBHE " ++ k.versionWithMeta ++
          " only supports v" ++ toString k.blockChainVersion)
      else if v < k.blockChainVersion then .ok { w with dbVersion := some k.blockChainVersion }
      else .ok w
    | none => .ok { w with dbVersion := some k.blockChainVersion }

/-- `New(ctx, config)` (lines 87–207), with the world it leaves behind. -/
def new (k : Collab) (cfg : Config) (w : World) : Except String Service × World :=
  match cfg.syncMode with
  | .light => (.error "can't run BHE.BHEereum in light sync mode, use les.LightBHEereum", w)
  | .unknown code => (.error ("invalid sync mode " ++ toString code), w)
  | _ =>
    let cfg := redistributeCaches (sanitizeGasPrice k.defaultGasPrice cfg)
    match k.openDatabase with
    | some e => (.error e, w)
    | none =>
      let w := w.acquire .chainDb
      match k.genesisErr with
      | .fatal e => (.error e, w)
      | genesisErr =>
        let (engine, threads) := createConsensusEngine k.genesisClique cfg.powMode
        let w := (w.acquire .engine).acquire .bloomIndexer
        match checkDatabaseVersion k cfg w with
        | .error e => (.error e, w)
        | .ok w =>
          match k.newBlockChain with
          | some e => (.error e, w)
          | none =>
            let w := w.acquire .blockchain
            let w := match genesisErr with
              | .compat n => { w with rewoundTo := some n }
              | _ => w
            let w := w.acquire .bloomIndexing
            let cfg := if cfg.txPoolJournal ≠ "" then
                { cfg with txPoolJournal := k.resolvePath cfg.txPoolJournal }
              else cfg
            let w := w.acquire .txPool
            let limit := cacheLimit (cacheConfigOf cfg)
            match k.newProtocolManager limit with
            | some e => (.error e, w)
            | none =>
              let w := (w.acquire .protocolManager).acquire .miner
              match k.setupDiscovery with
              | some e => (.error e, w)
              | none =>
                let price := cfg.minerGasPrice.getD k.defaultGasPrice
                (.ok { config := cfg, engine,
                       node := Node.init cfg.minerBHEerbase price threads,
                       cacheLimit := limit, gpoDefault := cfg.gpoDefault.getD price,
                       lesServer := false, netRPCService := none, maxPeers := none }, w)

/-- A p2p server, as `Start` reads it. -/
structure Server where
  maxPeers : Int

/-- `Start(srvr)` (lines 508–531), with Go's returned `error`. -/
def start (svc : Service) (srvr : Server) (w : World) : Option String × Service × World :=
  let w := (w.acquire .enrUpdater).acquire .bloomHandlers
  let svc := { svc with netRPCService := some svc.config.networkId }
  let launch (maxPeers : Int) : Option String × Service × World :=
    let w := w.acquire .protocolManagerLoops
    (none, { svc with maxPeers := some maxPeers },
      if svc.lesServer then w.acquire .lesServer else w)
  if svc.config.lightServ > 0 then
    if svc.config.lightPeers ≥ srvr.maxPeers then
      (some ("invalid peer config: light peer count (" ++ toString svc.config.lightPeers ++
        ") >= total peer count (" ++ toString srvr.maxPeers ++ ")"), svc, w)
    else launch (goSub srvr.maxPeers svc.config.lightPeers)
  else launch srvr.maxPeers

/-- `Stop()` (lines 535–552): the networking layer first, then every other subsystem
and the database; the miner is told to stop, and stopping the chain ends the ENR entry
updater. -/
def stop (svc : Service) (w : World) : Service × World :=
  let w := (w.release .protocolManagerLoops).release .protocolManager
  let w := if svc.lesServer then w.release .lesServer else w
  let w := ((w.release .bloomIndexing).release .bloomIndexer).release .bloomHandlers
  let w := (w.release .txPool).release .miner
  let w := (((w.release .blockchain).release .enrUpdater).release .engine).release .chainDb
  ({ svc with node := { svc.node with miner := .stop :: svc.node.miner } }, w)

/-! ## Scenarios -/

/-- A collaborator set where genesis setup fails with `genesisErr` and the protocol
manager with `protocolManagerErr`; every other step succeeds. -/
def failingCollab (genesisErr : GenesisErr) (protocolManagerErr : Option String) : Collab :=
  { openDatabase := none, genesisClique := false, genesisErr,
    newBlockChain := none, resolvePath := fun path => "/datadir/" ++ path,
    newProtocolManager := fun _ => protocolManagerErr, setupDiscovery := none,
    blockChainVersion := 7, versionWithMeta := "1.9.14-stable", defaultGasPrice := 1 }

/-- A world with nothing open and a fresh database. -/
def freshWorld : World := ⟨[], none, none⟩

/-- A full node whose operator reserves 50 light peers. -/
def lightServerConfig : Config :=
  { archiveConfig 10 7 4 with lightServ := 10, lightPeers := 50 }

/-- The service `new` builds for `lightServerConfig` from a fresh world, and that world. -/
def lightServerService : Except String Service × World :=
  new (failingCollab .none none) lightServerConfig freshWorld

/-! ## What `new` leaves open -/

/-- The resources a successful `new` acquires, in order. -/
def newResources : List Resource :=
  [.chainDb, .engine, .bloomIndexer, .blockchain, .bloomIndexing, .txPool, .protocolManager,
    .miner]

@[simp] theorem World.acquire_running (w : World) (r : Resource) :
    (w.acquire r).running = w.running ++ [r] := rfl

theorem checkDatabaseVersion_running {k : Collab} {cfg : Config} {w w' : World}
    (h : checkDatabaseVersion k cfg w = .ok w') : w'.running = w.running := by
  unfold checkDatabaseVersion at h
  repeat' split at h
  all_goals first | cases h; rfl | cases h

section New

variable (k : Collab) (cfg : Config) (w : World)

/-- Failing before the chain database is open: the sync mode is rejected or the
database does not open. -/
def FailsBeforeDatabase : Prop :=
  cfg.syncMode = .light ∨ cfg.syncMode.isValid = false ∨ k.openDatabase.isSome

/-- `new`, exit by exit: it leaves running a prefix of `newResources`, ending before the
engine, the chain, the protocol manager or the discovery step, or complete, and empty
exactly when it fails before the database is open. -/
theorem new_running :
    ∃ n ∈ [0, 1, 3, 6, 8], (new k cfg w).2.running = w.running ++ newResources.take n ∧
      (n = 0 ↔ FailsBeforeDatabase k cfg) := by
  unfold new
  split
  · exact ⟨0, by simp, by simp, by simp [FailsBeforeDatabase, *]⟩
  · exact ⟨0, by simp, by simp, by simp [FailsBeforeDatabase, SyncMode.isValid, *]⟩
  · rename_i hl hu
    split
    · exact ⟨0, by simp, by simp, by simp [FailsBeforeDatabase, *]⟩
    · have hpos : ∀ n, 0 < n → (n = 0 ↔ FailsBeforeDatabase k cfg) := fun n hn =>
        iff_of_false (by omega) fun hf => by
          rcases hf with h | h | h
          · exact hl h
          · cases hm : cfg.syncMode <;> simp_all [SyncMode.isValid]
          · simp_all
      split
      · exact ⟨1, by simp, by simp [newResources], hpos 1 one_pos⟩
      · dsimp only
        split
        · exact ⟨3, by simp, by simp [newResources], hpos 3 (by decide)⟩
        · rename_i w₁ hc
          have hr := checkDatabaseVersion_running hc
          split
          · exact ⟨3, by simp, by simp [hr, newResources], hpos 3 (by decide)⟩
          · split
            · exact ⟨6, by simp, by split <;> simp [hr, newResources], hpos 6 (by decide)⟩
            · split <;> exact ⟨8, by simp, by dsimp only; split <;> simp [hr, newResources],
                hpos 8 (by decide)⟩

/-- **`new` releases nothing.** On every error exit, whichever collaborator failed,
`new` leaves running exactly a prefix of the resources it acquires, in order; the
prefix is empty exactly when it failed before the chain database was open. -/
theorem new_error_running {e : String} {w' : World} (h : new k cfg w = (.error e, w')) :
    ∃ n, w'.running = w.running ++ newResources.take n ∧ (n = 0 ↔ FailsBeforeDatabase k cfg) := by
  obtain ⟨n, -, hn⟩ := new_running k cfg w
  rw [h] at hn
  exact ⟨n, hn⟩

/-- A genesis failure on the archive configuration: the error exit leaves the chain
database running. -/
theorem archiveConfig_new_error_running :
    new (failingCollab (.fatal "database contains incompatible genesis") none)
        (archiveConfig 10 7 4) freshWorld =
      (.error "database contains incompatible genesis", ⟨[.chainDb], none, none⟩) ∧
    ∃ n, [Resource.chainDb] = freshWorld.running ++ newResources.take n ∧
      (n = 0 ↔ FailsBeforeDatabase (failingCollab (.fatal "database contains incompatible genesis")
        none) (archiveConfig 10 7 4)) :=
  ⟨rfl, new_error_running (failingCollab (.fatal "database contains incompatible genesis") none)
    (archiveConfig 10 7 4) freshWorld rfl⟩

/-- **What a failed `new` leaves running.** On an error exit `new` has released nothing it
acquired: the world runs what it ran before, followed by what `new` acquired up to the
failing step, in order: nothing (sync mode or database), the chain database (genesis),
also the engine and the bloom indexer (version check or chain), also the chain, its
bloom indexer and the transaction pool (protocol manager), or also the protocol manager
and the miner (discovery). Nothing is left exactly when it failed before the database
was open. -/
theorem new_error_leaves_acquired {e : String} {w' : World}
    (h : new k cfg w = (.error e, w')) :
    ∃ n ∈ [0, 1, 3, 6, 8], w'.running = w.running ++ newResources.take n ∧
      (n = 0 ↔ FailsBeforeDatabase k cfg) := by
  have hn := new_running k cfg w
  rwa [h] at hn

/-- A protocol-manager failure on the archive configuration leaves six resources
running. -/
theorem archiveConfig_new_error_leaves_acquired :
    new (failingCollab .none (some "protocol manager failed")) (archiveConfig 10 7 4)
        freshWorld =
      (.error "protocol manager failed",
        ⟨[.chainDb, .engine, .bloomIndexer, .blockchain, .bloomIndexing, .txPool], some 7, none⟩) ∧
    ∃ n ∈ [0, 1, 3, 6, 8],
      [Resource.chainDb, .engine, .bloomIndexer, .blockchain, .bloomIndexing, .txPool] =
          freshWorld.running ++ newResources.take n ∧
        (n = 0 ↔ FailsBeforeDatabase (failingCollab .none (some "protocol manager failed"))
          (archiveConfig 10 7 4)) :=
  ⟨rfl, new_error_leaves_acquired (failingCollab .none (some "protocol manager failed"))
    (archiveConfig 10 7 4) freshWorld rfl⟩

end New

/-- Two of `new`'s error exits and what they leave open: a genesis failure leaves the
chain database open, and a protocol-manager failure leaves the database, the chain, the
bloom indexer running on it and the transaction pool. -/
theorem new_error_leaks_resources :
    new (failingCollab (.fatal "database contains incompatible genesis") none)
        (archiveConfig 10 7 4) freshWorld =
      (.error "database contains incompatible genesis", ⟨[.chainDb], none, none⟩) ∧
    new (failingCollab .none (some "protocol manager failed")) (archiveConfig 10 7 4) freshWorld =
      (.error "protocol manager failed",
        ⟨[.chainDb, .engine, .bloomIndexer, .blockchain, .bloomIndexing, .txPool], some 7, none⟩) :=
  ⟨rfl, rfl⟩

/-! ## What `start` leaves running -/

/-- **`start` fails exactly on the peer check, keeping what it started.** `start` returns
an error exactly when the node serves light clients and reserves at least the server's
whole peer budget for them. The error is the configuration message, and by then it has
started the ENR entry updater and the bloom-retrieval workers and set `netRPCService`;
it returns with them, and starts neither the networking layer nor the light server. -/
theorem start_error_effects (svc : Service) (srvr : Server) (w : World) :
    ((start svc srvr w).1.isSome ↔
        0 < svc.config.lightServ ∧ srvr.maxPeers ≤ svc.config.lightPeers) ∧
      ∀ e, (start svc srvr w).1 = some e →
        e = "invalid peer config: light peer count (" ++ toString svc.config.lightPeers ++
          ") >= total peer count (" ++ toString srvr.maxPeers ++ ")" ∧
        (start svc srvr w).2 = ({ svc with netRPCService := some svc.config.networkId },
          (w.acquire .enrUpdater).acquire .bloomHandlers) := by
  unfold start
  dsimp only
  by_cases hl : 0 < svc.config.lightServ
  · by_cases hp : srvr.maxPeers ≤ svc.config.lightPeers <;> simp [hl, hp]
  · simp [hl]

/-- Fifty light peers against a budget of 25: the error, and what `start` left. -/
theorem lightServerService_start_error :
    ∃ svc w, lightServerService = (.ok svc, w) ∧
      ((start svc ⟨25⟩ w).1.isSome ↔ 0 < svc.config.lightServ ∧ (25 : Int) ≤ svc.config.lightPeers) ∧
      ∀ e, (start svc ⟨25⟩ w).1 = some e →
        e = "invalid peer config: light peer count (" ++ toString svc.config.lightPeers ++
          ") >= total peer count (" ++ toString (25 : Int) ++ ")" ∧
        (start svc ⟨25⟩ w).2 = ({ svc with netRPCService := some svc.config.networkId },
          (w.acquire .enrUpdater).acquire .bloomHandlers) :=
  ⟨_, _, rfl, start_error_effects _ ⟨25⟩ _⟩

/-- Fifty light peers against a budget of 25: `start` fails with its configuration
error, but the ENR entry updater and the bloom-retrieval workers it started are left
running and `netRPCService` is set. -/
theorem start_light_peer_error_leaves_workers :
    ∃ svc w, lightServerService = (.ok svc, w) ∧
      (start svc ⟨25⟩ w).1 =
        some "invalid peer config: light peer count (50) >= total peer count (25)" ∧
      (start svc ⟨25⟩ w).2.2.running = newResources ++ [.enrUpdater, .bloomHandlers] ∧
      (start svc ⟨25⟩ w).2.1.netRPCService = some 1 :=
  ⟨_, _, rfl, rfl, rfl, rfl⟩

end BheBackend
