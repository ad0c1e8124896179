import BheBackend.Types

/-!
# Resolving a block number or hash in the API backend

`BHEAPIBackend` (the Go half of `src/Makefile`, lines 190–299) answers RPC requests
for a header, a block, or a state and its header, named by an `rpc.BlockNumberOrHash`.
A number is resolved by `HeaderByNumber`, `BlockByNumber` and `StateAndHeaderByNumber`
(`headerByNumber`, `blockByNumber`, `stateAndHeaderByNumber`): the `pending` tag from
the miner's pending snapshot, the `latest` tag from the current block, any other number
from the canonical chain. A hash is resolved by three copies of the same code, one in
each `…ByNumberOrHash` resolver: look the header up, fail with
`"header for hash not found"`, fail with `"hash is not currently canonical"` when the
caller requires a canonical block and the hash is not the canonical one at that height.

`headerForHash` is that shared logic written once, and each copy is shown to be it
(`headerByNumberOrHash_of_hash`, `blockByNumberOrHash_of_hash`,
`stateAndHeaderByNumberOrHash_of_hash`). Over a chain whose lookups return only data of
the block they name, and whose block at a number is there exactly when the header at
that number is, with that header (`SelfConsistent`, against a ghost map `blocks` from
each hash to the block with that hash), the three resolvers agree (`resolvers_agree`):
by hash each serves the block with that hash, canonical when asked; and where the
header resolver finds a header, the block resolver finds a block with that header and
the state resolver returns it with the state at its root. The one exception is the
code's: for the `pending` tag the state is the miner's pending state, not `StateAt` of
the pending root (`pending_state_not_stateAt`).

Mirroring notes:

- `nil` pointers are `Option`s and a Go `error` an `Except String`; the state resolvers
  return Go's triple, since they hand back the header together with `StateAt`'s error.
- `miner.Pending()` and `miner.PendingBlock()` read one snapshot, `pending`; a `nil`
  pending block, on which `Header()` panics, is not modelled.
-/

namespace BheBackend

/-! ## The resolvers -/

/-- `rpc.PendingBlockNumber`. -/
def pendingBlockNumber : Int := -2

/-- `rpc.LatestBlockNumber`. -/
def latestBlockNumber : Int := -1

/-- `uint64(number)`: Go's conversion of an `rpc.BlockNumber` (an `int64`). -/
def toUint64 (n : Int) : Nat := (n % 2 ^ 64).toNat

/-- `rpc.BlockNumberOrHash`. -/
structure BlockNumberOrHash where
  blockNumber : Option Int
  blockHash : Option Hash
  requireCanonical : Bool
  deriving DecidableEq, Repr

/-- The reads of `core.BlockChain` the resolvers make. -/
structure BlockChain where
  currentBlock : Block
  gBHEeaderByNumber : Nat → Option Header
  gBHEeaderByHash : Hash → Option Header
  getBlockByNumber : Nat → Option Block
  getBlock : Hash → Nat → Option Block
  /-- `GetCanonicalHash`, the zero hash where there is no canonical block. -/
  getCanonicalHash : Nat → Hash
  stateAt : Hash → Except String StateDB

/-- What the resolvers read of a `BHEAPIBackend`: the chain and the miner's pending
block and state. -/
structure BHEAPIBackend where
  blockchain : BlockChain
  pending : Block × StateDB

/-- Go's `(*state.StateDB, *types.Header, error)`. -/
structure StateAndHeader where
  state : Option StateDB
  header : Option Header
  err : Option String
  deriving DecidableEq, Repr

variable (b : BHEAPIBackend)

/-- `HeaderByNumber` (lines 190–201). -/
def headerByNumber (number : Int) : Except String (Option Header) :=
  if number = pendingBlockNumber then .ok (some b.pending.1.header)
  else if number = latestBlockNumber then .ok (some b.blockchain.currentBlock.header)
  else .ok (b.blockchain.gBHEeaderByNumber (toUint64 number))

/-- `HeaderByNumberOrHash` (lines 203–218). -/
def headerByNumberOrHash (x : BlockNumberOrHash) : Except String (Option Header) :=
  match x.blockNumber with
  | some number => headerByNumber b number
  | none =>
    match x.blockHash with
    | some hash =>
      match b.blockchain.gBHEeaderByHash hash with
      | none => .error "header for hash not found"
      | some header =>
        if x.requireCanonical = true ∧ b.blockchain.getCanonicalHash header.number ≠ hash then
          .error "hash is not currently canonical"
        else .ok (some header)
    | none => .error "invalid arguments; neither block nor hash specified"

/-- `HeaderByHash` (lines 220–222). -/
def headerByHash (hash : Hash) : Except String (Option Header) :=
  .ok (b.blockchain.gBHEeaderByHash hash)

/-- `BlockByNumber` (lines 224–235). -/
def blockByNumber (number : Int) : Except String (Option Block) :=
  if number = pendingBlockNumber then .ok (some b.pending.1)
  else if number = latestBlockNumber then .ok (some b.blockchain.currentBlock)
  else .ok (b.blockchain.getBlockByNumber (toUint64 number))

/-- `BlockByNumberOrHash` (lines 241–260). -/
def blockByNumberOrHash (x : BlockNumberOrHash) : Except String (Option Block) :=
  match x.blockNumber with
  | some number => blockByNumber b number
  | none =>
    match x.blockHash with
    | some hash =>
      match b.blockchain.gBHEeaderByHash hash with
      | none => .error "header for hash not found"
      | some header =>
        if x.requireCanonical = true ∧ b.blockchain.getCanonicalHash header.number ≠ hash then
          .error "hash is not currently canonical"
        else
          match b.blockchain.getBlock hash header.number with
          | none => .error "header found, but block body is missing"
          | some block => .ok (some block)
    | none => .error "invalid arguments; neither block nor hash specified"

/-- `stateDb, err := b.BHE.BlockChain().StateAt(header.Root); return stateDb, header, err`,
the common tail of both state resolvers. -/
def withStateAt (header : Header) : StateAndHeader :=
  match b.blockchain.stateAt header.root with
  | .ok stateDb => ⟨some stateDb, some header, none⟩
  | .error e => ⟨none, some header, some e⟩

/-- `StateAndHeaderByNumber` (lines 262–278). -/
def stateAndHeaderByNumber (number : Int) : StateAndHeader :=
  if number = pendingBlockNumber then ⟨some b.pending.2, some b.pending.1.header, none⟩
  else
    match headerByNumber b number with
    | .error e => ⟨none, none, some e⟩
    | .ok none => ⟨none, none, some "header not found"⟩
    | .ok (some header) => withStateAt b header

/-- `StateAndHeaderByNumberOrHash` (lines 280–299). -/
def stateAndHeaderByNumberOrHash (x : BlockNumberOrHash) : StateAndHeader :=
  match x.blockNumber with
  | some number => stateAndHeaderByNumber b number
  | none =>
    match x.blockHash with
    | some hash =>
      match headerByHash b hash with
      | .error e => ⟨none, none, some e⟩
      | .ok none => ⟨none, none, some "header for hash not found"⟩
      | .ok (some header) =>
        if x.requireCanonical = true ∧ b.blockchain.getCanonicalHash header.number ≠ hash then
          ⟨none, none, some "hash is not currently canonical"⟩
        else withStateAt b header
    | none => ⟨none, none, some "invalid arguments; neither block nor hash specified"⟩

/-! ## The three copies of the hash lookup are one -/

/-- The header a hash names, as each `…ByNumberOrHash` resolver looks it up. -/
def headerForHash (c : BlockChain) (requireCanonical : Bool) (hash : Hash) :
    Except String Header :=
  match c.gBHEeaderByHash hash with
  | none => .error "header for hash not found"
  | some header =>
    if requireCanonical = true ∧ c.getCanonicalHash header.number ≠ hash then
      .error "hash is not currently canonical"
    else .ok header

theorem headerForHash_ok {c : BlockChain} {req : Bool} {hash : Hash} {header : Header} :
    headerForHash c req hash = .ok header ↔
      c.gBHEeaderByHash hash = some header ∧
        (req = true → c.getCanonicalHash header.number = hash) := by
  unfold headerForHash
  cases c.gBHEeaderByHash hash with
  | none => simp
  | some h' =>
    by_cases hreq : req = true <;> by_cases hcan : c.getCanonicalHash h'.number = hash <;>
      simp [hreq, hcan] <;> rintro rfl <;> exact hcan

section ByHash

variable {b} {x : BlockNumberOrHash} {hash : Hash}

theorem headerByNumberOrHash_of_hash (hn : x.blockNumber = none) (hh : x.blockHash = some hash) :
    headerByNumberOrHash b x = (headerForHash b.blockchain x.requireCanonical hash).map some := by
  simp only [headerByNumberOrHash, headerForHash, hn, hh]
  cases b.blockchain.gBHEeaderByHash hash with
  | none => rfl
  | some header => dsimp only; split_ifs <;> rfl

theorem blockByNumberOrHash_of_hash (hn : x.blockNumber = none) (hh : x.blockHash = some hash) :
    blockByNumberOrHash b x = (headerForHash b.blockchain x.requireCanonical hash).bind
      fun header => match b.blockchain.getBlock hash header.number with
        | none => .error "header found, but block body is missing"
        | some block => .ok (some block) := by
  simp only [blockByNumberOrHash, headerForHash, hn, hh]
  cases b.blockchain.gBHEeaderByHash hash with
  | none => rfl
  | some header => dsimp only; split_ifs <;> rfl

theorem stateAndHeaderByNumberOrHash_of_hash (hn : x.blockNumber = none)
    (hh : x.blockHash = some hash) :
    stateAndHeaderByNumberOrHash b x =
      match headerForHash b.blockchain x.requireCanonical hash with
      | .error e => ⟨none, none, some e⟩
      | .ok header => withStateAt b header := by
  simp only [stateAndHeaderByNumberOrHash, headerForHash, headerByHash, hn, hh]
  cases b.blockchain.gBHEeaderByHash hash with
  | none => rfl
  | some header => dsimp only; split_ifs <;> rfl

end ByHash

/-! ## What each resolver returns -/

/-- The header resolver finds a header through a number's resolver or a hash lookup. -/
theorem headerByNumberOrHash_ok {x : BlockNumberOrHash} {header : Header}
    (h : headerByNumberOrHash b x = .ok (some header)) :
    (∃ number, x.blockNumber = some number ∧ headerByNumber b number = .ok (some header)) ∨
      ∃ hash, x.blockNumber = none ∧ x.blockHash = some hash ∧
        headerForHash b.blockchain x.requireCanonical hash = .ok header := by
  cases hn : x.blockNumber with
  | some number => exact .inl ⟨number, rfl, by simpa [headerByNumberOrHash, hn] using h⟩
  | none =>
    cases hh : x.blockHash with
    | none => simp [headerByNumberOrHash, hn, hh] at h
    | some hash =>
      rw [headerByNumberOrHash_of_hash hn hh] at h
      refine .inr ⟨hash, rfl, rfl, ?_⟩
      cases hr : headerForHash b.blockchain x.requireCanonical hash <;> rw [hr] at h <;> cases h
      rfl

theorem withStateAt_ok {header : Header} (h : (withStateAt b header).err = none) :
    (withStateAt b header).header = some header ∧
      (withStateAt b header).state = (b.blockchain.stateAt header.root).toOption := by
  unfold withStateAt at *
  split <;> simp_all [Except.toOption]

/-- A number's state resolver goes through its header resolver, but for `pending`. -/
theorem stateAndHeaderByNumber_of_header {number : Int} {header : Header}
    (h : headerByNumber b number = .ok (some header)) :
    stateAndHeaderByNumber b number =
      if number = pendingBlockNumber then ⟨some b.pending.2, some header, none⟩
      else withStateAt b header := by
  unfold stateAndHeaderByNumber
  split
  · unfold headerByNumber at h
    simp_all
  · rw [h]

/-- A number's block resolver finds a block with its header resolver's header, on a chain
whose block at each number is there exactly when the header is, with that header. -/
theorem blockByNumber_header {number : Int} {header : Header} {r : Option Block}
    (hc : ∀ n, (b.blockchain.getBlockByNumber n).map Block.header =
      b.blockchain.gBHEeaderByNumber n)
    (h : headerByNumber b number = .ok (some header)) (hr : blockByNumber b number = .ok r) :
    r.map Block.header = some header := by
  unfold headerByNumber at h
  unfold blockByNumber at hr
  split_ifs at h hr <;> simp only [Except.ok.injEq] at h hr <;> subst hr
  · simpa using h
  · simpa using h
  · rw [hc, h]

/-- Where the header resolver finds a header, the state resolver returns it, with the
state at its root or, for `pending`, the miner's pending state; on every chain. -/
theorem stateAndHeaderByNumberOrHash_header {x : BlockNumberOrHash} {header : Header}
    (h : headerByNumberOrHash b x = .ok (some header))
    (he : (stateAndHeaderByNumberOrHash b x).err = none) :
    (stateAndHeaderByNumberOrHash b x).header = some header ∧
      (stateAndHeaderByNumberOrHash b x).state =
        if x.blockNumber = some pendingBlockNumber then some b.pending.2
        else (b.blockchain.stateAt header.root).toOption := by
  rcases headerByNumberOrHash_ok b h with ⟨number, hn, h⟩ | ⟨hash, hn, hh, h⟩
  · simp only [stateAndHeaderByNumberOrHash, hn] at he ⊢
    rw [stateAndHeaderByNumber_of_header b h] at he ⊢
    by_cases hp : number = pendingBlockNumber
    · simp [hp]
    · simp only [hp, if_false, Option.some.injEq] at he ⊢
      exact withStateAt_ok b he
  · rw [stateAndHeaderByNumberOrHash_of_hash hn hh, h] at he ⊢
    simpa [hn] using withStateAt_ok b he

/-! ## The resolvers agree -/

/-- A chain whose lookups agree with a map `blocks` from each hash to the block with
that hash: a lookup by hash returns only data of that block, and the block at a number is
there exactly when the header at that number is, with that header. -/
structure SelfConsistent (blocks : Hash → Option Block) (c : BlockChain) : Prop where
  headerByHash : ∀ hash header, c.gBHEeaderByHash hash = some header →
    ∃ block, blocks hash = some block ∧ block.header = header
  getBlock : ∀ hash n block, c.getBlock hash n = some block → blocks hash = some block
  blockByNumber : ∀ n, (c.getBlockByNumber n).map Block.header = c.gBHEeaderByNumber n

/-- `block` is the block with hash `hash`, and the canonical one at its height when the
caller requires it. -/
def Serves (blocks : Hash → Option Block) (c : BlockChain) (requireCanonical : Bool)
    (hash : Hash) (block : Block) : Prop :=
  blocks hash = some block ∧ (requireCanonical = true → c.getCanonicalHash block.header.number = hash)

/-- The three `…ByNumberOrHash` resolvers agree on `x`: by hash each serves the block with
that hash; and where the header resolver finds a header, the block resolver finds a block
with it and the state resolver returns it with the state at its root (the miner's pending
state, for `pending`). -/
structure ResolversAgree (blocks : Hash → Option Block) (x : BlockNumberOrHash) : Prop where
  hash_header : ∀ hash r, x.blockNumber = none → x.blockHash = some hash →
    headerByNumberOrHash b x = .ok r →
      ∃ block, Serves blocks b.blockchain x.requireCanonical hash block ∧ r = some block.header
  hash_block : ∀ hash r, x.blockNumber = none → x.blockHash = some hash →
    blockByNumberOrHash b x = .ok r →
      ∃ block, Serves blocks b.blockchain x.requireCanonical hash block ∧ r = some block
  hash_state : ∀ hash, x.blockNumber = none → x.blockHash = some hash →
    (stateAndHeaderByNumberOrHash b x).err = none →
      ∃ block, Serves blocks b.blockchain x.requireCanonical hash block ∧
        (stateAndHeaderByNumberOrHash b x).header = some block.header ∧
        (stateAndHeaderByNumberOrHash b x).state =
          (b.blockchain.stateAt block.header.root).toOption
  block_header : ∀ header r, headerByNumberOrHash b x = .ok (some header) →
    blockByNumberOrHash b x = .ok r → r.map Block.header = some header
  state_header : ∀ header, headerByNumberOrHash b x = .ok (some header) →
    (stateAndHeaderByNumberOrHash b x).err = none →
      (stateAndHeaderByNumberOrHash b x).header = some header ∧
        (stateAndHeaderByNumberOrHash b x).state =
          if x.blockNumber = some pendingBlockNumber then some b.pending.2
          else (b.blockchain.stateAt header.root).toOption

section Agree

variable {b} {blocks : Hash → Option Block} (hc : SelfConsistent blocks b.blockchain)
include hc

/-- The header a hash lookup returns is the block with that hash's, canonical if asked. -/
theorem headerForHash_serves {req : Bool} {hash : Hash} {header : Header}
    (h : headerForHash b.blockchain req hash = .ok header) :
    ∃ block, Serves blocks b.blockchain req hash block ∧ block.header = header := by
  obtain ⟨hh, hcan⟩ := headerForHash_ok.mp h
  obtain ⟨block, hb, rfl⟩ := hc.headerByHash _ _ hh
  exact ⟨block, ⟨hb, hcan⟩, rfl⟩

section ByHash

variable {x : BlockNumberOrHash} {hash : Hash} (hn : x.blockNumber = none)
  (hh : x.blockHash = some hash)
include hn hh

theorem headerByNumberOrHash_serves {r : Option Header} (h : headerByNumberOrHash b x = .ok r) :
    ∃ block, Serves blocks b.blockchain x.requireCanonical hash block ∧
      r = some block.header := by
  rw [headerByNumberOrHash_of_hash hn hh] at h
  cases hr : headerForHash b.blockchain x.requireCanonical hash <;> rw [hr] at h <;> cases h
  obtain ⟨block, hs, rfl⟩ := headerForHash_serves hc hr
  exact ⟨block, hs, rfl⟩

theorem blockByNumberOrHash_serves {r : Option Block} (h : blockByNumberOrHash b x = .ok r) :
    ∃ block, Serves blocks b.blockchain x.requireCanonical hash block ∧ r = some block := by
  rw [blockByNumberOrHash_of_hash hn hh] at h
  cases hr : headerForHash b.blockchain x.requireCanonical hash <;> rw [hr] at h
  · cases h
  · obtain ⟨block, ⟨hb, hcan⟩, rfl⟩ := headerForHash_serves hc hr
    simp only [Except.bind] at h
    split at h
    · cases h
    · rename_i block' hg
      cases h
      cases (hc.getBlock _ _ _ hg).symm.trans hb
      exact ⟨block, ⟨hb, hcan⟩, rfl⟩

theorem stateAndHeaderByNumberOrHash_serves (h : (stateAndHeaderByNumberOrHash b x).err = none) :
    ∃ block, Serves blocks b.blockchain x.requireCanonical hash block ∧
      (stateAndHeaderByNumberOrHash b x).header = some block.header ∧
      (stateAndHeaderByNumberOrHash b x).state =
        (b.blockchain.stateAt block.header.root).toOption := by
  rw [stateAndHeaderByNumberOrHash_of_hash hn hh] at *
  cases hr : headerForHash b.blockchain x.requireCanonical hash <;> simp only [hr] at h ⊢
  · cases h
  · obtain ⟨block, hs, rfl⟩ := headerForHash_serves hc hr
    exact ⟨block, hs, withStateAt_ok b h⟩

end ByHash

theorem blockByNumberOrHash_header {x : BlockNumberOrHash} {header : Header} {r : Option Block}
    (h : headerByNumberOrHash b x = .ok (some header)) (hr : blockByNumberOrHash b x = .ok r) :
    r.map Block.header = some header := by
  rcases headerByNumberOrHash_ok b h with ⟨number, hn, h⟩ | ⟨hash, hn, hh, h⟩
  · simp only [blockByNumberOrHash, hn] at hr
    exact blockByNumber_header b hc.blockByNumber h hr
  · obtain ⟨block, ⟨hb, -⟩, rfl⟩ := headerForHash_serves hc h
    obtain ⟨block', ⟨hb', -⟩, rfl⟩ := blockByNumberOrHash_serves hc hn hh hr
    cases hb.symm.trans hb'
    rfl

/-- **The resolvers agree.** Over a self-consistent chain, for every argument, the
three `…ByNumberOrHash` resolvers serve the same block: by hash the block with that
hash, canonical when asked; and the header the header resolver finds is the block
resolver's block's header and the state resolver's header, with the state at its
root. The one exception is the code's: the miner's pending state for `pending`. -/
theorem resolvers_agree (x : BlockNumberOrHash) : ResolversAgree b blocks x where
  hash_header _ _ hn hh := headerByNumberOrHash_serves hc hn hh
  hash_block _ _ hn hh := blockByNumberOrHash_serves hc hn hh
  hash_state _ hn hh := stateAndHeaderByNumberOrHash_serves hc hn hh
  block_header _ _ := blockByNumberOrHash_header hc
  state_header _ := stateAndHeaderByNumberOrHash_header b

end Agree

/-! ## A node at block 4 -/

/-- Blocks 3 and 4 of a chain, by hash. -/
def chainBlocks (hash : Hash) : Option Block :=
  if hash = ⟨13⟩ then some ⟨⟨3, ⟨7⟩⟩⟩ else if hash = ⟨14⟩ then some ⟨⟨4, ⟨8⟩⟩⟩ else none

/-- The canonical blocks of the chain, by number. -/
def chainBlockByNumber (n : Nat) : Option Block :=
  if n = 3 then chainBlocks ⟨13⟩ else if n = 4 then chainBlocks ⟨14⟩ else none

/-- A node at block 4 whose lookups read `chainBlocks`, while the miner works on block 5;
the states at the roots of blocks 3 and 4 are in the database, the pending one is not. -/
def chainBackend : BHEAPIBackend where
  blockchain :=
    { currentBlock := ⟨⟨4, ⟨8⟩⟩⟩
      gBHEeaderByNumber := fun n => (chainBlockByNumber n).map Block.header
      gBHEeaderByHash := fun hash => (chainBlocks hash).map Block.header
      getBlockByNumber := chainBlockByNumber
      getBlock := fun hash n => (chainBlocks hash).filter (·.header.number == n)
      getCanonicalHash := fun n => if n = 3 then ⟨13⟩ else if n = 4 then ⟨14⟩ else ⟨0⟩
      stateAt := fun root =>
        if root = ⟨7⟩ then .ok ⟨3⟩ else if root = ⟨8⟩ then .ok ⟨4⟩ else .error "missing trie node" }
  pending := (⟨⟨5, ⟨9⟩⟩⟩, ⟨5⟩)

theorem chainBackend_selfConsistent : SelfConsistent chainBlocks chainBackend.blockchain where
  headerByHash hash header h := by
    obtain ⟨block, hb, rfl⟩ := Option.map_eq_some'.mp h
    exact ⟨block, hb, rfl⟩
  getBlock hash n block h := by
    simp only [chainBackend] at h
    cases hb : chainBlocks hash <;> simp_all [Option.filter]
  blockByNumber _ := rfl

/-- On the node at block 4 the resolvers agree at the canonical hash of block 3, where
each of them finds block 3. -/
theorem chainBackend_agree :
    SelfConsistent chainBlocks chainBackend.blockchain ∧
      ResolversAgree chainBackend chainBlocks ⟨none, some ⟨13⟩, true⟩ ∧
      headerByNumberOrHash chainBackend ⟨none, some ⟨13⟩, true⟩ = .ok (some ⟨3, ⟨7⟩⟩) ∧
      blockByNumberOrHash chainBackend ⟨none, some ⟨13⟩, true⟩ = .ok (some ⟨⟨3, ⟨7⟩⟩⟩) ∧
      stateAndHeaderByNumberOrHash chainBackend ⟨none, some ⟨13⟩, true⟩ =
        ⟨some ⟨3⟩, some ⟨3, ⟨7⟩⟩, none⟩ :=
  ⟨chainBackend_selfConsistent, resolvers_agree chainBackend_selfConsistent _, rfl, rfl, rfl⟩

/-- The self-consistent node at block 4, where the state resolver at `pending` returns the
miner's pending state with the pending header, although `StateAt` of the pending root
fails. -/
theorem pending_state_not_stateAt :
    SelfConsistent chainBlocks chainBackend.blockchain ∧
      headerByNumberOrHash chainBackend ⟨some pendingBlockNumber, none, false⟩ =
        .ok (some ⟨5, ⟨9⟩⟩) ∧
      stateAndHeaderByNumberOrHash chainBackend ⟨some pendingBlockNumber, none, false⟩ =
        ⟨some ⟨5⟩, some ⟨5, ⟨9⟩⟩, none⟩ ∧
      chainBackend.blockchain.stateAt ⟨9⟩ = .error "missing trie node" :=
  ⟨chainBackend_selfConsistent, rfl, rfl, rfl⟩

end BheBackend
