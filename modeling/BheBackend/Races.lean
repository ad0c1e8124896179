import BheBackend.Schedule

/-!
# The mining controls and the mining address under interleaving

`s.lock` orders the critical sections that read and write the node's state, but no
call of the mining controls is one critical section:

- `StartMining` guards the miner's start with `if !s.IsMining()` and then starts it
  asynchronously, `go s.miner.Start(eb)` (line 456); `StopMining` stops the miner at
  once. Until a launched `Start` runs, `IsMining()` still reads false and `StopMining`
  has nothing to stop. So a `Start` launched before a `StopMining` can reach the miner
  after it, and a second `StartMining` made before the first `Start` runs launches a
  second one (`startMining_races`), even for one caller making one call at a time.
- `BHEerbase()` reads the address under `RLock`, and only after releasing it looks up
  the first account and writes it under `Lock`, without reading the address again. A
  `SetBHEerbase(x)` that completes between the read and the write is overwritten by
  the fallback account, and every later `BHEerbase()` call returns that account, not
  `x` (`bheerbase_fallback_overwrites`).
- `SetBHEerbase(addr)` writes the address under the lock and tells the miner after
  releasing it. Two setters whose miner calls run in the other order from their writes
  leave the node's address and the miner's coinbase different
  (`setBHEerbase_calls_cross`).

Each address law holds exactly when its window is not crossed. `Pinned x` — `x` is
stored and no `BHEerbase()` call, `StartMining`'s included, is between its read and its
write — is established by a `SetBHEerbase(x)` write made with no fallback in progress
and kept by every step but another `SetBHEerbase` (`step_pinned`), so every later
`BHEerbase()` returns `x` (`setBHEerbase_sticks`). `InWriteOrder` — the calls in flight
are setters about to call the miner, the last one carrying the stored address — is kept
by setters whose miner calls run in the order of their writes, however they overlap
(`step_inWriteOrder`), so once they have all returned the two copies are equal
(`setBHEerbase_in_order_agree`).

The zero address stands for "no mining address" in `New`, `BHEerbase` and
`SetBHEerbase`, but `isLocalBlock` compares the block's author with the stored address
as it is. While no address is set, a block the engine attributes to the zero address
is local, and preserved in reorgs (`isLocalBlock_unset_zero_author`).
-/

namespace BheBackend

/-! ## Starting and stopping the miner -/

/-- A proof-of-work node with no wallet and no local account. -/
def powEnv : Env :=
  { engine := .ethash .normal, author := fun _ => .error "unknown block",
    wallets := [], find := fun _ => .error "unknown account", locals := [] }

/-- The node `New` builds for `powEnv`, with address `0x…01` and gas price 1. -/
def powNode : Node := Node.init ⟨1⟩ 1 (some (-1))

/-- **The `Start` goroutine races both guards.** `StartMining(1)` runs its three
sections and returns, `StopMining()` runs both of its, and then the launched `Start`
runs: the miner is mining although the last call stopped it. `StartMining(1)` returns,
`StartMining(2)` returns, and then both launched `Start`s run: the miner receives two
`Start`s with no `Stop` between them. -/
theorem startMining_races :
    (run powEnv powNode [.startMining 1, .resume 0, .resume 0, .resume 0, .stopMining,
        .resume 0, .deliver 0]).map isMining = some true ∧
      (run powEnv powNode [.startMining 1, .resume 0, .resume 0, .resume 0, .startMining 2,
          .resume 0, .resume 0, .resume 0, .deliver 0, .deliver 0]).map
        (fun s => Miner.startsSinceStop s.miner) = some 2 := by
  decide

/-! ## `BHEerbase()` against `SetBHEerbase` -/

/-- A `BHEerbase()` call between its read of the zero address and its write. -/
def Call.fallsBack : Call → Bool
  | .bheerbaseLookup _ | .bheerbaseWrite _ _ => true
  | _ => false

/-- No `BHEerbase()` call, `StartMining`'s included, is between its read and its write. -/
def NoFallback (s : Node) : Prop := ∀ c ∈ s.calls, c.fallsBack = false

/-- The explicit address `x` is stored and no call in flight can overwrite it. -/
def Pinned (x : Address) (s : Node) : Prop :=
  x ≠ Address.zero ∧ s.bheerbase = x ∧ NoFallback s

/-- The steps other than a new `SetBHEerbase`. -/
def notSetBHEerbase : Action → Bool
  | .setBHEerbase _ => false
  | _ => true

section Pinned

variable {env : Env} {x : Address} {s s' : Node} {a : Action} {c : Call}

/-- A call not falling back keeps the stored address, and with an address stored it does
not start to fall back. -/
theorem Call.step_pinned (hc : c.fallsBack = false) (hz : s.bheerbase ≠ Address.zero) :
    (c.step env s).1.bheerbase = s.bheerbase ∧
      ∀ c', (c.step env s).2 = some c' → c'.fallsBack = false := by
  cases c <;> simp only [Call.fallsBack, reduceCtorEq] at hc <;>
    simp only [Call.step, hz, ne_eq, not_false_eq_true, if_true]
  case startMiningCheck => split <;> simp [Call.fallsBack]
  case startMiningLaunch eb => simp [(launchMiner_frame env eb s).2.2.1]
  all_goals simp [Call.fallsBack]

/-- A write of `x` with no fallback in progress pins `x`. -/
theorem setBHEerbase_pins (hx : x ≠ Address.zero) (hf : NoFallback s)
    (hs : step env s (.setBHEerbase x) = some s') : Pinned x s' := by
  cases hs
  exact ⟨hx, rfl, List.forall_mem_append.mpr ⟨hf, List.forall_mem_singleton.mpr rfl⟩⟩

/-- A pinned address stays pinned through every step but a new `SetBHEerbase`. -/
theorem step_pinned (h : Pinned x s) (ha : notSetBHEerbase a = true)
    (hs : step env s a = some s') : Pinned x s' := by
  obtain ⟨hx, hb, hf⟩ := h
  have hnew {c : Call} (hc : c.fallsBack = false) :
      ∀ c' ∈ s.calls ++ [c], c'.fallsBack = false :=
    List.forall_mem_append.mpr ⟨hf, List.forall_mem_singleton.mpr hc⟩
  cases a with
  | startMining _ | stopMining => cases hs; exact ⟨hx, by simpa using hb, hnew rfl⟩
  | setBHEerbase a => cases ha
  | bheerbase =>
    simp only [step, Option.some.injEq, hb, ne_eq, hx, not_false_eq_true, if_true] at hs
    exact hs ▸ ⟨hx, hb, hf⟩
  | resume i =>
    obtain ⟨c, hc, rfl⟩ := step_resume hs
    obtain ⟨hb', hnext⟩ := @Call.step_pinned env s c (hf c (List.getElem?_mem hc)) (hb ▸ hx)
    exact ⟨hx, hb'.trans hb, forall_mem_resumed hf hnext⟩
  | deliver i =>
    obtain ⟨eb, -, rfl⟩ := step_deliver hs
    exact ⟨hx, hb, hf⟩

/-- **An explicit address sticks.** If `SetBHEerbase(x)`, `x` not the zero address,
makes its write when no `BHEerbase()` call is between its read and its write, then
every `BHEerbase()` call made afterwards returns `x` and changes nothing, for as long
as no other `SetBHEerbase` is made, whatever else runs in between. -/
theorem setBHEerbase_sticks {s₁ : Node} (hx : x ≠ Address.zero) (hf : NoFallback s)
    (hs : step env s (.setBHEerbase x) = some s₁)
    (h : Reach env (fun _ a => notSetBHEerbase a) s₁ s') :
    bheerbase env s' = (.ok x, s') := by
  obtain ⟨hx', hb, -⟩ := h.invariant (setBHEerbase_pins hx hf hs)
    fun _ _ _ hi ha hs => step_pinned hi ha hs
  rw [bheerbase_of_ne_zero (hb ▸ hx'), hb]

end Pinned

/-- A node whose only wallet holds account `0x…07`, with no address configured. -/
def walletEnv : Env :=
  { engine := .ethash .normal, author := fun _ => .error "unknown block",
    wallets := [[⟨7⟩]], find := fun _ => .error "unknown account", locals := [] }

/-- The node `New` builds with no mining address configured. -/
def unsetNode : Node := Node.init Address.zero 1 (some (-1))

/-- `SetBHEerbase(0x…02)` made with nothing in flight, then its miner call and a
`BHEerbase()` call, which returns `0x…02`. -/
theorem unsetNode_setBHEerbase_sticks :
    (⟨2⟩ : Address) ≠ Address.zero ∧ NoFallback unsetNode ∧
      step walletEnv unsetNode (.setBHEerbase ⟨2⟩) =
        some { unsetNode with bheerbase := ⟨2⟩, calls := [.setBHEerbaseMiner ⟨2⟩] } ∧
      Reach walletEnv (fun _ a => notSetBHEerbase a)
        { unsetNode with bheerbase := ⟨2⟩, calls := [.setBHEerbaseMiner ⟨2⟩] }
        (setBHEerbase ⟨2⟩ unsetNode) ∧
      bheerbase walletEnv (setBHEerbase ⟨2⟩ unsetNode) =
        (.ok ⟨2⟩, setBHEerbase ⟨2⟩ unsetNode) :=
  have hf : NoFallback unsetNode := fun _ hc => by simp [unsetNode, Node.init] at hc
  have h := Reach.of_runOk (l := [.resume 0, .bheerbase]) Reach.refl (by decide) (by decide)
  ⟨by decide, hf, rfl, h, setBHEerbase_sticks (by decide) hf rfl h⟩

/-- **The fallback overwrites an explicit address.** With no address configured and one
wallet holding `0x…07`: a `BHEerbase()` call reads the zero address and looks up
`0x…07`; then `SetBHEerbase(0x…02)` runs both its steps and returns; then the first
call writes `0x…07`. Nothing is in flight any more, and a `BHEerbase()` call made now
returns `0x…07`. -/
theorem bheerbase_fallback_overwrites :
    (run walletEnv unsetNode
        [.bheerbase, .resume 0, .setBHEerbase ⟨2⟩, .resume 1, .resume 0]).map
      (fun s => (s.calls, (bheerbase walletEnv s).1.toOption)) = some ([], some ⟨7⟩) := by
  decide

/-! ## Concurrent setters -/

/-- Setters whose miner calls run in the order of their writes: any number of
`SetBHEerbase` calls may be in flight, a resume always runs the oldest, and nothing but
setters runs. -/
def setsInWriteOrder : Action → Bool
  | .setBHEerbase _ => true
  | .resume i => i == 0
  | _ => false

/-- The calls in flight are setters about to call the miner, in the order of their
writes, and the last one carries the stored address; with none in flight the miner's
coinbase is the stored address, or the miner has none. -/
def InWriteOrder (s : Node) : Prop :=
  (∀ c ∈ s.calls, ∃ a, c = .setBHEerbaseMiner a) ∧
    (s.calls.getLast? = some (.setBHEerbaseMiner s.bheerbase) ∨
      s.calls = [] ∧ (Miner.coinbase s.miner = none ∨ Miner.coinbase s.miner = some s.bheerbase))

/-- Setters resumed in the order of their writes keep `InWriteOrder`. -/
theorem step_inWriteOrder {env : Env} {s s' : Node} {a : Action} (h : InWriteOrder s)
    (ha : setsInWriteOrder a = true) (hs : step env s a = some s') : InWriteOrder s' := by
  obtain ⟨hset, hlast⟩ := h
  cases a with
  | setBHEerbase x =>
    cases hs
    exact ⟨List.forall_mem_append.mpr ⟨hset, List.forall_mem_singleton.mpr ⟨x, rfl⟩⟩,
      .inl (by simp)⟩
  | resume i =>
    obtain rfl : i = 0 := by simpa [setsInWriteOrder] using ha
    obtain ⟨c, hc, rfl⟩ := step_resume hs
    cases hcalls : s.calls with
    | nil => simp [hcalls] at hc
    | cons c₀ rest =>
      obtain rfl : c₀ = c := by simpa [hcalls] using hc
      obtain ⟨x, rfl⟩ := hset c₀ (by simp [hcalls])
      simp only [hcalls] at hset hlast
      refine ⟨fun c hc => hset c (List.mem_cons_of_mem _ ?_), ?_⟩
      · simpa [Call.step, resumed] using hc
      cases rest with
      | nil =>
        simp only [List.getLast?_singleton, Option.some.injEq, Call.setBHEerbaseMiner.injEq,
          List.cons_ne_nil, false_and, or_false] at hlast
        exact .inr ⟨rfl, .inr (by simp [Call.step, Miner.coinbase, hlast])⟩
      | cons c₁ rest =>
        exact .inl (by simpa [Call.step, resumed, List.getLast?_cons_cons] using hlast)
  | startMining _ | stopMining | bheerbase | deliver _ => cases ha

/-- **Setters in write order agree with the miner.** When the `SetBHEerbase` calls'
miner calls run in the order of their writes, however the calls overlap, then once all
have returned (and the miner has been given a coinbase at all) the node's address is the
miner's coinbase. -/
theorem setBHEerbase_in_order_agree {env : Env} {s₀ s : Node} (h₀ : InWriteOrder s₀)
    (h : Reach env (fun _ a => setsInWriteOrder a) s₀ s) (hq : s.calls = [])
    (hc : Miner.coinbase s.miner ≠ none) : Miner.coinbase s.miner = some s.bheerbase := by
  have hinv := h.invariant h₀ fun _ _ _ hi ha hs => step_inWriteOrder hi ha hs
  rcases hinv.2 with h | ⟨-, h | h⟩
  · simp [hq] at h
  · exact absurd h hc
  · exact h

/-- Two overlapping setters from the node `New` builds: both write, then both miner
calls run, oldest first. They end where the two calls made one after the other end. -/
theorem unsetNode_in_order_agree :
    InWriteOrder unsetNode ∧
      Reach walletEnv (fun _ a => setsInWriteOrder a) unsetNode
        (setBHEerbase ⟨2⟩ (setBHEerbase ⟨1⟩ unsetNode)) ∧
      (setBHEerbase ⟨2⟩ (setBHEerbase ⟨1⟩ unsetNode)).calls = [] ∧
      Miner.coinbase (setBHEerbase ⟨2⟩ (setBHEerbase ⟨1⟩ unsetNode)).miner ≠ none ∧
      Miner.coinbase (setBHEerbase ⟨2⟩ (setBHEerbase ⟨1⟩ unsetNode)).miner = some ⟨2⟩ :=
  have h₀ : InWriteOrder unsetNode :=
    ⟨by simp [unsetNode, Node.init], .inr ⟨rfl, .inl rfl⟩⟩
  have h := Reach.of_runOk (l := [.setBHEerbase ⟨1⟩, .setBHEerbase ⟨2⟩, .resume 0,
    .resume 0]) Reach.refl (by decide) (by decide)
  ⟨h₀, h, rfl, by decide, setBHEerbase_in_order_agree h₀ h rfl (by decide)⟩

/-- **Crossing setters.** `SetBHEerbase(0x…01)` and `SetBHEerbase(0x…02)` write in that
order, and their miner calls run in the other order. Both have returned; the node's
address is `0x…02` and the miner's coinbase `0x…01`. -/
theorem setBHEerbase_calls_cross :
    (run walletEnv unsetNode [.setBHEerbase ⟨1⟩, .setBHEerbase ⟨2⟩, .resume 1, .resume 0]).map
      (fun s => (s.calls, s.bheerbase, Miner.coinbase s.miner)) =
      some ([], ⟨2⟩, some ⟨1⟩) := by
  decide

/-! ## The unset address -/

/-- A proof-of-work node whose engine attributes every block to the zero address (a
`BHEash` header whose coinbase was left empty), with no local accounts. -/
def zeroAuthorEnv : Env :=
  { engine := .ethash .normal, author := fun _ => .ok Address.zero,
    wallets := [], find := fun _ => .error "unknown account", locals := [] }

/-- **The unset sentinel is an author.** In the node `New` builds with no mining
address, a block authored by the zero address, which is not among the locals, is
local and preserved. -/
theorem isLocalBlock_unset_zero_author :
    unsetNode.bheerbase = Address.zero ∧ Address.zero ∉ zeroAuthorEnv.locals ∧
      isLocalBlock zeroAuthorEnv unsetNode ⟨⟨0, ⟨0⟩⟩⟩ = true ∧
      shouldPreserve zeroAuthorEnv unsetNode ⟨⟨0, ⟨0⟩⟩⟩ = true := by
  decide

end BheBackend
