import BheBackend.Node

/-!
# Interleaving the node's calls

The backend's methods run concurrently, and `s.lock` makes only their critical
sections atomic. `step` is one atomic step of the whole node. A call begins with an
action and then sits in `calls` between two of its critical sections, as the `Call`
that says what it runs next; a `resume` runs that section:

- `StartMining(threads)` sets the engine's thread count (the action `startMining`),
  then checks `IsMining()` and, on a miner not mining, gives the pool the gas price
  (`Call.startMiningCheck`; `s.gasPrice` is never written after `New`, so its
  `RLock`'d read goes with the check), then calls `BHEerbase()` (`Call.startMiningRead`
  and the fallback below), then authorizes clique, sets `acceptTxs` and launches
  `go s.miner.Start(eb)` (`Call.startMiningLaunch`). The goroutine stays in `starting`
  until a `deliver` step runs it, at any later point of the schedule;
- `StopMining()` sets the thread count (`stopMining`), then stops the miner
  (`Call.stopMiningStop`);
- `SetBHEerbase(addr)` is its locked write (`setBHEerbase`), then its call on the
  miner outside the lock (`Call.setBHEerbaseMiner`);
- `BHEerbase()` is its `RLock`'d read (`bheerbase`, or `Call.startMiningRead` inside
  `StartMining`), then, on the zero address, the account lookup and the locked write of
  `accounts[0]` (`Call.bheerbaseLookup` and `Call.bheerbaseWrite`), after which it
  returns to its caller.

`run` replays a schedule and `Reach env ok s₀` is the set of states reachable from
`s₀` by steps that `ok` allows; `Reach.invariant` is the one induction every safety
result below goes through. `Call.Finishes` runs a call's remaining sections back to
back, with nothing in between; `Serial` uses it to check the split against the Go
methods of `Node`.
-/

namespace BheBackend

/-- The next critical section of a call in flight: the new state, and what is left of
the call unless it has returned. -/
def Call.step (env : Env) (s : Node) : Call → Node × Option Call
  | .bheerbaseLookup k =>
    match firstAccount env.wallets with
    | some a => (s, some (.bheerbaseWrite k a))
    | none => (s, none)
  | .bheerbaseWrite k a =>
    ({ s with bheerbase := a },
      match k with
      | .external => none
      | .startMining => some (.startMiningLaunch a))
  | .setBHEerbaseMiner a => ({ s with miner := .setBHEerbase a :: s.miner }, none)
  | .startMiningCheck =>
    if isMining s then (s, none)
    else ({ s with poolGasPrice := some s.gasPrice }, some .startMiningRead)
  | .startMiningRead =>
    (s, some (if s.bheerbase ≠ Address.zero then .startMiningLaunch s.bheerbase
      else .bheerbaseLookup .startMining))
  | .startMiningLaunch eb => ((launchMiner env eb s).1, none)
  | .stopMiningStop => ({ s with miner := .stop :: s.miner }, none)

/-- One atomic step of the node. -/
inductive Action where
  /-- A `StartMining(threads)` call begins: the engine's thread count. -/
  | startMining (threads : Int)
  /-- A `StopMining()` call begins: the engine's thread count. -/
  | stopMining
  /-- A `SetBHEerbase(addr)` call begins with its locked write. -/
  | setBHEerbase (addr : Address)
  /-- A `BHEerbase()` call begins with its `RLock`'d read. -/
  | bheerbase
  /-- The `i`-th call in flight runs its next critical section. -/
  | resume (i : Nat)
  /-- The `i`-th launched `go s.miner.Start(eb)` runs. -/
  | deliver (i : Nat)
  deriving DecidableEq, Repr

/-- The calls in flight once the `i`-th has run a section: what is left of it takes its
place, or it is removed when it has returned. -/
def resumed (l : List Call) (i : Nat) : Option Call → List Call
  | some c => l.set i c
  | none => l.eraseIdx i

/-- One atomic step; `none` when the action names no call or goroutine. -/
def step (env : Env) (s : Node) : Action → Option Node
  | .startMining t =>
    some { setThreads env (if t = 0 then -1 else t) s with
      calls := s.calls ++ [.startMiningCheck] }
  | .stopMining => some { setThreads env (-1) s with calls := s.calls ++ [.stopMiningStop] }
  | .setBHEerbase a =>
    some { s with bheerbase := a, calls := s.calls ++ [.setBHEerbaseMiner a] }
  | .bheerbase =>
    some (if s.bheerbase ≠ Address.zero then s
      else { s with calls := s.calls ++ [.bheerbaseLookup .external] })
  | .resume i =>
    s.calls[i]?.map fun c =>
      { (c.step env s).1 with calls := resumed s.calls i (c.step env s).2 }
  | .deliver i =>
    s.starting[i]?.map fun eb => { deliverStart eb s with starting := s.starting.eraseIdx i }

/-- Replay a schedule; `none` if some action names nothing. -/
def run (env : Env) : Node → List Action → Option Node
  | s, [] => some s
  | s, a :: as => (step env s a).bind fun s' => run env s' as

/-- The states reachable from `s₀` by steps each allowed by `ok`. -/
inductive Reach (env : Env) (ok : Node → Action → Prop) (s₀ : Node) : Node → Prop
  | refl : Reach env ok s₀ s₀
  | tail {s s' : Node} {a : Action} :
      Reach env ok s₀ s → ok s a → step env s a = some s' → Reach env ok s₀ s'

/-- The states reachable from `s₀` by any schedule. -/
def Reachable (env : Env) (s₀ s : Node) : Prop := Reach env (fun _ _ => True) s₀ s

section Reach

variable {env : Env} {ok : Node → Action → Prop} {s₀ s : Node}

/-- An invariant of every allowed step holds in every reachable state. -/
theorem Reach.invariant {I : Node → Prop} (h₀ : I s₀)
    (hstep : ∀ s a s', I s → ok s a → step env s a = some s' → I s')
    (h : Reach env ok s₀ s) : I s := by
  induction h with
  | refl => exact h₀
  | tail _ hok hs ih => exact hstep _ _ _ ih hok hs

/-- A schedule whose every step is allowed reaches its final state. -/
theorem Reach.of_run {l : List Action} (hok : ∀ s a s', step env s a = some s' → ok s a) :
    ∀ {s}, Reach env ok s₀ s → ∀ {s'}, run env s l = some s' → Reach env ok s₀ s' := by
  induction l with
  | nil => intro s hs s' h; cases h; exact hs
  | cons a as ih =>
    intro s hs s' h
    simp only [run, Option.bind_eq_some] at h
    obtain ⟨s₁, h₁, h'⟩ := h
    exact ih (hs.tail (hok _ _ _ h₁) h₁) h'

theorem Reachable.of_run {l : List Action} {s' : Node} (h : run env s₀ l = some s') :
    Reachable env s₀ s' :=
  Reach.of_run (fun _ _ _ _ => trivial) Reach.refl h

/-- Whether every step of a schedule from `s` is allowed by `ok`. -/
def runOk (env : Env) (ok : Node → Action → Bool) : Node → List Action → Bool
  | _, [] => true
  | s, a :: as =>
    ok s a && match step env s a with
      | some s' => runOk env ok s' as
      | none => true

/-- A schedule checked by `runOk` stays inside `Reach`. -/
theorem Reach.of_runOk {ok : Node → Action → Bool} {l : List Action} :
    ∀ {s}, Reach env (fun s a => ok s a) s₀ s → runOk env ok s l = true →
      ∀ {s'}, run env s l = some s' → Reach env (fun s a => ok s a) s₀ s' := by
  induction l with
  | nil => intro s hs _ s' h; cases h; exact hs
  | cons a as ih =>
    intro s hs hok s' h
    simp only [run, Option.bind_eq_some] at h
    obtain ⟨s₁, h₁, h'⟩ := h
    simp only [runOk, h₁, Bool.and_eq_true] at hok
    exact ih (hs.tail hok.1 h₁) hok.2 h'

end Reach

/-! ## What one step does -/

section Steps

variable {env : Env} {s s' : Node} {c : Call}

/-- The launch neither reads nor writes the calls in flight. -/
theorem launchMiner_calls (eb : Address) (l : List Call) :
    launchMiner env eb { s with calls := l } = ({ (launchMiner env eb s).1 with calls := l },
      (launchMiner env eb s).2) := by
  unfold launchMiner
  split <;> (try split) <;> rfl

/-- Setting the calls in flight to what they are changes nothing. -/
theorem Node.with_calls_self {l : List Call} (h : s.calls = l) : { s with calls := l } = s := by
  subst h; rfl

/-- A critical section neither reads nor writes the calls in flight. -/
theorem Call.step_calls (l : List Call) :
    c.step env { s with calls := l } =
      ({ (c.step env s).1 with calls := l }, (c.step env s).2) := by
  cases c with
  | bheerbaseLookup k => simp only [Call.step]; cases firstAccount env.wallets <;> rfl
  | startMiningCheck =>
    simp only [Call.step, isMining]
    by_cases h : Miner.mining s.miner = true <;> simp [h]
  | startMiningLaunch eb => simp only [Call.step, launchMiner_calls]
  | _ => rfl

/-- Only the launch adds a `Start`, and it is a call's last section. -/
theorem Call.step_starting {c' : Call} (h : (c.step env s).2 = some c') :
    (c.step env s).1.starting = s.starting := by
  cases c <;> simp only [Call.step] at h ⊢
  case bheerbaseLookup => split <;> rfl
  case startMiningCheck => split <;> rfl
  case startMiningLaunch => cases h

/-- A critical section keeps the calls in flight as they are. -/
@[simp] theorem Call.step_calls_eq : (c.step env s).1.calls = s.calls := by
  cases c <;> simp only [Call.step]
  case bheerbaseLookup => split <;> rfl
  case startMiningCheck => split <;> rfl
  case startMiningLaunch eb => exact (launchMiner_frame env eb s).2.1

/-- Every call still in flight after a resume is one that was, or what is left of the
resumed one. -/
theorem forall_mem_resumed {P : Call → Prop} {l : List Call} {i : Nat} {o : Option Call}
    (hl : ∀ c ∈ l, P c) (ho : ∀ c, o = some c → P c) : ∀ c ∈ resumed l i o, P c := by
  cases o with
  | none => exact fun c h => hl c (List.mem_of_mem_eraseIdx h)
  | some c' =>
    exact fun c h => (List.mem_or_eq_of_mem_set h).elim (hl c) fun h => h ▸ ho c' rfl

/-- A resumed call runs its next critical section and nothing else. -/
theorem step_resume {i : Nat} (h : step env s (.resume i) = some s') :
    ∃ c, s.calls[i]? = some c ∧
      s' = { (c.step env s).1 with calls := resumed s.calls i (c.step env s).2 } := by
  simp only [step, Option.map_eq_some'] at h
  obtain ⟨c, hc, rfl⟩ := h
  exact ⟨c, hc, rfl⟩

/-- The one call in flight runs its next critical section. -/
theorem step_resume_single {q : Node} :
    step env { q with calls := [c] } (.resume 0) =
      some { (c.step env q).1 with calls := resumed [c] 0 (c.step env q).2 } := by
  simp [step, Call.step_calls]

/-- A delivered goroutine gives the miner its `Start`. -/
theorem step_deliver {i : Nat} (h : step env s (.deliver i) = some s') :
    ∃ eb, s.starting[i]? = some eb ∧
      s' = { s with miner := .start eb :: s.miner, starting := s.starting.eraseIdx i } := by
  simp only [step, Option.map_eq_some'] at h
  obtain ⟨eb, hc, rfl⟩ := h
  exact ⟨eb, hc, rfl⟩

end Steps

/-! ## A call run to its return -/

/-- The call `c`, alone on the node from `s`, runs its remaining critical sections back
to back and returns in the state `t`. -/
inductive Call.Finishes (env : Env) : Node → Call → Node → Prop
  | last {s s' : Node} {c : Call} : c.step env s = (s', none) → Call.Finishes env s c s'
  | next {s s' t : Node} {c c' : Call} :
      c.step env s = (s', some c') → Call.Finishes env s' c' t → Call.Finishes env s c t

end BheBackend
