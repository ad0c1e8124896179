import BheBackend.Races

/-!
# One call at a time: the split calls are the Go methods

`Schedule` splits every call into its critical sections and leaves the `Start`
goroutine of `StartMining` pending. A caller that makes one call at a time
(`oneCallAtATime`), each call returning and the `Start` it launched running before the
next begins, sees exactly the methods of `Node` run one after another
(`BackendCall.run`, with `runStarts` for the goroutine): the states of such a run where
nothing is in flight are the states the calls reach run in sequence, and every such
state is reached by some such run (`serial_iff_sequential`).

The bridge is one lemma per method: its first step from an idle state `p` puts one call
in flight, and that call's sections run back to back (`Call.Finishes`) return in the
state the method returns in when run alone (`BackendCall.result`). `Serial` is the
invariant of the forward direction: a state is idle and reached by the calls run in
sequence; or the one call in progress, begun at such a state `p`, is in flight and will
return in that state; or it has returned and its `Start` is pending. `step_serial`
moves between them. The backward direction runs each call's sections from `p`
(`Reach.run_call`).

Through the refinement a fact about calls run in sequence holds on every
one-call-at-a-time run. The one proved here is that the miner's coinbase is the node's
address (`serial_calls_agree`), when `SetBHEerbase(0)` is never called and the first
account, if any, is not the zero address. The first condition is needed: after
`SetBHEerbase(0)` the next `BHEerbase()` stores the first account while the miner
keeps the zero address.
-/

namespace BheBackend

/-- A call of the backend's mining methods. -/
inductive BackendCall where
  | startMining (threads : Int)
  | stopMining
  | setBHEerbase (addr : Address)
  | bheerbase
  deriving DecidableEq, Repr

/-- The action that begins a call. -/
def BackendCall.action : BackendCall → Action
  | .startMining t => .startMining t
  | .stopMining => .stopMining
  | .setBHEerbase a => .setBHEerbase a
  | .bheerbase => .bheerbase

/-- The call an action begins, if it begins one. -/
def Action.begins : Action → Option BackendCall
  | .startMining t => some (.startMining t)
  | .stopMining => some .stopMining
  | .setBHEerbase a => some (.setBHEerbase a)
  | .bheerbase => some .bheerbase
  | .resume _ | .deliver _ => none

/-- Every launched `go s.miner.Start(eb)` runs, in launch order. -/
def runStarts (s : Node) : Node :=
  s.starting.foldl (fun s eb => deliverStart eb s) { s with starting := [] }

/-- The state a call's Go method returns in when run alone. -/
def BackendCall.result (env : Env) (s : Node) : BackendCall → Node
  | .startMining t => (BheBackend.startMining env t s).1
  | .stopMining => BheBackend.stopMining env s
  | .setBHEerbase a => BheBackend.setBHEerbase a s
  | .bheerbase => (BheBackend.bheerbase env s).2

/-- A call run to completion with nothing in between: its Go method, and for
`StartMining` the `Start` it launched. -/
def BackendCall.run (env : Env) (s : Node) : BackendCall → Node
  | .startMining t => runStarts (BheBackend.startMining env t s).1
  | .stopMining => BheBackend.stopMining env s
  | .setBHEerbase a => BheBackend.setBHEerbase a s
  | .bheerbase => (BheBackend.bheerbase env s).2

/-- Nothing in flight: no call between two critical sections, no `Start` pending. -/
def Idle (s : Node) : Prop := s.calls = [] ∧ s.starting = []

/-- One call at a time: a call `ok` allows begins only when nothing is in flight. -/
def oneCallAtATime (ok : BackendCall → Bool) (s : Node) (a : Action) : Bool :=
  match a.begins with
  | some c => s.calls.isEmpty && s.starting.isEmpty && ok c
  | none => true

/-- The states reached by calls `ok` allows, run one after another. -/
inductive SeqReach (env : Env) (ok : BackendCall → Bool) (s₀ : Node) : Node → Prop
  | refl : SeqReach env ok s₀ s₀
  | tail {s : Node} {c : BackendCall} :
      SeqReach env ok s₀ s → ok c = true → SeqReach env ok s₀ (c.run env s)

/-! ## Calls run in sequence -/

section Sequential

variable {env : Env} {ok : BackendCall → Bool} {s₀ s p : Node}

theorem runStarts_of_nil (h : s.starting = []) : runStarts s = s := by
  cases s
  simp only at h
  subst h
  rfl

theorem runStarts_of_single {eb : Address} (h : s.starting = [eb]) :
    runStarts s = { s with miner := .start eb :: s.miner, starting := [] } := by
  simp [runStarts, h, deliverStart]

/-- A call run alone from an idle state returns with nothing in flight, and at most the
one `Start` it launched pending. -/
theorem BackendCall.result_idle (h : Idle s) (c : BackendCall) :
    (c.result env s).calls = [] ∧
      ((c.result env s).starting = [] ∨ ∃ eb, (c.result env s).starting = [eb]) := by
  cases c with
  | startMining t =>
    refine ⟨(startMining_frame env t s).2.1.trans h.1, ?_⟩
    rcases startMining_launch env t s with ⟨hst, -⟩ | ⟨-, -, hst⟩
    · exact .inl (hst.trans h.2)
    · exact .inr ⟨_, by rw [BackendCall.result, hst, h.2, List.nil_append]⟩
  | stopMining =>
    exact ⟨by simpa [BackendCall.result] using h.1,
      .inl (by simpa [BackendCall.result] using h.2)⟩
  | setBHEerbase a => exact ⟨h.1, .inl h.2⟩
  | bheerbase =>
    obtain ⟨a, ha⟩ := bheerbase_snd env s
    rw [BackendCall.result, ha]
    exact ⟨h.1, .inl h.2⟩

/-- From an idle state, a call run to completion is its method followed by its `Start`. -/
theorem BackendCall.run_eq (h : Idle s) (c : BackendCall) :
    c.run env s = runStarts (c.result env s) := by
  cases c with
  | startMining t => rfl
  | stopMining =>
    exact (runStarts_of_nil (s := BheBackend.stopMining env s) (by simpa using h.2)).symm
  | setBHEerbase a => exact (runStarts_of_nil (s := BheBackend.setBHEerbase a s) h.2).symm
  | bheerbase =>
    obtain ⟨a, ha⟩ := bheerbase_snd env s
    rw [BackendCall.run, BackendCall.result, ha]
    exact (runStarts_of_nil (s := { s with bheerbase := a }) h.2).symm

/-- A call run from an idle state returns to an idle state. -/
theorem BackendCall.run_idle (h : Idle s) (c : BackendCall) : Idle (c.run env s) := by
  obtain ⟨hc, hst | ⟨eb, hst⟩⟩ := (@BackendCall.result_idle env s h c) <;> rw [c.run_eq h]
  · rw [runStarts_of_nil hst]; exact ⟨hc, hst⟩
  · rw [runStarts_of_single hst]; exact ⟨hc, rfl⟩

theorem SeqReach.idle (h₀ : Idle s₀) (h : SeqReach env ok s₀ s) : Idle s := by
  induction h with
  | refl => exact h₀
  | tail _ _ ih => exact BackendCall.run_idle ih _

end Sequential

/-! ## Each method's sections run back to back -/

section Finishes

variable {env : Env} {p : Node}

/-- `SetBHEerbase`'s miner call ends it. -/
theorem setBHEerbase_finishes (a : Address) :
    Call.Finishes env { p with bheerbase := a } (.setBHEerbaseMiner a) (setBHEerbase a p) :=
  .last rfl

/-- `StopMining`'s miner call ends it. -/
theorem stopMining_finishes :
    Call.Finishes env (setThreads env (-1) p) .stopMiningStop (stopMining env p) :=
  .last rfl

/-- `BHEerbase()`'s fallback ends without an account, or writes it. -/
theorem bheerbase_finishes (hz : p.bheerbase = Address.zero) :
    Call.Finishes env p (.bheerbaseLookup .external) (bheerbase env p).2 := by
  cases hf : firstAccount env.wallets with
  | none =>
    simp only [bheerbase, hz, ne_eq, not_true_eq_false, if_false, hf]
    exact .last (by simp [Call.step, hf])
  | some a =>
    simp only [bheerbase, hz, ne_eq, not_true_eq_false, if_false, hf]
    exact .next (by rw [Call.step, hf]) (.last (by rfl))

/-- `StartMining`'s sections after the thread count: the check, then its `BHEerbase()`
(the read, and on the zero address the lookup and the write), then the launch. -/
theorem startMining_finishes (t : Int) :
    Call.Finishes env (setThreads env (if t = 0 then -1 else t) p) .startMiningCheck
      (startMining env t p).1 := by
  unfold startMining initMiner
  generalize setThreads env (if t = 0 then -1 else t) p = q
  by_cases hm : isMining q = true
  · simp only [hm, if_true]
    exact .last (by simp [Call.step, hm])
  · simp only [hm, Bool.false_eq_true, if_false]
    refine .next (by rw [Call.step, if_neg hm]) ?_
    generalize { q with poolGasPrice := some q.gasPrice } = q
    by_cases hz : q.bheerbase = Address.zero
    · cases hf : firstAccount env.wallets with
      | none =>
        simp only [bheerbase, hz, ne_eq, not_true_eq_false, if_false, hf]
        exact .next (by rw [Call.step, if_neg (not_not.mpr hz)]) (.last (by rw [Call.step, hf]))
      | some a =>
        simp only [bheerbase, hz, ne_eq, not_true_eq_false, if_false, hf]
        exact .next (by rw [Call.step, if_neg (not_not.mpr hz)])
          (.next (by rw [Call.step, hf]) (.next (by rfl) (.last (by rfl))))
    · simp only [bheerbase, hz, ne_eq, not_false_eq_true, if_true]
      exact .next (by rw [Call.step, if_pos hz]) (.last (by rfl))

/-- A call's first step from an idle state: the method has already returned, or it has
one call in flight, on a state with nothing else in flight, whose sections return where
the method run alone returns. -/
theorem BackendCall.begin (hi : Idle p) (b : BackendCall) :
    step env p b.action = some (b.result env p) ∨
      ∃ q c, step env p b.action = some { q with calls := [c] } ∧ Idle q ∧
        c.Finishes env q (b.result env p) := by
  cases b with
  | startMining t =>
    refine .inr ⟨setThreads env (if t = 0 then -1 else t) p, .startMiningCheck,
      by simp [step, BackendCall.action, hi.1], ?_, startMining_finishes t⟩
    exact ⟨by simpa using hi.1, by simpa using hi.2⟩
  | stopMining =>
    refine .inr ⟨setThreads env (-1) p, .stopMiningStop, by simp [step, BackendCall.action, hi.1],
      ?_, stopMining_finishes⟩
    exact ⟨by simpa using hi.1, by simpa using hi.2⟩
  | setBHEerbase a =>
    exact .inr ⟨{ p with bheerbase := a }, .setBHEerbaseMiner a,
      by simp [step, BackendCall.action, hi.1], hi, setBHEerbase_finishes a⟩
  | bheerbase =>
    by_cases hz : p.bheerbase = Address.zero
    · exact .inr ⟨p, .bheerbaseLookup .external, by simp [step, BackendCall.action, hi.1, hz],
        hi, bheerbase_finishes hz⟩
    · refine .inl ?_
      rw [BackendCall.result, bheerbase_of_ne_zero hz]
      simp [step, BackendCall.action, hz]

end Finishes

/-! ## One call at a time -/

/-- A state of a one-call-at-a-time run, each call begun at an idle state `p` reached by
the calls run in sequence. -/
inductive Serial (env : Env) (ok : BackendCall → Bool) (s₀ : Node) : Node → Prop
  /-- Nothing is in flight. -/
  | idle {s : Node} : SeqReach env ok s₀ s → Idle s → Serial env ok s₀ s
  /-- The call `b` is in flight as `c` on the state `q`, and returns where `b` run
  alone returns. -/
  | inFlight {p q : Node} {b : BackendCall} {c : Call} : SeqReach env ok s₀ p → Idle p →
      ok b = true → Idle q → c.Finishes env q (b.result env p) → Serial env ok s₀ { q with calls := [c] }
  /-- The call `b` has returned; the one `Start` it launched is next. -/
  | starting {p : Node} {b : BackendCall} {eb : Address} : SeqReach env ok s₀ p → Idle p →
      ok b = true → (b.result env p).starting = [eb] → Serial env ok s₀ (b.result env p)

section Serial

variable {env : Env} {ok : BackendCall → Bool} {s₀ s s' p : Node} {a : Action} {b : BackendCall}

/-- An idle state of a one-call-at-a-time run is reached by the calls run in sequence. -/
theorem Serial.seqReach (h : Serial env ok s₀ s) (hi : Idle s) : SeqReach env ok s₀ s := by
  cases h with
  | idle h _ => exact h
  | inFlight => simp [Idle] at hi
  | starting _ _ _ hst => simp [Idle, hst] at hi

/-- A call that has returned: idle, or its `Start` pending. -/
theorem Serial.returned (hr : SeqReach env ok s₀ p) (hi : Idle p) (hok : ok b = true) :
    Serial env ok s₀ (b.result env p) := by
  obtain ⟨hc, hst | ⟨eb, hst⟩⟩ := @BackendCall.result_idle env p hi b
  · have hrun := hr.tail hok
    rw [b.run_eq hi, runStarts_of_nil hst] at hrun
    exact .idle hrun ⟨hc, hst⟩
  · exact .starting hr hi hok hst

/-- Beginning a call from an idle state. -/
theorem step_begins (hr : SeqReach env ok s₀ p) (hi : Idle p) (hok : ok b = true)
    (hb : a.begins = some b) (hs : step env p a = some s') : Serial env ok s₀ s' := by
  obtain rfl : a = b.action := by
    cases a <;> simp only [Action.begins, Option.some.injEq, reduceCtorEq] at hb <;>
      subst hb <;> rfl
  rcases @BackendCall.begin env p hi b with h | ⟨q, c, h, hq, hf⟩ <;>
    rw [h, Option.some.injEq] at hs <;> subst hs
  · exact .returned hr hi hok
  · exact .inFlight hr hi hok hq hf

/-- A call in flight runs its next critical section. -/
theorem step_resume_serial {i : Nat} (h : Serial env ok s₀ s)
    (hs : step env s (.resume i) = some s') : Serial env ok s₀ s' := by
  cases h with
  | idle _ hi =>
    obtain ⟨c, hc, -⟩ := step_resume hs
    simp [hi.1] at hc
  | starting _ hi _ =>
    obtain ⟨c, hc, -⟩ := step_resume hs
    simp [(BackendCall.result_idle hi _).1] at hc
  | @inFlight p q b c hr hi hok hq hf =>
    obtain ⟨_, hc, -⟩ := step_resume hs
    obtain rfl : i = 0 := by simpa using (List.getElem?_eq_some_iff.mp hc).1
    rw [step_resume_single, Option.some.injEq] at hs
    subst hs
    cases hf with
    | last hstep =>
      simp only [hstep, resumed, List.eraseIdx_cons_zero]
      rw [Node.with_calls_self (BackendCall.result_idle hi _).1]
      exact .returned hr hi hok
    | next hstep hf =>
      have hq' : Idle _ := ⟨(@Call.step_calls_eq env q c).trans hq.1,
        (Call.step_starting (by rw [hstep])).trans hq.2⟩
      rw [hstep] at hq'
      simp only [hstep, resumed, List.set_cons_zero]
      exact .inFlight hr hi hok hq' hf

/-- The pending `Start` runs. -/
theorem step_deliver_serial {i : Nat} (h : Serial env ok s₀ s)
    (hs : step env s (.deliver i) = some s') : Serial env ok s₀ s' := by
  obtain ⟨eb, he, rfl⟩ := step_deliver hs
  cases h with
  | starting hr hi hok hst =>
    rw [hst] at he ⊢
    obtain ⟨rfl, rfl⟩ : i = 0 ∧ _ := by simpa using List.getElem?_eq_some_iff.mp he
    have hrun := hr.tail hok
    rw [BackendCall.run_eq hi, runStarts_of_single hst] at hrun
    exact .idle hrun ⟨(BackendCall.result_idle hi _).1, rfl⟩
  | idle _ hi => simp [hi.2] at he
  | inFlight _ _ _ hq => simp [hq.2] at he

/-- Every step of a one-call-at-a-time run keeps `Serial`. -/
theorem step_serial (h : Serial env ok s₀ s) (ha : oneCallAtATime ok s a = true)
    (hs : step env s a = some s') : Serial env ok s₀ s' := by
  cases hb : a.begins with
  | some c =>
    simp only [oneCallAtATime, hb, Bool.and_eq_true, List.isEmpty_iff] at ha
    obtain ⟨⟨hc, hst⟩, hok⟩ := ha
    exact step_begins (h.seqReach ⟨hc, hst⟩) ⟨hc, hst⟩ hok hb hs
  | none =>
    cases a with
    | resume i => exact step_resume_serial h hs
    | deliver i => exact step_deliver_serial h hs
    | _ => simp [Action.begins] at hb

/-- The forward direction: an idle state of a one-call-at-a-time run is reached by the
calls run in sequence. -/
theorem Reach.seqReach (h₀ : Idle s₀) (h : Reach env (fun s a => oneCallAtATime ok s a) s₀ s)
    (hs : Idle s) : SeqReach env ok s₀ s :=
  (h.invariant (.idle .refl h₀) fun _ _ _ hi ha hs => step_serial hi ha hs).seqReach hs

/-- A call in flight, resumed until it returns. -/
theorem Reach.finish {q t : Node} {c : Call}
    (h : Reach env (fun s a => oneCallAtATime ok s a) s₀ { q with calls := [c] })
    (hf : c.Finishes env q t) :
    Reach env (fun s a => oneCallAtATime ok s a) s₀ { t with calls := [] } := by
  induction hf with
  | last hstep =>
    refine h.tail (a := .resume 0) rfl ?_
    simp [step_resume_single, hstep, resumed]
  | next hstep _ ih =>
    refine ih (h.tail (a := .resume 0) rfl ?_)
    simp [step_resume_single, hstep, resumed]

/-- A call's critical sections, run one after another from an idle state, and then its
`Start`. -/
theorem Reach.run_call (h : Reach env (fun s a => oneCallAtATime ok s a) s₀ p) (hi : Idle p)
    (hok : ok b = true) : Reach env (fun s a => oneCallAtATime ok s a) s₀ (b.run env p) := by
  have hg : oneCallAtATime ok p b.action = true := by
    cases b <;> simp [oneCallAtATime, Action.begins, BackendCall.action, hi.1, hi.2, hok]
  have hret : Reach env (fun s a => oneCallAtATime ok s a) s₀ (b.result env p) := by
    rcases @BackendCall.begin env p hi b with hs | ⟨q, c, hs, -, hf⟩
    · exact h.tail hg hs
    · have h' := (h.tail hg hs).finish hf
      rwa [Node.with_calls_self (BackendCall.result_idle hi _).1] at h'
  obtain ⟨-, hst | ⟨eb, hst⟩⟩ := @BackendCall.result_idle env p hi b <;> rw [b.run_eq hi]
  · rwa [runStarts_of_nil hst]
  · refine hret.tail (a := .deliver 0) rfl ?_
    simp [step, hst, runStarts_of_single hst, deliverStart]

/-- The backward direction: the calls run in sequence are a one-call-at-a-time run. -/
theorem SeqReach.reach (h₀ : Idle s₀) (h : SeqReach env ok s₀ s) :
    Reach env (fun s a => oneCallAtATime ok s a) s₀ s := by
  induction h with
  | refl => exact .refl
  | tail hr hok ih => exact ih.run_call (hr.idle h₀) hok

end Serial

/-- **One call at a time is the Go methods in sequence.** From an idle state, the idle
states of the runs that make one call at a time, each call allowed by `ok`, returning
and its `Start` running before the next call begins, are exactly the states reached by
the calls allowed by `ok` run one after another. -/
theorem serial_iff_sequential {env : Env} {ok : BackendCall → Bool} {s₀ s : Node}
    (h₀ : Idle s₀) (hs : Idle s) :
    Reach env (fun s a => oneCallAtATime ok s a) s₀ s ↔ SeqReach env ok s₀ s :=
  ⟨fun h => h.seqReach h₀ hs, SeqReach.reach h₀⟩

/-- The node `New` builds with no address, and after a `BHEerbase()` call. -/
theorem unsetNode_serial_iff_sequential :
    Idle unsetNode ∧ Idle { unsetNode with bheerbase := ⟨7⟩ } ∧
      (Reach walletEnv (fun s a => oneCallAtATime (fun _ => true) s a) unsetNode
          { unsetNode with bheerbase := ⟨7⟩ } ↔
        SeqReach walletEnv (fun _ => true) unsetNode { unsetNode with bheerbase := ⟨7⟩ }) :=
  ⟨⟨rfl, rfl⟩, ⟨rfl, rfl⟩, serial_iff_sequential ⟨rfl, rfl⟩ ⟨rfl, rfl⟩⟩

/-! ## The coinbase, one call at a time -/

/-- The miner has no coinbase, or the node's address, which is set. -/
def CoinbaseAgrees (s : Node) : Prop :=
  Miner.coinbase s.miner = none ∨
    Miner.coinbase s.miner = some s.bheerbase ∧ s.bheerbase ≠ Address.zero

section Agree

variable {env : Env} {s s' : Node}

/-- The miner keeps agreeing when the stored address changes only from the unset one. -/
theorem CoinbaseAgrees.of_unset (h : CoinbaseAgrees s) (hm : s'.miner = s.miner)
    (hb : s'.bheerbase = s.bheerbase ∨ s.bheerbase = Address.zero) : CoinbaseAgrees s' := by
  unfold CoinbaseAgrees at *
  rw [hm]
  rcases hb with hb | hb
  · rwa [hb]
  · exact .inl (h.resolve_right fun h => h.2 hb)

/-- Each call but `SetBHEerbase(0)`, run from an idle state, keeps the coinbase in
agreement, when the first account is not the zero address. -/
theorem BackendCall.run_agrees
    (hw : ∀ a, firstAccount env.wallets = some a → a ≠ Address.zero) {c : BackendCall}
    (hc : c ≠ .setBHEerbase Address.zero) (hi : Idle s) (h : CoinbaseAgrees s) :
    CoinbaseAgrees (c.run env s) := by
  cases c with
  | startMining t =>
    have hm := (startMining_frame env t s).1
    rcases startMining_launch env t s with ⟨hst, hb⟩ | ⟨-, hok, hst⟩
    · rw [BackendCall.run, runStarts_of_nil (hst.trans hi.2)]
      exact h.of_unset hm (hb.imp_right And.left)
    · rw [hi.2, List.nil_append] at hst
      rw [BackendCall.run, runStarts_of_single hst]
      refine .inr ⟨rfl, ?_⟩
      rcases (bheerbase_ok hok).2 with ⟨hne, hb⟩ | ⟨-, hf⟩
      · exact hb ▸ hne
      · exact hw _ hf
  | stopMining => simpa [BackendCall.run, CoinbaseAgrees, Miner.coinbase] using h
  | setBHEerbase a => exact .inr ⟨rfl, fun ha => hc (congrArg _ ha)⟩
  | bheerbase =>
    by_cases hz : s.bheerbase = Address.zero
    · obtain ⟨a, ha⟩ := bheerbase_snd env s
      rw [BackendCall.run, ha]
      exact h.of_unset rfl (.inr hz)
    · rw [BackendCall.run, bheerbase_of_ne_zero hz]
      exact h

/-- The calls but `SetBHEerbase(0)` run in sequence keep the coinbase in agreement. -/
theorem SeqReach.agrees {s₀ : Node}
    (hw : ∀ a, firstAccount env.wallets = some a → a ≠ Address.zero) (h₀ : Idle s₀)
    (ha₀ : CoinbaseAgrees s₀)
    (h : SeqReach env (fun c => c != .setBHEerbase Address.zero) s₀ s) : CoinbaseAgrees s := by
  induction h with
  | refl => exact ha₀
  | tail hr hok ih => exact BackendCall.run_agrees hw (by simpa using hok) (hr.idle h₀) ih

end Agree

/-- **One call at a time, one address.** From the node `New` builds, when the mining
calls are made one at a time, each returning and its `Start` running before the next
call begins, `SetBHEerbase` is never given the zero address, and the first account, if
any, is not the zero address: whenever nothing is in flight, the miner has no
coinbase, or its coinbase is the node's address, which is set. -/
theorem serial_calls_agree {env : Env} {x : Address} {price : Int} {threads : Option Int}
    {s : Node} (hw : ∀ a, firstAccount env.wallets = some a → a ≠ Address.zero)
    (h : Reach env (fun s a => oneCallAtATime (fun c => c != .setBHEerbase Address.zero) s a)
      (Node.init x price threads) s)
    (hs : Idle s) :
    Miner.coinbase s.miner = none ∨
      Miner.coinbase s.miner = some s.bheerbase ∧ s.bheerbase ≠ Address.zero := by
  refine (h.seqReach ⟨rfl, rfl⟩ hs).agrees hw ⟨rfl, rfl⟩ ?_
  exact .inl rfl

/-- `BHEerbase()` falling back to `0x…07`, `StartMining(1)` and its `Start`,
`SetBHEerbase(0x…02)`, `StopMining()`, one at a time: the miner's coinbase is
`0x…02`. -/
theorem walletEnv_serial_calls_agree :
    (∀ a, firstAccount walletEnv.wallets = some a → a ≠ Address.zero) ∧
      Reach walletEnv
        (fun s a => oneCallAtATime (fun c => c != .setBHEerbase Address.zero) s a)
        (Node.init Address.zero 1 (some (-1)))
        { unsetNode with
          bheerbase := ⟨2⟩, poolGasPrice := some 1, acceptTxs := some 1,
          miner := [.stop, .setBHEerbase ⟨2⟩, .start ⟨7⟩] } ∧
      Idle { unsetNode with
          bheerbase := ⟨2⟩, poolGasPrice := some 1, acceptTxs := some 1,
          miner := [.stop, .setBHEerbase ⟨2⟩, .start ⟨7⟩] } ∧
      (Miner.coinbase [.stop, .setBHEerbase ⟨2⟩, .start ⟨7⟩] = none ∨
        Miner.coinbase [.stop, .setBHEerbase ⟨2⟩, .start ⟨7⟩] = some ⟨2⟩ ∧
          (⟨2⟩ : Address) ≠ Address.zero) :=
  have hw : ∀ a, firstAccount walletEnv.wallets = some a → a ≠ Address.zero :=
    fun _ ha => Option.some.inj ha ▸ by decide
  have h := Reach.of_runOk (l := [.bheerbase, .resume 0, .resume 0, .startMining 1, .resume 0,
    .resume 0, .resume 0, .deliver 0, .setBHEerbase ⟨2⟩, .resume 0, .stopMining, .resume 0])
    Reach.refl (by decide) (by decide)
  ⟨hw, h, ⟨rfl, rfl⟩, serial_calls_agree hw h ⟨rfl, rfl⟩⟩

end BheBackend
