import Mathlib

/-!
# Values of the backend: addresses, hashes, headers, blocks and Go `int`

`src/bhe/backend.go` and the API backend `BHEAPIBackend` (the Go half of
`src/Makefile`) handle few kinds of value of their own. This file fixes their shapes
once for the whole development:

- `Address` and `Hash` are the fixed-width byte strings `common.Address` (20 bytes) and
  `common.Hash` (32 bytes) as bit vectors. `Address.zero` is the Go zero value
  `common.Address{}`, which `New`, `BHEerbase` and `SetBHEerbase` use to mean "no
  mining address".
- `Header` keeps the two fields the backend reads, `Number.Uint64()` and `Root`, and a
  `Block` is read only through its header.
- Go's `int` is 64 bits wide on the platforms the node targets. `goAdd`, `goSub`,
  `goMul` and `goDiv` are its `+`, `-`, `*` and `/`: the exact result wrapped into `[-2^63, 2^63)`
  (`wrap`), division truncating toward zero as Go's does. `wrap_of_inRange` says the
  wrap is invisible inside the range, which is how every theorem about the cache
  budgets discharges it.
-/

namespace BheBackend

/-- A 20-byte account address, `common.Address`. -/
structure Address where
  val : BitVec 160
  deriving DecidableEq, Repr

/-- `common.Address{}`: the zero address, the backend's "unset" mining address. -/
def Address.zero : Address := ⟨0⟩

/-- A 32-byte hash, `common.Hash`. -/
structure Hash where
  val : BitVec 256
  deriving DecidableEq, Repr

/-- The fields of `types.Header` the backend reads: `Number.Uint64()` and `Root`. -/
structure Header where
  number : Nat
  root : Hash
  deriving DecidableEq, Repr

/-- A `types.Block`, read by the backend only through `Header()`. -/
structure Block where
  header : Header
  deriving DecidableEq, Repr

/-- A `*state.StateDB` handle; only its identity matters to the backend. -/
structure StateDB where
  id : Nat
  deriving DecidableEq, Repr

/-! ## Go `int` -/

/-- Go's 64-bit two's-complement wrap of an exact integer result. -/
def wrap (x : Int) : Int := x.bmod (2 ^ 64)

/-- The values of a 64-bit Go `int`. -/
def InRange (x : Int) : Prop := -2 ^ 63 ≤ x ∧ x < 2 ^ 63

instance (x : Int) : Decidable (InRange x) := inferInstanceAs (Decidable (_ ∧ _))

/-- `a + b` on Go `int`s. -/
def goAdd (a b : Int) : Int := wrap (a + b)

/-- `a - b` on Go `int`s. -/
def goSub (a b : Int) : Int := wrap (a - b)

/-- `a * b` on Go `int`s. -/
def goMul (a b : Int) : Int := wrap (a * b)

/-- `a / b` on Go `int`s: truncated division, wrapped (`MinInt64 / -1` overflows). -/
def goDiv (a b : Int) : Int := wrap (a.tdiv b)

theorem wrap_of_inRange {x : Int} (h : InRange x) : wrap x = x := by
  obtain ⟨h1, h2⟩ := h
  unfold wrap
  rw [Int.bmod_def]
  split <;> omega

theorem goAdd_of_inRange {a b : Int} (h : InRange (a + b)) : goAdd a b = a + b :=
  wrap_of_inRange h

theorem goMul_of_inRange {a b : Int} (h : InRange (a * b)) : goMul a b = a * b :=
  wrap_of_inRange h

/-- On non-negative operands Go's division is the floor division `/` of `Int`. -/
theorem goDiv_of_nonneg {a b : Int} (ha : 0 ≤ a) (hb : 0 ≤ b) (h : a < 2 ^ 63) :
    goDiv a b = a / b := by
  unfold goDiv
  rw [Int.tdiv_eq_ediv ha hb]
  apply wrap_of_inRange
  constructor
  · have := Int.ediv_nonneg ha hb
    omega
  · have := Int.ediv_le_self b ha
    omega

end BheBackend
