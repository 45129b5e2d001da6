import Mathlib.Order.MinMax
import Gowaves.Util.Common
import Gowaves.GoLib.GoMap
import Gowaves.Proto.Messages

/-!
# Balance diffs (`pkg/state/transaction_differ.go`, `diff_storage.go`, `internal/int_change.go`)

What a transaction does to one balance key is a `balanceDiff`: the change of the balance, of the
leased-in and leased-out amounts, and `minBalance`, the lowest change the balance goes through
while the transaction runs.  Inside a block the diffs of one key are added up by
`balanceChanges.addDiff` with `addInsideBlock`, which shifts each transaction's `minBalance` by
the change of the transactions before it and keeps the lower of that and the previous
`minBalance`.  The block's diff is checked by `applyTo` (Waves, with leasing) or
`applyToAssetBalance` (an asset): the balance from the database plus `minBalance`, and plus
`balance`, must not be negative.  Every sum goes through `common.AddInt` at `int64`.

`DiffValue` is what a diff means: its four changes as integers, added up as integers.  Over it:

* `addInsideBlock_eq_ok`, `addInsideBlock_ok_iff` — `addInsideBlock` computes the integer sums,
  and fails exactly when one of them does not fit in an `int64`;
* `addBalanceDiff_sameBlock` — `diffStorage.addBalanceDiff` keeps, for a key within one block,
  one diff: the fold of `addInsideBlock`;
* `blockDiff_checks` — that diff has the sum of the balance changes and, as `minBalance`, the
  least of `d₁.balance + … + dᵢ₋₁.balance + dᵢ.minBalance` (`intermediates`), and
  `applyToAssetBalance` rejects it exactly when the balance plus one of these, or plus the total,
  is negative (`applyTo_eq_error_result` for `applyTo`);
* `applyToAssetBalance_missesNegativeResult` — so the check of the block's diff alone misses a
  transaction whose result is negative when the next one's `minBalance` is positive (a
  received amount with `updateMinIntermediateBalance`);
* `validatedPrefixes_nonneg` — checking the block's diff after every transaction, as the
  appender does, checks every intermediate change and every result.
-/

set_option autoImplicit false

namespace Gowaves.State

open GoLib Gowaves.Util

/-! ## Integer changes -/

/-- `common.AddInt` with its error as an `Except`, as the callers test it. -/
def addIntE (a b : Int64) : Except String Int64 :=
  match addInt a b with
  | (c, none) => .ok c
  | (_, some e) => .error e

theorem addIntE_eq (a b : Int64) :
    addIntE a b = if FitsInt64 (a.toInt + b.toInt) then .ok (a + b) else .error addOverflow := by
  unfold addIntE
  rw [addInt_int64]
  by_cases h : FitsInt64 (a.toInt + b.toInt) <;> simp [h]

theorem addIntE_eq_ok {a b c : Int64} :
    addIntE a b = .ok c ↔ FitsInt64 (a.toInt + b.toInt) ∧ c.toInt = a.toInt + b.toInt := by
  rw [addIntE_eq]
  by_cases h : FitsInt64 (a.toInt + b.toInt)
  · simp only [h, if_true, Except.ok.injEq, true_and]
    rw [← toInt_add_of_fits h]
    exact ⟨fun e => e ▸ rfl, fun e => (Int64.toInt_inj.mp e).symm⟩
  · simp [h]

theorem except_bind_eq_ok {ε α β : Type} {x : Except ε α} {g : α → Except ε β} {b : β} :
    (x >>= g) = .ok b ↔ ∃ a, x = .ok a ∧ g a = .ok b := by
  cases x <;> simp [bind, Except.bind]

theorem mapError_bind_eq_ok {ε α β : Type} {x : Except ε α} {f : ε → ε} {g : α → Except ε β}
    {b : β} : (x.mapError f >>= g) = .ok b ↔ ∃ a, x = .ok a ∧ g a = .ok b := by
  cases x <;> simp [Except.mapError, bind, Except.bind]

theorem mapError_eq_ok {ε α : Type} {x : Except ε α} {f : ε → ε} {a : α} :
    x.mapError f = .ok a ↔ x = .ok a := by
  cases x <;> simp [Except.mapError]

/-- `internal.IntChange[T]`. -/
structure IntChange (T : Type) where
  present : Bool
  /-- A change that is accounted for even when it is zero and not present. -/
  forced : Bool
  value : T
  deriving DecidableEq, Repr

namespace IntChange

variable {T : Type} [Zero T] [DecidableEq T]

/-- The zero value `IntChange[T]{}`. -/
def zero : IntChange T := ⟨false, false, 0⟩

/-- `NewIntChange`: a zero change is not present. -/
def new (v : T) : IntChange T := ⟨v != 0, false, v⟩

/-- `Add` at `int64`: the values added by `common.AddInt`; present, or forced, when either is. -/
def add (v other : IntChange Int64) : Except String (IntChange Int64) := do
  let r ← addIntE v.value other.value
  pure ⟨v.present || other.present, v.forced || other.forced, r⟩

theorem add_eq_ok {v w r : IntChange Int64} (h : v.add w = .ok r) :
    FitsInt64 (v.value.toInt + w.value.toInt) ∧ r.value.toInt = v.value.toInt + w.value.toInt := by
  unfold add at h
  cases hs : addIntE v.value w.value with
  | error e => rw [hs] at h; cases h
  | ok s =>
    rw [hs] at h
    cases h
    exact addIntE_eq_ok.mp hs

theorem add_ok_of_fits (v w : IntChange Int64) (h : FitsInt64 (v.value.toInt + w.value.toInt)) :
    ∃ r, v.add w = .ok r := by
  rw [add, addIntE_eq, if_pos h]
  exact ⟨_, rfl⟩

end IntChange

/-! ## Balance diffs -/

structure BalanceDiff where
  allowLeasedTransfer : Bool
  updateMinIntermediateBalance : Bool
  /-- The lowest change of the balance while the transactions run. -/
  minBalance : IntChange Int64
  balance : IntChange Int64
  leaseIn : IntChange Int64
  leaseOut : IntChange Int64
  blockID : Proto.BlockID
  deriving DecidableEq

/-- `newBalanceDiff`: without `updateMinIntermediateBalance` the `minBalance` stays zero. -/
def newBalanceDiff (balance leaseIn leaseOut : Int64) (updateMinIntermediateBalance : Bool) :
    BalanceDiff :=
  { allowLeasedTransfer := false
    updateMinIntermediateBalance := updateMinIntermediateBalance
    minBalance := if updateMinIntermediateBalance then .new balance else .zero
    balance := .new balance
    leaseIn := .new leaseIn
    leaseOut := .new leaseOut
    blockID := Proto.BlockID.zero }

namespace BalanceDiff

/-- `addCommon`: the balance, lease-in and lease-out changes summed. -/
def addCommon (diff prevDiff : BalanceDiff) : Except String BalanceDiff := do
  let balance ← (diff.balance.add prevDiff.balance).mapError
    fun e => "failed to add balance diffs: " ++ e ++ "\n"
  let leaseIn ← (diff.leaseIn.add prevDiff.leaseIn).mapError
    fun e => "failed to add LeaseIn diffs: " ++ e ++ "\n"
  let leaseOut ← (diff.leaseOut.add prevDiff.leaseOut).mapError
    fun e => "failed to add LeaseOut diffs: " ++ e ++ "\n"
  pure { diff with balance := balance, leaseIn := leaseIn, leaseOut := leaseOut }

/-- The `minBalance` that `addInsideTx` and `addInsideBlock` keep: the previous one, unless the
new one is below it. -/
def lowerMin (newMinBalance prevMinBalance : IntChange Int64) : IntChange Int64 :=
  if newMinBalance.value < prevMinBalance.value then newMinBalance else prevMinBalance

/-- `addInsideTx`: with `updateMinIntermediateBalance` the new `minBalance` is the lower of the
previous one and the previous one plus this change; without it, the diff's own. -/
def addInsideTx (diff prevDiff : BalanceDiff) : Except String BalanceDiff := do
  let diff ← if diff.updateMinIntermediateBalance then do
      let newMinBalance ← (diff.balance.add prevDiff.minBalance).mapError
        fun e => "failed to update min balance diff: " ++ e ++ "\n"
      pure { diff with minBalance := lowerMin newMinBalance prevDiff.minBalance }
    else pure diff
  diff.addCommon prevDiff

/-- `addInsideBlock`: the transaction's `minBalance` shifted by the block's change so far, and
the lower of that and the previous `minBalance`. -/
def addInsideBlock (diff prevDiff : BalanceDiff) : Except String BalanceDiff := do
  let newMinBalance ← (diff.minBalance.add prevDiff.balance).mapError
    fun e => "failed to update min balance diff: " ++ e ++ "\n"
  addCommon { diff with minBalance := lowerMin newMinBalance prevDiff.minBalance } prevDiff

end BalanceDiff

/-! ## Applying a diff -/

structure BalanceProfile where
  balance : UInt64
  leaseIn : Int64
  leaseOut : Int64
  deriving DecidableEq, Repr

/-- The text of the second check of `applyTo` and `applyToAssetBalance`. -/
def negativeResultBalance : String :=
  "negative result balance (Attempt to transfer unavailable funds)"

/-- The text of the first check of `applyToAssetBalance`. -/
def negativeIntermediateAssetBalance : String :=
  "negative intermediate asset balance (Attempt to transfer unavailable funds)"

namespace BalanceDiff

/-- The two checks that `applyTo` and `applyToAssetBalance` share: the balance plus
`minBalance`, then the balance plus `balance`, must not be negative; `wrap` is how each
formats an overflow and `negativeIntermediate` its first error.  It returns the new balance. -/
def checkBalance (wrap : String → String) (negativeIntermediate : String) (diff : BalanceDiff)
    (balance : UInt64) : Except String Int64 := do
  let minBalance ← (addIntE diff.minBalance.value balance.toInt64).mapError
    fun e => wrap ("failed to add balance and min balance diff: " ++ e)
  if minBalance < 0 then throw negativeIntermediate
  let newBalance ← (addIntE diff.balance.value balance.toInt64).mapError
    fun e => wrap ("failed to add balance and balance diff: " ++ e)
  if newBalance < 0 then throw negativeResultBalance
  pure newBalance

/-- `applyTo`: the balance checks, then the lease sums, and a lease of more than the balance
unless `allowLeasedTransfer`. -/
def applyTo (diff : BalanceDiff) (profile : BalanceProfile) : Except String BalanceProfile := do
  let newBalance ← diff.checkBalance id
    ("negative intermediate balance (Attempt to transfer unavailable funds): balance is " ++
      toString profile.balance.toNat ++ "; diff is: " ++ toString diff.minBalance.value.toInt ++
      "\n") profile.balance
  let newLeaseIn ← (addIntE diff.leaseIn.value profile.leaseIn).mapError
    fun e => "failed to add leaseIn and leaseIn diff: " ++ e
  let newLeaseOut ← (addIntE diff.leaseOut.value profile.leaseOut).mapError
    fun e => "failed to add leaseOut and leaseOut diff: " ++ e
  if newBalance < newLeaseOut ∧ !diff.allowLeasedTransfer then
    throw "Reason: Cannot lease more than own"
  pure ⟨newBalance.toUInt64, newLeaseIn, newLeaseOut⟩

/-- `applyToAssetBalance`: the balance checks alone. -/
def applyToAssetBalance (diff : BalanceDiff) (balance : UInt64) : Except String UInt64 := do
  let newBalance ← diff.checkBalance (· ++ "\n") negativeIntermediateAssetBalance balance
  pure newBalance.toUInt64

end BalanceDiff

/-! ## The diff storage -/

/-- `balanceChanges`: the diffs of one key, one per block, each the sum of everything before. -/
structure BalanceChanges where
  key : List UInt8
  balanceDiffs : List BalanceDiff

/-- `balanceChanges.addDiff`: the new diff added onto the last one, and stored in its place if it
is of the same block. -/
def BalanceChanges.addDiff (ch : BalanceChanges) (newDiff : BalanceDiff) :
    Except String BalanceChanges :=
  match ch.balanceDiffs.getLast? with
  | none => .error "trying to addDiff() to empty balanceChanges"
  | some lastDiff => do
    let newDiff ← (newDiff.addInsideBlock lastDiff).mapError
      fun e => "failed to add diffs: " ++ e ++ "\n"
    if newDiff.blockID ≠ lastDiff.blockID then
      pure { ch with balanceDiffs := ch.balanceDiffs ++ [newDiff] }
    else pure { ch with balanceDiffs := ch.balanceDiffs.dropLast ++ [newDiff] }

/-- `diffStorage`: the changes of every key.  The source keeps them in a slice with an index map
from the key; that is one map here. -/
structure DiffStorage where
  changes : GoMap (List UInt8) BalanceChanges

/-- `diffStorage.addBalanceDiff`. -/
def DiffStorage.addBalanceDiff (s : DiffStorage) (key : List UInt8) (diff : BalanceDiff) :
    Except String DiffStorage :=
  match s.changes.get key with
  | none => .ok ⟨s.changes.insert key ⟨key, [diff]⟩⟩
  | some changes => do
    let changes ← (changes.addDiff diff).mapError fun e => "can not update balance changes: " ++ e
    pure ⟨s.changes.insert key changes⟩

/-! ## What a diff means -/

/-- The changes of a diff, as integers. -/
structure DiffValue where
  balance : Int
  minBalance : Int
  leaseIn : Int
  leaseOut : Int

namespace DiffValue

/-- A transaction's change `d` added onto the block's change `prev`: the changes summed, and the
lower of the previous lowest change and `d`'s lowest change after `prev`. -/
def addInsideBlock (d prev : DiffValue) : DiffValue :=
  ⟨d.balance + prev.balance, min prev.minBalance (d.minBalance + prev.balance),
    d.leaseIn + prev.leaseIn, d.leaseOut + prev.leaseOut⟩

/-- Every sum that `addInsideBlock` makes fits in an `int64`. -/
def SumsFit (d prev : DiffValue) : Prop :=
  FitsInt64 (d.minBalance + prev.balance) ∧ FitsInt64 (d.balance + prev.balance) ∧
    FitsInt64 (d.leaseIn + prev.leaseIn) ∧ FitsInt64 (d.leaseOut + prev.leaseOut)

/-- Every sum of the block's fold from `acc` on fits in an `int64`. -/
def FoldFits : DiffValue → List DiffValue → Prop
  | _, [] => True
  | acc, d :: ds => SumsFit d acc ∧ FoldFits (d.addInsideBlock acc) ds

/-- The sum of the balance changes. -/
def totalBalance (ds : List DiffValue) : Int := (ds.map (·.balance)).sum

/-- The lowest change of each transaction, shifted by the change of the transactions before it
and by `s`: `s + d₁.minBalance, s + d₁.balance + d₂.minBalance, …`. -/
def intermediates (s : Int) : List DiffValue → List Int
  | [] => []
  | d :: ds => (s + d.minBalance) :: intermediates (s + d.balance) ds

@[simp] theorem totalBalance_nil : totalBalance [] = 0 := rfl

@[simp] theorem totalBalance_cons (d : DiffValue) (ds : List DiffValue) :
    totalBalance (d :: ds) = d.balance + totalBalance ds := by
  simp [totalBalance]

@[simp] theorem totalBalance_append (l r : List DiffValue) :
    totalBalance (l ++ r) = totalBalance l + totalBalance r := by
  simp [totalBalance]

theorem intermediates_append (s : Int) (l r : List DiffValue) :
    intermediates s (l ++ r) = intermediates s l ++ intermediates (s + totalBalance l) r := by
  induction l generalizing s with
  | nil => simp [intermediates]
  | cons d l ih =>
    simp only [List.cons_append, intermediates, ih, totalBalance_cons, Int.add_assoc]

theorem min?_concat {l : List Int} {a : Int} (h : l.min? = some a) (x : Int) :
    (l ++ [x]).min? = some (min a x) := by
  rw [List.min?_eq_some_iff] at h ⊢
  obtain ⟨ha, hle⟩ := h
  refine ⟨?_, fun b hb => ?_⟩
  · rcases min_choice a x with h | h <;> rw [h] <;> simp [ha]
  · rcases List.mem_append.mp hb with hb | hb
    · exact min_le_of_left_le (hle b hb)
    · rw [List.mem_singleton.mp hb]
      exact min_le_right a x

theorem foldl_addInsideBlock_balance (acc : DiffValue) (ds : List DiffValue) :
    (ds.foldl (fun acc e => e.addInsideBlock acc) acc).balance = acc.balance + totalBalance ds := by
  induction ds generalizing acc with
  | nil => simp
  | cons d ds ih =>
    rw [List.foldl_cons, ih]
    simp only [addInsideBlock, totalBalance_cons]
    omega

theorem foldl_addInsideBlock_minBalance {pre : List DiffValue} {acc : DiffValue}
    (hb : acc.balance = totalBalance pre) (hm : (intermediates 0 pre).min? = some acc.minBalance)
    (ds : List DiffValue) :
    (intermediates 0 (pre ++ ds)).min? =
      some (ds.foldl (fun acc e => e.addInsideBlock acc) acc).minBalance := by
  induction ds generalizing pre acc with
  | nil => simpa using hm
  | cons d ds ih =>
    rw [List.foldl_cons, ← List.singleton_append, ← List.append_assoc]
    apply ih
    · simp [addInsideBlock, hb]
      omega
    · have hx : 0 + totalBalance pre + d.minBalance = d.minBalance + acc.balance := by
        rw [hb]
        omega
      simp only [intermediates_append, intermediates, hx]
      exact min?_concat hm _

theorem exists_add_lt_zero_iff {l : List Int} {a : Int} (h : l.min? = some a) (c : Int) :
    (∃ x ∈ l, c + x < 0) ↔ c + a < 0 := by
  rw [List.min?_eq_some_iff] at h
  obtain ⟨ha, hle⟩ := h
  constructor
  · rintro ⟨x, hx, hneg⟩
    have := hle x hx
    omega
  · intro hneg
    exact ⟨a, ha, hneg⟩

theorem forall_add_nonneg_iff {l : List Int} {a : Int} (h : l.min? = some a) (c : Int) :
    (∀ x ∈ l, 0 ≤ c + x) ↔ 0 ≤ c + a := by
  have := exists_add_lt_zero_iff h c
  constructor
  · intro hall
    by_contra hneg
    obtain ⟨x, hx, hx'⟩ := this.mpr (by omega)
    have := hall x hx
    omega
  · intro ha x hx
    by_contra hneg
    have := this.mp ⟨x, hx, by omega⟩
    omega

end DiffValue

namespace BalanceDiff

/-- The changes of a diff, as integers. -/
def value (d : BalanceDiff) : DiffValue :=
  ⟨d.balance.value.toInt, d.minBalance.value.toInt, d.leaseIn.value.toInt, d.leaseOut.value.toInt⟩

theorem lowerMin_value (n p : IntChange Int64) :
    (lowerMin n p).value.toInt = min p.value.toInt n.value.toInt := by
  unfold lowerMin
  split
  · next h =>
    rw [Int64.lt_iff_toInt_lt] at h
    omega
  · next h =>
    rw [Int64.lt_iff_toInt_lt] at h
    omega

theorem addCommon_eq_ok {diff prev D : BalanceDiff} (h : diff.addCommon prev = .ok D) :
    FitsInt64 (diff.value.balance + prev.value.balance) ∧
      FitsInt64 (diff.value.leaseIn + prev.value.leaseIn) ∧
      FitsInt64 (diff.value.leaseOut + prev.value.leaseOut) ∧
      D.value = ⟨diff.value.balance + prev.value.balance, diff.value.minBalance,
        diff.value.leaseIn + prev.value.leaseIn, diff.value.leaseOut + prev.value.leaseOut⟩ := by
  unfold addCommon at h
  obtain ⟨b, hb, h⟩ := mapError_bind_eq_ok.mp h
  obtain ⟨li, hli, h⟩ := mapError_bind_eq_ok.mp h
  obtain ⟨lo, hlo, h⟩ := mapError_bind_eq_ok.mp h
  cases h
  obtain ⟨fb, eb⟩ := IntChange.add_eq_ok hb
  obtain ⟨fli, eli⟩ := IntChange.add_eq_ok hli
  obtain ⟨flo, elo⟩ := IntChange.add_eq_ok hlo
  exact ⟨fb, fli, flo, by simp [value, eb, eli, elo]⟩

theorem addCommon_ok_of_fits (diff prev : BalanceDiff)
    (hb : FitsInt64 (diff.value.balance + prev.value.balance))
    (hli : FitsInt64 (diff.value.leaseIn + prev.value.leaseIn))
    (hlo : FitsInt64 (diff.value.leaseOut + prev.value.leaseOut)) :
    ∃ D, diff.addCommon prev = .ok D := by
  obtain ⟨b, eb⟩ := IntChange.add_ok_of_fits diff.balance prev.balance hb
  obtain ⟨li, eli⟩ := IntChange.add_ok_of_fits diff.leaseIn prev.leaseIn hli
  obtain ⟨lo, elo⟩ := IntChange.add_ok_of_fits diff.leaseOut prev.leaseOut hlo
  exact ⟨_, by rw [addCommon, eb, eli, elo]; rfl⟩

/-- **`addInsideBlock` computes the integer sums**, when it succeeds, and all of them fit. -/
theorem addInsideBlock_eq_ok {diff prev D : BalanceDiff} (h : diff.addInsideBlock prev = .ok D) :
    DiffValue.SumsFit diff.value prev.value ∧ D.value = diff.value.addInsideBlock prev.value := by
  unfold addInsideBlock at h
  obtain ⟨n, hn, h⟩ := mapError_bind_eq_ok.mp h
  obtain ⟨fm, em⟩ := IntChange.add_eq_ok hn
  obtain ⟨fb, fli, flo, hD⟩ := addCommon_eq_ok h
  refine ⟨⟨fm, fb, fli, flo⟩, ?_⟩
  rw [hD]
  simp [value, DiffValue.addInsideBlock, lowerMin_value, em]

/-- `addInsideBlock` fails exactly when one of its sums does not fit in an `int64`. -/
theorem addInsideBlock_ok_iff (diff prev : BalanceDiff) :
    (∃ D, diff.addInsideBlock prev = .ok D) ↔ DiffValue.SumsFit diff.value prev.value := by
  constructor
  · rintro ⟨D, h⟩
    exact (addInsideBlock_eq_ok h).1
  · rintro ⟨fm, fb, fli, flo⟩
    obtain ⟨n, hn⟩ := IntChange.add_ok_of_fits diff.minBalance prev.balance fm
    obtain ⟨D, hD⟩ :=
      addCommon_ok_of_fits { diff with minBalance := lowerMin n prev.minBalance } prev fb fli flo
    exact ⟨D, by rw [addInsideBlock, hn]; exact hD⟩

theorem foldlM_addInsideBlock_eq_ok {d D : BalanceDiff} {ds : List BalanceDiff}
    (h : ds.foldlM (fun acc e => e.addInsideBlock acc) d = .ok D) :
    D.value = (ds.map value).foldl (fun acc e => e.addInsideBlock acc) d.value := by
  induction ds generalizing d with
  | nil =>
    cases h
    rfl
  | cons e ds ih =>
    rw [List.foldlM_cons] at h
    obtain ⟨d', hd', h⟩ := except_bind_eq_ok.mp h
    rw [List.map_cons, List.foldl_cons, ← (addInsideBlock_eq_ok hd').2]
    exact ih h

theorem foldlM_addInsideBlock_ok_iff (d : BalanceDiff) (ds : List BalanceDiff) :
    (∃ D, ds.foldlM (fun acc e => e.addInsideBlock acc) d = .ok D) ↔
      DiffValue.FoldFits d.value (ds.map value) := by
  induction ds generalizing d with
  | nil => exact ⟨fun _ => trivial, fun _ => ⟨d, rfl⟩⟩
  | cons e ds ih =>
    simp only [List.foldlM_cons, List.map_cons, DiffValue.FoldFits]
    constructor
    · rintro ⟨D, h⟩
      obtain ⟨d', hd', h⟩ := except_bind_eq_ok.mp h
      obtain ⟨hfit, hv⟩ := addInsideBlock_eq_ok hd'
      exact ⟨hfit, hv ▸ (ih d').mp ⟨D, h⟩⟩
    · rintro ⟨hfit, hrest⟩
      obtain ⟨d', hd'⟩ := (addInsideBlock_ok_iff e d).mpr hfit
      obtain ⟨D, h⟩ := (ih d').mpr ((addInsideBlock_eq_ok hd').2 ▸ hrest)
      exact ⟨D, by rw [hd']; exact h⟩

/-! ## The checks -/

theorem toInt_toInt64_of_lt {P : UInt64} (h : P.toNat < 2 ^ 63) : P.toInt64.toInt = P.toNat := by
  have hP : P.toInt64 = Int64.ofNat P.toNat := by
    rw [← UInt64.toInt64_ofNat', UInt64.ofNat_toNat]
  rw [hP, Int64.toInt_ofNat_of_lt h]

theorem add_lt_zero_iff {a b : Int64} (h : FitsInt64 (a.toInt + b.toInt)) :
    a + b < 0 ↔ a.toInt + b.toInt < 0 := by
  rw [Int64.lt_iff_toInt_lt, toInt_add_of_fits h, Int64.toInt_zero]

theorem checkBalance_eq (wrap : String → String) (neg : String) (diff : BalanceDiff) {P : UInt64}
    (hP : P.toNat < 2 ^ 63) :
    diff.checkBalance wrap neg P =
      if FitsInt64 (diff.value.minBalance + P.toNat) then
        if diff.value.minBalance + P.toNat < 0 then .error neg
        else if FitsInt64 (diff.value.balance + P.toNat) then
          if diff.value.balance + P.toNat < 0 then .error negativeResultBalance
          else .ok (diff.balance.value + P.toInt64)
        else .error (wrap ("failed to add balance and balance diff: " ++ addOverflow))
      else .error (wrap ("failed to add balance and min balance diff: " ++ addOverflow)) := by
  have hp := toInt_toInt64_of_lt hP
  simp only [value]
  unfold checkBalance
  rw [addIntE_eq, addIntE_eq, hp]
  by_cases h1 : FitsInt64 (diff.minBalance.value.toInt + P.toNat)
  · have hlt1 := add_lt_zero_iff (hp ▸ h1 : FitsInt64 (diff.minBalance.value.toInt + P.toInt64.toInt))
    rw [hp] at hlt1
    by_cases h2 : FitsInt64 (diff.balance.value.toInt + P.toNat)
    · have hlt2 := add_lt_zero_iff
        (hp ▸ h2 : FitsInt64 (diff.balance.value.toInt + P.toInt64.toInt))
      rw [hp] at hlt2
      simp only [h1, h2, hlt1, hlt2, if_true, Except.mapError, bind, Except.bind, throw, throwThe]
      by_cases hm : diff.minBalance.value.toInt + P.toNat < 0
      · simp only [hm, if_true]
        rfl
      · by_cases hb : diff.balance.value.toInt + P.toNat < 0
        · simp only [hm, hb, if_true, if_false]
          rfl
        · simp only [hm, hb, if_false]
          rfl
    · simp only [h1, h2, hlt1, if_true, if_false, Except.mapError, bind, Except.bind, throw,
        throwThe]
      by_cases hm : diff.minBalance.value.toInt + P.toNat < 0
      · simp only [hm, if_true]
        rfl
      · simp only [hm, if_false]
  · simp [h1, Except.mapError, bind, Except.bind]


theorem checkBalance_eq_error_intermediate {wrap : String → String} {neg : String}
    (hne : negativeResultBalance ≠ neg)
    (hw₁ : wrap ("failed to add balance and min balance diff: " ++ addOverflow) ≠ neg)
    (hw₂ : wrap ("failed to add balance and balance diff: " ++ addOverflow) ≠ neg)
    (diff : BalanceDiff) {P : UInt64} (hP : P.toNat < 2 ^ 63) :
    diff.checkBalance wrap neg P = .error neg ↔ (P.toNat : Int) + diff.value.minBalance < 0 := by
  have hm : -2 ^ 63 ≤ diff.value.minBalance := Int64.le_toInt _
  rw [checkBalance_eq wrap neg diff hP]
  by_cases h1 : FitsInt64 (diff.value.minBalance + P.toNat)
  · rw [if_pos h1]
    by_cases hneg : diff.value.minBalance + P.toNat < 0
    · rw [if_pos hneg]
      exact ⟨fun _ => by omega, fun _ => rfl⟩
    · rw [if_neg hneg]
      refine ⟨fun h => ?_, fun h => absurd (by omega) hneg⟩
      split at h
      · split at h
        · exact absurd (Except.error.inj h) hne
        · cases h
      · exact absurd (Except.error.inj h) hw₂
  · rw [if_neg h1]
    unfold FitsInt64 at h1
    exact ⟨fun h => absurd (Except.error.inj h) hw₁, fun h => absurd (by omega) h1⟩

theorem checkBalance_eq_error_result {wrap : String → String} {neg : String}
    (hne : neg ≠ negativeResultBalance)
    (hw₁ : wrap ("failed to add balance and min balance diff: " ++ addOverflow) ≠
      negativeResultBalance)
    (hw₂ : wrap ("failed to add balance and balance diff: " ++ addOverflow) ≠
      negativeResultBalance)
    (diff : BalanceDiff) {P : UInt64} (hP : P.toNat < 2 ^ 63) :
    diff.checkBalance wrap neg P = .error negativeResultBalance ↔
      0 ≤ (P.toNat : Int) + diff.value.minBalance ∧
        (P.toNat : Int) + diff.value.minBalance < 2 ^ 63 ∧
        (P.toNat : Int) + diff.value.balance < 0 := by
  have hb : -2 ^ 63 ≤ diff.value.balance := Int64.le_toInt _
  rw [checkBalance_eq wrap neg diff hP]
  by_cases h1 : FitsInt64 (diff.value.minBalance + P.toNat)
  · rw [if_pos h1]
    unfold FitsInt64 at h1
    by_cases hneg : diff.value.minBalance + P.toNat < 0
    · rw [if_pos hneg]
      exact ⟨fun h => absurd (Except.error.inj h) hne, fun h => by omega⟩
    · rw [if_neg hneg]
      by_cases h2 : FitsInt64 (diff.value.balance + P.toNat)
      · rw [if_pos h2]
        by_cases hres : diff.value.balance + P.toNat < 0
        · rw [if_pos hres]
          exact ⟨fun _ => by omega, fun _ => rfl⟩
        · rw [if_neg hres]
          exact ⟨fun h => (by cases h), fun h => (by omega)⟩
      · rw [if_neg h2]
        unfold FitsInt64 at h2
        exact ⟨fun h => absurd (Except.error.inj h) hw₂, fun h => by omega⟩
  · rw [if_neg h1]
    unfold FitsInt64 at h1
    exact ⟨fun h => absurd (Except.error.inj h) hw₁, fun h => by omega⟩

theorem checkBalance_eq_ok {wrap : String → String} {neg : String} {diff : BalanceDiff}
    {P : UInt64} (hP : P.toNat < 2 ^ 63) {v : Int64} (h : diff.checkBalance wrap neg P = .ok v) :
    0 ≤ (P.toNat : Int) + diff.value.minBalance ∧ 0 ≤ (P.toNat : Int) + diff.value.balance := by
  rw [checkBalance_eq wrap neg diff hP] at h
  split at h
  · split at h
    · cases h
    · split at h
      · split at h
        · cases h
        · constructor <;> omega
      · cases h
  · cases h

theorem applyToAssetBalance_eq_error (diff : BalanceDiff) (P : UInt64) (e : String) :
    diff.applyToAssetBalance P = .error e ↔
      diff.checkBalance (· ++ "\n") negativeIntermediateAssetBalance P = .error e := by
  unfold applyToAssetBalance
  cases diff.checkBalance (· ++ "\n") negativeIntermediateAssetBalance P <;>
    simp [bind, Except.bind, pure, Except.pure]

theorem applyToAssetBalance_eq_ok {diff : BalanceDiff} {P : UInt64} {b : UInt64}
    (h : diff.applyToAssetBalance P = .ok b) :
    ∃ v, diff.checkBalance (· ++ "\n") negativeIntermediateAssetBalance P = .ok v := by
  unfold applyToAssetBalance at h
  obtain ⟨v, hv, -⟩ := except_bind_eq_ok.mp h
  exact ⟨v, hv⟩

/-- `applyTo` fails with the result error exactly as `applyToAssetBalance` does: its balance
checks come first, and its lease checks fail with other texts. -/
theorem applyTo_eq_error_result (diff : BalanceDiff) (profile : BalanceProfile)
    (hP : profile.balance.toNat < 2 ^ 63) :
    diff.applyTo profile = .error negativeResultBalance ↔
      0 ≤ (profile.balance.toNat : Int) + diff.value.minBalance ∧
        (profile.balance.toNat : Int) + diff.value.minBalance < 2 ^ 63 ∧
        (profile.balance.toNat : Int) + diff.value.balance < 0 := by
  have hne : "negative intermediate balance (Attempt to transfer unavailable funds): balance is " ++
      toString profile.balance.toNat ++ "; diff is: " ++ toString diff.minBalance.value.toInt ++
      "\n" ≠ negativeResultBalance := by
    intro h
    have := congrArg (fun s => s.toList.take 10) h
    simp [negativeResultBalance] at this
  rw [← @checkBalance_eq_error_result id _ hne (by decide) (by decide) diff _ hP]
  unfold applyTo
  cases diff.checkBalance id _ profile.balance with
  | error e => simp [bind, Except.bind]
  | ok v =>
    simp only [bind, Except.bind, addIntE_eq, Except.mapError]
    by_cases hi : FitsInt64 (diff.leaseIn.value.toInt + profile.leaseIn.toInt)
    · by_cases ho : FitsInt64 (diff.leaseOut.value.toInt + profile.leaseOut.toInt)
      · simp only [hi, ho, if_true, reduceCtorEq, iff_false]
        split
        · exact fun h => absurd (Except.error.inj h) (by decide)
        · exact fun h => by cases h
      · simp [hi, ho, negativeResultBalance, addOverflow]
    · simp [hi, negativeResultBalance, addOverflow]

theorem addInsideBlock_blockID {diff prev D : BalanceDiff} (h : diff.addInsideBlock prev = .ok D) :
    D.blockID = diff.blockID := by
  unfold addInsideBlock addCommon at h
  obtain ⟨_, -, h⟩ := mapError_bind_eq_ok.mp h
  obtain ⟨_, -, h⟩ := mapError_bind_eq_ok.mp h
  obtain ⟨_, -, h⟩ := mapError_bind_eq_ok.mp h
  obtain ⟨_, -, h⟩ := mapError_bind_eq_ok.mp h
  cases h
  rfl

end BalanceDiff

/-! ## One key within one block -/

open BalanceDiff

theorem foldlM_addDiff_sameBlock (key : List UInt8) (d : BalanceDiff) (ds : List BalanceDiff)
    (hb : ∀ e ∈ ds, e.blockID = d.blockID) {D : BalanceDiff}
    (h : ds.foldlM (fun acc e => e.addInsideBlock acc) d = .ok D) :
    ds.foldlM (fun (ch : BalanceChanges) e => ch.addDiff e) ⟨key, [d]⟩ = .ok ⟨key, [D]⟩ := by
  induction ds generalizing d with
  | nil =>
    cases h
    rfl
  | cons e ds ih =>
    rw [List.foldlM_cons] at h ⊢
    obtain ⟨d', hd', h⟩ := except_bind_eq_ok.mp h
    have hid : d'.blockID = d.blockID := by
      rw [addInsideBlock_blockID hd']
      exact hb e List.mem_cons_self
    have hstep : BalanceChanges.addDiff ⟨key, [d]⟩ e = .ok ⟨key, [d']⟩ := by
      simp [BalanceChanges.addDiff, hd', Except.mapError, bind, Except.bind, hid, pure,
        Except.pure]
    rw [hstep]
    exact ih d' (fun e' he' => (hb e' (List.mem_cons_of_mem e he')).trans hid.symm) h

/-- **`diffStorage.addBalanceDiff` keeps the block's sum**: adding the diffs `d :: ds` of one
block for a key the storage does not have leaves one diff for the key, the fold of
`addInsideBlock`. -/
theorem addBalanceDiff_sameBlock (s : DiffStorage) (key : List UInt8)
    (hs : s.changes.get key = none) (d : BalanceDiff) (ds : List BalanceDiff)
    (hb : ∀ e ∈ ds, e.blockID = d.blockID) {D : BalanceDiff}
    (h : ds.foldlM (fun acc e => e.addInsideBlock acc) d = .ok D) :
    ∃ s', (d :: ds).foldlM (fun s e => s.addBalanceDiff key e) s = .ok s' ∧
      s'.changes.get key = some ⟨key, [D]⟩ := by
  have run : ∀ (ds : List BalanceDiff) (s : DiffStorage) (ch ch' : BalanceChanges),
      s.changes.get key = some ch →
        ds.foldlM (fun (ch : BalanceChanges) e => ch.addDiff e) ch = .ok ch' →
      ∃ s', ds.foldlM (fun s e => s.addBalanceDiff key e) s = .ok s' ∧
        s'.changes.get key = some ch' := by
    intro ds
    induction ds with
    | nil =>
      intro s ch ch' hs h
      cases h
      exact ⟨s, rfl, hs⟩
    | cons e ds ih =>
      intro s ch ch' hs h
      rw [List.foldlM_cons] at h ⊢
      obtain ⟨ch₁, h₁, h⟩ := except_bind_eq_ok.mp h
      have hstep : s.addBalanceDiff key e = .ok ⟨s.changes.insert key ch₁⟩ := by
        simp [DiffStorage.addBalanceDiff, hs, h₁, Except.mapError, bind, Except.bind, pure,
          Except.pure]
      rw [hstep]
      exact ih _ ch₁ ch' (GoMap.get_insert_self _ _ _) h
  have hfirst : s.addBalanceDiff key d = .ok ⟨s.changes.insert key ⟨key, [d]⟩⟩ := by
    simp [DiffStorage.addBalanceDiff, hs]
  rw [List.foldlM_cons, hfirst]
  exact run ds _ ⟨key, [d]⟩ _ (GoMap.get_insert_self _ _ _)
    (foldlM_addDiff_sameBlock key d ds hb h)


/-! ## The block's check -/

theorem foldlM_addInsideBlock_balance {d D : BalanceDiff} {ds : List BalanceDiff}
    (h : ds.foldlM (fun acc e => e.addInsideBlock acc) d = .ok D) :
    D.value.balance = DiffValue.totalBalance ((d :: ds).map value) := by
  rw [foldlM_addInsideBlock_eq_ok h, DiffValue.foldl_addInsideBlock_balance, List.map_cons,
    DiffValue.totalBalance_cons]

theorem foldlM_addInsideBlock_minBalance {d D : BalanceDiff} {ds : List BalanceDiff}
    (h : ds.foldlM (fun acc e => e.addInsideBlock acc) d = .ok D) :
    (DiffValue.intermediates 0 ((d :: ds).map value)).min? = some D.value.minBalance := by
  rw [foldlM_addInsideBlock_eq_ok h, List.map_cons]
  exact @DiffValue.foldl_addInsideBlock_minBalance [d.value] d.value (by simp)
    (by simp [DiffValue.intermediates]) (ds.map value)

theorem applyToAssetBalance_nonneg {D : BalanceDiff} {P b : UInt64} (hP : P.toNat < 2 ^ 63)
    (h : D.applyToAssetBalance P = .ok b) :
    0 ≤ (P.toNat : Int) + D.value.minBalance ∧ 0 ≤ (P.toNat : Int) + D.value.balance := by
  obtain ⟨v, hv⟩ := applyToAssetBalance_eq_ok h
  exact checkBalance_eq_ok hP hv

/-- **The block's diff and its check**: for every balance below `2^63` and all diffs
`d₁ … dₖ` of one key, the fold of `addInsideBlock` fails exactly when one of its `int64` sums
does not fit; otherwise its diff has the sum of the balance changes and, as `minBalance`, the
least intermediate change `d₁.balance + … + dᵢ₋₁.balance + dᵢ.minBalance`.
`applyToAssetBalance` rejects it with the intermediate error exactly when the balance plus one
intermediate change is negative, and with the result error exactly when none is, the first sum
fits, and the balance plus the total change is negative. -/
theorem blockDiff_checks (d : BalanceDiff) (ds : List BalanceDiff) {P : UInt64}
    (hP : P.toNat < 2 ^ 63) :
    ((∃ D, ds.foldlM (fun acc e => e.addInsideBlock acc) d = .ok D) ↔
      DiffValue.FoldFits d.value (ds.map value)) ∧
    ∀ D, ds.foldlM (fun acc e => e.addInsideBlock acc) d = .ok D →
      D.value.balance = DiffValue.totalBalance ((d :: ds).map value) ∧
      (DiffValue.intermediates 0 ((d :: ds).map value)).min? = some D.value.minBalance ∧
      (D.applyToAssetBalance P = .error negativeIntermediateAssetBalance ↔
        ∃ x ∈ DiffValue.intermediates 0 ((d :: ds).map value), (P.toNat : Int) + x < 0) ∧
      (D.applyToAssetBalance P = .error negativeResultBalance ↔
        (∀ x ∈ DiffValue.intermediates 0 ((d :: ds).map value), 0 ≤ (P.toNat : Int) + x) ∧
          (P.toNat : Int) + D.value.minBalance < 2 ^ 63 ∧
          (P.toNat : Int) + DiffValue.totalBalance ((d :: ds).map value) < 0) := by
  refine ⟨foldlM_addInsideBlock_ok_iff d ds, fun D h => ?_⟩
  have hbal := foldlM_addInsideBlock_balance h
  have hmin := foldlM_addInsideBlock_minBalance h
  refine ⟨hbal, hmin, ?_, ?_⟩
  · rw [applyToAssetBalance_eq_error, DiffValue.exists_add_lt_zero_iff hmin]
    exact checkBalance_eq_error_intermediate (by decide) (by decide) (by decide) D hP
  · rw [applyToAssetBalance_eq_error, DiffValue.forall_add_nonneg_iff hmin, ← hbal]
    exact checkBalance_eq_error_result (by decide) (by decide) (by decide) D hP

/-- A fee of 10, paid by a transaction without `updateMinIntermediateBalance`. -/
def feeDiff : BalanceDiff := newBalanceDiff (-10) 0 0 false

/-- 10 received by a transaction with `updateMinIntermediateBalance`. -/
def receiptDiff : BalanceDiff := newBalanceDiff 10 0 0 true

theorem blockDiff_checks_feeReceipt :
    (5 : UInt64).toNat < 2 ^ 63 ∧
    ((∃ D, [receiptDiff].foldlM (fun acc e => e.addInsideBlock acc) feeDiff = .ok D) ↔
      DiffValue.FoldFits feeDiff.value ([receiptDiff].map value)) ∧
    ∀ D, [receiptDiff].foldlM (fun acc e => e.addInsideBlock acc) feeDiff = .ok D →
      D.value.balance = DiffValue.totalBalance ([feeDiff, receiptDiff].map value) ∧
      (DiffValue.intermediates 0 ([feeDiff, receiptDiff].map value)).min? =
        some D.value.minBalance ∧
      (D.applyToAssetBalance 5 = .error negativeIntermediateAssetBalance ↔
        ∃ x ∈ DiffValue.intermediates 0 ([feeDiff, receiptDiff].map value),
          ((5 : UInt64).toNat : Int) + x < 0) ∧
      (D.applyToAssetBalance 5 = .error negativeResultBalance ↔
        (∀ x ∈ DiffValue.intermediates 0 ([feeDiff, receiptDiff].map value),
          0 ≤ ((5 : UInt64).toNat : Int) + x) ∧
          ((5 : UInt64).toNat : Int) + D.value.minBalance < 2 ^ 63 ∧
          ((5 : UInt64).toNat : Int) + DiffValue.totalBalance ([feeDiff, receiptDiff].map value) <
            0) :=
  ⟨by decide, blockDiff_checks feeDiff [receiptDiff] (by decide)⟩

/-- **The block's check misses a negative result**: from a balance of 5 the fee leaves -5, yet
the block's diff of the fee and the receipt passes `applyToAssetBalance`.  The receipt's
`minBalance` is the amount it receives, so its intermediate change after the fee is 0, and the
fee's result is no intermediate change of any transaction. -/
theorem applyToAssetBalance_missesNegativeResult :
    ∃ D, [receiptDiff].foldlM (fun acc e => e.addInsideBlock acc) feeDiff = .ok D ∧
      D.applyToAssetBalance 5 = .ok 5 ∧ (5 : Int) + feeDiff.value.balance < 0 :=
  ⟨_, rfl, rfl, by decide⟩

/-- **Checking after every transaction checks every result**: the appender checks the block's
diff of a key after each transaction (`changesByTxDiff`, then `validateBalancesChanges`).  When
the diff of every prefix `d₁ … dₙ` passes `applyToAssetBalance` for the balance `P`, the balance
plus every intermediate change, and plus the change up to and including every transaction, is
not negative. -/
theorem validatedPrefixes_nonneg (d : BalanceDiff) (ds : List BalanceDiff) {P : UInt64}
    (hP : P.toNat < 2 ^ 63)
    (hok : ∀ n ≤ ds.length, ∃ D b,
      (ds.take n).foldlM (fun acc e => e.addInsideBlock acc) d = .ok D ∧
        D.applyToAssetBalance P = .ok b) :
    (∀ x ∈ DiffValue.intermediates 0 ((d :: ds).map value), 0 ≤ (P.toNat : Int) + x) ∧
    ∀ n ≤ ds.length,
      0 ≤ (P.toNat : Int) + DiffValue.totalBalance (((d :: ds).take (n + 1)).map value) := by
  constructor
  · obtain ⟨D, b, hD, hb⟩ := hok ds.length le_rfl
    rw [List.take_length] at hD
    rw [DiffValue.forall_add_nonneg_iff (foldlM_addInsideBlock_minBalance hD)]
    exact (applyToAssetBalance_nonneg hP hb).1
  · intro n hn
    obtain ⟨D, b, hD, hb⟩ := hok n hn
    rw [List.take_succ_cons, ← foldlM_addInsideBlock_balance hD]
    exact (applyToAssetBalance_nonneg hP hb).2

theorem validatedPrefixes_nonneg_feeReceipt :
    (10 : UInt64).toNat < 2 ^ 63 ∧
    (∀ n ≤ [receiptDiff].length, ∃ D b,
      ([receiptDiff].take n).foldlM (fun acc e => e.addInsideBlock acc) feeDiff = .ok D ∧
        D.applyToAssetBalance 10 = .ok b) ∧
    (∀ x ∈ DiffValue.intermediates 0 ([feeDiff, receiptDiff].map value),
      0 ≤ ((10 : UInt64).toNat : Int) + x) ∧
    ∀ n ≤ [receiptDiff].length,
      0 ≤ ((10 : UInt64).toNat : Int) +
        DiffValue.totalBalance (([feeDiff, receiptDiff].take (n + 1)).map value) := by
  have hok : ∀ n ≤ [receiptDiff].length, ∃ D b,
      ([receiptDiff].take n).foldlM (fun acc e => e.addInsideBlock acc) feeDiff = .ok D ∧
        D.applyToAssetBalance 10 = .ok b := by
    intro n hn
    rcases (show n = 0 ∨ n = 1 by simp at hn; omega) with rfl | rfl
    · exact ⟨_, _, rfl, rfl⟩
    · exact ⟨_, _, rfl, rfl⟩
  exact ⟨by decide, hok, validatedPrefixes_nonneg feeDiff [receiptDiff] (by decide) hok⟩

theorem addBalanceDiff_sameBlock_feeReceipt :
    (⟨[]⟩ : DiffStorage).changes.get [1] = none ∧
    (∀ e ∈ [receiptDiff], e.blockID = feeDiff.blockID) ∧
    ∃ D, [receiptDiff].foldlM (fun acc e => e.addInsideBlock acc) feeDiff = .ok D ∧
      ∃ s' : DiffStorage,
        [feeDiff, receiptDiff].foldlM (fun (s : DiffStorage) e => s.addBalanceDiff [1] e) ⟨[]⟩ =
          .ok s' ∧ s'.changes.get [1] = some ⟨[1], [D]⟩ :=
  ⟨rfl, by simp [receiptDiff, feeDiff, newBalanceDiff], _, rfl,
    addBalanceDiff_sameBlock ⟨[]⟩ [1] rfl feeDiff [receiptDiff]
      (by simp [receiptDiff, feeDiff, newBalanceDiff]) rfl⟩

end Gowaves.State
