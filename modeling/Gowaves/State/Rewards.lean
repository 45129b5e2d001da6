import Gowaves.State.BalanceDiff

/-!
# Block rewards (`pkg/state/rewards_calculator.go`, `block_differ.go`)

`blockDiffer.addBlockReward` takes the reward of the monetary policy, refuses one above
`MaxInt64`, and lets `rewardCalculator.applyToDiff` credit it.  `performCalculation` decides the
split: the whole reward to the miner before `BlockRewardDistribution`; after it, a share to each
reward address (`reward / 3`, or with `CappedRewards` the `handleFeature20` share, which is `0`
below 2 WAVES) and the rest to the miner, the address list switching to
`RewardAddressesAfter21` once `XTNBuyBackCessation` and the buy-back period allow it.  The
reward and every share are multiplied by 10 while `BoostBlockReward` runs.  The shares reach two
callbacks: `calculateRewards` lists them, `applyToDiff` appends balance diffs of `int64(share)`.

## Model

Amounts are `uint64` as in the source, so products and differences wrap.  The callbacks pass a
state (the list of rewards, or the diff) instead of closing over a variable.  Addresses and the
keys of their balances are one type.

## Results

* `performCalculation_eq` — every run of `performCalculation` is its callbacks folded over
  `rewardPlan`, the list of shares in the order they are paid; so
  `applyToDiff_eq_calculateRewards` — `applyToDiff` appends exactly the rewards that
  `calculateRewards` returns;
* `calculateRewards_split` — when the multiplied reward fits in an `int64`, the shares are
  non-negative `int64` values summing to it; `calculateRewards_capped` — with `CappedRewards`
  the miner keeps at least `min(m * r, 2 * m WAVES)` and every address gets `m` times its share;
* `addBlockReward_boostedOverflow` — but `addBlockReward` only bounds the reward before the
  multiplication: while the boost runs, a reward with `10 * r ≥ 2^63` is accepted and the miner
  is credited the negative `int64(10 * r)`, with no error.
-/

set_option autoImplicit false

namespace Gowaves.State

open GoLib Gowaves.Util

/-! ## The calculator -/

/-- The features the reward code asks about. -/
inductive Feature where
  | blockReward
  | blockRewardDistribution
  | cappedRewards
  | xtnBuyBackCessation
  | boostBlockReward
  deriving DecidableEq, Repr

/-- The error of `newestActivationHeight`: `keyvalue.ErrNotFound`, or another one. -/
inductive ActivationError where
  | notFound
  | other (message : String)
  deriving DecidableEq, Repr

/-- `featuresStateForRewardsCalculator`. -/
structure FeaturesState where
  newestIsActivatedAtHeight : Feature → UInt64 → Bool
  newestActivationHeight : Feature → Except ActivationError UInt64

/-- The fields of `settings.BlockchainSettings` that the reward code reads. -/
structure BlockchainSettings (α : Type) where
  rewardAddresses : List α
  rewardAddressesAfter21 : List α
  minXTNBuyBackPeriod : UInt64
  blockRewardBoostPeriod : UInt64
  allowLeasedBalanceTransferUntilTime : UInt64

/-- `additionalAddressesCount`: the XTN buy-back and DAO addresses. -/
def additionalAddressesCount : Nat := 2

def boostedRewardMultiplier : UInt64 := 10

def defaultRewardMultiplier : UInt64 := 1

/-- `proto.PriceConstant`: one WAVES. -/
def priceConstant : UInt64 := 100000000

/-- `rewardMultiplier`: 10 from the activation of `BoostBlockReward` for
`BlockRewardBoostPeriod` blocks, 1 otherwise. -/
def rewardMultiplier {α : Type} (s : BlockchainSettings α) (f : FeaturesState) (h : UInt64) :
    Except String UInt64 :=
  match f.newestActivationHeight .boostBlockReward with
  | .error .notFound => .ok defaultRewardMultiplier
  | .error (.other e) => .error ("failed to get activation height for feature 23: " ++ e)
  | .ok ah =>
    if h ≥ ah ∧ h < ah + s.blockRewardBoostPeriod then .ok boostedRewardMultiplier
    else .ok defaultRewardMultiplier

/-- `handleFeature20`: the share of each address under `CappedRewards`. -/
def handleFeature20 (reward : UInt64) : UInt64 :=
  let sixWaves := 6 * priceConstant
  let twoWaves := 2 * priceConstant
  if reward < twoWaves then 0
  else if reward < sixWaves then (reward - twoWaves) / additionalAddressesCount.toUInt64
  else twoWaves

/-- The panic of the sanity check on the number of reward addresses. -/
def addressesCountPanic (cnt : Nat) : String :=
  "reward addresses count=" ++ toString cnt ++
    " is greater than additional addresses count which is " ++ toString additionalAddressesCount

structure RewardCalculator (α : Type) where
  settings : BlockchainSettings α
  features : FeaturesState

/-- `proto.Reward`. -/
structure Reward (α : Type) where
  address : α
  amount : UInt64
  deriving DecidableEq

/-- `txDiff`: the balance diffs of one transaction, by balance key. -/
abbrev TxDiff (α : Type) := GoMap α BalanceDiff

/-- `txDiff.appendBalanceDiff`: a diff for a key already there is added to it by
`addInsideTx`. -/
def appendBalanceDiff {α : Type} [DecidableEq α] (diff : TxDiff α) (key : α)
    (balanceDiff : BalanceDiff) : Except String (TxDiff α) :=
  match diff.get key with
  | some prevDiff => do
    let balanceDiff ← balanceDiff.addInsideTx prevDiff
    pure (diff.insert key balanceDiff)
  | none => pure (diff.insert key balanceDiff)

/-- The diff a reward is appended as: `balanceDiff{balance: NewIntChange(int64(r))}`. -/
def rewardBalanceDiff (r : UInt64) : BalanceDiff :=
  { allowLeasedTransfer := false
    updateMinIntermediateBalance := false
    minBalance := .zero
    balance := .new r.toInt64
    leaseIn := .zero
    leaseOut := .zero
    blockID := Proto.BlockID.zero }

namespace RewardCalculator

variable {α σ : Type} (c : RewardCalculator α)

/-- `handleFeature21`: once `BlockRewardDistribution` was active `MinXTNBuyBackPeriod` blocks
ago, the addresses after feature 21. -/
def handleFeature21 (height : UInt64) (rewardAddresses : List α) : List α :=
  let minBuyBackPeriodStartHeight := height.toInt64 - c.settings.minXTNBuyBackPeriod.toInt64
  if minBuyBackPeriodStartHeight > 0 then
    if c.features.newestIsActivatedAtHeight .blockRewardDistribution
        minBuyBackPeriodStartHeight.toUInt64 then c.settings.rewardAddressesAfter21
    else rewardAddresses
  else rewardAddresses

/-- The loop of `appendRewards`: each address is paid, and its share taken off the miner's,
which is paid last. -/
def appendRewardsLoop (appendMinerReward : UInt64 → σ → Except String σ)
    (appendAddressReward : α → UInt64 → σ → Except String σ) (addressReward : UInt64) :
    List α → UInt64 → σ → Except String σ
  | [], minerReward, s => appendMinerReward minerReward s
  | a :: rest, minerReward, s => do
    let s ← appendAddressReward a addressReward s
    appendRewardsLoop appendMinerReward appendAddressReward addressReward rest
      (minerReward - addressReward) s

def appendRewards (appendMinerReward : UInt64 → σ → Except String σ)
    (appendAddressReward : α → UInt64 → σ → Except String σ) (rewardAddresses : List α)
    (reward addressReward : UInt64) (s : σ) : Except String σ :=
  appendRewardsLoop appendMinerReward appendAddressReward addressReward rewardAddresses reward s

/-- `performCalculation`, over the state its two callbacks pass along. -/
def performCalculation (appendMinerReward : UInt64 → σ → Except String σ)
    (appendAddressReward : α → UInt64 → σ → Except String σ) (height reward : UInt64) (s : σ) :
    Outcome String σ :=
  match rewardMultiplier c.settings c.features height with
  | .error e => .error e
  | .ok multiplier =>
    if !c.features.newestIsActivatedAtHeight .blockRewardDistribution height then
      .ofExcept (appendMinerReward (multiplier * reward) s)
    else
      let rewardAddresses :=
        if c.features.newestIsActivatedAtHeight .xtnBuyBackCessation height then
          c.handleFeature21 height c.settings.rewardAddresses
        else c.settings.rewardAddresses
      if rewardAddresses.length > additionalAddressesCount then
        .panic (addressesCountPanic rewardAddresses.length)
      else
        let addressReward := reward / (additionalAddressesCount.toUInt64 + 1)
        if c.features.newestIsActivatedAtHeight .cappedRewards height then
          let addressReward := handleFeature20 reward
          if addressReward = 0 then .ofExcept (appendMinerReward (multiplier * reward) s)
          else
            .ofExcept (appendRewards appendMinerReward appendAddressReward rewardAddresses
              (multiplier * reward) (multiplier * addressReward) s)
        else
          .ofExcept (appendRewards appendMinerReward appendAddressReward rewardAddresses
            (multiplier * reward) (multiplier * addressReward) s)

/-- `calculateRewards`: the rewards listed in the order they are paid. -/
def calculateRewards (generator : α) (height reward : UInt64) : Outcome String (List (Reward α)) :=
  c.performCalculation (fun reward r => .ok (r ++ [⟨generator, reward⟩]))
    (fun addr reward r => .ok (r ++ [⟨addr, reward⟩])) height reward []

/-- `applyToDiff`: every reward appended to the diff as a change of the Waves balance. -/
def applyToDiff [DecidableEq α] (diff : TxDiff α) (addr : α) (height reward : UInt64) :
    Outcome String (TxDiff α) :=
  c.performCalculation (fun r diff => appendBalanceDiff diff addr (rewardBalanceDiff r))
    (fun a r diff => appendBalanceDiff diff a (rewardBalanceDiff r)) height reward diff

end RewardCalculator

/-- The parts of a block header that the reward code reads. -/
structure BlockHeader where
  timestamp : UInt64
  blockID : Proto.BlockID

/-- The parts of `blockDiffer` that `addBlockReward` reads: the settings, the features and the
reward of the monetary policy. -/
structure BlockDiffer (α : Type) where
  settings : BlockchainSettings α
  features : FeaturesState
  reward : Except String UInt64

namespace BlockDiffer

variable {α : Type} [DecidableEq α] (d : BlockDiffer α)

/-- `appendBlockInfoToTxDiff`: every diff gets the block's ID and its leased-transfer flag. -/
def appendBlockInfoToTxDiff (diff : TxDiff α) (block : BlockHeader) : TxDiff α :=
  diff.map fun e =>
    (e.1, { e.2 with
      allowLeasedTransfer := decide (block.timestamp < d.settings.allowLeasedBalanceTransferUntilTime)
      blockID := block.blockID })

def addBlockReward (diff : TxDiff α) (addr : α) (block : BlockHeader) (blockHeight : UInt64) :
    Outcome String (TxDiff α) :=
  if !d.features.newestIsActivatedAtHeight .blockReward blockHeight then .ok diff
  else
    match d.reward with
    | .error e => .error e
    | .ok reward =>
      if reward > 9223372036854775807 then .error "reward overflows int64"
      else do
        let diff ← (RewardCalculator.mk d.settings d.features).applyToDiff diff addr blockHeight reward
        pure (d.appendBlockInfoToTxDiff diff block)

end BlockDiffer

/-! ## The plan of a calculation -/

namespace RewardCalculator

variable {α σ : Type} (c : RewardCalculator α)

/-- The reward addresses at `height`. -/
def rewardAddressesAt (height : UInt64) : List α :=
  if c.features.newestIsActivatedAtHeight .xtnBuyBackCessation height then
    c.handleFeature21 height c.settings.rewardAddresses
  else c.settings.rewardAddresses

/-- The share of each reward address at `height`, before the multiplier. -/
def addressRewardAt (height reward : UInt64) : UInt64 :=
  if c.features.newestIsActivatedAtHeight .cappedRewards height then handleFeature20 reward
  else reward / (additionalAddressesCount.toUInt64 + 1)

/-- What `performCalculation` pays, in the order it pays it: `none` stands for the miner. -/
def rewardPlan (height reward : UInt64) : Outcome String (List (Option α × UInt64)) :=
  match rewardMultiplier c.settings c.features height with
  | .error e => .error e
  | .ok m =>
    if !c.features.newestIsActivatedAtHeight .blockRewardDistribution height then
      .ok [(none, m * reward)]
    else if (c.rewardAddressesAt height).length > additionalAddressesCount then
      .panic (addressesCountPanic (c.rewardAddressesAt height).length)
    else if c.features.newestIsActivatedAtHeight .cappedRewards height ∧
        handleFeature20 reward = 0 then .ok [(none, m * reward)]
    else
      .ok ((c.rewardAddressesAt height).map (fun a => (some a, m * c.addressRewardAt height reward)) ++
        [(none, (c.rewardAddressesAt height).foldl (fun mr _ => mr - m * c.addressRewardAt height reward)
          (m * reward))])

/-- One payment of the plan, made by the callback it goes to. -/
def payTo (appendMinerReward : UInt64 → σ → Except String σ)
    (appendAddressReward : α → UInt64 → σ → Except String σ) (s : σ) :
    Option α × UInt64 → Except String σ
  | (none, r) => appendMinerReward r s
  | (some a, r) => appendAddressReward a r s

variable (appendMinerReward : UInt64 → σ → Except String σ)
  (appendAddressReward : α → UInt64 → σ → Except String σ)

theorem foldlM_payTo_miner (r : UInt64) (s : σ) :
    [(none, r)].foldlM (payTo appendMinerReward appendAddressReward) s = appendMinerReward r s := by
  simp only [List.foldlM_cons, List.foldlM_nil, payTo, bind_pure]

theorem appendRewardsLoop_eq (addressReward : UInt64) : ∀ (rewardAddresses : List α)
    (minerReward : UInt64) (s : σ),
    appendRewardsLoop appendMinerReward appendAddressReward addressReward rewardAddresses
        minerReward s =
      (rewardAddresses.map (fun a => (some a, addressReward)) ++
          [(none, rewardAddresses.foldl (fun mr _ => mr - addressReward) minerReward)]).foldlM
        (payTo appendMinerReward appendAddressReward) s
  | [], minerReward, s => by
    rw [appendRewardsLoop, List.map_nil, List.nil_append, List.foldl_nil, foldlM_payTo_miner]
  | a :: rest, minerReward, s => by
    rw [appendRewardsLoop, List.map_cons, List.cons_append, List.foldlM_cons, List.foldl_cons]
    simp only [payTo, appendRewardsLoop_eq addressReward rest]

/-- **`performCalculation` folds its callbacks over `rewardPlan`.** -/
theorem performCalculation_eq (height reward : UInt64) (s : σ) :
    c.performCalculation appendMinerReward appendAddressReward height reward s =
      c.rewardPlan height reward >>= fun ps =>
        .ofExcept (ps.foldlM (payTo appendMinerReward appendAddressReward) s) := by
  unfold performCalculation rewardPlan
  cases rewardMultiplier c.settings c.features height with
  | error e => rfl
  | ok m =>
    simp only [rewardAddressesAt, addressRewardAt, appendRewards, appendRewardsLoop_eq]
    by_cases h19 : c.features.newestIsActivatedAtHeight .blockRewardDistribution height
    · by_cases hcount : (if c.features.newestIsActivatedAtHeight .xtnBuyBackCessation height then
          c.handleFeature21 height c.settings.rewardAddresses
        else c.settings.rewardAddresses).length > additionalAddressesCount
      · simp only [h19, hcount, Bool.not_true, if_true, Bool.false_eq_true, if_false,
          Outcome.bind_panic]
      · by_cases hcap : c.features.newestIsActivatedAtHeight .cappedRewards height
        · by_cases h0 : handleFeature20 reward = 0
          · simp only [h19, hcount, hcap, h0, Bool.not_true, Bool.false_eq_true, if_false,
              and_self, if_true, Outcome.bind_ok, foldlM_payTo_miner]
          · simp only [h19, hcount, hcap, h0, Bool.not_true, Bool.false_eq_true, if_false,
              and_false, if_true, Outcome.bind_ok]
        · simp only [h19, hcount, hcap, Bool.not_true, Bool.false_eq_true, if_false,
            false_and, Outcome.bind_ok]
    · simp only [h19, Bool.not_false, if_true, Outcome.bind_ok, foldlM_payTo_miner]

/-- A payment of the plan as a `proto.Reward`, the miner's under `generator`. -/
def toReward (generator : α) : Option α × UInt64 → Reward α
  | (none, r) => ⟨generator, r⟩
  | (some a, r) => ⟨a, r⟩

theorem foldlM_payTo_list (generator : α) : ∀ (ps : List (Option α × UInt64)) (init : List (Reward α)),
    ps.foldlM (payTo (fun reward r => .ok (r ++ [⟨generator, reward⟩]))
        (fun addr reward r => .ok (r ++ [⟨addr, reward⟩]))) init =
      .ok (init ++ ps.map (toReward generator))
  | [], init => by
    rw [List.foldlM_nil, List.map_nil, List.append_nil]
    rfl
  | (p, r) :: ps, init => by
    rw [List.foldlM_cons]
    cases p <;>
      simp only [payTo, toReward, Reader.except_ok_bind, foldlM_payTo_list generator ps,
        List.map_cons, List.append_assoc, List.singleton_append]

theorem calculateRewards_eq (generator : α) (height reward : UInt64) :
    c.calculateRewards generator height reward =
      c.rewardPlan height reward >>= fun ps => .ok (ps.map (toReward generator)) := by
  rw [calculateRewards, performCalculation_eq]
  cases c.rewardPlan height reward <;>
    simp only [Outcome.bind_ok, Outcome.bind_error, Outcome.bind_panic, Outcome.bind_exhausted,
      foldlM_payTo_list, Outcome.ofExcept_ok, List.nil_append]

/-- **`applyToDiff` appends the rewards of `calculateRewards`**, one balance diff of
`int64(amount)` for each, in the order listed. -/
theorem applyToDiff_eq_calculateRewards [DecidableEq α] (diff : TxDiff α) (addr : α)
    (height reward : UInt64) :
    c.applyToDiff diff addr height reward =
      c.calculateRewards addr height reward >>= fun rs =>
        .ofExcept (rs.foldlM (fun d x => appendBalanceDiff d x.address (rewardBalanceDiff x.amount))
          diff) := by
  rw [applyToDiff, performCalculation_eq, calculateRewards_eq]
  cases c.rewardPlan height reward with
  | ok ps =>
    simp only [Outcome.bind_ok, List.foldlM_map]
    congr 2
    funext d p
    obtain ⟨_ | a, r⟩ := p <;> rfl
  | error e => rfl
  | panic m => rfl
  | exhausted => rfl

/-! ## The split -/

theorem toNat_mul_of_lt {a b : UInt64} (h : a.toNat * b.toNat < 2 ^ 64) :
    (a * b).toNat = a.toNat * b.toNat := by
  rw [UInt64.toNat_mul, Nat.mod_eq_of_lt h]

theorem toNat_foldl_sub (x : UInt64) : ∀ (l : List α) (mr : UInt64),
    l.length * x.toNat ≤ mr.toNat →
      (l.foldl (fun mr _ => mr - x) mr).toNat = mr.toNat - l.length * x.toNat
  | [], mr, _ => by simp
  | _ :: l, mr, h => by
    have hx : x ≤ mr := by
      rw [UInt64.le_iff_toNat_le]
      simp only [List.length_cons, Nat.succ_mul] at h
      omega
    have hsub : (mr - x).toNat = mr.toNat - x.toNat := UInt64.toNat_sub_of_le mr x hx
    rw [List.foldl_cons, toNat_foldl_sub x l (mr - x) (by simp only [List.length_cons] at h; rw [hsub]; rw [Nat.succ_mul] at h; omega), hsub]
    simp only [List.length_cons, Nat.succ_mul]
    omega

theorem handleFeature20_bounds (reward : UInt64) :
    2 * (handleFeature20 reward).toNat ≤ reward.toNat ∧
      (handleFeature20 reward ≠ 0 → 200000000 ≤ reward.toNat - 2 * (handleFeature20 reward).toNat) := by
  have h2 : (2 * priceConstant).toNat = 200000000 := by decide
  have h6 : (6 * priceConstant).toNat = 600000000 := by decide
  have hc : additionalAddressesCount.toUInt64.toNat = 2 := by decide
  unfold handleFeature20
  simp only [UInt64.lt_iff_toNat_lt, h2, h6]
  split_ifs with hlo hhi
  · simp
  · have hle : 2 * priceConstant ≤ reward := by rw [UInt64.le_iff_toNat_le, h2]; omega
    rw [UInt64.toNat_div, UInt64.toNat_sub_of_le _ _ hle, h2, hc]
    omega
  · rw [h2]
    omega

theorem addressRewardAt_le (height reward : UInt64) :
    2 * (c.addressRewardAt height reward).toNat ≤ reward.toNat := by
  unfold addressRewardAt
  split
  · exact (handleFeature20_bounds reward).1
  · have h3 : (additionalAddressesCount.toUInt64 + 1).toNat = 3 := by decide
    rw [UInt64.toNat_div, h3]
    omega

theorem length_rewardAddressesAt_le (height : UInt64)
    (hk : c.settings.rewardAddresses.length ≤ additionalAddressesCount)
    (hk21 : c.settings.rewardAddressesAfter21.length ≤ additionalAddressesCount) :
    (c.rewardAddressesAt height).length ≤ additionalAddressesCount := by
  unfold rewardAddressesAt handleFeature21
  dsimp only
  split_ifs <;> assumption

theorem rewardPlan_cases {height reward m : UInt64}
    (hm : rewardMultiplier c.settings c.features height = .ok m)
    (hk : (c.rewardAddressesAt height).length ≤ additionalAddressesCount) :
    (c.rewardPlan height reward = .ok [(none, m * reward)] ∧
        (c.features.newestIsActivatedAtHeight .blockRewardDistribution height = false ∨
          c.features.newestIsActivatedAtHeight .cappedRewards height = true ∧
            handleFeature20 reward = 0)) ∨
      (¬(c.features.newestIsActivatedAtHeight .cappedRewards height = true ∧
          handleFeature20 reward = 0) ∧
        c.rewardPlan height reward = .ok ((c.rewardAddressesAt height).map
          (fun a => (some a, m * c.addressRewardAt height reward)) ++
          [(none, (c.rewardAddressesAt height).foldl
            (fun mr _ => mr - m * c.addressRewardAt height reward) (m * reward))])) := by
  unfold rewardPlan
  rw [hm]
  simp only [Nat.not_lt.mpr hk, if_false]
  by_cases h19 : c.features.newestIsActivatedAtHeight .blockRewardDistribution height
  · by_cases hc : c.features.newestIsActivatedAtHeight .cappedRewards height = true ∧
        handleFeature20 reward = 0
    · refine Or.inl ⟨?_, Or.inr hc⟩
      simp only [h19, Bool.not_true, Bool.false_eq_true, if_false]
      rw [if_pos hc]
    · refine Or.inr ⟨hc, ?_⟩
      simp only [h19, Bool.not_true, Bool.false_eq_true, if_false]
      rw [if_neg hc]
  · exact Or.inl ⟨by simp only [h19, Bool.not_false, if_true], Or.inl (by simpa using h19)⟩

theorem rewardPlan_split {height reward m : UInt64}
    (hm : rewardMultiplier c.settings c.features height = .ok m)
    (hfit : m.toNat * reward.toNat < 2 ^ 64)
    (hk : (c.rewardAddressesAt height).length ≤ additionalAddressesCount) :
    ∃ ps, c.rewardPlan height reward = .ok ps ∧
      (ps.map (·.2.toNat)).sum = m.toNat * reward.toNat ∧
      ∀ p ∈ ps, p.2.toNat ≤ m.toNat * reward.toNat := by
  have hk2 : (c.rewardAddressesAt height).length ≤ 2 := hk
  have hmr : (m * reward).toNat = m.toNat * reward.toNat := toNat_mul_of_lt hfit
  rcases @rewardPlan_cases α c height reward m hm hk with ⟨hps, -⟩ | ⟨-, hps⟩
  · refine ⟨_, hps, by simp [hmr], ?_⟩
    intro p hp
    simp only [List.mem_singleton] at hp
    rw [hp, hmr]
  · set k := (c.rewardAddressesAt height).length with hkk
    set ar := c.addressRewardAt height reward
    have har : 2 * ar.toNat ≤ reward.toNat := c.addressRewardAt_le height reward
    have hmar : (m * ar).toNat = m.toNat * ar.toNat :=
      toNat_mul_of_lt (lt_of_le_of_lt (Nat.mul_le_mul_left _ (by omega)) hfit)
    have hkar : k * (m * ar).toNat ≤ (m * reward).toNat := by
      rw [hmar, hmr]
      calc k * (m.toNat * ar.toNat) ≤ 2 * (m.toNat * ar.toNat) := Nat.mul_le_mul_right _ hk2
        _ = m.toNat * (2 * ar.toNat) := by ring
        _ ≤ m.toNat * reward.toNat := Nat.mul_le_mul_left _ har
    have hrest := toNat_foldl_sub (m * ar) (c.rewardAddressesAt height) (m * reward) hkar
    rw [← hkk] at hrest
    refine ⟨_, hps, ?_, ?_⟩
    · simp only [List.map_append, List.map_map, List.sum_append, List.map_cons, List.map_nil,
        List.sum_cons, List.sum_nil, Function.comp_def, List.map_const', List.sum_replicate_nat,
        hrest]
      rw [← hkk, ← hmr]
      omega
    · intro p hp
      simp only [List.mem_append, List.mem_map, List.mem_singleton] at hp
      rcases hp with ⟨a, ha, rfl⟩ | rfl
      · have hk1 : 0 < k := List.length_pos_of_mem ha
        calc (m * ar).toNat ≤ k * (m * ar).toNat := Nat.le_mul_of_pos_left _ hk1
          _ ≤ (m * reward).toNat := hkar
          _ = m.toNat * reward.toNat := hmr
      · rw [hrest, ← hmr]
        omega

@[simp] theorem amount_toReward (generator : α) (p : Option α × UInt64) :
    (toReward generator p).amount = p.2 := by
  obtain ⟨_ | a, r⟩ := p <;> rfl

/-- **The shares add up to the multiplied reward**: when the reward times the multiplier fits in
an `int64` and neither address list is longer than the two additional addresses,
`calculateRewards` returns rewards summing to `m * reward`, each a non-negative `int64` when
cast, as `applyToDiff` casts it. -/
theorem calculateRewards_split (generator : α) {height reward m : UInt64}
    (hm : rewardMultiplier c.settings c.features height = .ok m)
    (hfit : m.toNat * reward.toNat < 2 ^ 63)
    (hk : c.settings.rewardAddresses.length ≤ additionalAddressesCount)
    (hk21 : c.settings.rewardAddressesAfter21.length ≤ additionalAddressesCount) :
    ∃ rs, c.calculateRewards generator height reward = .ok rs ∧
      (rs.map (·.amount.toNat)).sum = m.toNat * reward.toNat ∧
      ∀ x ∈ rs, x.amount.toInt64.toInt = x.amount.toNat := by
  obtain ⟨ps, hps, hsum, hle⟩ := @rewardPlan_split α c height reward m hm (by omega)
    (c.length_rewardAddressesAt_le height hk hk21)
  refine ⟨ps.map (toReward generator), by rw [calculateRewards_eq, hps]; rfl, ?_, ?_⟩
  · rw [List.map_map, ← hsum]
    simp only [Function.comp_def, amount_toReward]
  · intro x hx
    obtain ⟨p, hp, rfl⟩ := List.mem_map.mp hx
    rw [amount_toReward]
    exact BalanceDiff.toInt_toInt64_of_lt (lt_of_le_of_lt (hle p hp) hfit)

theorem calculateRewards_split_oneAddress :
    let c : RewardCalculator Nat := ⟨⟨[1], [], 0, 0, 0⟩, ⟨fun _ _ => true, fun _ => .error .notFound⟩⟩
    rewardMultiplier c.settings c.features 5 = .ok 1 ∧ (1 : UInt64).toNat * (600000000 : UInt64).toNat < 2 ^ 63 ∧
      c.settings.rewardAddresses.length ≤ additionalAddressesCount ∧
      c.settings.rewardAddressesAfter21.length ≤ additionalAddressesCount ∧
      ∃ rs, c.calculateRewards 0 5 600000000 = .ok rs ∧
        (rs.map (·.amount.toNat)).sum = (1 : UInt64).toNat * (600000000 : UInt64).toNat ∧
        ∀ x ∈ rs, x.amount.toInt64.toInt = x.amount.toNat :=
  ⟨rfl, by decide, by decide, by decide,
    calculateRewards_split _ 0 rfl (by decide) (by decide) (by decide)⟩

/-- **Capped rewards leave the miner at least 2 WAVES**: with `CappedRewards` active and no
overflow of `m * reward`, the miner's reward comes last and is at least `min(m * r, 2 * m WAVES)`,
and every reward before it is `m` times the `handleFeature20` share. -/
theorem calculateRewards_capped (generator : α) {height reward m : UInt64}
    (hm : rewardMultiplier c.settings c.features height = .ok m)
    (hfit : m.toNat * reward.toNat < 2 ^ 64)
    (hk : c.settings.rewardAddresses.length ≤ additionalAddressesCount)
    (hk21 : c.settings.rewardAddressesAfter21.length ≤ additionalAddressesCount)
    (hcap : c.features.newestIsActivatedAtHeight .cappedRewards height = true) :
    ∃ rs minerReward, c.calculateRewards generator height reward =
        .ok (rs ++ [⟨generator, minerReward⟩]) ∧
      min (m.toNat * reward.toNat) (2 * m.toNat * 100000000) ≤ minerReward.toNat ∧
      ∀ x ∈ rs, x.amount = m * handleFeature20 reward := by
  have hmr : (m * reward).toNat = m.toNat * reward.toNat := toNat_mul_of_lt hfit
  have hlen := c.length_rewardAddressesAt_le height hk hk21
  rcases @rewardPlan_cases α c height reward m hm hlen with ⟨hps, -⟩ | ⟨h0, hps⟩
  · refine ⟨[], m * reward, by rw [calculateRewards_eq, hps]; rfl, ?_, by simp⟩
    rw [hmr]
    exact min_le_left _ _
  · have hshare : c.addressRewardAt height reward = handleFeature20 reward := by
      rw [addressRewardAt, if_pos hcap]
    have hne : handleFeature20 reward ≠ 0 := fun h => h0 ⟨hcap, h⟩
    obtain ⟨-, hfloor⟩ := handleFeature20_bounds reward
    have hfloor := hfloor hne
    set k := (c.rewardAddressesAt height).length with hkk
    set ar := handleFeature20 reward
    have hk2 : k ≤ 2 := hlen
    have har : 2 * ar.toNat ≤ reward.toNat := (handleFeature20_bounds reward).1
    have hmar : (m * ar).toNat = m.toNat * ar.toNat :=
      toNat_mul_of_lt (lt_of_le_of_lt (Nat.mul_le_mul_left _ (by omega)) hfit)
    have hkar : k * (m * ar).toNat ≤ 2 * (m.toNat * ar.toNat) := by
      rw [hmar]
      exact Nat.mul_le_mul_right _ hk2
    have hkar' : k * (m * ar).toNat ≤ (m * reward).toNat := by
      rw [hmr]
      calc k * (m * ar).toNat ≤ 2 * (m.toNat * ar.toNat) := hkar
        _ = m.toNat * (2 * ar.toNat) := by ring
        _ ≤ m.toNat * reward.toNat := Nat.mul_le_mul_left _ har
    have hrest := toNat_foldl_sub (m * ar) (c.rewardAddressesAt height) (m * reward) hkar'
    rw [← hkk] at hrest
    refine ⟨(c.rewardAddressesAt height).map (fun a => ⟨a, m * ar⟩),
      (c.rewardAddressesAt height).foldl (fun mr _ => mr - m * ar) (m * reward), ?_, ?_, ?_⟩
    · rw [calculateRewards_eq, hps, hshare]
      simp [toReward]
    · -- what is left is `m * r - k * (m * share) ≥ m * (r - 2 * share) ≥ m * 2 WAVES`
      rw [hrest, hmr]
      apply le_trans (min_le_right _ _)
      calc 2 * m.toNat * 100000000 = m.toNat * 200000000 := by ring
        _ ≤ m.toNat * (reward.toNat - 2 * ar.toNat) := Nat.mul_le_mul_left _ hfloor
        _ = m.toNat * reward.toNat - 2 * (m.toNat * ar.toNat) := by
          rw [Nat.mul_sub, Nat.mul_left_comm]
        _ ≤ m.toNat * reward.toNat - k * (m * ar).toNat := Nat.sub_le_sub_left hkar _
    · intro x hx
      obtain ⟨a, -, rfl⟩ := List.mem_map.mp hx
      rfl

theorem calculateRewards_capped_sixWaves :
    let c : RewardCalculator Nat := ⟨⟨[1, 2], [], 0, 0, 0⟩, ⟨fun _ _ => true, fun _ => .error .notFound⟩⟩
    rewardMultiplier c.settings c.features 5 = .ok 1 ∧ (1 : UInt64).toNat * (600000000 : UInt64).toNat < 2 ^ 64 ∧
      c.settings.rewardAddresses.length ≤ additionalAddressesCount ∧
      c.settings.rewardAddressesAfter21.length ≤ additionalAddressesCount ∧
      c.features.newestIsActivatedAtHeight .cappedRewards 5 = true ∧
      ∃ rs minerReward, c.calculateRewards 0 5 600000000 = .ok (rs ++ [⟨0, minerReward⟩]) ∧
        min ((1 : UInt64).toNat * (600000000 : UInt64).toNat) (2 * (1 : UInt64).toNat * 100000000) ≤
          minerReward.toNat ∧
        ∀ x ∈ rs, x.amount = 1 * handleFeature20 600000000 :=
  ⟨rfl, by decide, by decide, by decide, rfl,
    calculateRewards_capped _ 0 rfl (by decide) (by decide) (by decide) rfl⟩

end RewardCalculator

/-! ## The boost overflows -/

theorem toInt_toInt64_of_ge {x : UInt64} (h : 2 ^ 63 ≤ x.toNat) :
    x.toInt64.toInt = x.toNat - 2 ^ 64 := by
  rw [← Int64.toInt_toBitVec, UInt64.toBitVec_toInt64, BitVec.toInt_eq_toNat_cond]
  have : ¬2 * x.toBitVec.toNat < 2 ^ 64 := by
    rw [UInt64.toNat_toBitVec]
    omega
  rw [if_neg this, UInt64.toNat_toBitVec]
  push_cast
  rfl

/-- **The boosted reward overflows**: `addBlockReward` bounds the reward by `MaxInt64` before it
is multiplied, so while `BoostBlockReward` runs and before `BlockRewardDistribution`, a reward
with `2^63 ≤ 10 * r < 2^64` is accepted, no error is returned, and the miner's balance diff is
`int64(10 * r) = 10 * r - 2^64`, a negative amount. -/
theorem addBlockReward_boostedOverflow {α : Type} [DecidableEq α] (d : BlockDiffer α) (addr : α)
    (block : BlockHeader) {height reward : UInt64}
    (hbr : d.features.newestIsActivatedAtHeight .blockReward height = true)
    (hrew : d.reward = .ok reward) (hmax : reward.toNat ≤ 9223372036854775807)
    (hboost : rewardMultiplier d.settings d.features height = .ok boostedRewardMultiplier)
    (h19 : d.features.newestIsActivatedAtHeight .blockRewardDistribution height = false)
    (hover : 2 ^ 63 ≤ 10 * reward.toNat) (hwrap : 10 * reward.toNat < 2 ^ 64) :
    ∃ diff, d.addBlockReward [] addr block height = .ok diff ∧
      ∃ balanceDiff, diff.get addr = some balanceDiff ∧
        balanceDiff.balance.value.toInt = 10 * reward.toNat - 2 ^ 64 ∧
        balanceDiff.balance.value.toInt < 0 := by
  have hle : ¬reward > 9223372036854775807 := by
    rw [GT.gt, UInt64.lt_iff_toNat_lt]
    simpa using hmax
  have hplan : (RewardCalculator.mk d.settings d.features).rewardPlan height reward =
      .ok [(none, boostedRewardMultiplier * reward)] := by
    simp only [RewardCalculator.rewardPlan, hboost, h19, Bool.not_false, if_true]
  have hten : (boostedRewardMultiplier * reward).toNat = 10 * reward.toNat :=
    RewardCalculator.toNat_mul_of_lt (by simpa [boostedRewardMultiplier] using hwrap)
  set v := rewardBalanceDiff (boostedRewardMultiplier * reward)
  have hdiff : d.addBlockReward [] addr block height =
      .ok (d.appendBlockInfoToTxDiff [(addr, v)] block) := by
    simp only [BlockDiffer.addBlockReward, hbr, hrew, hle, Bool.not_true, Bool.false_eq_true,
      if_false, RewardCalculator.applyToDiff, RewardCalculator.performCalculation_eq, hplan,
      Outcome.bind_ok, RewardCalculator.foldlM_payTo_miner, appendBalanceDiff, GoMap.get_nil]
    rfl
  set v' : BalanceDiff := { v with
    allowLeasedTransfer := decide (block.timestamp < d.settings.allowLeasedBalanceTransferUntilTime)
    blockID := block.blockID }
  have hget : (d.appendBlockInfoToTxDiff [(addr, v)] block).get addr = some v' := by
    simp only [BlockDiffer.appendBlockInfoToTxDiff, List.map_cons, List.map_nil, GoMap.get_cons,
      if_true, v']
  refine ⟨_, hdiff, v', hget, ?_⟩
  -- the balance change is `int64` of the product `10 * reward`, which did not wrap in `uint64`
  have hval := toInt_toInt64_of_ge (hten ▸ hover)
  rw [hten] at hval
  have hbal : v'.balance.value = (boostedRewardMultiplier * reward).toInt64 := rfl
  simp only [hbal, hval]
  push_cast
  omega

theorem addBlockReward_boostedOverflow_tenToEighteen :
    let d : BlockDiffer Nat := ⟨⟨[], [], 0, 1000, 0⟩,
      ⟨fun f _ => f == .blockReward, fun _ => .ok 0⟩, .ok 1000000000000000000⟩
    d.features.newestIsActivatedAtHeight .blockReward 1 = true ∧
      d.reward = .ok 1000000000000000000 ∧
      (1000000000000000000 : UInt64).toNat ≤ 9223372036854775807 ∧
      rewardMultiplier d.settings d.features 1 = .ok boostedRewardMultiplier ∧
      d.features.newestIsActivatedAtHeight .blockRewardDistribution 1 = false ∧
      2 ^ 63 ≤ 10 * (1000000000000000000 : UInt64).toNat ∧
      10 * (1000000000000000000 : UInt64).toNat < 2 ^ 64 ∧
      ∃ diff, d.addBlockReward [] 7 ⟨0, Proto.BlockID.zero⟩ 1 = .ok diff ∧
        ∃ balanceDiff, diff.get 7 = some balanceDiff ∧
          balanceDiff.balance.value.toInt = 10 * (1000000000000000000 : UInt64).toNat - 2 ^ 64 ∧
          balanceDiff.balance.value.toInt < 0 :=
  ⟨rfl, rfl, by decide, rfl, rfl, by decide, by decide,
    addBlockReward_boostedOverflow _ 7 _ rfl rfl (by decide) rfl rfl (by decide) (by decide)⟩

end Gowaves.State
