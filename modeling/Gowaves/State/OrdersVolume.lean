import Mathlib.Algebra.Order.BigOperators.Group.List
import Mathlib.Data.List.Flatten
import Gowaves.State.BalanceDiff

/-!
# Filled volumes of orders (`pkg/state/orders_volume.go`, `transaction_checker.go`,
`snapshot_generator.go`)

Every order of an exchange has a filled amount and a filled matcher fee, kept by
`ordersVolumes` in the history storage under the order's ID.  `checkEnoughVolume` refuses an
exchange whose amount or fee, added to the newest filled values, would pass the order's amount
or matcher fee; `generateOrderAtomicSnapshot` then writes the newest filled values plus the new
ones as a `FilledVolumeFeeSnapshot`, which `storeFilled` stores.  A failed exchange only pays its
fee.  A rollback drops what the removed blocks wrote.

## Model

The history storage is the list of records written, each with the height of its block; the
newest record of an order is the last one for its ID, and a rollback to a height keeps the
records at or below it.  An order's ID is `orderID` of the order, which is taken to be
injective (it is the hash of the order).  A run is a sequence of exchanges, each succeeding or
failing, of new blocks and of rollbacks; `VolumeState.applied` is the list of the exchanges
applied so far, which no code keeps: it is what the filled values must add up to.

## Results

* `newestFilled_historyOf` — the records written for the applied exchanges hold, for every
  order, the sums of the amounts and fees charged to it, while they fit;
* `inv_step`, `inv_run` — every step keeps `Inv`: the records are those the applied exchanges
  write (`historyOf`), the exchanges stand in the order of their blocks, and no order is charged
  past its amount or fee (`filter_historyOf` carries the records through a rollback);
* `run_ordersNeverOverfilled` — after any run, the filled amount and fee of every order are the
  sums over the applied exchanges that contain it, within the order's amount and matcher fee;
  an exchange that would pass either is rejected and leaves the state as it is; a failed
  exchange leaves the filled values as they are.
-/

set_option autoImplicit false

namespace Gowaves.State

/-- `proto.OrderType`. -/
inductive OrderType where
  | buy
  | sell
  deriving DecidableEq, Repr

/-- An order, by what the volume code reads of it; `body` is the rest of it. -/
structure Order (β : Type) where
  orderType : OrderType
  amount : UInt64
  matcherFee : UInt64
  body : β
  deriving DecidableEq

/-- An exchange transaction, by what the volume code reads of it. -/
structure Exchange (β : Type) where
  order1 : Order β
  order2 : Order β
  amount : UInt64
  buyMatcherFee : UInt64
  sellMatcherFee : UInt64
  /-- Whether the transaction is of a protobuf version (3 and later). -/
  protobuf : Bool
  deriving DecidableEq

namespace Exchange

variable {β : Type} (tx : Exchange β)

def getBuyOrder : Except String (Order β) :=
  if tx.order1.orderType = .buy then .ok tx.order1
  else if tx.order2.orderType = .buy then .ok tx.order2
  else .error "no buy order"

def getSellOrder : Except String (Order β) :=
  if tx.order2.orderType = .sell then .ok tx.order2
  else if tx.order1.orderType = .sell then .ok tx.order1
  else .error "no sell order"

end Exchange

structure OrderVolumeRecord where
  feeFilled : UInt64
  amountFilled : UInt64
  deriving DecidableEq

/-- The `ordersVolume` records of the history storage, oldest first: the height of the block
that wrote each, the order ID and the record. -/
abbrev OrdersVolumes (κ : Type) := List (Nat × κ × OrderVolumeRecord)

/-- `proto.FilledVolumeFeeSnapshot`. -/
structure FilledVolumeFeeSnapshot (κ : Type) where
  orderID : κ
  filledFee : UInt64
  filledVolume : UInt64

section Volumes

variable {κ β : Type} [DecidableEq κ] (orderID : Order β → κ)

/-- `newestVolumeByID`: the last record of the order, if any. -/
def newestVolumeByID (ov : OrdersVolumes κ) (id : κ) : Option OrderVolumeRecord :=
  (ov.reverse.find? (·.2.1 = id)).map (·.2.2)

/-- `newestFilled`: the filled amount and fee, zero for an order never filled. -/
def newestFilled (ov : OrdersVolumes κ) (id : κ) : UInt64 × UInt64 :=
  match newestVolumeByID ov id with
  | some volume => (volume.amountFilled, volume.feeFilled)
  | none => (0, 0)

/-- `storeFilled`, in the block at `height`. -/
def storeFilled (ov : OrdersVolumes κ) (id : κ) (amountFilled feeFilled : UInt64) (height : Nat) :
    OrdersVolumes κ :=
  ov ++ [(height, id, ⟨feeFilled, amountFilled⟩)]

def checkEnoughVolume (ov : OrdersVolumes κ) (order : Order β) (newFee newAmount : UInt64) :
    Except String Unit :=
  let fullAmount := order.amount
  if newAmount > fullAmount then .error "current amount exceeds total order amount"
  else
    let fullFee := order.matcherFee
    if newFee > fullFee then .error "current fee exceeds total order fee"
    else
      let filled := newestFilled ov (orderID order)
      if fullAmount - newAmount < filled.1 then .error "order amount volume is overflowed"
      else if fullFee - newFee < filled.2 then .error "order fee volume is overflowed"
      else .ok ()

/-- The checks of `checkExchange` up to the volumes: the order of the orders in the versions
before 3, then the volumes of the sell order and of the buy order. -/
def checkExchange (ov : OrdersVolumes κ) (tx : Exchange β) : Except String Unit :=
  if tx.order1.orderType ≠ .buy ∧ tx.order2.orderType ≠ .sell ∧ tx.protobuf = false then
    .error "sell order not allowed on first place in exchange transaction of versions prior 3"
  else do
    let so ← tx.getSellOrder.mapError ("sell order: " ++ ·)
    (checkEnoughVolume orderID ov so tx.sellMatcherFee tx.amount).mapError
      ("exchange transaction; sell order: " ++ ·)
    let bo ← tx.getBuyOrder.mapError ("buy order: " ++ ·)
    (checkEnoughVolume orderID ov bo tx.buyMatcherFee tx.amount).mapError
      ("exchange transaction; buy order: " ++ ·)

/-- `generateOrderAtomicSnapshot`: the newest filled values plus the new ones. -/
def generateOrderAtomicSnapshot (ov : OrdersVolumes κ) (id : κ) (volume fee : UInt64) :
    FilledVolumeFeeSnapshot κ :=
  let newest := newestFilled ov id
  ⟨id, newest.2 + fee, newest.1 + volume⟩

/-- The order snapshots of `generateSnapshotForExchangeTx`, both made from the state before
the exchange. -/
def generateSnapshotForExchangeTx (ov : OrdersVolumes κ) (sellOrder : Order β) (sellFee : UInt64)
    (buyOrder : Order β) (buyFee volume : UInt64) : List (FilledVolumeFeeSnapshot κ) :=
  [generateOrderAtomicSnapshot ov (orderID sellOrder) volume sellFee,
    generateOrderAtomicSnapshot ov (orderID buyOrder) volume buyFee]

/-- `performExchange`, on the order volumes. -/
def performExchange (ov : OrdersVolumes κ) (tx : Exchange β) :
    Except String (List (FilledVolumeFeeSnapshot κ)) := do
  let sellOrder ← tx.getSellOrder.mapError ("no sell order: " ++ ·)
  let buyOrder ← tx.getBuyOrder.mapError ("no buy order: " ++ ·)
  pure (generateSnapshotForExchangeTx orderID ov sellOrder tx.sellMatcherFee buyOrder
    tx.buyMatcherFee tx.amount)

/-- `ApplyFilledVolumeAndFee`, in the block at `height`. -/
def applyFilledVolumeAndFee (height : Nat) (ov : OrdersVolumes κ)
    (snapshot : FilledVolumeFeeSnapshot κ) : OrdersVolumes κ :=
  storeFilled ov snapshot.orderID snapshot.filledVolume snapshot.filledFee height

/-- What an applied exchange writes: its snapshots, made and applied in the block at `height`. -/
def writeExchange (ov : OrdersVolumes κ) (height : Nat) (tx : Exchange β) : OrdersVolumes κ :=
  match performExchange orderID ov tx with
  | .ok snapshots => snapshots.foldl (applyFilledVolumeAndFee height) ov
  | .error _ => ov

end Volumes

/-! ## The newest record and the checks -/

section Records

variable {κ β : Type} [DecidableEq κ] (orderID : Order β → κ)

@[simp]
theorem newestFilled_nil (id : κ) : newestFilled ([] : OrdersVolumes κ) id = (0, 0) := rfl

theorem newestFilled_storeFilled (ov : OrdersVolumes κ) (id id' : κ) (a f : UInt64) (h : Nat) :
    newestFilled (storeFilled ov id a f h) id' =
      if id = id' then (a, f) else newestFilled ov id' := by
  by_cases hid : id = id' <;> simp [newestFilled, newestVolumeByID, storeFilled, hid]

theorem Exchange.getSellOrder_orderType {tx : Exchange β} {o : Order β}
    (h : tx.getSellOrder = .ok o) : o.orderType = .sell := by
  unfold Exchange.getSellOrder at h
  split_ifs at h with h2 h1 <;> cases h
  · exact h2
  · exact h1

theorem Exchange.getBuyOrder_orderType {tx : Exchange β} {o : Order β}
    (h : tx.getBuyOrder = .ok o) : o.orderType = .buy := by
  unfold Exchange.getBuyOrder at h
  split_ifs at h with h1 h2 <;> cases h
  · exact h1
  · exact h2

theorem sub_lt_iff_of_not_gt {full new filled : UInt64} (h : ¬new > full) :
    full - new < filled ↔ full.toNat < filled.toNat + new.toNat := by
  rw [UInt64.lt_iff_toNat_lt, UInt64.toNat_sub_of_le _ _ (UInt64.not_lt.1 h)]
  rw [gt_iff_lt, UInt64.lt_iff_toNat_lt] at h
  omega

theorem checkEnoughVolume_eq_ok_iff (ov : OrdersVolumes κ) (o : Order β) (fee amount : UInt64) :
    checkEnoughVolume orderID ov o fee amount = .ok () ↔
      (newestFilled ov (orderID o)).1.toNat + amount.toNat ≤ o.amount.toNat ∧
        (newestFilled ov (orderID o)).2.toNat + fee.toNat ≤ o.matcherFee.toNat := by
  unfold checkEnoughVolume
  dsimp only
  split_ifs with h1 h2 h3 h4
  · rw [gt_iff_lt, UInt64.lt_iff_toNat_lt] at h1
    simp only [false_iff]
    omega
  · rw [gt_iff_lt, UInt64.lt_iff_toNat_lt] at h2
    simp only [false_iff]
    omega
  · rw [sub_lt_iff_of_not_gt h1] at h3
    simp only [false_iff]
    omega
  · rw [sub_lt_iff_of_not_gt h2] at h4
    simp only [false_iff]
    omega
  · rw [sub_lt_iff_of_not_gt h1] at h3
    rw [sub_lt_iff_of_not_gt h2] at h4
    simp only [true_iff]
    omega

theorem checkExchange_eq_ok {ov : OrdersVolumes κ} {tx : Exchange β}
    (h : checkExchange orderID ov tx = .ok ()) :
    ∃ so bo, tx.getSellOrder = .ok so ∧ tx.getBuyOrder = .ok bo ∧
      checkEnoughVolume orderID ov so tx.sellMatcherFee tx.amount = .ok () ∧
      checkEnoughVolume orderID ov bo tx.buyMatcherFee tx.amount = .ok () := by
  unfold checkExchange at h
  split_ifs at h
  obtain ⟨so, hs, h⟩ := mapError_bind_eq_ok.mp h
  obtain ⟨_, hcs, h⟩ := mapError_bind_eq_ok.mp h
  obtain ⟨bo, hb, h⟩ := mapError_bind_eq_ok.mp h
  exact ⟨so, bo, hs, hb, hcs, mapError_eq_ok.mp h⟩

end Records

/-! ## What an exchange fills -/

namespace Exchange

variable {β : Type} (tx : Exchange β)

/-- The orders an exchange fills, each with the amount and the matcher fee it charges to it:
none when it lacks a sell or a buy order. -/
def fills : List (Order β × UInt64 × UInt64) :=
  match tx.getSellOrder, tx.getBuyOrder with
  | .ok so, .ok bo => [(so, tx.amount, tx.sellMatcherFee), (bo, tx.amount, tx.buyMatcherFee)]
  | _, _ => []

theorem fills_of_ok {tx : Exchange β} {so bo : Order β} (hs : tx.getSellOrder = .ok so)
    (hb : tx.getBuyOrder = .ok bo) :
    tx.fills = [(so, tx.amount, tx.sellMatcherFee), (bo, tx.amount, tx.buyMatcherFee)] := by
  simp [fills, hs, hb]

theorem fills_pairwise {κ : Type} {orderID : Order β → κ} (hid : Function.Injective orderID) :
    tx.fills.Pairwise (fun f g => orderID f.1 ≠ orderID g.1) := by
  unfold fills
  split
  · rename_i so bo hs hb
    have hne : so ≠ bo := by
      intro e
      have hso := getSellOrder_orderType hs
      rw [e, getBuyOrder_orderType hb] at hso
      cases hso
    simpa using fun e => hne (hid e)
  · exact List.Pairwise.nil

end Exchange

section Writes

variable {κ β : Type} [DecidableEq κ] (orderID : Order β → κ)

theorem writeExchange_cases (ov : OrdersVolumes κ) (h : Nat) (tx : Exchange β) :
    (∃ so bo, tx.getSellOrder = .ok so ∧ tx.getBuyOrder = .ok bo ∧
      writeExchange orderID ov h tx =
        storeFilled (storeFilled ov (orderID so)
            ((newestFilled ov (orderID so)).1 + tx.amount)
            ((newestFilled ov (orderID so)).2 + tx.sellMatcherFee) h) (orderID bo)
          ((newestFilled ov (orderID bo)).1 + tx.amount)
          ((newestFilled ov (orderID bo)).2 + tx.buyMatcherFee) h) ∨
    (tx.fills = [] ∧ writeExchange orderID ov h tx = ov) := by
  cases hs : tx.getSellOrder with
  | error e =>
    right
    simp [Exchange.fills, writeExchange, performExchange, hs, Except.mapError]
  | ok so =>
    cases hb : tx.getBuyOrder with
    | error e =>
      right
      simp [Exchange.fills, writeExchange, performExchange, hs, hb, Except.mapError]
    | ok bo =>
      left
      refine ⟨so, bo, rfl, rfl, ?_⟩
      simp [writeExchange, performExchange, hs, hb, Except.mapError, generateSnapshotForExchangeTx,
        generateOrderAtomicSnapshot, applyFilledVolumeAndFee, storeFilled]

theorem checkExchange_fills {ov : OrdersVolumes κ} {tx : Exchange β}
    (h : checkExchange orderID ov tx = .ok ()) :
    ∀ g ∈ tx.fills, checkEnoughVolume orderID ov g.1 g.2.2 g.2.1 = .ok () := by
  obtain ⟨so, bo, hs, hb, hcs, hcb⟩ := checkExchange_eq_ok orderID h
  rw [Exchange.fills_of_ok hs hb]
  intro g hg
  simp only [List.mem_cons, List.not_mem_nil, or_false] at hg
  rcases hg with rfl | rfl
  · exact hcs
  · exact hcb

theorem newestFilled_writeExchange_of_not_mem (ov : OrdersVolumes κ) (h : Nat) {tx : Exchange β}
    {id : κ} (hn : ∀ g ∈ tx.fills, orderID g.1 ≠ id) :
    newestFilled (writeExchange orderID ov h tx) id = newestFilled ov id := by
  rcases writeExchange_cases orderID ov h tx with ⟨so, bo, hs, hb, hw⟩ | ⟨-, hw⟩
  · rw [Exchange.fills_of_ok hs hb] at hn
    simp only [List.mem_cons, List.not_mem_nil, or_false, forall_eq_or_imp, forall_eq] at hn
    simp [hw, newestFilled_storeFilled, hn.1, hn.2]
  · rw [hw]

section Injective

variable {orderID} (hid : Function.Injective orderID)
include hid

theorem newestFilled_writeExchange_of_mem (ov : OrdersVolumes κ) (h : Nat) {tx : Exchange β}
    {g : Order β × UInt64 × UInt64} (hg : g ∈ tx.fills) :
    newestFilled (writeExchange orderID ov h tx) (orderID g.1) =
      ((newestFilled ov (orderID g.1)).1 + g.2.1, (newestFilled ov (orderID g.1)).2 + g.2.2) := by
  rcases writeExchange_cases orderID ov h tx with ⟨so, bo, hs, hb, hw⟩ | ⟨hnil, -⟩
  · have hne : orderID so ≠ orderID bo := by
      simpa [Exchange.fills_of_ok hs hb] using tx.fills_pairwise hid
    rw [Exchange.fills_of_ok hs hb] at hg
    simp only [List.mem_cons, List.not_mem_nil, or_false] at hg
    rw [hw]
    rcases hg with rfl | rfl
    · simp [newestFilled_storeFilled, Ne.symm hne]
    · simp [newestFilled_storeFilled]
  · rw [hnil] at hg
    cases hg

end Injective

theorem writeExchange_eq_append (ov : OrdersVolumes κ) (h : Nat) (tx : Exchange β) :
    ∃ new, writeExchange orderID ov h tx = ov ++ new ∧ ∀ e ∈ new, e.1 = h := by
  rcases writeExchange_cases orderID ov h tx with ⟨so, bo, -, -, hw⟩ | ⟨-, hw⟩
  · refine ⟨_, by rw [hw, storeFilled, storeFilled, List.append_assoc, List.singleton_append], ?_⟩
    simp
  · exact ⟨[], by rw [hw, List.append_nil], by simp⟩

end Writes

/-! ## What the filled values should be

The totals of what the applied exchanges charge to each order, and the records they write one
after the other: the filled values the code must keep. -/

section Totals

variable {κ β : Type} [DecidableEq κ] (orderID : Order β → κ)

/-- What the exchanges `applied` charge to the order with ID `id`: an amount and a matcher fee
per fill, in the order of the exchanges. -/
def chargesTo (applied : List (Nat × Exchange β)) (id : κ) : List (UInt64 × UInt64) :=
  (applied.flatMap (·.2.fills)).filterMap fun f => if orderID f.1 = id then some f.2 else none

/-- The sum of the amounts and the sum of the fees of a list of charges. -/
def total (cs : List (UInt64 × UInt64)) : Nat × Nat :=
  ((cs.map (·.1.toNat)).sum, (cs.map (·.2.toNat)).sum)

/-- The records that the exchanges `applied` write, one after the other, each in its block. -/
def historyOf (applied : List (Nat × Exchange β)) : OrdersVolumes κ :=
  applied.foldl (fun ov a => writeExchange orderID ov a.1 a.2) []

/-- The newest filled values of every order are, read as numbers, the totals charged to it. -/
def Agrees (ov : OrdersVolumes κ) (applied : List (Nat × Exchange β)) : Prop :=
  ∀ id, ((newestFilled ov id).1.toNat, (newestFilled ov id).2.toNat) =
    total (chargesTo orderID applied id)

/-- No order of the exchanges `applied` is charged past its amount or its matcher fee. -/
def Bounded (applied : List (Nat × Exchange β)) : Prop :=
  ∀ a ∈ applied, ∀ f ∈ a.2.fills,
    (total (chargesTo orderID applied (orderID f.1))).1 ≤ f.1.amount.toNat ∧
      (total (chargesTo orderID applied (orderID f.1))).2 ≤ f.1.matcherFee.toNat

@[simp]
theorem chargesTo_append (l₁ l₂ : List (Nat × Exchange β)) (id : κ) :
    chargesTo orderID (l₁ ++ l₂) id = chargesTo orderID l₁ id ++ chargesTo orderID l₂ id := by
  simp [chargesTo]

@[simp]
theorem total_nil : total [] = (0, 0) := rfl

@[simp]
theorem total_append (c₁ c₂ : List (UInt64 × UInt64)) :
    total (c₁ ++ c₂) = ((total c₁).1 + (total c₂).1, (total c₁).2 + (total c₂).2) := by
  simp [total]

theorem historyOf_append_singleton (applied : List (Nat × Exchange β)) (a : Nat × Exchange β) :
    historyOf orderID (applied ++ [a]) = writeExchange orderID (historyOf orderID applied) a.1 a.2 := by
  simp [historyOf]

theorem chargesTo_single_of_not_mem (h : Nat) {tx : Exchange β} {id : κ}
    (hn : ∀ g ∈ tx.fills, orderID g.1 ≠ id) : chargesTo orderID [(h, tx)] id = [] := by
  simpa [chargesTo] using hn

theorem total_chargesTo_single_of_mem {orderID : Order β → κ} (hid : Function.Injective orderID)
    (h : Nat) {tx : Exchange β} {g : Order β × UInt64 × UInt64} (hg : g ∈ tx.fills) :
    total (chargesTo orderID [(h, tx)] (orderID g.1)) = (g.2.1.toNat, g.2.2.toNat) := by
  unfold Exchange.fills at hg
  split at hg
  · rename_i so bo hs hb
    have hne : orderID so ≠ orderID bo := by
      simpa [Exchange.fills_of_ok hs hb] using tx.fills_pairwise hid
    simp only [List.mem_cons, List.not_mem_nil, or_false] at hg
    rcases hg with rfl | rfl
    · simp [chargesTo, Exchange.fills_of_ok hs hb, Ne.symm hne, total]
    · simp [chargesTo, Exchange.fills_of_ok hs hb, hne, total]
  · cases hg

theorem total_chargesTo_le_of_sublist {l₁ l₂ : List (Nat × Exchange β)} (h : List.Sublist l₁ l₂) (id : κ) :
    (total (chargesTo orderID l₁ id)).1 ≤ (total (chargesTo orderID l₂ id)).1 ∧
      (total (chargesTo orderID l₁ id)).2 ≤ (total (chargesTo orderID l₂ id)).2 := by
  have hc : List.Sublist (chargesTo orderID l₁ id) (chargesTo orderID l₂ id) :=
    (h.flatMap _).filterMap _
  exact ⟨(hc.map _).sum_le_sum (fun _ _ => Nat.zero_le _),
    (hc.map _).sum_le_sum (fun _ _ => Nat.zero_le _)⟩

theorem bounded_of_sublist {l₁ l₂ : List (Nat × Exchange β)} (h : List.Sublist l₁ l₂)
    (hb : Bounded orderID l₂) : Bounded orderID l₁ := by
  intro a ha f hf
  have hle := total_chargesTo_le_of_sublist orderID h (orderID f.1)
  have hb₂ := hb a (h.subset ha) f hf
  exact ⟨hle.1.trans hb₂.1, hle.2.trans hb₂.2⟩

section Injective

variable {orderID} (hid : Function.Injective orderID)
include hid

theorem agrees_writeExchange {ov : OrdersVolumes κ} {applied : List (Nat × Exchange β)}
    (hA : Agrees orderID ov applied) (h : Nat) (tx : Exchange β)
    (hfit : ∀ g ∈ tx.fills,
      (total (chargesTo orderID (applied ++ [(h, tx)]) (orderID g.1))).1 < 2 ^ 64 ∧
        (total (chargesTo orderID (applied ++ [(h, tx)]) (orderID g.1))).2 < 2 ^ 64) :
    Agrees orderID (writeExchange orderID ov h tx) (applied ++ [(h, tx)]) := by
  intro id
  by_cases hm : ∃ g ∈ tx.fills, orderID g.1 = id
  · obtain ⟨g, hg, rfl⟩ := hm
    have hfg := hfit g hg
    simp only [chargesTo_append, total_append, total_chargesTo_single_of_mem hid h hg,
      ← hA (orderID g.1)] at hfg ⊢
    rw [newestFilled_writeExchange_of_mem hid ov h hg, UInt64.toNat_add, UInt64.toNat_add,
      Nat.mod_eq_of_lt hfg.1, Nat.mod_eq_of_lt hfg.2]
  · simp only [not_exists, not_and] at hm
    rw [newestFilled_writeExchange_of_not_mem orderID ov h hm, chargesTo_append,
      chargesTo_single_of_not_mem orderID h hm, List.append_nil]
    exact hA id

/-- The records the applied exchanges write hold, for every order, the totals charged to it,
when no order is charged past its amount or matcher fee.  The induction runs over the exchanges
from the last one back; the bounds of the whole run give the bounds of every prefix. -/
theorem newestFilled_historyOf :
    ∀ {applied : List (Nat × Exchange β)}, Bounded orderID applied →
      Agrees orderID (historyOf orderID applied) applied := by
  intro applied
  induction applied using List.reverseRecOn with
  | nil => intro _ id; rfl
  | append_singleton l a ih =>
    intro hb
    have hl := ih (bounded_of_sublist orderID (List.sublist_append_left l [a]) hb)
    rw [historyOf_append_singleton]
    refine agrees_writeExchange hid hl a.1 a.2 fun g hg => ?_
    have hg' := hb a (by simp) g hg
    exact ⟨hg'.1.trans_lt g.1.amount.toNat_lt, hg'.2.trans_lt g.1.matcherFee.toNat_lt⟩

theorem bounded_append_of_check {ov : OrdersVolumes κ} {applied : List (Nat × Exchange β)}
    (hA : Agrees orderID ov applied) (hb : Bounded orderID applied) (h : Nat) {tx : Exchange β}
    (hc : checkExchange orderID ov tx = .ok ()) : Bounded orderID (applied ++ [(h, tx)]) := by
  intro a ha f hf
  by_cases hm : ∃ g ∈ tx.fills, orderID g.1 = orderID f.1
  · obtain ⟨g, hg, he⟩ := hm
    have hfg : f.1 = g.1 := hid he.symm
    have hcg := (checkEnoughVolume_eq_ok_iff orderID ov g.1 g.2.2 g.2.1).1
      (checkExchange_fills orderID hc g hg)
    obtain ⟨hA1, hA2⟩ := Prod.ext_iff.1 (hA (orderID g.1))
    dsimp only at hA1 hA2
    simp only [chargesTo_append, total_append, total_chargesTo_single_of_mem hid h hg, hfg]
    omega
  · simp only [not_exists, not_and] at hm
    rw [chargesTo_append, chargesTo_single_of_not_mem orderID h hm, List.append_nil]
    rcases List.mem_append.1 ha with ha | ha
    · exact hb a ha f hf
    · simp only [List.mem_singleton] at ha
      subst ha
      exact absurd rfl (hm f hf)

theorem Bounded.total_le {applied : List (Nat × Exchange β)} (hb : Bounded orderID applied)
    (o : Order β) :
    (total (chargesTo orderID applied (orderID o))).1 ≤ o.amount.toNat ∧
      (total (chargesTo orderID applied (orderID o))).2 ≤ o.matcherFee.toNat := by
  by_cases hm : ∃ a ∈ applied, ∃ f ∈ a.2.fills, orderID f.1 = orderID o
  · obtain ⟨a, ha, f, hf, he⟩ := hm
    rw [← hid he]
    exact hb a ha f hf
  · have hnil : chargesTo orderID applied (orderID o) = [] := by
      refine List.filterMap_eq_nil_iff.2 fun f hf => ?_
      obtain ⟨a, ha, hf⟩ := List.mem_flatMap.1 hf
      simp only [ite_eq_right_iff, reduceCtorEq, imp_false]
      exact fun he => hm ⟨a, ha, f, hf, he⟩
    simp [hnil]

end Injective

/-- A rollback drops exactly the records of the exchanges above its height, when the exchanges
stand in the order of their blocks. -/
theorem filter_historyOf (height : Nat) :
    ∀ {applied : List (Nat × Exchange β)}, applied.Pairwise (·.1 ≤ ·.1) →
      (historyOf orderID applied).filter (·.1 ≤ height) =
        historyOf orderID (applied.filter (·.1 ≤ height)) := by
  intro applied
  induction applied using List.reverseRecOn with
  | nil => intro _; rfl
  | append_singleton l a ih =>
    intro hs
    rw [List.pairwise_append] at hs
    obtain ⟨hl, -, hla⟩ := hs
    obtain ⟨new, hnew, hnewh⟩ := writeExchange_eq_append orderID (historyOf orderID l) a.1 a.2
    rw [historyOf_append_singleton, hnew, List.filter_append, ih hl, List.filter_append]
    by_cases ha : a.1 ≤ height
    · have hl' : l.filter (·.1 ≤ height) = l :=
        List.filter_eq_self.2 fun b hb => by simpa using (hla b hb a (by simp)).trans ha
      have hnew' : new.filter (·.1 ≤ height) = new :=
        List.filter_eq_self.2 fun e he => by simpa [hnewh e he] using ha
      rw [hl', hnew', List.filter_singleton, decide_eq_true ha, cond_true,
        historyOf_append_singleton, hnew]
    · have hnew' : new.filter (·.1 ≤ height) = [] :=
        List.filter_eq_nil_iff.2 fun e he => by simpa [hnewh e he] using ha
      rw [hnew', List.append_nil, List.filter_singleton, decide_eq_false ha, cond_false,
        List.append_nil]

end Totals

/-! ## Runs -/

/-- The state of a node, as far as order volumes go. -/
structure VolumeState (κ β : Type) where
  height : Nat
  volumes : OrdersVolumes κ
  /-- The exchanges applied so far, with the heights of their blocks. -/
  applied : List (Nat × Exchange β)

/-- A step of a run: an exchange that succeeds or fails, a new block, a rollback. -/
inductive VolumeOp (β : Type) where
  | exchange (tx : Exchange β) (status : Bool)
  | nextBlock
  | rollback (height : Nat)

namespace VolumeState

variable {κ β : Type} [DecidableEq κ] (orderID : Order β → κ)

/-- A state with nothing filled. -/
def init : VolumeState κ β := ⟨0, [], []⟩

/-- One step: an exchange is checked and, when it succeeds, its snapshots are applied; a failed
one changes no volume; a rollback drops the records of the blocks above its height. -/
def step (s : VolumeState κ β) : VolumeOp β → VolumeState κ β
  | .exchange tx status =>
    match checkExchange orderID s.volumes tx with
    | .error _ => s
    | .ok () =>
      if status then
        { s with
          volumes := writeExchange orderID s.volumes s.height tx
          applied := s.applied ++ [(s.height, tx)] }
      else s
  | .nextBlock => { s with height := s.height + 1 }
  | .rollback h =>
    if h ≤ s.height then ⟨h, s.volumes.filter (·.1 ≤ h), s.applied.filter (·.1 ≤ h)⟩ else s

/-- A run. -/
def run (s : VolumeState κ β) : List (VolumeOp β) → VolumeState κ β
  | [] => s
  | op :: ops => run (s.step orderID op) ops

/-! ### The invariant -/

/-- What every state reached from `init` keeps. -/
structure Inv (s : VolumeState κ β) : Prop where
  /-- The records are those the applied exchanges write. -/
  history : s.volumes = historyOf orderID s.applied
  /-- The applied exchanges stand in the order of their blocks. -/
  sorted : s.applied.Pairwise (·.1 ≤ ·.1)
  below : ∀ a ∈ s.applied, a.1 ≤ s.height
  bounded : Bounded orderID s.applied

theorem inv_init : Inv orderID (init : VolumeState κ β) :=
  ⟨rfl, List.Pairwise.nil, by simp [init], by simp [Bounded, init]⟩

variable {orderID}

theorem Inv.agrees (hid : Function.Injective orderID) {s : VolumeState κ β}
    (hi : Inv orderID s) : Agrees orderID s.volumes s.applied :=
  hi.history ▸ newestFilled_historyOf hid hi.bounded

theorem step_exchange_of_check {s : VolumeState κ β} {tx : Exchange β}
    (hc : checkExchange orderID s.volumes tx ≠ .ok ()) (status : Bool) :
    s.step orderID (.exchange tx status) = s := by
  simp only [step]
  split
  · rfl
  · rename_i hc'
    exact absurd hc' hc

theorem inv_exchange (hid : Function.Injective orderID) {s : VolumeState κ β}
    (hi : Inv orderID s) (tx : Exchange β) (status : Bool) :
    Inv orderID (s.step orderID (.exchange tx status)) := by
  simp only [step]
  split
  · exact hi
  · rename_i hc
    cases status
    · exact hi
    · rw [if_pos rfl]
      refine ⟨?_, ?_, ?_, bounded_append_of_check hid (hi.agrees hid) hi.bounded s.height hc⟩
      · rw [hi.history, historyOf_append_singleton]
      · refine List.pairwise_append.2 ⟨hi.sorted, by simp, fun a ha b hb => ?_⟩
        simp only [List.mem_singleton] at hb
        subst hb
        exact hi.below a ha
      · intro a ha
        rcases List.mem_append.1 ha with ha | ha
        · exact hi.below a ha
        · rw [List.mem_singleton.1 ha]

theorem inv_nextBlock {s : VolumeState κ β} (hi : Inv orderID s) :
    Inv orderID (s.step orderID .nextBlock) :=
  ⟨hi.history, hi.sorted, fun a ha => (hi.below a ha).trans (Nat.le_succ _), hi.bounded⟩

theorem inv_rollback {s : VolumeState κ β} (hi : Inv orderID s) (h : Nat) :
    Inv orderID (s.step orderID (.rollback h)) := by
  simp only [step]
  split_ifs with hh
  · refine ⟨?_, hi.sorted.sublist List.filter_sublist, ?_,
      bounded_of_sublist orderID List.filter_sublist hi.bounded⟩
    · rw [hi.history, filter_historyOf orderID h hi.sorted]
    · intro a ha
      simpa using (List.mem_filter.1 ha).2
  · exact hi

theorem inv_step (hid : Function.Injective orderID) {s : VolumeState κ β} (hi : Inv orderID s) :
    ∀ op, Inv orderID (s.step orderID op)
  | .exchange tx status => inv_exchange hid hi tx status
  | .nextBlock => inv_nextBlock hi
  | .rollback h => inv_rollback hi h

theorem inv_run (hid : Function.Injective orderID) :
    ∀ (ops : List (VolumeOp β)) {s : VolumeState κ β}, Inv orderID s → Inv orderID (s.run orderID ops)
  | [], _, hi => hi
  | op :: ops, _, hi => inv_run hid ops (inv_step hid hi op)

theorem step_of_overfill (hid : Function.Injective orderID) {s : VolumeState κ β}
    (hi : Inv orderID s) {tx : Exchange β} {g : Order β × UInt64 × UInt64} (hg : g ∈ tx.fills)
    (hover : g.1.amount.toNat < (total (chargesTo orderID s.applied (orderID g.1))).1 + g.2.1.toNat ∨
      g.1.matcherFee.toNat < (total (chargesTo orderID s.applied (orderID g.1))).2 + g.2.2.toNat) :
    checkEnoughVolume orderID s.volumes g.1 g.2.2 g.2.1 ≠ .ok () ∧
      ∀ status, s.step orderID (.exchange tx status) = s := by
  obtain ⟨hA1, hA2⟩ := Prod.ext_iff.1 (hi.agrees hid (orderID g.1))
  dsimp only at hA1 hA2
  have hne : checkEnoughVolume orderID s.volumes g.1 g.2.2 g.2.1 ≠ .ok () := by
    rw [Ne, checkEnoughVolume_eq_ok_iff]
    omega
  exact ⟨hne, step_exchange_of_check fun hc => hne (checkExchange_fills orderID hc g hg)⟩

/-- A second exchange of 5 on a sell order of 10 of which 6 are filled is refused. -/
example :
    let sell : Order Unit := ⟨.sell, 10, 3, ()⟩
    newestFilled ((init : VolumeState (Order Unit) Unit).run (fun o => o)
      [.exchange ⟨⟨.buy, 6, 2, ()⟩, sell, 6, 2, 2, true⟩ true,
        .exchange ⟨⟨.buy, 5, 2, ()⟩, sell, 5, 1, 1, true⟩ true]).volumes sell = (6, 2) := by
  decide

/-- **Orders are never over-filled.**  After any run of exchanges, applied or failed, new
blocks and rollbacks, the filled amount and fee recorded for every order are the sums of the
amounts and matcher fees charged to it by the applied exchanges, and never pass the order's
amount and matcher fee; an exchange that would pass either fails `checkEnoughVolume` and leaves
the state as it is; and a failed exchange leaves the records as they are. -/
theorem run_ordersNeverOverfilled (hid : Function.Injective orderID) (ops : List (VolumeOp β)) :
    let s := (init : VolumeState κ β).run orderID ops
    (∀ id, ((newestFilled s.volumes id).1.toNat, (newestFilled s.volumes id).2.toNat) =
      total (chargesTo orderID s.applied id)) ∧
    (∀ o : Order β, (newestFilled s.volumes (orderID o)).1.toNat ≤ o.amount.toNat ∧
      (newestFilled s.volumes (orderID o)).2.toNat ≤ o.matcherFee.toNat) ∧
    (∀ tx, ∀ g ∈ tx.fills,
      (g.1.amount.toNat < (total (chargesTo orderID s.applied (orderID g.1))).1 + g.2.1.toNat ∨
        g.1.matcherFee.toNat < (total (chargesTo orderID s.applied (orderID g.1))).2 + g.2.2.toNat) →
      checkEnoughVolume orderID s.volumes g.1 g.2.2 g.2.1 ≠ .ok () ∧
        ∀ status, s.step orderID (.exchange tx status) = s) ∧
    (∀ tx, (s.step orderID (.exchange tx false)).volumes = s.volumes) := by
  intro s
  have hi : Inv orderID s := inv_run hid ops (inv_init orderID)
  refine ⟨hi.agrees hid, fun o => ?_, fun tx g hg hover => step_of_overfill hid hi hg hover,
    fun tx => ?_⟩
  · obtain ⟨hA1, hA2⟩ := Prod.ext_iff.1 (hi.agrees hid (orderID o))
    dsimp only at hA1 hA2
    rw [hA1, hA2]
    exact hi.bounded.total_le hid o
  · simp only [step]
    split <;> simp

theorem run_ordersNeverOverfilled_sharedSellOrder :
    let orderID : Order Unit → Order Unit := fun o => o
    let sell : Order Unit := ⟨.sell, 10, 3, ()⟩
    let tx₁ : Exchange Unit := ⟨⟨.buy, 6, 2, ()⟩, sell, 6, 2, 2, true⟩
    let tx₂ : Exchange Unit := ⟨⟨.buy, 4, 1, ()⟩, sell, 4, 1, 1, true⟩
    let s := (init : VolumeState (Order Unit) Unit).run orderID
      [.exchange tx₁ true, .nextBlock, .exchange tx₂ true, .rollback 0]
    Function.Injective orderID ∧
    (∀ id, ((newestFilled s.volumes id).1.toNat, (newestFilled s.volumes id).2.toNat) =
      total (chargesTo orderID s.applied id)) ∧
    (∀ o : Order Unit, (newestFilled s.volumes (orderID o)).1.toNat ≤ o.amount.toNat ∧
      (newestFilled s.volumes (orderID o)).2.toNat ≤ o.matcherFee.toNat) ∧
    (∀ tx, ∀ g ∈ tx.fills,
      (g.1.amount.toNat < (total (chargesTo orderID s.applied (orderID g.1))).1 + g.2.1.toNat ∨
        g.1.matcherFee.toNat < (total (chargesTo orderID s.applied (orderID g.1))).2 + g.2.2.toNat) →
      checkEnoughVolume orderID s.volumes g.1 g.2.2 g.2.1 ≠ .ok () ∧
        ∀ status, s.step orderID (.exchange tx status) = s) ∧
    (∀ tx, (s.step orderID (.exchange tx false)).volumes = s.volumes) :=
  ⟨fun _ _ h => h, run_ordersNeverOverfilled (fun _ _ h => h) _⟩

end VolumeState

end Gowaves.State
