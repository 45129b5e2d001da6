import Gowaves.GoLib.Outcome
import Gowaves.GoLib.BigEndian

/-!
# Go slices and their runtime bounds checks

A Go slice is a window on a backing array: `s[i]` may read the first `len(s)` elements, but a
slice expression `s[lo:hi]` may reach up to `cap(s)`, past the length.  Decoders that reslice
their input without checking lengths therefore either panic or silently read bytes beyond the
slice they were given, and which of the two happens depends on the capacity.  The model keeps
both numbers: `window` is the backing array from the slice's first element to the end of its
capacity, and `len ≤ window.length` is a field, so no slice with a length beyond its capacity
can be built.

Operations, each an `Outcome` that panics exactly when the Go runtime does:

* `index s i` — `s[i]`, in range iff `i < len(s)`;
* `slice s lo hi` — `s[lo:hi]`, in range iff `lo ≤ hi ≤ cap(s)` (the runtime checks `hi` first);
* `sliceFrom s lo` — `s[lo:]`, in range iff `lo ≤ len(s)`;
* `sliceTo s hi` — `s[:hi]`, in range iff `hi ≤ cap(s)`;
* `uint16 s`, `uint32 s`, `uint64 s` — `binary.BigEndian.UintN(s)`, which first touch
  `s[N/8 - 1]` and so panic on a slice shorter than `N/8`.

A slice made from a byte string by the program (`Slice.ofList`) has its capacity equal to its
length.  Results: `sliceFrom_ok` and `slice_ok` give the values when the bounds hold, and the
`*_panic` lemmas the panics when they do not; `toList_slice_of_le_len` says that within the
length a reslice sees exactly the bytes of the slice.
-/

set_option autoImplicit false

namespace GoLib

/-- A Go slice: `len` elements visible, `window.length` its capacity. -/
structure Slice (α : Type) where
  window : List α
  len : Nat
  len_le : len ≤ window.length

namespace Slice

variable {α ε : Type}

/-- `cap(s)`. -/
def cap (s : Slice α) : Nat := s.window.length

/-- The elements of the slice. -/
def toList (s : Slice α) : List α := s.window.take s.len

/-- A freshly allocated slice holding `l`: its capacity is its length. -/
def ofList (l : List α) : Slice α := ⟨l, l.length, le_refl _⟩

/-- The panic reason of an index out of range. -/
def indexPanic (i n : Nat) : String :=
  "runtime error: index out of range [" ++ toString i ++ "] with length " ++ toString n

/-- The panic reason of a slice expression whose high bound is beyond the capacity. -/
def sliceCapPanic (hi n : Nat) : String :=
  "runtime error: slice bounds out of range [:" ++ toString hi ++ "] with capacity " ++
    toString n

/-- The panic reason of a slice expression whose low bound is above its high bound (for
`s[lo:]`, the length). -/
def sliceOrderPanic (lo hi : Nat) : String :=
  "runtime error: slice bounds out of range [" ++ toString lo ++ ":" ++ toString hi ++ "]"

/-- `s[i]`. -/
def index [Inhabited α] (s : Slice α) (i : Nat) : Outcome ε α :=
  if i < s.len then .ok (s.window.getD i default) else .panic (indexPanic i s.len)

/-- `s[lo:hi]`. -/
def slice (s : Slice α) (lo hi : Nat) : Outcome ε (Slice α) :=
  if hc : hi ≤ s.cap then
    if h : lo ≤ hi then
      .ok ⟨s.window.drop lo, hi - lo, by simp only [List.length_drop, cap] at hc ⊢; omega⟩
    else .panic (sliceOrderPanic lo hi)
  else .panic (sliceCapPanic hi s.cap)

/-- `s[lo:]`. -/
def sliceFrom (s : Slice α) (lo : Nat) : Outcome ε (Slice α) :=
  if h : lo ≤ s.len then
    .ok ⟨s.window.drop lo, s.len - lo, by have := s.len_le; simp only [List.length_drop]; omega⟩
  else .panic (sliceOrderPanic lo s.len)

/-- `s[:hi]`. -/
def sliceTo (s : Slice α) (hi : Nat) : Outcome ε (Slice α) := s.slice 0 hi

@[simp] theorem toList_ofList (l : List α) : (ofList l).toList = l := by
  simp [toList, ofList]

@[simp] theorem len_ofList (l : List α) : (ofList l).len = l.length := rfl

@[simp] theorem cap_ofList (l : List α) : (ofList l).cap = l.length := rfl

@[simp] theorem window_ofList (l : List α) : (ofList l).window = l := rfl

theorem length_toList (s : Slice α) : s.toList.length = s.len := by
  have := s.len_le
  simp [toList]; omega

theorem sliceFrom_ok (s : Slice α) {lo : Nat} (h : lo ≤ s.len) :
    ∃ t : Slice α, (s.sliceFrom lo : Outcome ε (Slice α)) = .ok t ∧
      t.toList = s.toList.drop lo ∧ t.len = s.len - lo ∧ t.cap = s.cap - lo := by
  have hle := s.len_le
  refine ⟨⟨s.window.drop lo, s.len - lo, by simp only [List.length_drop]; omega⟩,
    by simp [sliceFrom, h], ?_, rfl, by simp [cap]⟩
  simp [toList, List.drop_take]

theorem sliceFrom_panic (s : Slice α) {lo : Nat} (h : s.len < lo) :
    (s.sliceFrom lo : Outcome ε (Slice α)) = .panic (sliceOrderPanic lo s.len) := by
  simp [sliceFrom, show ¬ lo ≤ s.len by omega]

theorem sliceFrom_ofList (l : List α) {lo : Nat} (h : lo ≤ l.length) :
    ((ofList l).sliceFrom lo : Outcome ε (Slice α)) = .ok (ofList (l.drop lo)) := by
  simp [sliceFrom, ofList, h]

theorem slice_ok (s : Slice α) {lo hi : Nat} (h : lo ≤ hi) (hc : hi ≤ s.cap) :
    ∃ t : Slice α, (s.slice lo hi : Outcome ε (Slice α)) = .ok t ∧
      t.toList = (s.window.take hi).drop lo ∧ t.len = hi - lo ∧ t.cap = s.cap - lo := by
  refine ⟨⟨s.window.drop lo, hi - lo, by simp only [List.length_drop, cap] at hc ⊢; omega⟩,
    by simp [slice, h, hc], ?_, rfl, by simp [cap]⟩
  simp [toList, List.drop_take]

theorem sliceTo_ok (s : Slice α) {hi : Nat} (h : hi ≤ s.cap) :
    (s.sliceTo hi : Outcome ε (Slice α)) = .ok ⟨s.window, hi, h⟩ := by
  simp [sliceTo, slice, h]

theorem slice_cap_panic (s : Slice α) {lo hi : Nat} (h : s.cap < hi) :
    (s.slice lo hi : Outcome ε (Slice α)) = .panic (sliceCapPanic hi s.cap) := by
  simp [slice, show ¬ hi ≤ s.cap by omega]

theorem slice_order_panic (s : Slice α) {lo hi : Nat} (hc : hi ≤ s.cap) (h : hi < lo) :
    (s.slice lo hi : Outcome ε (Slice α)) = .panic (sliceOrderPanic lo hi) := by
  simp [slice, hc, show ¬ lo ≤ hi by omega]

/-- Within the length, a reslice `s[lo:hi]` sees exactly those elements of `s`. -/
theorem toList_slice_of_le_len (s : Slice α) {lo hi : Nat} (hl : hi ≤ s.len) :
    (s.window.take hi).drop lo = (s.toList.take hi).drop lo := by
  simp [toList, List.take_take, Nat.min_eq_left hl]

/-! ## Big-endian reads -/

/-- `binary.BigEndian.Uint16`: the bounds check `_ = b[1]`, then the first two bytes. -/
def uint16 (s : Slice UInt8) : Outcome ε UInt16 :=
  if 2 ≤ s.len then .ok (BigEndian.ofBytes (s.toList.take 2)).toUInt16
  else .panic (indexPanic 1 s.len)

/-- `binary.BigEndian.Uint32`: the bounds check `_ = b[3]`, then the first four bytes. -/
def uint32 (s : Slice UInt8) : Outcome ε UInt32 :=
  if 4 ≤ s.len then .ok (BigEndian.ofBytes (s.toList.take 4)).toUInt32
  else .panic (indexPanic 3 s.len)

/-- `binary.BigEndian.Uint64`: the bounds check `_ = b[7]`, then the first eight bytes. -/
def uint64 (s : Slice UInt8) : Outcome ε UInt64 :=
  if 8 ≤ s.len then .ok (BigEndian.ofBytes (s.toList.take 8)).toUInt64
  else .panic (indexPanic 7 s.len)

theorem uint16_panic (s : Slice UInt8) (h : s.len < 2) :
    (s.uint16 : Outcome ε UInt16) = .panic (indexPanic 1 s.len) := by
  simp [uint16, show ¬ 2 ≤ s.len by omega]

end Slice

end GoLib
