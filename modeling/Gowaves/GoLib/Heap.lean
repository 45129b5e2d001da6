import Mathlib.Data.List.Basic

/-!
# Go slices over shared backing arrays: `append` and `runtime.growslice`

`GoLib.Slice` models a slice that is read; a slice that is *appended to* needs the arrays
themselves, since several slices may share one.  A slice value is a `Header` — the array, a
length and a capacity — into a `Heap` of backing arrays, and `append(s, es...)`

* writes `es` into the array of `s` after its length when they fit in its capacity, and
  returns a header with the new length over the *same* array;
* otherwise copies `s[0:len]` and `es` into a new array of the capacity `growslice` picks:
  `nextslicecap` (double below 256, then grow by a quarter and 192), rounded up by the
  allocator's size classes (`roundupsize`, with the malloc header of pointerful objects over
  512 bytes).

Results: `read_append` — the header `append` returns shows the old elements and then `es`;
`read_append_frame` — no header over the array that is no longer than `s` sees the write, and
headers over other arrays see nothing at all; `append_append_alias` — but two appends of one
element to one header with spare capacity write the same cell, so the first result shows the
element of the second.
-/

set_option autoImplicit false

namespace GoLib.Heap

/-! ## The allocator -/

/-- `class_to_size` of `runtime/sizeclasses.go`, the sizes of the small-object classes. -/
def classToSize : List Nat :=
  [0, 8, 16, 24, 32, 48, 64, 80, 96, 112, 128, 144, 160, 176, 192, 208, 224, 240, 256, 288, 320,
    352, 384, 416, 448, 480, 512, 576, 640, 704, 768, 896, 1024, 1152, 1280, 1408, 1536, 1792,
    2048, 2304, 2688, 3072, 3200, 3456, 4096, 4864, 5376, 6144, 6528, 6784, 6912, 8192, 9472,
    9728, 10240, 10880, 12288, 13568, 14336, 16384, 18432, 19072, 20480, 21760, 24576, 27264,
    28672, 32768]

def maxSmallSize : Nat := 32768

def mallocHeaderSize : Nat := 8

/-- `minSizeForMallocHeader` on a 64-bit platform. -/
def minSizeForMallocHeader : Nat := 512

def pageSize : Nat := 8192

/-- The size of the least class that holds `size` bytes: what the tables `size_to_class8` and
`size_to_class128` look up. -/
def sizeClassFor (size : Nat) : Nat := (classToSize.find? (size ≤ ·)).getD size

/-- `roundupsize`: the bytes `mallocgc` gives for a request of `size`, less the malloc header it
adds to a pointerful object. -/
def roundupsize (size : Nat) (noscan : Bool) : Nat :=
  if size ≤ maxSmallSize - mallocHeaderSize then
    let reqSize := if !noscan && minSizeForMallocHeader < size then size + mallocHeaderSize else size
    sizeClassFor reqSize - (reqSize - size)
  else (size + pageSize - 1) / pageSize * pageSize

/-- The loop of `nextslicecap` above the threshold, from `newcap` on. -/
def growQuarter : Nat → Nat → Nat → Nat
  | 0, newcap, _ => newcap
  | fuel + 1, newcap, newLen =>
    let newcap := newcap + (newcap + 3 * 256) / 4
    if newLen ≤ newcap then newcap else growQuarter fuel newcap newLen

/-- `nextslicecap`: the capacity asked for when `newLen` elements outgrow `oldCap`.  Each turn of
the loop adds at least 192, so `newLen` turns are enough. -/
def nextSliceCap (newLen oldCap : Nat) : Nat :=
  let doublecap := oldCap + oldCap
  if doublecap < newLen then newLen
  else if oldCap < 256 then doublecap
  else growQuarter newLen oldCap newLen

/-- The capacity `growslice` gives a slice of pointerful elements of `elemSize` bytes. -/
def growCap (elemSize newLen oldCap : Nat) : Nat :=
  roundupsize (nextSliceCap newLen oldCap * elemSize) false / elemSize

/-! ## Headers and arrays -/

/-- A slice header: the backing array, the length and the capacity. -/
structure Header where
  array : Nat
  len : Nat
  cap : Nat
  deriving DecidableEq, Repr

/-- The backing arrays, each as its cells. -/
abbrev Heap (α : Type) := List (List α)

variable {α : Type}

/-- The cells of array `a`. -/
def cells (h : Heap α) (a : Nat) : List α := h.getD a []

/-- `s[0:len]`: the elements a header shows. -/
def read (h : Heap α) (s : Header) : List α := (cells h s.array).take s.len

/-- A header shows cells of its array: its length is at most its capacity, its capacity at most
the cells. -/
def WellFormed (h : Heap α) (s : Header) : Prop := s.len ≤ s.cap ∧ s.cap ≤ (cells h s.array).length

/-- A new array with the given cells, and its number. -/
def alloc (h : Heap α) (cs : List α) : Heap α × Nat := (h ++ [cs], h.length)

/-- Write `es` into array `a` from cell `i` on. -/
def write (h : Heap α) (a i : Nat) (es : List α) : Heap α :=
  h.set a ((cells h a).take i ++ es ++ (cells h a).drop (i + es.length))

/-- `append(s, es...)` for elements of `elemSize` bytes, whose zero value is `default`. -/
def append [Inhabited α] (elemSize : Nat) (h : Heap α) (s : Header) (es : List α) :
    Heap α × Header :=
  let newLen := s.len + es.length
  if newLen ≤ s.cap then (write h s.array s.len es, { s with len := newLen })
  else
    let newcap := growCap elemSize newLen s.cap
    let (h', a) := alloc h (read h s ++ es ++ List.replicate (newcap - newLen) default)
    (h', ⟨a, newLen, newcap⟩)

/-! ## Arrays under allocation and writes -/

theorem cells_alloc_of_lt {h : Heap α} {a : Nat} (ha : a < h.length) (cs : List α) :
    cells (alloc h cs).1 a = cells h a := by
  simp [alloc, cells, List.getD_eq_getElem?_getD, List.getElem?_append_left ha]

theorem cells_alloc_self (h : Heap α) (cs : List α) : cells (alloc h cs).1 (alloc h cs).2 = cs := by
  simp [alloc, cells, List.getD_eq_getElem?_getD]

theorem cells_of_length_le {h : Heap α} {a : Nat} (ha : h.length ≤ a) : cells h a = [] := by
  simp [cells, List.getD_eq_getElem?_getD, List.getElem?_eq_none ha]

theorem cells_write_of_ne {a b : Nat} (h : Heap α) (i : Nat) (es : List α) (hab : a ≠ b) :
    cells (write h a i es) b = cells h b := by
  simp [write, cells, List.getD_eq_getElem?_getD, List.getElem?_set_ne hab]

theorem cells_write_self {h : Heap α} {a : Nat} (ha : a < h.length) (i : Nat) (es : List α) :
    cells (write h a i es) a = (cells h a).take i ++ es ++ (cells h a).drop (i + es.length) := by
  simp [write, cells, List.getD_eq_getElem?_getD, List.getElem?_set_self ha]

/-! ## `append` -/

section Append

variable [Inhabited α] {elemSize : Nat} {h : Heap α} {s : Header}

omit [Inhabited α] in
theorem length_read {t : Header} (ht : WellFormed h t) : (read h t).length = t.len := by
  simp only [read, List.length_take]
  have := ht.1
  have := ht.2
  omega

omit [Inhabited α] in
theorem length_cells_write_self {a i : Nat} {es : List α}
    (hfit : i + es.length ≤ (cells h a).length) :
    (cells (write h a i es) a).length = (cells h a).length := by
  by_cases ha : a < h.length
  · rw [cells_write_self ha]
    simp only [List.length_append, List.length_take, List.length_drop]
    omega
  · simp [write, List.set_eq_of_length_le (Nat.le_of_not_lt ha)]

theorem append_of_le {es : List α} (hfit : s.len + es.length ≤ s.cap) :
    append elemSize h s es = (write h s.array s.len es, { s with len := s.len + es.length }) := by
  simp [append, hfit]

theorem append_of_lt {es : List α} (hgrow : s.cap < s.len + es.length) :
    append elemSize h s es =
      ((alloc h (read h s ++ es ++ List.replicate (growCap elemSize (s.len + es.length) s.cap -
        (s.len + es.length)) default)).1,
        ⟨h.length, s.len + es.length, growCap elemSize (s.len + es.length) s.cap⟩) := by
  simp [append, Nat.not_le.mpr hgrow, alloc]

/-- The header `append` returns shows the old elements, then the new ones. -/
theorem read_append (hs : WellFormed h s) (es : List α) :
    read (append elemSize h s es).1 (append elemSize h s es).2 = read h s ++ es := by
  have hl := length_read hs
  have hcap := hs.2
  by_cases hfit : s.len + es.length ≤ s.cap
  · rw [append_of_le hfit]
    by_cases ha : s.array < h.length
    · simp only [read, cells_write_self ha, List.append_assoc]
      rw [← List.append_assoc, List.take_left' (by simp; omega)]
    · have h0 := cells_of_length_le (Nat.le_of_not_lt ha)
      rw [h0] at hcap
      have hes : es = [] := List.eq_nil_of_length_eq_zero (by simp at hcap; omega)
      subst hes
      have := hs.1
      simp only [List.length_nil] at hcap
      simp [read, show s.len = 0 by omega]
  · rw [append_of_lt (Nat.lt_of_not_le hfit)]
    have hself : cells (alloc h (read h s ++ es ++ List.replicate
        (growCap elemSize (s.len + es.length) s.cap - (s.len + es.length)) default)).1 h.length =
        read h s ++ es ++ List.replicate
          (growCap elemSize (s.len + es.length) s.cap - (s.len + es.length)) default :=
      cells_alloc_self h _
    rw [read, hself, List.take_left' (by simp only [List.length_append]; rw [hl])]

/-- Nothing a header shows changes under an append, unless the header reaches past the length
of the appended slice in its array. -/
theorem read_append_frame {t : Header} (hs : WellFormed h s) (ht : WellFormed h t)
    (hcover : t.array ≠ s.array ∨ t.len ≤ s.len) (es : List α) :
    read (append elemSize h s es).1 t = read h t := by
  by_cases hfit : s.len + es.length ≤ s.cap
  · rw [append_of_le hfit]
    rcases hcover with hne | hle
    · simp only [read, cells_write_of_ne h s.len es (Ne.symm hne)]
    · by_cases heq : t.array = s.array
      · by_cases ha : s.array < h.length
        · have hcap := hs.2
          simp only [read, heq, cells_write_self ha]
          rw [List.append_assoc, List.take_append_of_le_length (by simp; omega), List.take_take,
            Nat.min_eq_left hle]
        · simp [read, write, heq, List.set_eq_of_length_le (Nat.le_of_not_lt ha)]
      · simp only [read, cells_write_of_ne h s.len es (Ne.symm heq)]
  · rw [append_of_lt (Nat.lt_of_not_le hfit)]
    by_cases ha : t.array < h.length
    · simp only [read, cells_alloc_of_lt ha]
    · have h0 := cells_of_length_le (Nat.le_of_not_lt ha)
      have := ht.1
      have := ht.2
      rw [h0] at this
      simp only [List.length_nil] at this
      simp [read, show t.len = 0 by omega]

theorem wellFormed_append_frame {t : Header} (hs : WellFormed h s) (ht : WellFormed h t)
    (es : List α) : WellFormed (append elemSize h s es).1 t := by
  refine ⟨ht.1, ?_⟩
  by_cases hfit : s.len + es.length ≤ s.cap
  · rw [append_of_le hfit]
    by_cases heq : t.array = s.array
    · rw [heq, length_cells_write_self (by have := hs.2; omega)]
      exact heq ▸ ht.2
    · rw [cells_write_of_ne h s.len es (Ne.symm heq)]
      exact ht.2
  · rw [append_of_lt (Nat.lt_of_not_le hfit)]
    by_cases ha : t.array < h.length
    · rw [cells_alloc_of_lt ha]
      exact ht.2
    · have := ht.2
      rw [cells_of_length_le (Nat.le_of_not_lt ha)] at this
      simp only [List.length_nil] at this
      omega

/-- Two appends of one element to one slice with room for it write the same cell of the same
array: the first result now shows the element of the second. -/
theorem append_append_alias (hs : WellFormed h s) (hspare : s.len < s.cap) (x y : α) :
    (append elemSize (append elemSize h s [x]).1 s [y]).2 = (append elemSize h s [x]).2 ∧
      read (append elemSize (append elemSize h s [x]).1 s [y]).1 (append elemSize h s [x]).2 =
        read h s ++ [y] := by
  have hfit : s.len + [x].length ≤ s.cap := by simp; omega
  have hfit' : s.len + [y].length ≤ s.cap := by simp; omega
  have hs1 : WellFormed (append elemSize h s [x]).1 s := wellFormed_append_frame hs hs [x]
  have hread1 : read (append elemSize h s [x]).1 s = read h s :=
    read_append_frame hs hs (.inr (Nat.le_refl _)) [x]
  have hsame : (append elemSize (append elemSize h s [x]).1 s [y]).2 = (append elemSize h s [x]).2 := by
    rw [append_of_le hfit', append_of_le hfit]
    rfl
  refine ⟨hsame, ?_⟩
  rw [← hsame, read_append hs1, hread1]

end Append

end GoLib.Heap
