import Mathlib.Algebra.Group.Int.Defs
import Mathlib.Algebra.Order.Ring.Int
import Mathlib.Data.Int.DivMod
import Mathlib.Tactic.Ring

/-! Frames of a camera that come as one block of bytes: the luma of every pixel row by row,
then for every two pixels of two rows one pair of chroma bytes. A part of the picture is
handed on by moving the pointers to the two planes. -/
namespace BeeSdk.WinVideoTrackSource

structure Frame where
  length : Int32
  width : Int32
  height : Int32

/-- What `AdaptFrame` says is to be kept of the frame. -/
structure Crop where
  width : Int32
  height : Int32
  x : Int32
  y : Int32

structure Crop.Inside (crop : Crop) (frame : Frame) : Prop where
  width : 0 ≤ crop.width.toInt
  height : 0 ≤ crop.height.toInt
  x : 0 ≤ crop.x.toInt
  y : 0 ≤ crop.y.toInt
  right : crop.x.toInt + crop.width.toInt ≤ frame.width.toInt
  bottom : crop.y.toInt + crop.height.toInt ≤ frame.height.toInt

/-- What `NV12ToI420Scale` is told of the picture, the pointers as distances from the
beginning of the block. -/
structure Source where
  yPlane : Int
  strideY : Int32
  uvPlane : Int
  strideUv : Int32
  width : Int32
  height : Int32

namespace Frame

def uvWidth (frame : Frame) : Int32 := (frame.width + 1) / 2

/-- What `length` is checked against. -/
def needed (frame : Frame) : Int32 :=
  frame.width * frame.height + 2 * frame.uvWidth * ((frame.height + 1) / 2)

/-- No operation of the size check leaves the range of an `int`. -/
structure Exact (frame : Frame) : Prop where
  luma : (frame.width * frame.height).toInt = frame.width.toInt * frame.height.toInt
  columns : (frame.width + 1).toInt = frame.width.toInt + 1
  rows : (frame.height + 1).toInt = frame.height.toInt + 1
  pairs : (2 * frame.uvWidth).toInt = 2 * frame.uvWidth.toInt
  chroma : (2 * frame.uvWidth * ((frame.height + 1) / 2)).toInt =
    (2 * frame.uvWidth).toInt * ((frame.height + 1) / 2).toInt
  sum : frame.needed.toInt = (frame.width * frame.height).toInt +
    (2 * frame.uvWidth * ((frame.height + 1) / 2)).toInt

/-- The two planes together are smaller than the range of an `int`. -/
structure Fits (frame : Frame) : Prop where
  columns : frame.width.toInt + 1 < 2 ^ 31
  rows : frame.height.toInt + 1 < 2 ^ 31
  planes : frame.width.toInt * frame.height.toInt +
    2 * ((frame.width.toInt + 1) / 2) * ((frame.height.toInt + 1) / 2) < 2 ^ 31

/-- Where the luma of a pixel is. -/
def luma (frame : Frame) (x y : Int) : Int := frame.width.toInt * y + x

/-- Where the chroma pair of a pixel begins. -/
def chroma (frame : Frame) (x y : Int) : Int :=
  frame.width.toInt * frame.height.toInt +
    (2 * ((frame.width.toInt + 1) / 2) * (y / 2) + 2 * (x / 2))

end Frame

/-- `crop_x &= ~1`. -/
def even (number : Int32) : Int32 := number &&& ~~~ 1

/-- `OnByteBufferFrameCaptured` from the size check to the call of the scaler. What the
check finds too short ends the process. -/
def onByteBufferFrameCaptured (frame : Frame) (crop : Crop) : Option Source :=
  if frame.length < frame.needed then none
  else
    let cropX := even crop.x
    let cropY := even crop.y
    some {
      yPlane := (frame.width * cropY + cropX).toInt
      strideY := frame.width
      uvPlane := (frame.width * frame.height).toInt + (frame.uvWidth * cropY + cropX).toInt
      strideUv := frame.uvWidth * 2
      width := crop.width
      height := crop.height }

namespace Source

/-- Where the scaler finds a byte of a row. -/
def luma (source : Source) (row column : Int) : Int :=
  source.yPlane + source.strideY.toInt * row + column

def chroma (source : Source) (row column : Int) : Int :=
  source.uvPlane + source.strideUv.toInt * row + column

/-- Every byte the scaler reads is one of the block: `height` rows of `width` luma bytes, and
for every two rows one of chroma bytes, two for every two columns. -/
structure Inside (source : Source) (length : Int32) : Prop where
  luma : ∀ row column, 0 ≤ row → row < source.height.toInt → 0 ≤ column →
    column < source.width.toInt →
    0 ≤ source.luma row column ∧ source.luma row column < length.toInt
  chroma : ∀ row column, 0 ≤ row → row < (source.height.toInt + 1) / 2 → 0 ≤ column →
    column < 2 * ((source.width.toInt + 1) / 2) →
    0 ≤ source.chroma row column ∧ source.chroma row column < length.toInt

/-- The scaler finds the luma of one rectangle of pixels of the frame, and where it looks for
the chroma of each of them it finds that of the same pixel. -/
def Shows (source : Source) (frame : Frame) (x y : Int) : Prop :=
  ∀ row column, 0 ≤ row → row < source.height.toInt → 0 ≤ column →
    column < source.width.toInt →
    source.luma row column = frame.luma (x + column) (y + row) ∧
      source.chroma (row / 2) (2 * (column / 2)) = frame.chroma (x + column) (y + row)

end Source

/-- The size check is exact, the scaler stays inside the block, and its chroma belongs to its
luma. The rectangle begins at the even pixel the crop rectangle is rounded down to. -/
structure Right (frame : Frame) (crop : Crop) (source : Source) : Prop where
  exact : frame.Exact
  inside : source.Inside frame.length
  shows : source.Shows frame (2 * (crop.x.toInt / 2)) (2 * (crop.y.toInt / 2))

/-! ### The arithmetic of an `int` -/

theorem add_exact {a b : Int32} (least : 0 ≤ a.toInt + b.toInt) (most : a.toInt + b.toInt < 2 ^ 31) :
    (a + b).toInt = a.toInt + b.toInt := by
  rw [Int32.toInt_add]
  exact Int.bmod_eq_of_le (by omega) (by omega)

theorem mul_exact {a b : Int32} (least : 0 ≤ a.toInt * b.toInt) (most : a.toInt * b.toInt < 2 ^ 31) :
    (a * b).toInt = a.toInt * b.toInt := by
  rw [Int32.toInt_mul]
  exact Int.bmod_eq_of_le (by omega) (by omega)

theorem half_toInt {a : Int32} (least : 0 ≤ a.toInt) : (a / 2).toInt = a.toInt / 2 := by
  rw [Int32.toInt_div_of_ne_right a 2 (by decide)]
  exact Int.tdiv_eq_ediv_of_nonneg least

private theorem cleared (bits : BitVec 32) : bits &&& ~~~ 1#32 = (bits >>> 1) <<< 1 := by
  ext i within
  simp only [BitVec.getElem_and, BitVec.getElem_not, BitVec.getElem_one, BitVec.getElem_shiftLeft]
  by_cases lowest : i = 0
  · simp [lowest]
  · have back : 1 + (i - 1) = i := by omega
    simp [lowest, back, within]

theorem even_toInt {number : Int32} (least : 0 ≤ number.toInt) :
    (even number).toInt = 2 * (number.toInt / 2) := by
  have small : 2 * number.toBitVec.toNat < 2 ^ 32 := BitVec.toInt_pos_iff.mp least
  have halved : (even number).toBitVec.toNat = 2 * (number.toBitVec.toNat / 2) := by
    show (number.toBitVec &&& ~~~ 1#32).toNat = _
    rw [cleared, BitVec.toNat_shiftLeft, BitVec.toNat_ushiftRight, Nat.shiftLeft_eq,
      Nat.shiftRight_eq_div_pow]
    omega
  show (even number).toBitVec.toInt = 2 * (number.toBitVec.toInt / 2)
  rw [BitVec.toInt_eq_toNat_of_lt (by omega), BitVec.toInt_eq_toNat_of_lt small, halved]
  omega

/-! ### The size check -/

variable {frame : Frame} {crop : Crop} {source : Source}

theorem Crop.Inside.frameWidth (inside : crop.Inside frame) : 0 ≤ frame.width.toInt := by
  have := inside.width
  have := inside.x
  have := inside.right
  omega

theorem Crop.Inside.frameHeight (inside : crop.Inside frame) : 0 ≤ frame.height.toInt := by
  have := inside.height
  have := inside.y
  have := inside.bottom
  omega

/-- Rows below each other, a byte of one of them. -/
theorem cell_inside {w h x y : Int} (left : 0 ≤ x) (right : x < w) (top : 0 ≤ y)
    (bottom : y < h) : 0 ≤ w * y + x ∧ w * y + x < w * h := by
  have wide : 0 ≤ w := by omega
  have rows : w * (y + 1) ≤ w * h := Int.mul_le_mul_of_nonneg_left bottom wide
  have before : 0 ≤ w * y := Int.mul_nonneg wide top
  rw [Int.mul_add, Int.mul_one] at rows
  omega

theorem uvWidth_toInt (columns : (frame.width + 1).toInt = frame.width.toInt + 1)
    (wide : 0 ≤ frame.width.toInt) : frame.uvWidth.toInt = (frame.width.toInt + 1) / 2 := by
  rw [Frame.uvWidth, half_toInt (by omega), columns]

theorem uvHeight_toInt (rows : (frame.height + 1).toInt = frame.height.toInt + 1)
    (high : 0 ≤ frame.height.toInt) :
    ((frame.height + 1) / 2).toInt = (frame.height.toInt + 1) / 2 := by
  rw [half_toInt (by omega), rows]

/-- Planes that fit into the range of an `int` are measured exactly. -/
theorem exact_of_fits (fits : frame.Fits) (wide : 0 ≤ frame.width.toInt)
    (high : 0 ≤ frame.height.toInt) : frame.Exact := by
  have planes := fits.planes
  have lumaLeast : 0 ≤ frame.width.toInt * frame.height.toInt := Int.mul_nonneg wide high
  have chromaLeast : 0 ≤ 2 * ((frame.width.toInt + 1) / 2) * ((frame.height.toInt + 1) / 2) :=
    Int.mul_nonneg (by omega) (by omega)
  have one : (1 : Int32).toInt = 1 := rfl
  have two : (2 : Int32).toInt = 2 := rfl
  have columns : (frame.width + 1).toInt = frame.width.toInt + 1 := by
    have most := fits.columns
    exact add_exact (by rw [one]; omega) (by rw [one]; omega)
  have rows : (frame.height + 1).toInt = frame.height.toInt + 1 := by
    have most := fits.rows
    exact add_exact (by rw [one]; omega) (by rw [one]; omega)
  have uv := uvWidth_toInt columns wide
  have pairs : (2 * frame.uvWidth).toInt = 2 * frame.uvWidth.toInt := by
    have most := fits.columns
    exact mul_exact (by rw [two]; omega) (by rw [two]; omega)
  have luma : (frame.width * frame.height).toInt = frame.width.toInt * frame.height.toInt :=
    mul_exact lumaLeast (by omega)
  have size : (2 * frame.uvWidth).toInt * ((frame.height + 1) / 2).toInt =
      2 * ((frame.width.toInt + 1) / 2) * ((frame.height.toInt + 1) / 2) := by
    rw [pairs, uv, uvHeight_toInt rows high]
  have chroma : (2 * frame.uvWidth * ((frame.height + 1) / 2)).toInt =
      (2 * frame.uvWidth).toInt * ((frame.height + 1) / 2).toInt :=
    mul_exact (by omega) (by omega)
  exact ⟨luma, columns, rows, pairs, chroma, add_exact (by omega) (by omega)⟩

/-- A size that is measured exactly is one an `int` has room for. -/
theorem fits_of_exact (exact : frame.Exact) (wide : 0 ≤ frame.width.toInt)
    (high : 0 ≤ frame.height.toInt) : frame.Fits where
  columns := by
    have most := Int32.toInt_lt (frame.width + 1)
    rwa [exact.columns] at most
  rows := by
    have most := Int32.toInt_lt (frame.height + 1)
    rwa [exact.rows] at most
  planes := by
    have most := Int32.toInt_lt frame.needed
    rwa [exact.sum, exact.luma, exact.chroma, exact.pairs, uvWidth_toInt exact.columns wide,
      uvHeight_toInt exact.rows high] at most

/-- What the exact check found long enough holds both planes. -/
theorem planes_within (exact : frame.Exact) (wide : 0 ≤ frame.width.toInt)
    (high : 0 ≤ frame.height.toInt) (long : ¬ frame.length < frame.needed) :
    frame.width.toInt * frame.height.toInt +
      2 * ((frame.width.toInt + 1) / 2) * ((frame.height.toInt + 1) / 2) ≤ frame.length.toInt := by
  have least : frame.needed.toInt ≤ frame.length.toInt :=
    Int.not_lt.mp (Int32.lt_iff_toInt_lt.not.mp long)
  rwa [exact.sum, exact.luma, exact.chroma, exact.pairs, uvWidth_toInt exact.columns wide,
    uvHeight_toInt exact.rows high] at least

/-! ### The moved pointers -/

theorem captured (taken : onByteBufferFrameCaptured frame crop = some source) :
    ¬ frame.length < frame.needed ∧ source = {
      yPlane := (frame.width * even crop.y + even crop.x).toInt
      strideY := frame.width
      uvPlane := (frame.width * frame.height).toInt + (frame.uvWidth * even crop.y + even crop.x).toInt
      strideUv := frame.uvWidth * 2
      width := crop.width
      height := crop.height } := by
  unfold onByteBufferFrameCaptured at taken
  split at taken
  · cases taken
  · next long => exact ⟨long, (Option.some.inj taken).symm⟩

/-- The first luma byte of the crop rectangle, rounded down to even pixels. -/
theorem yPlane_toInt (fits : frame.Fits) (inside : crop.Inside frame)
    (kept : 0 < crop.width.toInt ∧ 0 < crop.height.toInt) :
    (frame.width * even crop.y + even crop.x).toInt =
      frame.luma (2 * (crop.x.toInt / 2)) (2 * (crop.y.toInt / 2)) := by
  have ⟨_, _, left, top, right, bottom⟩ := inside
  have planes := fits.planes
  have chroma : 0 ≤ 2 * ((frame.width.toInt + 1) / 2) * ((frame.height.toInt + 1) / 2) :=
    Int.mul_nonneg (by omega) (by omega)
  have corner := cell_inside (x := 2 * (crop.x.toInt / 2)) (y := 2 * (crop.y.toInt / 2))
    (w := frame.width.toInt) (h := frame.height.toInt)
    (by omega) (by omega) (by omega) (by omega)
  have row : 0 ≤ frame.width.toInt * (2 * (crop.y.toInt / 2)) := Int.mul_nonneg (by omega) (by omega)
  have moved : (frame.width * even crop.y).toInt = frame.width.toInt * (2 * (crop.y.toInt / 2)) := by
    rw [mul_exact, even_toInt top] <;> rw [even_toInt top] <;> omega
  rw [add_exact, moved, even_toInt left]
  · rfl
  · rw [moved, even_toInt left]
    omega
  · rw [moved, even_toInt left]
    omega

/-- The chroma pair that belongs to it. -/
theorem uvPlane_toInt (fits : frame.Fits) (inside : crop.Inside frame)
    (kept : 0 < crop.width.toInt ∧ 0 < crop.height.toInt) :
    (frame.width * frame.height).toInt + (frame.uvWidth * even crop.y + even crop.x).toInt =
      frame.chroma (2 * (crop.x.toInt / 2)) (2 * (crop.y.toInt / 2)) := by
  have exact := exact_of_fits fits inside.frameWidth inside.frameHeight
  have uv := uvWidth_toInt exact.columns inside.frameWidth
  have ⟨_, _, left, top, right, bottom⟩ := inside
  have planes := fits.planes
  have luma : 0 ≤ frame.width.toInt * frame.height.toInt := Int.mul_nonneg (by omega) (by omega)
  have corner := cell_inside (x := 2 * (crop.x.toInt / 2)) (y := crop.y.toInt / 2)
    (w := 2 * ((frame.width.toInt + 1) / 2)) (h := (frame.height.toInt + 1) / 2)
    (by omega) (by omega) (by omega) (by omega)
  have row : 0 ≤ 2 * ((frame.width.toInt + 1) / 2) * (crop.y.toInt / 2) :=
    Int.mul_nonneg (by omega) (by omega)
  -- the stride is halved and the row is even: every other row of the luma has one of chroma
  have strides : frame.uvWidth.toInt * (2 * (crop.y.toInt / 2)) =
      2 * ((frame.width.toInt + 1) / 2) * (crop.y.toInt / 2) := by
    rw [uv]
    ring
  have moved : (frame.uvWidth * even crop.y).toInt =
      2 * ((frame.width.toInt + 1) / 2) * (crop.y.toInt / 2) := by
    rw [mul_exact, even_toInt top, strides] <;> rw [even_toInt top, strides] <;> omega
  have offset : (frame.uvWidth * even crop.y + even crop.x).toInt =
      2 * ((frame.width.toInt + 1) / 2) * (crop.y.toInt / 2) + 2 * (crop.x.toInt / 2) := by
    rw [add_exact, moved, even_toInt left] <;> rw [moved, even_toInt left] <;> omega
  rw [exact.luma, offset, Frame.chroma, show 2 * (crop.x.toInt / 2) / 2 = crop.x.toInt / 2 by omega,
    show 2 * (crop.y.toInt / 2) / 2 = crop.y.toInt / 2 by omega]

theorem strideUv_toInt (exact : frame.Exact) :
    (frame.uvWidth * 2).toInt = 2 * frame.uvWidth.toInt := by
  rw [Int32.mul_comm]
  exact exact.pairs

/-- The scaler finds every luma byte where the frame has the pixel. -/
theorem luma_read (fits : frame.Fits) (inside : crop.Inside frame)
    (taken : onByteBufferFrameCaptured frame crop = some source)
    (kept : 0 < crop.width.toInt ∧ 0 < crop.height.toInt) (row column : Int) :
    source.luma row column =
      frame.luma (2 * (crop.x.toInt / 2) + column) (2 * (crop.y.toInt / 2) + row) := by
  obtain ⟨_, rfl⟩ := captured taken
  rw [Source.luma, yPlane_toInt fits inside kept, Frame.luma, Frame.luma]
  ring

/-- The scaler finds every chroma byte in the row and the pair of the pixels it is for. -/
theorem chroma_read (fits : frame.Fits) (inside : crop.Inside frame)
    (taken : onByteBufferFrameCaptured frame crop = some source)
    (kept : 0 < crop.width.toInt ∧ 0 < crop.height.toInt) (row column : Int) :
    source.chroma row column = frame.width.toInt * frame.height.toInt +
      (2 * ((frame.width.toInt + 1) / 2) * (crop.y.toInt / 2 + row) +
        (2 * (crop.x.toInt / 2) + column)) := by
  obtain ⟨_, rfl⟩ := captured taken
  have exact := exact_of_fits fits inside.frameWidth inside.frameHeight
  rw [Source.chroma, uvPlane_toInt fits inside kept, strideUv_toInt exact,
    uvWidth_toInt exact.columns inside.frameWidth, Frame.chroma,
    show 2 * (crop.x.toInt / 2) / 2 = crop.x.toInt / 2 by omega,
    show 2 * (crop.y.toInt / 2) / 2 = crop.y.toInt / 2 by omega]
  ring

/-- The scaler stays inside a block that passed an exact check. -/
theorem inside_of_fits (fits : frame.Fits) (inside : crop.Inside frame)
    (taken : onByteBufferFrameCaptured frame crop = some source) : source.Inside frame.length := by
  have wide := inside.frameWidth
  have high := inside.frameHeight
  have within := planes_within (exact_of_fits fits wide high) wide high (captured taken).1
  have luma : 0 ≤ frame.width.toInt * frame.height.toInt := Int.mul_nonneg wide high
  have chroma : 0 ≤ 2 * ((frame.width.toInt + 1) / 2) * ((frame.height.toInt + 1) / 2) :=
    Int.mul_nonneg (by omega) (by omega)
  have columns : source.width = crop.width := by rw [(captured taken).2]
  have rows : source.height = crop.height := by rw [(captured taken).2]
  have ⟨_, _, left, top, right, bottom⟩ := inside
  constructor
  · intro row column least most first last
    rw [rows] at most
    rw [columns] at last
    rw [luma_read fits inside taken ⟨by omega, by omega⟩, Frame.luma]
    have cell := cell_inside (x := 2 * (crop.x.toInt / 2) + column)
      (y := 2 * (crop.y.toInt / 2) + row) (w := frame.width.toInt)
      (h := frame.height.toInt) (by omega) (by omega) (by omega) (by omega)
    omega
  · intro row column least most first last
    rw [rows] at most
    rw [columns] at last
    rw [chroma_read fits inside taken ⟨by omega, by omega⟩]
    have cell := cell_inside (x := 2 * (crop.x.toInt / 2) + column) (y := crop.y.toInt / 2 + row)
      (w := 2 * ((frame.width.toInt + 1) / 2)) (h := (frame.height.toInt + 1) / 2)
      (by omega) (by omega) (by omega) (by omega)
    omega

theorem shows_of_fits (fits : frame.Fits) (inside : crop.Inside frame)
    (taken : onByteBufferFrameCaptured frame crop = some source) :
    source.Shows frame (2 * (crop.x.toInt / 2)) (2 * (crop.y.toInt / 2)) := by
  have columns : source.width = crop.width := by rw [(captured taken).2]
  have rows : source.height = crop.height := by rw [(captured taken).2]
  intro row column least most first last
  rw [rows] at most
  rw [columns] at last
  have kept : 0 < crop.width.toInt ∧ 0 < crop.height.toInt := by omega
  refine ⟨luma_read fits inside taken kept row column, ?_⟩
  rw [chroma_read fits inside taken kept, Frame.chroma,
    show (2 * (crop.y.toInt / 2) + row) / 2 = crop.y.toInt / 2 + row / 2 by omega,
    show 2 * ((2 * (crop.x.toInt / 2) + column) / 2) =
      2 * (crop.x.toInt / 2) + 2 * (column / 2) by omega]

/-- A frame that passed the size check is checked exactly, read only where it is and shown
with its own chroma exactly when its planes fit into the range of an `int`. -/
theorem right_iff_fits (frame : Frame) (crop : Crop) (source : Source) (inside : crop.Inside frame)
    (taken : onByteBufferFrameCaptured frame crop = some source) :
    Right frame crop source ↔ frame.Fits := by
  constructor
  · intro right
    exact fits_of_exact right.exact inside.frameWidth inside.frameHeight
  · intro fits
    exact ⟨exact_of_fits fits inside.frameWidth inside.frameHeight,
      inside_of_fits fits inside taken, shows_of_fits fits inside taken⟩

/-- An odd frame, cropped from an odd pixel on. -/
theorem odd_frame_right :
    ∃ source, onByteBufferFrameCaptured ⟨17, 3, 3⟩ ⟨2, 2, 1, 1⟩ = some source ∧
      Right ⟨17, 3, 3⟩ ⟨2, 2, 1, 1⟩ source := by
  refine ⟨_, rfl, (right_iff_fits _ _ _ ?_ rfl).mpr ?_⟩
  · constructor <;> decide
  · constructor <;> decide

/-- The size of a large frame comes out negative, so that no bytes at all pass for it. -/
theorem large_frame_passes :
    ¬ ∀ frame crop source, Crop.Inside crop frame →
      onByteBufferFrameCaptured frame crop = some source → Right frame crop source := by
  intro all
  have right := all ⟨0, 65536, 65536⟩ ⟨65536, 65536, 0, 0⟩ _ (by constructor <;> decide) rfl
  exact absurd (right.inside.luma 0 0 (by decide) (by decide) (by decide) (by decide)).2 (by decide)

end BeeSdk.WinVideoTrackSource
