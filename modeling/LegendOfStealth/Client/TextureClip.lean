import LegendOfStealth.Client.MapParser
import Mathlib.Algebra.Order.Field.Basic
import Mathlib.Tactic.FieldSimp
import Mathlib.Tactic.Linarith

/-!
# The part of the image that a tile shows

`GetTextureClip` takes the column of a tile from the remainder by the number of columns,
and its row from the quotient by the number of rows.  It turns the row over without
subtracting one, so the first tiles lie above the image.
-/

namespace LegendOfStealth.Map

open LegendOfStealth.Library LegendOfStealth.Geometry

section Unit

variable {count column other : Int}

theorem unitCell_bounds (positive : 0 < count) :
    (0 ≤ (column / count : ℚ) ∧ (column / count : ℚ) + 1 / count ≤ 1) ↔
      0 ≤ column ∧ column < count := by
  have positive' : (0 : ℚ) < count := Int.cast_pos.mpr positive
  rw [← add_div, div_le_one positive', le_div_iff₀ positive', zero_mul]
  norm_cast

theorem unitCell_lt (positive : 0 < count) :
    (column / count : ℚ) < other / count + 1 / count ↔ column ≤ other := by
  have positive' : (0 : ℚ) < count := Int.cast_pos.mpr positive
  rw [← add_div, div_lt_div_iff_of_pos_right positive']
  norm_cast
  exact Int.lt_add_one_iff

end Unit

/-- The clip that `GetTextureClip` makes for a local id, in an image with a number of
columns and rows. -/
def clipAt (xcount ycount id : Int) : Rect where
  x := (id % xcount : Int) / xcount
  y := (ycount - id / ycount : Int) / ycount
  w := 1 / xcount
  h := 1 / ycount

/-- The image of the tileset is a number of tiles wide and high. -/
structure Tileset.Tiled (set : Tileset) (xcount ycount : Int) : Prop where
  columns : 0 < xcount
  rows : 0 < ycount
  tileWidth : 0 < set.tileWidth
  tileHeight : 0 < set.tileHeight
  imageWidth : set.imageWidth = xcount * set.tileWidth
  imageHeight : set.imageHeight = ycount * set.tileHeight

theorem Tileset.Tiled.cast_ne_zero {set : Tileset} {xcount ycount : Int}
    (tiled : set.Tiled xcount ycount) :
    (set.tileWidth : ℚ) ≠ 0 ∧ (set.tileHeight : ℚ) ≠ 0 :=
  ⟨Int.cast_ne_zero.mpr tiled.tileWidth.ne', Int.cast_ne_zero.mpr tiled.tileHeight.ne'⟩

section Clips

variable {xcount ycount first second : Int}

/-- The clip lies in the image if the quotient by the number of rows is neither zero nor
too large. -/
theorem covers_clipAt_iff (columns : 0 < xcount) (rows : 0 < ycount) (id : Int) :
    (⟨0, 0, 1, 1⟩ : Rect).Covers (clipAt xcount ycount id) ↔
      ycount ≤ id ∧ id < ycount * (ycount + 1) := by
  have inWidth := (unitCell_bounds columns).mpr
    ⟨Int.emod_nonneg id columns.ne', Int.emod_lt_of_pos id columns⟩
  simp only [Rect.Covers, clipAt, zero_add]
  rw [and_iff_right inWidth, unitCell_bounds rows]
  have notZero : 0 < id / ycount ↔ ycount ≤ id := by
    rw [← Int.one_mul ycount, ← Int.le_ediv_iff_mul_le rows, Int.one_mul, Int.add_one_le_iff.symm,
      zero_add]
  have notLarge : id / ycount < ycount + 1 ↔ id < ycount * (ycount + 1) := by
    rw [Int.ediv_lt_iff_lt_mul rows, Int.mul_comm]
  rw [← notZero, ← notLarge]
  omega

/-- Clips overlap if the columns and the turned rows are the same. -/
theorem intersects_clipAt_iff (columns : 0 < xcount) (rows : 0 < ycount) :
    (clipAt xcount ycount first).Intersects false (clipAt xcount ycount second) ↔
      first % xcount = second % xcount ∧ first / ycount = second / ycount := by
  simp only [Rect.Intersects, Precedes, Bool.false_eq_true, if_false, clipAt,
    unitCell_lt columns, unitCell_lt rows]
  rw [← le_antisymm_iff, ← le_antisymm_iff, sub_right_inj]

/-- The height of a clip falls with the quotient by the number of rows. -/
theorem clipAt_y_lt_iff (rows : 0 < ycount) :
    (clipAt xcount ycount first).y < (clipAt xcount ycount second).y ↔
      second / ycount < first / ycount := by
  rw [clipAt, clipAt, div_lt_div_iff_of_pos_right (Int.cast_pos.mpr rows), Int.cast_lt,
    sub_lt_sub_iff_left]

theorem clipAt_y_eq_iff (rows : 0 < ycount) :
    (clipAt xcount ycount first).y = (clipAt xcount ycount second).y ↔
      first / ycount = second / ycount := by
  rw [clipAt, clipAt, div_left_inj' (Int.cast_ne_zero.mpr rows.ne'), Int.cast_inj,
    sub_right_inj]

theorem eq_of_emod_of_ediv {divisor : Int} (column : first % divisor = second % divisor)
    (row : first / divisor = second / divisor) : first = second := by
  rw [← Int.mul_ediv_add_emod first divisor, column, row, Int.mul_ediv_add_emod]

variable {parser : MapParser}

theorem getTextureClip_eq (tiled : parser.mapset.Tiled xcount ycount) {gid : Int}
    (inSet : 0 ≤ gid - parser.mapset.firstGid) :
    parser.getTextureClip parser.mapset gid =
      some (clipAt xcount ycount (gid - parser.mapset.firstGid)) := by
  obtain ⟨width, height⟩ := tiled.cast_ne_zero
  have sized : ¬ (parser.mapset.tileWidth = 0 ∨ parser.mapset.tileHeight = 0) :=
    not_or.mpr ⟨tiled.tileWidth.ne', tiled.tileHeight.ne'⟩
  have counted : ¬ (xcount = 0 ∨ ycount = 0) := not_or.mpr ⟨tiled.columns.ne', tiled.rows.ne'⟩
  rw [MapParser.getTextureClip, tiled.imageWidth, tiled.imageHeight, if_neg sized,
    Int.mul_tdiv_cancel _ tiled.tileWidth.ne', Int.mul_tdiv_cancel _ tiled.tileHeight.ne',
    if_neg counted]
  dsimp only
  rw [Int.tmod_eq_emod_of_nonneg inSet, Int.tdiv_eq_ediv_of_nonneg inSet]
  simp only [clipAt, Int.cast_mul, mul_div_mul_right _ _ width, mul_div_mul_right _ _ height,
    div_mul_cancel_right₀ width, div_mul_cancel_right₀ height, one_div]

/-! ## Clips and tiles -/

/-- Two tiles of an image, given by their local ids, are shown by clips in the image: each
has the size of a tile, different tiles do not overlap, and the rows follow each other from
top to bottom. -/
structure ClipsTiles (set : Tileset) (xcount first second : Int) (clip other : Rect) : Prop where
  inside : (⟨0, 0, 1, 1⟩ : Rect).Covers clip ∧ (⟨0, 0, 1, 1⟩ : Rect).Covers other
  width : clip.w = set.tileWidth / set.imageWidth ∧ other.w = set.tileWidth / set.imageWidth
  height : clip.h = set.tileHeight / set.imageHeight ∧ other.h = set.tileHeight / set.imageHeight
  apart : first ≠ second → ¬ clip.Intersects false other
  sameRow : first / xcount = second / xcount → clip.y = other.y
  lowerRow : first / xcount < second / xcount → other.y < clip.y
  upperRow : second / xcount < first / xcount → clip.y < other.y

/-- The quotients by the number of rows are neither zero nor too large, and are ordered as
the rows are. -/
def RowsAgree (xcount ycount first second : Int) : Prop :=
  ((ycount ≤ first ∧ first < ycount * (ycount + 1)) ∧
      ycount ≤ second ∧ second < ycount * (ycount + 1)) ∧
    (first / ycount < second / ycount ↔ first / xcount < second / xcount) ∧
      (second / ycount < first / ycount ↔ second / xcount < first / xcount)

instance (xcount ycount first second : Int) : Decidable (RowsAgree xcount ycount first second) :=
  inferInstanceAs (Decidable (_ ∧ _ ∧ _))

theorem Tileset.Tiled.size {set : Tileset} (tiled : set.Tiled xcount ycount) (id : Int) :
    (clipAt xcount ycount id).w = set.tileWidth / set.imageWidth ∧
      (clipAt xcount ycount id).h = set.tileHeight / set.imageHeight := by
  obtain ⟨width, height⟩ := tiled.cast_ne_zero
  rw [tiled.imageWidth, tiled.imageHeight, Int.cast_mul, Int.cast_mul,
    div_mul_cancel_right₀ width, div_mul_cancel_right₀ height, clipAt, one_div, one_div]
  exact ⟨rfl, rfl⟩

theorem clipsTiles_clipAt_iff {set : Tileset} (tiled : set.Tiled xcount ycount) :
    ClipsTiles set xcount first second (clipAt xcount ycount first)
        (clipAt xcount ycount second) ↔
      RowsAgree xcount ycount first second := by
  have lies := covers_clipAt_iff tiled.columns tiled.rows
  constructor
  · intro clips
    have same := clips.sameRow
    have lower := clips.lowerRow
    have upper := clips.upperRow
    rw [clipAt_y_eq_iff tiled.rows] at same
    rw [clipAt_y_lt_iff tiled.rows] at lower upper
    refine ⟨⟨(lies first).mp clips.inside.1, (lies second).mp clips.inside.2⟩, ?_, ?_⟩
    · omega
    · omega
  · rintro ⟨⟨firstInside, secondInside⟩, lower, upper⟩
    have same : first / ycount = second / ycount ↔ first / xcount = second / xcount := by omega
    refine ⟨⟨(lies first).mpr firstInside, (lies second).mpr secondInside⟩,
      ⟨(tiled.size first).1, (tiled.size second).1⟩,
      ⟨(tiled.size first).2, (tiled.size second).2⟩, ?_, ?_, ?_, ?_⟩
    · intro different overlap
      rw [intersects_clipAt_iff tiled.columns tiled.rows] at overlap
      exact different (eq_of_emod_of_ediv overlap.1 (same.mp overlap.2))
    · exact fun row => (clipAt_y_eq_iff tiled.rows).mpr (same.mpr row)
    · exact fun row => (clipAt_y_lt_iff tiled.rows).mpr (lower.mpr row)
    · exact fun row => (clipAt_y_lt_iff tiled.rows).mpr (upper.mpr row)

/-- Texture clips: `GetTextureClip` returns a clip for both tiles, and the clips lie in the
image as the tiles do exactly if the quotients by the number of rows agree with the rows. -/
theorem getTextureClip_clipsTiles_iff (tiled : parser.mapset.Tiled xcount ycount)
    (gid other : Int) (inSet : 0 ≤ gid - parser.mapset.firstGid)
    (otherInSet : 0 ≤ other - parser.mapset.firstGid) :
    ∃ clip otherClip, parser.getTextureClip parser.mapset gid = some clip ∧
      parser.getTextureClip parser.mapset other = some otherClip ∧
        (ClipsTiles parser.mapset xcount (gid - parser.mapset.firstGid)
            (other - parser.mapset.firstGid) clip otherClip ↔
          RowsAgree xcount ycount (gid - parser.mapset.firstGid)
            (other - parser.mapset.firstGid)) :=
  ⟨_, _, getTextureClip_eq tiled inSet, getTextureClip_eq tiled otherInSet,
    clipsTiles_clipAt_iff tiled⟩

end Clips

/-- A map without layers, whose map set has an image of a number of tiles of 64 pixels. -/
def imageParser (xcount ycount : Int) : MapParser :=
  let mapset : Tileset := ⟨"mapset", 1, 64, 64, "tileset.png", xcount * 64, ycount * 64⟩
  let objset : Tileset :=
    ⟨"objectset", xcount * ycount + 1, 64, 64, "../mapdev/objtiles.png", 320, 320⟩
  ⟨⟨10, 10, 64, [mapset, objset], [], []⟩, mapset, objset⟩

theorem tiled_imageParser (xcount ycount : Int) (columns : 0 < xcount) (rows : 0 < ycount) :
    (imageParser xcount ycount).mapset.Tiled xcount ycount where
  columns := columns
  rows := rows
  tileWidth := Int.sign_eq_one_iff_pos.mp rfl
  tileHeight := Int.sign_eq_one_iff_pos.mp rfl
  imageWidth := rfl
  imageHeight := rfl

/-- The lower row of an image of two rows and two columns. -/
theorem getTextureClip_clipsTiles_lowerRow :
    ∃ clip otherClip, (imageParser 2 2).getTextureClip (imageParser 2 2).mapset 3 = some clip ∧
      (imageParser 2 2).getTextureClip (imageParser 2 2).mapset 4 = some otherClip ∧
        ClipsTiles (imageParser 2 2).mapset 2 2 3 clip otherClip := by
  obtain ⟨clip, otherClip, first, second, clips⟩ := getTextureClip_clipsTiles_iff
    (tiled_imageParser 2 2 (by decide) (by decide)) 3 4 (by decide) (by decide)
  exact ⟨clip, otherClip, first, second, clips.mpr (by decide)⟩

/-- In an image of three columns and two rows, the last tile of the first row and the first
tile of the second row are shown at the same height. -/
theorem not_clipsTiles_secondRow :
    ¬ ∀ (parser : MapParser) (xcount ycount gid other : Int),
      parser.mapset.Tiled xcount ycount →
      (0 ≤ gid - parser.mapset.firstGid ∧ gid - parser.mapset.firstGid < xcount * ycount) →
      (0 ≤ other - parser.mapset.firstGid ∧ other - parser.mapset.firstGid < xcount * ycount) →
        ∃ clip otherClip, parser.getTextureClip parser.mapset gid = some clip ∧
          parser.getTextureClip parser.mapset other = some otherClip ∧
            ClipsTiles parser.mapset xcount (gid - parser.mapset.firstGid)
              (other - parser.mapset.firstGid) clip otherClip := by
  intro claimed
  have tiled := tiled_imageParser 3 2 (by decide) (by decide)
  obtain ⟨clip, otherClip, first, second, clips⟩ :=
    claimed (imageParser 3 2) 3 2 3 4 tiled (by decide) (by decide)
  cases first.symm.trans (getTextureClip_eq tiled (by decide))
  cases second.symm.trans (getTextureClip_eq tiled (by decide))
  exact absurd ((clipsTiles_clipAt_iff tiled).mp clips) (by decide)

end LegendOfStealth.Map
