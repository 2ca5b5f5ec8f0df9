import Chip8.Frontend.Window
import Chip8.Proofs.Drawing

/-!
# The renderers agree

A display is painted in three ways: as a picture of its cells, as a picture of
the bitmap of these cells, and as squares on the surface of a window.  All of
them give the same points.  Each way is compared with a table of the points, in
which a point has the colour of the cell that it lies in.
-/

namespace Chip8

/-! ## Tables of points -/

namespace Picture

/-- The picture with the given colours, row by row. -/
def ofPoints (height width : Nat) (color : Nat → Nat → Color) : Picture :=
  (List.range height).map fun row => (List.range width).map (color row)

def point? (picture : Picture) (row column : Nat) : Option Color :=
  picture[row]?.bind (·[column]?)

@[simp]
theorem point?_ofPoints
    {height width row column : Nat} (color : Nat → Nat → Color)
    (inHeight : row < height) (inWidth : column < width) :
    (ofPoints height width color).point? row column =
      some (color row column) := by
  simp [point?, ofPoints, inHeight, inWidth]

theorem ofPoints_congr
    {height width : Nat} {first second : Nat → Nat → Color}
    (same : ∀ row < height, ∀ column < width,
      first row column = second row column) :
    ofPoints height width first = ofPoints height width second := by
  apply List.map_congr_left
  intro row inHeight
  apply List.map_congr_left
  intro column inWidth
  exact same row (List.mem_range.mp inHeight) column
    (List.mem_range.mp inWidth)

/-- Repeating every item of a list puts the item with number `place / scale` at
each place. -/
theorem flatMap_replicate_range
    {α : Type} (item : Nat → α) {scale : Nat} (positive : 0 < scale)
    (count : Nat) :
    ((List.range count).flatMap fun index =>
        List.replicate scale (item index)) =
      (List.range (count * scale)).map fun place => item (place / scale) := by
  induction count with
  | zero => simp
  | succ count inductionHypothesis =>
      have lastCopies :
          (List.range scale).map
              (fun offset => item ((count * scale + offset) / scale)) =
            List.replicate scale (item count) := by
        apply List.eq_replicate_iff.mpr
        refine ⟨by simp, ?_⟩
        intro copy belongs
        obtain ⟨offset, below, rfl⟩ := List.mem_map.mp belongs
        rw [Nat.mul_comm, Nat.mul_add_div positive,
          Nat.div_eq_of_lt (List.mem_range.mp below), Nat.add_zero]
      rw [List.range_succ, List.flatMap_append, inductionHypothesis,
        Nat.succ_mul, List.range_add, List.map_append, List.map_map,
        List.flatMap_singleton, ← lastCopies]
      rfl

/-- A point of an enlarged picture has the colour of the point that it comes
from. -/
theorem enlarge_ofPoints
    {scale : Nat} (positive : 0 < scale) (height width : Nat)
    (color : Nat → Nat → Color) :
    (ofPoints height width color).enlarge scale =
      ofPoints (height * scale) (width * scale) fun row column =>
        color (row / scale) (column / scale) := by
  unfold enlarge ofPoints
  rw [List.flatMap_map, flatMap_replicate_range _ positive]
  apply List.map_congr_left
  intro row _
  rw [List.flatMap_map, flatMap_replicate_range _ positive]

end Picture

/-! ## The grid of a display -/

theorem Cell.isVisible_of_lt
    {column row : Nat}
    (inWidth : column < screenWidth) (inHeight : row < screenHeight) :
    Cell.isVisible ⟨column, row⟩ = true := by
  simp only [screenWidth, screenHeight] at inWidth inHeight
  rw [isVisible_iff]
  simp only [OnScreen]
  omega

namespace Grid

private theorem getD_setIfInBounds
    {size : Nat} (marks : Vector Bool size) (mark : Nat) {place : Nat}
    (inside : place < size) :
    (marks.setIfInBounds mark true).getD place false = true ↔
      marks.getD place false = true ∨ mark = place := by
  have getD_eq_getElem (marks : Vector Bool size) :
      marks.getD place false = marks[place] := by
    simp [Vector.getD, inside]
  rw [getD_eq_getElem, getD_eq_getElem, Vector.getElem_setIfInBounds]
  by_cases same : mark = place
  · simp [same]
  · simp [same]

/-- A place is marked if it was before or if a visible cell lies there. -/
theorem getD_foldl_setIfInBounds
    {size : Nat} (cells : List Cell) (marks : Vector Bool size)
    {place : Nat} (inside : place < size) :
    (cells.foldl
        (fun marks cell =>
          if cell.isVisible then marks.setIfInBounds (position cell) true
          else marks)
        marks).getD place false = true ↔
      marks.getD place false = true ∨
        ∃ cell ∈ cells, cell.isVisible = true ∧ position cell = place := by
  induction cells generalizing marks with
  | nil => simp
  | cons cell rest inductionHypothesis =>
      rw [List.foldl_cons, inductionHypothesis]
      by_cases visible : cell.isVisible = true
      · rw [if_pos visible, getD_setIfInBounds _ _ inside]
        simp [visible, or_assoc]
      · rw [if_neg visible]
        simp [visible]

/-- The grid of a display has its visible cells lit. -/
theorem isLit_ofDisplay_iff
    {display : Display} {column row : Nat}
    (inWidth : column < screenWidth) (inHeight : row < screenHeight) :
    (ofDisplay display).isLit column row = true ↔
      ⟨column, row⟩ ∈ display := by
  have width : screenWidth = 64 := rfl
  have height : screenHeight = 32 := rfl
  have inside : row * screenWidth + column < screenWidth * screenHeight := by
    simp only [width, height] at inWidth inHeight ⊢
    omega
  have unmarked :
      (Vector.replicate (screenWidth * screenHeight) false).getD
        (row * screenWidth + column) false = false := by
    simp [Vector.getD, inside]
  rw [isLit, ofDisplay, getD_foldl_setIfInBounds _ _ inside, unmarked]
  constructor
  · rintro (marked | ⟨cell, belongs, visible, isPlace⟩)
    · cases marked
    · obtain ⟨left, right, top, bottom⟩ := Cell.isVisible_iff.mp visible
      have isCell : cell = ⟨column, row⟩ := by
        cases cell
        simp only [position, width, Cell.mk.injEq] at *
        omega
      exact isCell ▸ belongs
  · intro belongs
    refine .inr ⟨_, belongs, Cell.isVisible_of_lt inWidth inHeight, ?_⟩
    simp only [position, Int.toNat_natCast]

private theorem mem_toCells_iff
    {grid : Grid} {column row : Nat}
    (inWidth : column < screenWidth) (inHeight : row < screenHeight) :
    (⟨column, row⟩ : Cell) ∈ grid.toCells ↔
      grid.isLit column row = true := by
  simp only [toCells, List.mem_flatMap, List.mem_map, List.mem_filter,
    List.mem_range, Cell.mk.injEq]
  constructor
  · rintro ⟨otherRow, _, otherColumn, ⟨_, lit⟩, sameColumn, sameRow⟩
    obtain rfl : otherColumn = column := by omega
    obtain rfl : otherRow = row := by omega
    exact lit
  · intro lit
    exact ⟨row, inHeight, column, ⟨inWidth, lit⟩, rfl, rfl⟩

/-- The picture of a display shows where its cells are lit. -/
theorem picture_ofDisplay
    (display : Display) (palette : Palette) :
    (ofDisplay display).picture palette.color =
      Picture.ofPoints screenHeight screenWidth fun row column =>
        palette.color (display.contains ⟨column, row⟩) := by
  apply Picture.ofPoints_congr
  intro row inHeight column inWidth
  refine congrArg palette.color ?_
  rw [Bool.eq_iff_iff, isLit_ofDisplay_iff inWidth inHeight,
    SortedSet.contains_iff]

def toScreen (grid : Grid) : Screen :=
  .bitmap [screenWidth, screenHeight] (.ofList grid.toCells)

/-- The bitmap of a display shows the same picture as the display. -/
theorem picture_toScreen
    (display : Display) (palette : Palette) :
    (ofDisplay (.ofList (ofDisplay display).toCells)).picture palette.color =
      (ofDisplay display).picture palette.color := by
  apply Picture.ofPoints_congr
  intro row inHeight column inWidth
  refine congrArg palette.color ?_
  rw [Bool.eq_iff_iff, isLit_ofDisplay_iff inWidth inHeight,
    SortedSet.mem_ofList, mem_toCells_iff inWidth inHeight]

end Grid

/-! ## Painted screens -/

namespace Tint

def IsColor (tint : Tint) : Prop :=
  (0 ≤ tint.red ∧ tint.red ≤ 255) ∧ (0 ≤ tint.green ∧ tint.green ≤ 255) ∧
    0 ≤ tint.blue ∧ tint.blue ≤ 255

theorem exists_color
    {tint : Tint} (isColor : tint.IsColor) :
    ∃ color, tint.toColor = .ok color ∧ color.tint = tint := by
  obtain ⟨red, green, blue⟩ := isColor
  refine ⟨⟨.ofNat tint.red.toNat, .ofNat tint.green.toNat,
    .ofNat tint.blue.toNat⟩, ?_, ?_⟩
  · simp only [toColor, byte, if_pos red, if_pos green, if_pos blue]
    rfl
  · cases tint
    simp only [Color.tint, UInt8.toNat_ofNat', Tint.mk.injEq] at *
    omega

theorem toColor_tint (color : Color) : color.tint.toColor = .ok color := by
  have byte_toNat (part : UInt8) : byte part.toNat = .ok part := by
    have bound := part.toNat_lt
    rw [byte, if_pos (by omega), Int.toNat_natCast, UInt8.ofNat_toNat]
  simp only [toColor, Color.tint, byte_toNat]
  rfl

end Tint

/-- The colour of a point of the picture of a display, in which cells are
`scale` points wide and high. -/
def Palette.point (palette : Palette) (display : Display) (scale : Nat)
    (row column : Nat) : Color :=
  palette.color (display.contains ⟨(column / scale : Nat), (row / scale : Nat)⟩)

/-- The cell of a point is found by dividing its place by the size of a
cell. -/
theorem Palette.point_eq
    (palette : Palette) (display : Display) {scale : Int}
    (positive : 1 ≤ scale) (row column : Nat) :
    ((⟨column / scale, row / scale⟩ : Cell) ∈ display →
        palette.point display scale.toNat row column = palette.lit) ∧
      ((⟨column / scale, row / scale⟩ : Cell) ∉ display →
        palette.point display scale.toNat row column = palette.dark) := by
  have size : (scale.toNat : Int) = scale := by omega
  rw [point, Int.natCast_ediv, Int.natCast_ediv, size]
  constructor
  · intro lit
    rw [SortedSet.contains_iff.mpr lit]
    rfl
  · intro unlit
    have isUnlit : display.contains ⟨column / scale, row / scale⟩ = false := by
      rwa [← Bool.not_eq_true, SortedSet.contains_iff]
    rw [isUnlit]
    rfl

private theorem Screen.paint_eq
    {screen : Screen} {grid : Grid} {scale : Int} {palette : Palette}
    {lit dark : Tint}
    (isGrid : screen.grid = .ok grid) (positive : 1 ≤ scale)
    (isLit : lit.toColor = .ok palette.lit)
    (isDark : dark.toColor = .ok palette.dark) :
    screen.paint scale lit dark =
      .ok ((grid.picture palette.color).enlarge scale.toNat) := by
  have notSmall : ¬ scale < 1 := by omega
  simp only [paint, notSmall, if_false, isGrid, isLit, isDark]
  rfl

theorem Screen.paint_cells
    (display : Display) {scale : Int} {palette : Palette} {lit dark : Tint}
    (positive : 1 ≤ scale)
    (isLit : lit.toColor = .ok palette.lit)
    (isDark : dark.toColor = .ok palette.dark) :
    (Screen.cells display).paint scale lit dark =
      .ok (Picture.ofPoints (screenHeight * scale.toNat)
        (screenWidth * scale.toNat)
        (palette.point display scale.toNat)) := by
  rw [paint_eq rfl positive isLit isDark, Grid.picture_ofDisplay,
    Picture.enlarge_ofPoints (by omega)]
  rfl

/-- A display and its bitmap are painted alike, or refused alike. -/
theorem Screen.paint_toScreen
    (display : Display) (scale : Int) (lit dark : Tint) :
    (Grid.ofDisplay display).toScreen.paint scale lit dark =
      (Screen.cells display).paint scale lit dark := by
  have isGrid :
      (Grid.ofDisplay display).toScreen.grid =
        .ok (.ofDisplay (.ofList (Grid.ofDisplay display).toCells)) := by
    simp only [Grid.toScreen, grid, if_true]
  unfold paint
  rw [isGrid]
  simp only [grid, bind, Except.bind, Grid.picture_toScreen]

/-! ## Squares on a surface -/

namespace Surface

/-- Where all rectangles have the same colour, their order does not matter. -/
theorem color_find?
    {rectangles : List Rectangle} {color : Color}
    (same : ∀ rectangle ∈ rectangles, rectangle.color = color)
    (covers : Rectangle → Bool) (filling : Color) :
    ((rectangles.find? covers).map Rectangle.color).getD filling =
      if rectangles.any covers then color else filling := by
  cases found : rectangles.find? covers with
  | none =>
      have uncovered : rectangles.any covers = false := by
        simpa using found
      simp [uncovered]
  | some rectangle =>
      have belongs := List.mem_of_find?_eq_some found
      have covered : rectangles.any covers = true :=
        List.any_eq_true.mpr ⟨rectangle, belongs, List.find?_some found⟩
      simp [covered, same rectangle belongs]

private theorem picture_eq
    {surface : Surface} {color : Color}
    (same : ∀ rectangle ∈ surface.rectangles, rectangle.color = color) :
    surface.picture =
      Picture.ofPoints surface.height surface.width fun row column =>
        if surface.rectangles.any fun rectangle =>
          rectangle.coversRow row && rectangle.coversColumn column
        then color else surface.filling := by
  apply List.map_congr_left
  intro row _
  apply List.map_congr_left
  intro column _
  simp only [List.find?_filter, color_find? same, Bool.decide_and,
    Bool.decide_eq_true]

end Surface

namespace Window

/-- The points from one edge of a cell to the other are those that the size of
a cell divides to its number. -/
theorem covers_iff_div
    {scale : Int} (positive : 1 ≤ scale) (number : Int) (place : Nat) :
    number * scale ≤ place ∧ place < number * scale + scale ↔
      number = (place / scale.toNat : Nat) := by
  have isScale : (scale.toNat : Int) = scale := by omega
  have lower : number ≤ (place : Int) / scale ↔ number * scale ≤ place :=
    Int.le_ediv_iff_mul_le (by omega)
  have upper :
      (place : Int) / scale < number + 1 ↔ place < (number + 1) * scale :=
    Int.ediv_lt_iff_lt_mul (by omega)
  rw [Int.add_mul, Int.one_mul] at upper
  rw [Int.natCast_ediv, isScale, ← lower, ← upper]
  omega

theorem square_covers_iff
    {window : Window} (positive : 1 ≤ window.scale) (cell : Cell)
    (row column : Nat) :
    ((window.square cell).coversRow row &&
        (window.square cell).coversColumn column) = true ↔
      cell = ⟨(column / window.scale.toNat : Nat),
        (row / window.scale.toNat : Nat)⟩ := by
  simp only [Rectangle.coversRow, Rectangle.coversColumn, Bool.and_eq_true,
    decide_eq_true_eq]
  simp only [square, covers_iff_div positive]
  cases cell
  simp [and_comm]

private theorem foldl_paint
    (window : Window) (cells : List Cell) (surface : Surface) :
    cells.foldl (fun surface cell => surface.paint (window.square cell))
        surface =
      { surface with
        rectangles :=
          (cells.map window.square).reverse ++ surface.rectangles } := by
  induction cells generalizing surface with
  | nil => rfl
  | cons cell rest inductionHypothesis =>
      rw [List.foldl_cons, inductionHypothesis]
      simp [Surface.paint]

/-- The squares of the visible cells cover a point of the window if the cell of
the point is lit. -/
theorem any_square_covers
    {window : Window} (positive : 1 ≤ window.scale) (display : Display)
    {row column : Nat}
    (inHeight : row < screenHeight * window.scale.toNat)
    (inWidth : column < screenWidth * window.scale.toNat) :
    (((display.filter Cell.isVisible).toList.map window.square).any
        fun square => square.coversRow row && square.coversColumn column) =
      display.contains
        ⟨(column / window.scale.toNat : Nat),
          (row / window.scale.toNat : Nat)⟩ := by
  have isVisible :
      Cell.isVisible ⟨(column / window.scale.toNat : Nat),
        (row / window.scale.toNat : Nat)⟩ = true :=
    Cell.isVisible_of_lt
      (Nat.div_lt_of_lt_mul (Nat.mul_comm _ _ ▸ inWidth))
      (Nat.div_lt_of_lt_mul (Nat.mul_comm _ _ ▸ inHeight))
  rw [Bool.eq_iff_iff, SortedSet.contains_iff, List.any_map,
    List.any_eq_true]
  constructor
  · rintro ⟨cell, belongs, covered⟩
    obtain ⟨lit, _⟩ := SortedSet.mem_filter.mp belongs
    exact (square_covers_iff positive cell row column).mp covered ▸ lit
  · intro lit
    exact ⟨_, SortedSet.mem_filter.mpr ⟨lit, isVisible⟩,
      (square_covers_iff positive _ row column).mpr rfl⟩

/-- The points of a window in which a display has been painted do not depend on
what the window showed before. -/
theorem picture_paint
    {window : Window} (positive : 1 ≤ window.scale) (display : Display)
    {surface : Surface}
    (sameWidth : surface.width = window.blank.width)
    (sameHeight : surface.height = window.blank.height) :
    (window.paint surface display).picture =
      Picture.ofPoints (screenHeight * window.scale.toNat)
        (screenWidth * window.scale.toNat)
        (window.palette.point display window.scale.toNat) := by
  have width : window.blank.width = screenWidth * window.scale.toNat := by
    simp only [blank, screenWidth]
    omega
  have height : window.blank.height = screenHeight * window.scale.toNat := by
    simp only [blank, screenHeight]
    omega
  have sameColor : ∀ rectangle ∈
      ((display.filter Cell.isVisible).toList.map window.square).reverse ++ [],
      rectangle.color = window.palette.lit := by
    intro rectangle belongs
    rw [List.append_nil, List.mem_reverse] at belongs
    obtain ⟨cell, _, rfl⟩ := List.mem_map.mp belongs
    rfl
  rw [paint, foldl_paint, Surface.picture_eq sameColor]
  simp only [Surface.fill, sameWidth, sameHeight, width, height]
  apply Picture.ofPoints_congr
  intro row inHeight column inWidth
  rw [List.append_nil, List.any_reverse,
    any_square_covers positive display inHeight inWidth]
  rfl

end Window

/-- All renderers show the same points: each point has the colour of its cell,
whether the display is painted as it is, turned into a bitmap first, or drawn
in a window over whatever the window showed. -/
theorem renderers_agree
    (display : Display) {scale : Int} {lit dark : Tint}
    (positive : 1 ≤ scale) (litIsColor : lit.IsColor)
    (darkIsColor : dark.IsColor) :
    ∃ picture,
      (Screen.cells display).paint scale lit dark = .ok picture ∧
      (picture.length : Int) = 32 * scale ∧
      (∀ line ∈ picture, (line.length : Int) = 64 * scale) ∧
      (∀ row column : Nat,
        (row : Int) < 32 * scale → (column : Int) < 64 * scale →
        ∃ color,
          picture.point? row column = some color ∧
          ((⟨column / scale, row / scale⟩ : Cell) ∈ display →
            color.tint = lit) ∧
          ((⟨column / scale, row / scale⟩ : Cell) ∉ display →
            color.tint = dark)) ∧
      (∃ grid, (Screen.cells display).grid = .ok grid ∧
        grid.toScreen.paint scale lit dark = .ok picture) ∧
      ∀ (window : Window) (surface : Surface),
        window.scale = scale → window.palette.lit.tint = lit →
        window.palette.dark.tint = dark → window.surface = some surface →
        surface.width = window.blank.width →
        surface.height = window.blank.height →
        ∃ shown painted,
          window.draw display = .ok shown ∧ shown.surface = some painted ∧
          painted.picture = picture := by
  obtain ⟨litColor, isLit, litTint⟩ := Tint.exists_color litIsColor
  obtain ⟨darkColor, isDark, darkTint⟩ := Tint.exists_color darkIsColor
  let palette : Palette := ⟨litColor, darkColor⟩
  have painted :
      (Screen.cells display).paint scale lit dark =
        .ok (Picture.ofPoints (screenHeight * scale.toNat)
          (screenWidth * scale.toNat)
          (palette.point display scale.toNat)) :=
    Screen.paint_cells display positive isLit isDark
  have height : (screenHeight * scale.toNat : Nat) = 32 * scale := by
    simp only [screenHeight]
    omega
  have width : (screenWidth * scale.toNat : Nat) = 64 * scale := by
    simp only [screenWidth]
    omega
  refine ⟨_, painted, ?_, ?_, ?_, ⟨_, rfl, ?_⟩, ?_⟩
  · simpa [Picture.ofPoints] using height
  · intro line belongs
    obtain ⟨row, _, rfl⟩ := List.mem_map.mp belongs
    simpa using width
  · intro row column inHeight inWidth
    refine ⟨_, Picture.point?_ofPoints _ (by omega) (by omega), ?_⟩
    obtain ⟨whenLit, whenDark⟩ :=
      palette.point_eq display positive row column
    constructor
    · intro lit
      rw [whenLit lit]
      exact litTint
    · intro unlit
      rw [whenDark unlit]
      exact darkTint
  · rw [Screen.paint_toScreen, painted]
  · intro window surface isScale isLitTint isDarkTint isSurface sameWidth
      sameHeight
    subst isScale isLitTint isDarkTint
    have shown :
        window.draw display =
          .ok { window with surface := some (window.paint surface display) } := by
      rw [Window.draw, isSurface]
    refine ⟨_, _, shown, rfl, ?_⟩
    rw [Window.picture_paint positive display sameWidth sameHeight]
    have again :=
      Screen.paint_cells display positive
        (Tint.toColor_tint window.palette.lit)
        (Tint.toColor_tint window.palette.dark)
    exact Except.ok.inj (again.symm.trans painted)

/-- The last cell of the screen and two cells just outside, in a window whose
cells are two points wide. -/
theorem renderers_agree_edges :
    let display : Display := .ofList [⟨63, 31⟩, ⟨64, 0⟩, ⟨-1, 5⟩]
    ∃ window picture,
      Window.create 2 "blue" "chipvm" = .ok window ∧
      (Screen.cells display).paint 2 ⟨0, 255, 255⟩ ⟨0, 0, 64⟩ = .ok picture ∧
      (∃ color, picture.point? 63 127 = some color ∧
        color.tint = ⟨0, 255, 255⟩) ∧
      (∃ color, picture.point? 0 127 = some color ∧
        color.tint = ⟨0, 0, 64⟩) ∧
      ∃ shown painted,
        window.setup.draw display = .ok shown ∧
        shown.surface = some painted ∧ painted.picture = picture := by
  intro display
  have isColor : (⟨0, 255, 255⟩ : Tint).IsColor ∧ (⟨0, 0, 64⟩ : Tint).IsColor := by
    simp [Tint.IsColor]
  obtain ⟨picture, painted, _, _, points, _, windows⟩ :=
    renderers_agree display (by decide : (1 : Int) ≤ 2) isColor.1 isColor.2
  obtain ⟨lastColor, isLast, whenLit, _⟩ := points 63 127 (by decide) (by decide)
  obtain ⟨firstColor, isFirst, _, whenDark⟩ :=
    points 0 127 (by decide) (by decide)
  let window : Window :=
    { scale := 2, palette := ⟨⟨0, 255, 255⟩, ⟨0, 0, 64⟩⟩ }
  refine ⟨window, picture, rfl, painted,
    ⟨lastColor, isLast, whenLit ?_⟩, ⟨firstColor, isFirst, whenDark ?_⟩, ?_⟩
  · simp [display]
  · simp [display]
  · exact windows window.setup window.blank rfl rfl rfl rfl rfl rfl

end Chip8
