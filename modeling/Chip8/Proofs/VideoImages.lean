import Mathlib.Algebra.Order.Ring.Rat
import Mathlib.Data.List.Induction
import Chip8.Proofs.Renderers
import Chip8.Video

/-!
# The images of a video

The colour of a point in an image is said here by the screens alone: a cell that
is lit has the lit colour, one that never was has the dark one, and one that was
lit some frames ago lies between the two.  How long ago a cell was lit is read
off the screens.  The glow, which a video carries from frame to frame instead,
gives the same images.

A glow that fades is multiplied by the same number in each frame.  It takes 460
values, and from then on it stays as it is; so what is needed about it is
evaluated at each of them.
-/

namespace Chip8

def Screen.lights (column row : Nat) : Screen → Bool
  | .cells display => display.contains ⟨column, row⟩
  | .bitmap _ lit => lit.contains ⟨column, row⟩

private theorem Screen.isLit_grid
    {screen : Screen} {grid : Grid} {column row : Nat}
    (isGrid : screen.grid = .ok grid)
    (inWidth : column < screenWidth) (inHeight : row < screenHeight) :
    grid.isLit column row = screen.lights column row := by
  have isLit (display : Display) :
      (Grid.ofDisplay display).isLit column row =
        display.contains ⟨column, row⟩ := by
    rw [Bool.eq_iff_iff, Grid.isLit_ofDisplay_iff inWidth inHeight,
      SortedSet.contains_iff]
  cases screen with
  | cells display =>
      cases isGrid
      exact isLit display
  | bitmap shape lit =>
      rw [Screen.grid] at isGrid
      split at isGrid
      · cases isGrid
        exact isLit lit
      · cases isGrid

namespace Video

/-! ## The glow of a cell -/

/-- How many frames ago a cell was lit, if it ever was, from the frames in which
it is lit. -/
def age (lit : List Bool) : Option Nat := lit.reverse.findIdx? id

@[simp] theorem age_nil : age [] = none := rfl

theorem age_concat (lit : List Bool) (isLit : Bool) :
    age (lit ++ [isLit]) =
      if isLit then some 0 else (age lit).map (· + 1) := by
  rw [age, List.reverse_concat, List.findIdx?_cons]
  rfl

private theorem age_eq_none
    {lit : List Bool} (never : ∀ isLit ∈ lit, isLit = false) :
    age lit = none := by
  simpa [age, List.findIdx?_eq_none_iff] using never

/-- The age of a cell is the number of dark frames behind a lit one. -/
theorem age_append_cons
    (earlier : List Bool) {later : List Bool}
    (dark : ∀ isLit ∈ later, isLit = false) :
    age (earlier ++ true :: later) = some later.length := by
  induction later using List.reverseRecOn with
  | nil => exact age_concat earlier true
  | append_singleton others isLit inductionHypothesis =>
      obtain ⟨othersDark, isDark⟩ := List.forall_mem_append.mp dark
      rw [← List.cons_append, ← List.append_assoc, age_concat,
        inductionHypothesis othersDark, List.forall_mem_singleton.mp isDark,
        List.length_append]
      rfl

/-- What is left of the glow of a lit cell after some frames. -/
def afterglow : Nat → Float32
  | 0 => 1
  | age + 1 => afterglow age * decay

/-- The glow of a cell that was lit some frames ago. -/
def glowAt (persistence : Bool) : Option Nat → Float32
  | none => 0
  | some 0 => 1
  | some age => if persistence then afterglow age else 0

theorem decay_eq : decay = Float32.ofBits 0x3F4CCCCD := by decide +kernel

/-- A fact holds in some frames of a glow that fades.  It may speak of the
number of frames to come. -/
private def holdsAlong (fact : Nat → Float32 → Bool) : Nat → Float32 → Bool
  | 0, glow => fact 0 glow
  | count + 1, glow =>
      fact (count + 1) glow &&
        holdsAlong fact count (glow * Float32.ofBits 0x3F4CCCCD)

private theorem fact_of_holdsAlong
    {fact : Nat → Float32 → Bool} {count passed : Nat} (age : Nat)
    (holds : holdsAlong fact count (afterglow age) = true)
    (within : passed ≤ count) :
    fact (count - passed) (afterglow (age + passed)) = true := by
  induction count generalizing age passed with
  | zero =>
      obtain rfl : passed = 0 := by omega
      exact holds
  | succ count inductionHypothesis =>
      rw [holdsAlong, ← decay_eq, Bool.and_eq_true] at holds
      cases passed with
      | zero => exact holds.1
      | succ passed =>
          have later : afterglow age * decay = afterglow (age + 1) := rfl
          rw [later] at holds
          rw [Nat.add_sub_add_right, Nat.add_comm passed, ← Nat.add_assoc]
          exact inductionHypothesis (age + 1) holds.2 (by omega)

private theorem toBits_injective
    {first second : Float32} (same : first.toBits = second.toBits) :
    first = second := by
  cases first with
  | ofModel firstModel =>
      cases second with
      | ofModel secondModel =>
          cases firstModel
          cases secondModel
          cases same
          rfl

/-- The number of frames after which a glow does not change any more. -/
private def lastChange : Nat := 459

private def fadesAt (count : Nat) (glow : Float32) : Bool :=
  let next := glow * Float32.ofBits 0x3F4CCCCD
  decide (clip (next + 0) = next) && decide (clip (next + 1) = 1) &&
    (count != 0 || next.toBits == glow.toBits)

private theorem fades_along : holdsAlong fadesAt 459 1 = true := by
  decide +kernel

private theorem fading_step
    {age : Nat} (changes : age ≤ lastChange) :
    clip (afterglow age * decay + 0) = afterglow (age + 1) ∧
      clip (afterglow age * decay + 1) = 1 ∧
      (age = lastChange → afterglow (age + 1) = afterglow age) := by
  have facts : fadesAt (lastChange - age) (afterglow (0 + age)) = true :=
    fact_of_holdsAlong 0 fades_along changes
  simp only [fadesAt, ← decay_eq, Nat.zero_add, Bool.and_eq_true,
    Bool.or_eq_true, bne_iff_ne, beq_iff_eq, decide_eq_true_eq] at facts
  obtain ⟨⟨goesOn, flares⟩, settles⟩ := facts
  refine ⟨goesOn, flares, fun isLast => ?_⟩
  rcases settles with goesOn | stays
  · exact absurd (Nat.sub_eq_zero_of_le isLast.ge) goesOn
  · exact toBits_injective stays

private theorem afterglow_of_le
    {age : Nat} (settled : lastChange ≤ age) :
    afterglow age = afterglow lastChange := by
  induction age, settled using Nat.le_induction with
  | base => rfl
  | succ age _ inductionHypothesis =>
      obtain ⟨_, _, stays⟩ := fading_step (Nat.le_refl lastChange)
      rw [afterglow, inductionHypothesis]
      exact stays rfl

/-- A glow that fades is left as it is by the bounds of a glow, and a cell that
is lit again glows fully. -/
theorem clip_afterglow (age : Nat) :
    clip (afterglow age * decay + 0) = afterglow (age + 1) ∧
      clip (afterglow age * decay + 1) = 1 := by
  rcases Nat.le_total age lastChange with changes | settled
  · obtain ⟨goesOn, flares, _⟩ := fading_step changes
    exact ⟨goesOn, flares⟩
  · obtain ⟨goesOn, flares, _⟩ := fading_step (Nat.le_refl lastChange)
    rw [afterglow, afterglow_of_le settled]
    exact ⟨goesOn, flares⟩

/-- The glow of a cell in the next frame. -/
def nextCellGlow (persistence : Bool) (old : Float32) (isLit : Bool) : Float32 :=
  if persistence then clip (old * decay + freshGlow isLit) else freshGlow isLit

private theorem nextCellGlow_glowAt
    (persistence : Bool) (before : Option Nat) (isLit : Bool) :
    nextCellGlow persistence (glowAt persistence before) isLit =
      glowAt persistence (if isLit then some 0 else before.map (· + 1)) := by
  cases persistence with
  | false =>
      cases isLit with
      | true => rfl
      | false => cases before <;> rfl
  | true =>
      have glows (age : Nat) : glowAt true (some age) = afterglow age := by
        cases age <;> rfl
      cases before with
      | none => cases isLit <;> decide +kernel
      | some age =>
          obtain ⟨goesOn, flares⟩ := clip_afterglow age
          rw [glows]
          cases isLit with
          | true => exact flares
          | false => exact goesOn

/-- The glow of a cell is known from the number of frames since it was lit. -/
theorem foldl_nextCellGlow (persistence : Bool) (lit : List Bool) :
    lit.foldl (nextCellGlow persistence) 0 = glowAt persistence (age lit) := by
  induction lit using List.reverseRecOn with
  | nil => rfl
  | append_singleton earlier isLit inductionHypothesis =>
      rw [List.foldl_concat, inductionHypothesis, nextCellGlow_glowAt,
        age_concat]

private theorem getD_nextGlow
    (persistence : Bool) (glow : Glow) (grid : Grid) {column row : Nat}
    (inWidth : column < screenWidth) (inHeight : row < screenHeight) :
    (nextGlow persistence glow grid).getD (row * screenWidth + column) 0 =
      nextCellGlow persistence (glow.getD (row * screenWidth + column) 0)
        (grid.isLit column row) := by
  have inside : row * screenWidth + column < screenWidth * screenHeight := by
    simp only [screenWidth, screenHeight] at inWidth inHeight ⊢
    omega
  cases persistence <;>
    simp [nextGlow, nextCellGlow, Grid.isLit, Vector.getD, inside]

private theorem getD_foldl_nextGlow
    (persistence : Bool) (grids : List Grid) (glow : Glow) {column row : Nat}
    (inWidth : column < screenWidth) (inHeight : row < screenHeight) :
    (grids.foldl (nextGlow persistence) glow).getD
        (row * screenWidth + column) 0 =
      (grids.map fun grid => grid.isLit column row).foldl
        (nextCellGlow persistence)
        (glow.getD (row * screenWidth + column) 0) := by
  induction grids generalizing glow with
  | nil => rfl
  | cons grid rest inductionHypothesis =>
      rw [List.foldl_cons, inductionHypothesis,
        getD_nextGlow persistence glow grid inWidth inHeight]
      rfl

/-! ## The colour of a cell -/

/-- The colour of a cell that was lit some frames ago. -/
def ageColor (persistence : Bool) (palette : Palette) : Option Nat → Color
  | none => palette.dark
  | some 0 => palette.lit
  | some age =>
      if persistence then glowColor palette (afterglow age) else palette.dark

/-- A part of a colour lies within one of the exact mixture of the dark and the
lit part that is left after some frames. -/
def Fades (age : Nat) (dark lit part : UInt8) : Prop :=
  let mixture : ℚ := dark.toNat + (4 / 5) ^ age * (lit.toNat - dark.toNat)
  mixture - 1 < part.toNat ∧ part.toNat < mixture + 1

instance (age : Nat) (dark lit part : UInt8) :
    Decidable (Fades age dark lit part) :=
  inferInstanceAs (Decidable (_ ∧ _))

/-- All parts of a colour lie near their exact mixture. -/
structure FadesTo (palette : Palette) (age : Nat) (color : Color) : Prop where
  red : Fades age palette.dark.red palette.lit.red color.red
  green : Fades age palette.dark.green palette.lit.green color.green
  blue : Fades age palette.dark.blue palette.lit.blue color.blue

/-- The dark and the lit parts of the colours of the palettes. -/
private def colorParts : List (UInt8 × UInt8) :=
  [(0, 0), (0, 255), (0, 176), (64, 255), (64, 0)]

private theorem fading_parts :
    holdsAlong
      (fun count glow => colorParts.all fun parts =>
        decide (Fades (24 - count) parts.1 parts.2 (blend parts.1 parts.2 glow)))
      24 1 = true := by
  decide +kernel

private theorem full_parts :
    (colorParts.all fun parts =>
      blend parts.1 parts.2 1 == parts.2 && blend parts.1 parts.2 0 == parts.1) =
      true := by
  decide +kernel

private theorem named_parts :
    (Palette.named.all fun entry =>
      colorParts.contains (entry.2.dark.red, entry.2.lit.red) &&
        colorParts.contains (entry.2.dark.green, entry.2.lit.green) &&
        colorParts.contains (entry.2.dark.blue, entry.2.lit.blue)) = true := by
  decide

/-- What holds of the parts of every named palette holds of all parts of a
palette that is found. -/
private theorem forall_parts
    {scheme : String} {palette : Palette} (fact : UInt8 → UInt8 → Prop)
    (known : Palette.get scheme = .ok palette)
    (holds : ∀ parts ∈ colorParts, fact parts.1 parts.2) :
    fact palette.dark.red palette.lit.red ∧
      fact palette.dark.green palette.lit.green ∧
      fact palette.dark.blue palette.lit.blue := by
  have found : Palette.find? scheme = some palette := by
    rw [Palette.get] at known
    split at known
    next isFound =>
      cases known
      exact isFound
    next => cases known
  obtain ⟨before, after, isNamed, _⟩ := List.lookup_eq_some_iff.mp found
  have belongs : (scheme, palette) ∈ Palette.named := by
    rw [isNamed]
    exact List.mem_append_right before List.mem_cons_self
  have listed := List.all_eq_true.mp named_parts _ belongs
  simp only [Bool.and_eq_true, List.contains_iff_mem] at listed
  obtain ⟨⟨red, green⟩, blue⟩ := listed
  exact ⟨holds _ red, holds _ green, holds _ blue⟩

section

variable {scheme : String} {palette : Palette}

private theorem glowColor_full
    (known : Palette.get scheme = .ok palette) :
    glowColor palette 1 = palette.lit ∧ glowColor palette 0 = palette.dark := by
  have parts :
      ∀ parts ∈ colorParts,
        blend parts.1 parts.2 1 = parts.2 ∧ blend parts.1 parts.2 0 = parts.1 := by
    intro parts belongs
    have full := List.all_eq_true.mp full_parts parts belongs
    rwa [Bool.and_eq_true, beq_iff_eq, beq_iff_eq] at full
  obtain ⟨⟨litRed, darkRed⟩, ⟨litGreen, darkGreen⟩, litBlue, darkBlue⟩ :=
    forall_parts
      (fun dark lit => blend dark lit 1 = lit ∧ blend dark lit 0 = dark) known
      parts
  rw [glowColor, glowColor, litRed, litGreen, litBlue, darkRed, darkGreen,
    darkBlue]
  exact ⟨rfl, rfl⟩

private theorem glowColor_glowAt
    (known : Palette.get scheme = .ok palette) (persistence : Bool)
    (since : Option Nat) :
    glowColor palette (glowAt persistence since) =
      ageColor persistence palette since := by
  obtain ⟨full, none⟩ := glowColor_full known
  cases since with
  | none => exact none
  | some age =>
      cases age with
      | zero => exact full
      | succ age =>
          cases persistence with
          | true => rfl
          | false => exact none

/-- As long as a fading cell can be told from a dark one, its colour is that of
the exact mixture, up to less than one in each part. -/
theorem fadesTo_ageColor
    (known : Palette.get scheme = .ok palette) {age : Nat}
    (isPast : 0 < age) (visible : age ≤ 24) :
    FadesTo palette age (ageColor true palette (some age)) := by
  have parts :
      ∀ parts ∈ colorParts,
        Fades age parts.1 parts.2 (blend parts.1 parts.2 (afterglow age)) := by
    intro parts belongs
    have along := fact_of_holdsAlong 0 fading_parts visible
    rw [Nat.sub_sub_self visible, Nat.zero_add] at along
    exact of_decide_eq_true (List.all_eq_true.mp along parts belongs)
  obtain ⟨red, green, blue⟩ :=
    forall_parts
      (fun dark lit => Fades age dark lit (blend dark lit (afterglow age)))
      known parts
  have isColor :
      ageColor true palette (some age) = glowColor palette (afterglow age) := by
    cases age with
    | zero => cases isPast
    | succ age => rfl
  rw [isColor]
  exact ⟨red, green, blue⟩

end

/-! ## The images -/

/-- The colour of a cell in the last of some screens. -/
def cellColor (options : Options) (palette : Palette) (screens : List Screen)
    (column row : Nat) : Color :=
  ageColor options.persistence palette
    (age (screens.map (Screen.lights column row)))

def image (options : Options) (palette : Palette) (screens : List Screen) :
    Picture :=
  let scale := options.scale.toNat
  .ofPoints (screenHeight * scale) (screenWidth * scale) fun row column =>
    cellColor options palette screens (column / scale) (row / scale)

/-- The images of some screens, each from the screens up to it. -/
def images (options : Options) (palette : Palette) (screens : List Screen) :
    List Picture :=
  (List.range screens.length).map fun number =>
    image options palette (screens.take (number + 1))

@[simp] theorem length_images
    (options : Options) (palette : Palette) (screens : List Screen) :
    (images options palette screens).length = screens.length := by
  simp [images]

/-- More screens leave the images before them as they are. -/
theorem images_prefix_append
    (options : Options) (palette : Palette) (screens more : List Screen) :
    images options palette screens <+:
      images options palette (screens ++ more) := by
  refine ⟨(List.range more.length).map fun number =>
    image options palette
      ((screens ++ more).take (screens.length + number + 1)), ?_⟩
  rw [images, images, List.length_append, List.range_add, List.map_append,
    List.map_map]
  have same :
      (List.range screens.length).map (fun number =>
          image options palette (screens.take (number + 1))) =
        (List.range screens.length).map fun number =>
          image options palette ((screens ++ more).take (number + 1)) := by
    apply List.map_congr_left
    intro number below
    have within : number + 1 ≤ screens.length := List.mem_range.mp below
    rw [List.take_append_of_le_length within]
  rw [same]
  rfl

/-- Every image has the size of the enlarged screen. -/
theorem size_of_mem_images
    {options : Options} {palette : Palette} {screens : List Screen}
    {picture : Picture}
    (enlarged : 1 ≤ options.scale)
    (belongs : picture ∈ images options palette screens) :
    (picture.length : Int) = screenHeight * options.scale ∧
      ∀ row ∈ picture, (row.length : Int) = screenWidth * options.scale := by
  obtain ⟨number, _, rfl⟩ := List.mem_map.mp belongs
  have isScale : (options.scale.toNat : Int) = options.scale :=
    Int.toNat_of_nonneg (by omega)
  constructor
  · rw [image, Picture.ofPoints, List.length_map, List.length_range,
      Int.natCast_mul, isScale]
  · intro row isRow
    obtain ⟨place, _, rfl⟩ := List.mem_map.mp isRow
    rw [List.length_map, List.length_range, Int.natCast_mul, isScale]

/-- The picture that is painted behind some grids is the image of the last of
their screens. -/
theorem glowPicture_eq_image
    {options : Options} {palette : Palette} {screens : List Screen}
    {grids : List Grid}
    (enlarged : 1 ≤ options.scale)
    (known : Palette.get options.colorScheme = .ok palette)
    (valid : List.Forall₂ (fun screen grid => screen.grid = .ok grid) screens
      grids) :
    (glowPicture palette
        (grids.foldl (nextGlow options.persistence)
          (Vector.replicate _ 0))).enlarge options.scale.toNat =
      image options palette screens := by
  have positive : 0 < options.scale.toNat := by omega
  rw [image, ← Picture.enlarge_ofPoints positive screenHeight screenWidth
    fun row column => cellColor options palette screens column row]
  refine congrArg (Picture.enlarge options.scale.toNat) ?_
  apply Picture.ofPoints_congr
  intro row inHeight column inWidth
  have dark :
      (Vector.replicate (screenWidth * screenHeight) (0 : Float32)).getD
        (row * screenWidth + column) 0 = 0 := by
    simp only [Vector.getD, Vector.replicate, Array.getD_eq_getD_getElem?,
      Array.getElem?_replicate]
    split <;> rfl
  have sameCells :
      grids.map (fun grid => grid.isLit column row) =
        screens.map (Screen.lights column row) := by
    induction valid with
    | nil => rfl
    | cons isGrid _ inductionHypothesis =>
        rw [List.map_cons, List.map_cons, inductionHypothesis,
          Screen.isLit_grid isGrid inWidth inHeight]
  rw [getD_foldl_nextGlow _ _ _ inWidth inHeight, dark, foldl_nextCellGlow,
    glowColor_glowAt known, sameCells]
  rfl

private theorem pictures_eq
    (options : Options) (palette : Palette) (glow : Glow) (grids : List Grid) :
    pictures options palette glow grids =
      (List.range grids.length).map fun number =>
        (glowPicture palette
          ((grids.take (number + 1)).foldl (nextGlow options.persistence)
            glow)).enlarge (max options.scale 1).toNat := by
  induction grids generalizing glow with
  | nil => rfl
  | cons grid rest inductionHypothesis =>
      rw [pictures, inductionHypothesis, List.length_cons,
        List.range_succ_eq_map, List.map_cons, List.map_map]
      rfl

/-- The pictures that are carried on from frame to frame are the images of the
screens so far. -/
theorem pictures_eq_images
    {options : Options} {palette : Palette} {screens : List Screen}
    {grids : List Grid}
    (enlarged : 1 ≤ options.scale)
    (known : Palette.get options.colorScheme = .ok palette)
    (valid : List.Forall₂ (fun screen grid => screen.grid = .ok grid) screens
      grids) :
    pictures options palette (Vector.replicate _ 0) grids =
      images options palette screens := by
  rw [pictures_eq, max_eq_left enlarged, images, valid.length_eq]
  apply List.map_congr_left
  intro number _
  exact glowPicture_eq_image enlarged known
    (List.forall₂_take (number + 1) valid)

/-- What the colour of a cell in the last of some screens is known from: the
screen itself, the screens before it and how long ago the cell was lit. -/
structure Shows (options : Options) (palette : Palette) (screens : List Screen)
    (column row : Nat) (color : Color) : Prop where
  lit : ∀ earlier last, screens = earlier ++ [last] →
    last.lights column row = true → color = palette.lit
  dark : (∀ screen ∈ screens, screen.lights column row = false) →
    color = palette.dark
  sharp : options.persistence = false →
    ∀ earlier last, screens = earlier ++ [last] →
      last.lights column row = false → color = palette.dark
  fades : options.persistence = true →
    ∀ earlier screen later, screens = earlier ++ screen :: later →
      screen.lights column row = true →
      (∀ after ∈ later, after.lights column row = false) →
      0 < later.length → later.length ≤ 24 →
      FadesTo palette later.length color

private theorem shows_cellColor
    {options : Options} {palette : Palette}
    (known : Palette.get options.colorScheme = .ok palette)
    (screens : List Screen) (column row : Nat) :
    Shows options palette screens column row
      (cellColor options palette screens column row) where
  lit := by
    rintro earlier last rfl lights
    rw [cellColor, List.map_append, List.map_singleton, lights, age_concat]
    rfl
  dark := by
    intro never
    rw [cellColor, age_eq_none (List.forall_mem_map.mpr never)]
    rfl
  sharp := by
    rintro sharp earlier last rfl isDark
    rw [cellColor, List.map_append, List.map_singleton, isDark, age_concat,
      sharp]
    cases age (earlier.map (Screen.lights column row)) <;> rfl
  fades := by
    rintro persists earlier screen later rfl lights isDark isPast visible
    rw [cellColor, List.map_append, List.map_cons, lights,
      age_append_cons _ (List.forall_mem_map.mpr isDark), List.length_map,
      persists]
    exact fadesTo_ageColor known isPast visible

/-- Every point of an image shows its cell. -/
theorem shows_images
    {options : Options} {palette : Palette}
    (known : Palette.get options.colorScheme = .ok palette)
    (screens : List Screen) {number row column : Nat}
    (isNumber : number < screens.length)
    (inHeight : row < screenHeight * options.scale.toNat)
    (inWidth : column < screenWidth * options.scale.toNat) :
    ∃ color,
      ((images options palette screens)[number]?.bind fun picture =>
          picture.point? row column) = some color ∧
        Shows options palette (screens.take (number + 1))
          (column / options.scale.toNat) (row / options.scale.toNat) color := by
  refine ⟨_, ?_, shows_cellColor known _ _ _⟩
  rw [images, List.getElem?_map, List.getElem?_range isNumber]
  exact Picture.point?_ofPoints _ inHeight inWidth

end Video

end Chip8
