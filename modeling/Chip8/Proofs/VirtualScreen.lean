import Chip8.Frontend.Terminal
import Chip8.Proofs.Drawing

/-!
# What a terminal shows

A virtual screen has 64 columns and 32 rows and interprets the text that is
written to it, character by character: a sequence can clear it or move its
cursor, and a block or a blank sets or clears the cell at the cursor.  It also
keeps the list of all cells that have been set or cleared.

Only the cells that differ from the frame before are painted, so the screen
depends on all that has been painted earlier.  Whatever the frames were, after
each drawing it shows the visible part of the display that was drawn last.
-/

namespace Chip8

namespace Cell

theorem compare_eq_lt_iff {first second : Cell} :
    compare first second = .lt ↔
      first.y < second.y ∨ first.y = second.y ∧ first.x < second.x := by
  change compareLex (compareOn Cell.y) (compareOn Cell.x) first second = .lt ↔ _
  simp only [compareLex, compareOn, Ordering.then_eq_lt, compare_lt_iff_lt,
    compare_eq_iff_eq]

end Cell

/-- How much of an escape sequence has been read. -/
inductive Reading where
  | text
  | escape
  | sequence (parameters : List Char)

/-- A screen that interprets what is written to it. -/
structure VirtualScreen where
  lit : Display := ∅
  cursor : Cell := ⟨0, 0⟩
  reading : Reading := .text
  /-- The cells that were set or cleared so far, in order. -/
  operations : List (Cell × Bool) := []

namespace VirtualScreen

/-- The place that the parameters of a move name.  Rows come first, and both
numbers count from one. -/
def placeOf (parameters : List Char) : Cell :=
  let row := Nat.ofDigitChars 10 (parameters.takeWhile (· ≠ ';')) 0
  let column := Nat.ofDigitChars 10 ((parameters.dropWhile (· ≠ ';')).drop 1) 0
  ⟨(column - 1 : Nat), (row - 1 : Nat)⟩

/-- The effect of a complete sequence.  Only clearing and moving have one. -/
def obey (screen : VirtualScreen) (parameters : List Char) (final : Char) :
    VirtualScreen :=
  if final = 'J' ∧ parameters = ['2'] then { screen with lit := ∅ }
  else if final = 'H' then { screen with cursor := placeOf parameters }
  else screen

def isFinal (char : Char) : Bool := 0x40 ≤ char.toNat && char.toNat ≤ 0x7E

-- Terminals differ in where a character leaves the cursor, so this is open.
variable (advance : Cell → Cell)

/-- Sets or clears the cell at the cursor, if it lies on the screen. -/
def put (screen : VirtualScreen) (lit : Bool) : VirtualScreen :=
  { screen with
    lit :=
      if screen.cursor.OnScreen then
        if lit then screen.lit.insert screen.cursor
        else screen.lit.erase screen.cursor
      else screen.lit
    cursor := advance screen.cursor
    operations := screen.operations ++ [(screen.cursor, lit)] }

def read (screen : VirtualScreen) (char : Char) : VirtualScreen :=
  match screen.reading with
  | .text =>
      if char = '\x1b' then { screen with reading := .escape }
      else if char = '█' then screen.put advance true
      else if char = ' ' then screen.put advance false
      else screen
  | .escape =>
      { screen with reading := if char = '[' then .sequence [] else .text }
  | .sequence parameters =>
      if isFinal char then
        { screen.obey parameters char with reading := .text }
      else { screen with reading := .sequence (parameters ++ [char]) }

def feed (screen : VirtualScreen) (text : List Char) : VirtualScreen :=
  text.foldl (read advance) screen

variable {advance : Cell → Cell}

theorem feed_append
    (screen : VirtualScreen) (first second : List Char) :
    screen.feed advance (first ++ second) =
      (screen.feed advance first).feed advance second :=
  List.foldl_append

/-! ## Sequences -/

private theorem feed_parameters
    {screen : VirtualScreen} {earlier parameters : List Char}
    (inside : screen.reading = .sequence earlier)
    (unfinished : ∀ char ∈ parameters, isFinal char = false) :
    screen.feed advance parameters =
      { screen with reading := .sequence (earlier ++ parameters) } := by
  induction parameters generalizing screen earlier with
  | nil =>
      rw [List.append_nil, ← inside]
      rfl
  | cons char rest inductionHypothesis =>
      have charOpen : isFinal char = false := unfinished char List.mem_cons_self
      have step :
          screen.read advance char =
            { screen with reading := .sequence (earlier ++ [char]) } := by
        simp [read, inside, charOpen]
      change (screen.read advance char).feed advance rest = _
      rw [step, inductionHypothesis rfl
        fun other belongs => unfinished other (List.mem_cons_of_mem _ belongs),
        List.append_assoc, List.singleton_append]

/-- A whole sequence has the effect of its parameters and its last
character. -/
theorem feed_sequence
    {screen : VirtualScreen} {parameters : List Char} {final : Char}
    (plain : screen.reading = .text)
    (unfinished : ∀ char ∈ parameters, isFinal char = false)
    (closing : isFinal final = true) :
    screen.feed advance ('\x1b' :: '[' :: (parameters ++ [final])) =
      { screen.obey parameters final with reading := .text } := by
  have opened :
      screen.feed advance ['\x1b', '['] =
        { screen with reading := .sequence [] } := by
    simp [feed, read, plain]
  have split :
      '\x1b' :: '[' :: (parameters ++ [final]) =
        ['\x1b', '['] ++ parameters ++ [final] := rfl
  rw [split, feed_append, feed_append, opened, feed_parameters rfl unfinished]
  simp only [feed, List.foldl_cons, List.foldl_nil, read, List.nil_append,
    closing, if_true, obey]
  split_ifs <;> rfl

/-! ## The texts of the terminal -/

theorem feed_enterText
    {screen : VirtualScreen} (plain : screen.reading = .text) :
    screen.feed advance Terminal.enterText.toList = { screen with lit := ∅ } := by
  have texts :
      Terminal.enterText.toList =
        ('\x1b' :: '[' :: (['?', '1', '0', '4', '9'] ++ ['h'])) ++
          ('\x1b' :: '[' :: (['2'] ++ ['J'])) ++
          ('\x1b' :: '[' :: (['?', '2', '5'] ++ ['l'])) := by
    decide
  rw [texts, feed_append, feed_append,
    feed_sequence plain (by simp [isFinal]) rfl,
    feed_sequence rfl (by simp [isFinal]) rfl,
    feed_sequence rfl (by simp [isFinal]) rfl]
  simp [obey, plain]

theorem isFinal_digit
    {number : Nat} {char : Char} (belongs : char ∈ Nat.toDigits 10 number) :
    isFinal char = false ∧ char ≠ ';' := by
  have digit := Nat.isDigit_of_mem_toDigits (by decide) (by decide) belongs
  have bound : char.toNat ≤ 57 := by
    simp only [Char.isDigit, Bool.and_eq_true, decide_eq_true_eq] at digit
    exact UInt32.le_iff_toNat_le.mp digit.2
  constructor
  · simp only [isFinal, Bool.and_eq_false_iff, decide_eq_false_iff_not]
    omega
  · rintro rfl
    exact absurd bound (by decide)

private theorem placeOf_digits (row column : Nat) :
    placeOf (Nat.toDigits 10 (row + 1) ++ ';' :: Nat.toDigits 10 (column + 1)) =
      ⟨column, row⟩ := by
  have noSeparator :
      ∀ char ∈ Nat.toDigits 10 (row + 1), decide (char ≠ ';') = true :=
    fun char belongs => decide_eq_true (isFinal_digit belongs).2
  unfold placeOf
  rw [List.takeWhile_append_of_pos noSeparator,
    List.dropWhile_append_of_pos noSeparator]
  simp [Nat.ofDigitChars_ten_toDigits]

theorem toList_text (number : Nat) :
    (Numeral.text number).toList = Nat.toDigits 10 number := by
  have noSign : Numeral.sign number = [] := if_neg (by omega)
  rw [Numeral.text, String.toList_ofList, noSign, Int.natAbs_natCast]
  rfl

private theorem toList_moveTo (row column : Nat) :
    (Terminal.moveTo ⟨column, row⟩).toList =
      '\x1b' :: '[' ::
        ((Nat.toDigits 10 (row + 1) ++ ';' :: Nat.toDigits 10 (column + 1)) ++
          ['H']) := by
  have rowText := toList_text (row + 1)
  have columnText := toList_text (column + 1)
  push_cast at rowText columnText
  simp [Terminal.moveTo, rowText, columnText]

private theorem feed_moveTo
    {screen : VirtualScreen} {cell : Cell}
    (plain : screen.reading = .text) (visible : cell.OnScreen) :
    screen.feed advance (Terminal.moveTo cell).toList =
      { screen with cursor := cell } := by
  obtain ⟨left, _, top, _⟩ := visible
  obtain ⟨column, isColumn⟩ := Int.eq_ofNat_of_zero_le left
  obtain ⟨row, isRow⟩ := Int.eq_ofNat_of_zero_le top
  have place : cell = ⟨column, row⟩ := by
    cases cell
    simp_all
  have unfinished : ∀ char ∈
      Nat.toDigits 10 (row + 1) ++ ';' :: Nat.toDigits 10 (column + 1),
      isFinal char = false := by
    intro char belongs
    rcases List.mem_append.mp belongs with inRow | later
    · exact (isFinal_digit inRow).1
    · rcases List.mem_cons.mp later with rfl | inColumn
      · rfl
      · exact (isFinal_digit inColumn).1
  rw [place, toList_moveTo, feed_sequence plain unfinished (by decide)]
  simp [obey, placeOf_digits, plain]

variable (advance) in
/-- Moves to a cell and sets or clears it. -/
def paint (screen : VirtualScreen) (change : Cell × Bool) : VirtualScreen :=
  { screen with cursor := change.1 }.put advance change.2

private theorem feed_paintCell
    {screen : VirtualScreen} {cell : Cell} {lit : Bool}
    (plain : screen.reading = .text) (visible : cell.OnScreen) :
    screen.feed advance (Terminal.paintCell cell lit).toList =
      screen.paint advance (cell, lit) := by
  rw [Terminal.paintCell, String.toList_append, feed_append,
    feed_moveTo plain visible, String.toList_singleton]
  cases lit <;> simp [feed, read, plain, Terminal.cellChar, paint]

/-- The text of several painted cells paints one after the other. -/
theorem feed_join_paintCell
    {screen : VirtualScreen} {changes : List (Cell × Bool)}
    (plain : screen.reading = .text)
    (visible : ∀ change ∈ changes, change.1.OnScreen) :
    screen.feed advance
        (String.join (changes.map fun change =>
          Terminal.paintCell change.1 change.2)).toList =
      changes.foldl (paint advance) screen := by
  induction changes generalizing screen with
  | nil => rfl
  | cons change rest inductionHypothesis =>
      have visibleRest : ∀ other ∈ rest, other.1.OnScreen :=
        fun other belongs => visible other (List.mem_cons_of_mem _ belongs)
      have later :=
        @inductionHypothesis (screen.paint advance change) plain visibleRest
      rw [String.toList_join] at later ⊢
      rw [List.map_cons, List.flatMap_cons, feed_append,
        feed_paintCell plain (visible change List.mem_cons_self), later]
      rfl

/-! ## The effect of painting -/

private theorem operations_foldl_paint
    (changes : List (Cell × Bool)) (screen : VirtualScreen) :
    (changes.foldl (paint advance) screen).operations =
      screen.operations ++ changes := by
  induction changes generalizing screen with
  | nil => simp
  | cons change rest inductionHypothesis =>
      rw [List.foldl_cons, inductionHypothesis]
      simp [paint, put]

private theorem reading_foldl_paint
    (changes : List (Cell × Bool)) (screen : VirtualScreen) :
    (changes.foldl (paint advance) screen).reading = screen.reading := by
  induction changes generalizing screen with
  | nil => rfl
  | cons change rest inductionHypothesis =>
      rw [List.foldl_cons, inductionHypothesis]
      rfl

private theorem mem_lit_paint_iff
    {screen : VirtualScreen} {cell painted : Cell} {lit : Bool}
    (visible : painted.OnScreen) :
    cell ∈ (screen.paint advance (painted, lit)).lit ↔
      if cell = painted then lit = true else cell ∈ screen.lit := by
  by_cases same : cell = painted
  · subst same
    cases lit <;> simp [paint, put, visible]
  · cases lit <;> simp [paint, put, visible, same]

/-- Painted cells take their new value, and all others keep theirs. -/
theorem mem_lit_foldl_paint_iff
    {cells : List Cell} {screen : VirtualScreen} {cell : Cell}
    (value : Cell → Bool) (visible : ∀ painted ∈ cells, painted.OnScreen) :
    cell ∈ ((cells.map fun painted => (painted, value painted)).foldl
        (paint advance) screen).lit ↔
      if cell ∈ cells then value cell = true else cell ∈ screen.lit := by
  induction cells generalizing screen with
  | nil => simp
  | cons first rest inductionHypothesis =>
      have visibleRest : ∀ painted ∈ rest, painted.OnScreen :=
        fun painted belongs => visible painted (List.mem_cons_of_mem _ belongs)
      rw [List.map_cons, List.foldl_cons, inductionHypothesis visibleRest,
        mem_lit_paint_iff (visible first List.mem_cons_self)]
      by_cases again : cell ∈ rest
      · simp [again]
      · by_cases same : cell = first
        · simp [same]
        · simp [again, same]

end VirtualScreen

namespace Terminal

/-! ## The cells that are painted -/

/-- The first cell stands in a row above, or to the left in the same row. -/
def Before (first second : Cell × Bool) : Prop :=
  first.1.y < second.1.y ∨ first.1.y = second.1.y ∧ first.1.x < second.1.x

theorem pairwise_changes (previous current : Display) :
    (changes previous current).Pairwise Before := by
  have increasing :=
    ((previous.symmDiff current).filter Cell.isVisible).increasing
  refine List.pairwise_map.mpr (increasing.imp ?_)
  intro first second below
  exact Cell.compare_eq_lt_iff.mp below

/-- A cell is painted if it is visible and differs between the displays. -/
theorem mem_changes_iff
    {previous current : Display} {cell : Cell} {lit : Bool} :
    (cell, lit) ∈ changes previous current ↔
      cell.OnScreen ∧
        (cell ∈ previous ∧ cell ∉ current ∧ lit = false ∨
          cell ∉ previous ∧ cell ∈ current ∧ lit = true) := by
  have listed :
      (cell, lit) ∈ changes previous current ↔
        cell ∈ (previous.symmDiff current).filter Cell.isVisible ∧
          current.contains cell = lit := by
    simp only [changes, List.mem_map, Prod.mk.injEq]
    constructor
    · rintro ⟨_, belongs, rfl, value⟩
      exact ⟨belongs, value⟩
    · rintro ⟨belongs, value⟩
      exact ⟨cell, belongs, rfl, value⟩
  rw [listed, SortedSet.mem_filter, SortedSet.mem_symmDiff,
    Cell.isVisible_iff]
  by_cases isLit : cell ∈ current
  · rw [SortedSet.contains_iff.mpr isLit]
    simp only [isLit, not_true_eq_false]
    tauto
  · have isDark : current.contains cell = false := by
      rw [← Bool.not_eq_true, SortedSet.contains_iff]
      exact isLit
    rw [isDark]
    simp only [isLit, not_false_eq_true]
    tauto

/-- The visible cells to light and those to clear, each with its new value. -/
def unsortedChanges (previous current : Display) : List (Cell × Bool) :=
  ((current.sdiff previous).filter Cell.isVisible).toList.map (fun cell => (cell, true)) ++
    ((previous.sdiff current).filter Cell.isVisible).toList.map fun cell => (cell, false)

theorem mem_unsortedChanges_iff
    {previous current : Display} {cell : Cell} {lit : Bool} :
    (cell, lit) ∈ unsortedChanges previous current ↔
      (cell, lit) ∈ changes previous current := by
  have lights :
      cell ∈ ((current.sdiff previous).filter Cell.isVisible).toList ↔
        (cell ∈ current ∧ cell ∉ previous) ∧ cell.OnScreen := by
    rw [← Cell.isVisible_iff, ← SortedSet.mem_sdiff]
    exact SortedSet.mem_filter
  have clears :
      cell ∈ ((previous.sdiff current).filter Cell.isVisible).toList ↔
        (cell ∈ previous ∧ cell ∉ current) ∧ cell.OnScreen := by
    rw [← Cell.isVisible_iff, ← SortedSet.mem_sdiff]
    exact SortedSet.mem_filter
  rw [mem_changes_iff, unsortedChanges, List.mem_append, List.mem_map, List.mem_map]
  cases lit with
  | true =>
      simp only [Prod.mk.injEq, and_true, exists_eq_right, lights, Bool.false_eq_true,
        and_false, exists_false, or_false]
      tauto
  | false =>
      simp only [Prod.mk.injEq, and_true, exists_eq_right, clears, Bool.true_eq_false,
        and_false, exists_false, false_or, Bool.false_eq_true, or_false]
      tauto

private theorem nodup_unsortedChanges (previous current : Display) :
    (unsortedChanges previous current).Nodup := by
  have distinct (set : Display) (lit : Bool) :
      (set.toList.map fun cell => (cell, lit)).Nodup := by
    refine List.pairwise_map.mpr (set.increasing.imp ?_)
    intro first second below same
    cases same
    rw [Cell.compare_eq_lt_iff] at below
    omega
  refine List.nodup_append.mpr ⟨distinct _ true, distinct _ false, ?_⟩
  intro lighting lights clearing clears same
  obtain ⟨_, _, rfl⟩ := List.mem_map.mp lights
  obtain ⟨_, _, rfl⟩ := List.mem_map.mp clears
  cases same

/-- Whether the first cell is not painted behind the second one. -/
def paintsBefore (first second : Cell × Bool) : Bool :=
  (compare first.1 second.1).isLE

/-- The changes are the cells to light and those to clear, sorted by their places. -/
theorem changes_eq_mergeSort (previous current : Display) :
    changes previous current =
      (unsortedChanges previous current).mergeSort paintsBefore := by
  have sorted : (changes previous current).Pairwise (paintsBefore · ·) := by
    refine (pairwise_changes previous current).imp fun {first second} before => ?_
    have below : compare first.1 second.1 = .lt := Cell.compare_eq_lt_iff.mpr before
    rw [paintsBefore, below]
    rfl
  have distinct : (changes previous current).Nodup := by
    refine (pairwise_changes previous current).imp fun {first second} before same => ?_
    subst same
    unfold Before at before
    omega
  have permuted : (changes previous current).Perm (unsortedChanges previous current) := by
    rw [List.perm_ext_iff_of_nodup distinct (nodup_unsortedChanges previous current)]
    exact fun change => mem_unsortedChanges_iff.symm
  have resorted :
      ((unsortedChanges previous current).mergeSort paintsBefore).Pairwise
        (paintsBefore · ·) := by
    apply List.pairwise_mergeSort
    · intro first second third firstBefore secondBefore
      exact Std.TransCmp.isLE_trans firstBefore secondBefore
    · intro first second
      rw [Bool.or_eq_true, or_iff_not_imp_left]
      intro behind
      apply Ordering.isLE_of_eq_lt
      rw [← Std.OrientedCmp.gt_iff_lt]
      simpa [paintsBefore] using behind
  refine List.Perm.eq_of_pairwise ?_ sorted resorted
    (permuted.trans (List.mergeSort_perm _ _).symm)
  rintro ⟨cell, lit⟩ ⟨other, otherLit⟩ belongs listed before behind
  have same : cell = other :=
    Std.LawfulEqCmp.compare_eq_iff_eq.mp
      (Std.OrientedCmp.isLE_antisymm before behind)
  subst same
  have isChange := mem_changes_iff.mp belongs
  have isOther :=
    mem_changes_iff.mp (mem_unsortedChanges_iff.mp (List.mem_mergeSort.mp listed))
  have sameLit : lit = otherLit := by
    rcases isChange.2 with ⟨_, dark, rfl⟩ | ⟨_, isLit, rfl⟩ <;> simp_all
  rw [sameLit]

/-! ## Sessions -/

/-- What a session asks of its terminal. -/
inductive Call where
  | setup
  | readKeys (typed : String)
  | draw (display : Display)

/-- A terminal and the screen that it writes to. -/
structure Watched where
  terminal : Terminal
  screen : VirtualScreen := {}

/-- The frame that a call leaves for the next drawing to build on. -/
def frameAfter (frame : Display) : Call → Display
  | .setup => ∅
  | .readKeys _ => frame
  | .draw display => display

namespace Watched

/-- Carries out a call and shows on the screen what it writes. -/
def perform (advance : Cell → Cell) (watched : Watched) : Call → Watched
  | .setup =>
      { terminal := watched.terminal.setup.2
        screen := watched.screen.feed advance watched.terminal.setup.1.toList }
  | .readKeys typed =>
      { watched with terminal := (watched.terminal.readKeys typed).2 }
  | .draw display =>
      { terminal := (watched.terminal.draw display).2
        screen :=
          watched.screen.feed advance (watched.terminal.draw display).1.toList }

/-- The screen shows the visible part of a frame, and the terminal knows the
frame. -/
structure Shows (watched : Watched) (frame : Display) : Prop where
  lastFrame : watched.terminal.lastFrame = frame
  reading : watched.screen.reading = .text
  lit : ∀ cell, cell ∈ watched.screen.lit ↔ cell ∈ frame ∧ cell.OnScreen

variable {advance : Cell → Cell} {watched : Watched} {frame : Display}

theorem Shows.setup (shows : watched.Shows frame) :
    (watched.perform advance .setup).Shows ∅ where
  lastFrame := rfl
  reading := by
    change (watched.screen.feed advance enterText.toList).reading = .text
    rw [VirtualScreen.feed_enterText shows.reading]
    exact shows.reading
  lit := by
    intro cell
    change cell ∈ (watched.screen.feed advance enterText.toList).lit ↔ _
    rw [VirtualScreen.feed_enterText shows.reading]
    simp

theorem Shows.readKeys (shows : watched.Shows frame) (typed : String) :
    (watched.perform advance (.readKeys typed)).Shows frame where
  lastFrame := by
    have untouched :
        (watched.terminal.readKeys typed).2.lastFrame =
          watched.terminal.lastFrame := by
      cases goesOn : (watched.terminal.feed typed).1 <;>
        simp [Terminal.readKeys, goesOn] <;> rfl
    exact untouched.trans shows.lastFrame
  reading := shows.reading
  lit := shows.lit

/-- Drawing paints the changes one after the other. -/
theorem Shows.screen_draw (shows : watched.Shows frame) (display : Display) :
    (watched.perform advance (.draw display)).screen =
      (changes frame display).foldl (VirtualScreen.paint advance)
        watched.screen := by
  have visible : ∀ change ∈ changes frame display, change.1.OnScreen := by
    rintro ⟨cell, lit⟩ belongs
    exact (mem_changes_iff.mp belongs).1
  rw [← shows.lastFrame] at visible ⊢
  exact VirtualScreen.feed_join_paintCell shows.reading visible

/-- A drawn display is what the screen shows afterwards. -/
theorem Shows.draw (shows : watched.Shows frame) (display : Display) :
    (watched.perform advance (.draw display)).Shows display where
  lastFrame := rfl
  reading := by
    rw [shows.screen_draw, VirtualScreen.reading_foldl_paint]
    exact shows.reading
  lit := by
    intro cell
    have visible : ∀ painted ∈
        ((frame.symmDiff display).filter Cell.isVisible).toList,
        painted.OnScreen :=
      fun painted belongs =>
        Cell.isVisible_iff.mp (SortedSet.mem_filter.mp belongs).2
    have painted :
        cell ∈ ((frame.symmDiff display).filter Cell.isVisible).toList ↔
          (cell ∈ frame ∧ cell ∉ display ∨ cell ∈ display ∧ cell ∉ frame) ∧
            cell.OnScreen := by
      rw [← SortedSet.mem_symmDiff, ← Cell.isVisible_iff]
      exact SortedSet.mem_filter
    rw [shows.screen_draw, changes,
      VirtualScreen.mem_lit_foldl_paint_iff _ visible,
      SortedSet.contains_iff, shows.lit]
    split
    · rename_i changed
      have onScreen := (painted.mp changed).2
      simp [onScreen]
    · rename_i unchanged
      rw [painted] at unchanged
      tauto

theorem Shows.perform (shows : watched.Shows frame) (call : Call) :
    (watched.perform advance call).Shows (frameAfter frame call) := by
  cases call with
  | setup => exact shows.setup
  | readKeys typed => exact shows.readKeys typed
  | draw display => exact shows.draw display

theorem Shows.performAll (shows : watched.Shows frame) (calls : List Call) :
    (calls.foldl (Watched.perform advance) watched).Shows
      (calls.foldl frameAfter frame) := by
  induction calls generalizing watched frame with
  | nil => exact shows
  | cons call rest inductionHypothesis =>
      exact inductionHypothesis (shows.perform call)

end Watched

/-- A new terminal and a blank screen agree. -/
theorem shows_of_create
    {holdFrames : Int} {terminal : Terminal}
    (created : create holdFrames = .ok terminal) :
    Watched.Shows { terminal := terminal } ∅ := by
  have blank : terminal.lastFrame = ∅ := by
    unfold create at created
    split at created
    · contradiction
    · cases created
      rfl
  exact ⟨blank, rfl, by simp⟩

/-- Whatever a new terminal was asked for before, drawing a display leaves its
visible cells on the screen and no other, and paints each visible cell in which
the frame before differs, once and row by row. -/
theorem draw_shows_display
    {holdFrames : Int} {terminal : Terminal}
    (created : create holdFrames = .ok terminal)
    (advance : Cell → Cell) (calls : List Call) (display : Display) :
    let before := calls.foldl (Watched.perform advance) { terminal := terminal }
    let after := before.perform advance (.draw display)
    let previous := calls.foldl frameAfter ∅
    (∀ cell, cell ∈ after.screen.lit ↔
      cell ∈ display ∧
        (0 ≤ cell.x ∧ cell.x < 64) ∧ (0 ≤ cell.y ∧ cell.y < 32)) ∧
    ∃ operations : List (Cell × Bool),
      after.screen.operations = before.screen.operations ++ operations ∧
      (before.terminal.draw display).1 =
        String.join (operations.map fun operation =>
          moveTo operation.1 ++ String.singleton (cellChar operation.2)) ∧
      operations.Pairwise Before ∧
      ∀ cell lit, (cell, lit) ∈ operations ↔
        cell.OnScreen ∧
          (cell ∈ previous ∧ cell ∉ display ∧ lit = false ∨
            cell ∉ previous ∧ cell ∈ display ∧ lit = true) := by
  intro before after previous
  have shows : before.Shows previous :=
    (shows_of_create created).performAll calls
  refine ⟨?_, changes previous display, ?_, ?_, pairwise_changes _ _,
    fun _ _ => mem_changes_iff⟩
  · intro cell
    rw [(shows.draw display).lit cell]
    unfold Cell.OnScreen
    tauto
  · change (before.perform advance (.draw display)).screen.operations = _
    rw [shows.screen_draw, VirtualScreen.operations_foldl_paint]
  · rw [← shows.lastFrame]
    rfl

/-- A second frame that moves a cell and lights one beside the screen. -/
theorem draw_shows_display_moved :
    create 4 = .ok { holdFrames := 4 } ∧
      ∀ cell, cell ∈
        (([.setup, .draw (.singleton ⟨2, 1⟩)].foldl
            (Watched.perform fun cell => ⟨cell.x + 1, cell.y⟩)
            { terminal := { holdFrames := 4 } }).perform
          (fun cell => ⟨cell.x + 1, cell.y⟩)
          (.draw (.ofList [⟨3, 1⟩, ⟨70, 5⟩]))).screen.lit ↔
        cell ∈ SortedSet.ofList [⟨3, 1⟩, ⟨70, 5⟩] ∧
          (0 ≤ cell.x ∧ cell.x < 64) ∧ (0 ≤ cell.y ∧ cell.y < 32) := by
  have created : create 4 = .ok { holdFrames := 4 } := rfl
  exact ⟨created, (draw_shows_display created _
    [.setup, .draw (.singleton ⟨2, 1⟩)] (.ofList [⟨3, 1⟩, ⟨70, 5⟩])).1⟩

end Terminal

end Chip8
