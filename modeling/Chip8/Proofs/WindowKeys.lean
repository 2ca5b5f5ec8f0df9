import Chip8.Frontend.Window
import Chip8.Proofs.SortedSet
import Chip8.Proofs.TypedTokens

/-!
# The keys of a window

A window keeps the set of keys that are down and changes it with every event.
The set is a function of the history of events: it holds the codes of the keys
whose latest event is that they went down.  No two characters of the layout
stand for the same key, so the release of one never clears the code of another.
-/

namespace Chip8

/-- A key of the keypad lies at one place of the layout. -/
theorem Layout.char_unique
    {first second : Char} {key : Key}
    (one : (first, key) ∈ keys) (other : (second, key) ∈ keys) :
    first = second := by
  have table :
      ∀ entry ∈ keys, ∀ another ∈ keys,
        entry.2 = another.2 → entry.1 = another.1 := by
    decide
  exact table _ one _ other rfl

/-- A character of the layout stands for one key. -/
theorem Layout.key_unique
    {char : Char} {first second : Key}
    (one : (char, first) ∈ keys) (other : (char, second) ∈ keys) :
    first = second := by
  rw [← find?_eq_some_iff] at one other
  exact Option.some.inj (one.symm.trans other)

private theorem Layout.code_inj
    {first second : Key} :
    code first = code second ↔ first = second := by
  rw [code, code, Int.ofNat_inj, Fin.val_inj]

namespace Window

/-! ## Histories -/

/-- Whether an event says that a stroke goes down or up. -/
def Event.concerns (stroke : Stroke) (event : Event) : Bool :=
  event = .down stroke || event = .up stroke

/-- The latest event of a stroke is that it went down. -/
def IsDown (history : List Event) (stroke : Stroke) : Prop :=
  (history.filter (Event.concerns stroke)).getLast? = some (.down stroke)

@[simp]
private theorem not_isDown_nil (stroke : Stroke) : ¬ IsDown [] stroke := by
  simp [IsDown]

theorem isDown_concat_of_concerns
    {history : List Event} {event : Event} {stroke : Stroke}
    (concerns : event.concerns stroke = true) :
    IsDown (history ++ [event]) stroke ↔ event = .down stroke := by
  simp [IsDown, List.filter_append, concerns]

theorem isDown_concat_of_not_concerns
    {history : List Event} {event : Event} {stroke : Stroke}
    (unconcerned : event.concerns stroke = false) :
    IsDown (history ++ [event]) stroke ↔ IsDown history stroke := by
  simp [IsDown, List.filter_append, unconcerned]

/-! ## The set of keys -/

/-- The set holds the codes of the keys that are down after a history. -/
def Follows (held : KeySet) (history : List Event) : Prop :=
  ∀ code, code ∈ held ↔
    ∃ char key, (char, key) ∈ Layout.keys ∧ code = Layout.code key ∧
      IsDown history (.typed char)

variable {held : KeySet} {history : List Event}

private theorem follows_nil : Follows ∅ [] := by
  intro code
  simp

/-- An event that concerns no character of the layout changes nothing. -/
theorem Follows.unconcerned
    (follows : Follows held history) {event : Event}
    (unconcerned : ∀ char key, (char, key) ∈ Layout.keys →
      event.concerns (.typed char) = false) :
    Follows held (history ++ [event]) := by
  intro code
  rw [follows code]
  refine exists_congr fun char => exists_congr fun key => ?_
  refine and_congr_right fun listed => ?_
  rw [isDown_concat_of_not_concerns (unconcerned char key listed)]

/-- A key that goes down is held. -/
theorem Follows.down
    (follows : Follows held history) {char : Char} {key : Key}
    (listed : (char, key) ∈ Layout.keys) :
    Follows (held.insert (Layout.code key))
      (history ++ [.down (.typed char)]) := by
  have concerned : (Event.down (.typed char)).concerns (.typed char) = true := by
    simp [Event.concerns]
  intro code
  rw [SortedSet.mem_insert, follows code]
  constructor
  · intro either
    rcases either with isNew | ⟨other, otherKey, otherListed, isCode, isDown⟩
    · exact ⟨char, key, listed, isNew,
        (isDown_concat_of_concerns concerned).mpr rfl⟩
    · refine ⟨other, otherKey, otherListed, isCode, ?_⟩
      by_cases same : other = char
      · subst same
        exact (isDown_concat_of_concerns concerned).mpr rfl
      · rw [isDown_concat_of_not_concerns]
        · exact isDown
        · simp [Event.concerns, Ne.symm same]
  · intro down
    obtain ⟨other, otherKey, otherListed, isCode, isDown⟩ := down
    by_cases same : other = char
    · subst same
      have sameKey := Layout.key_unique otherListed listed
      exact .inl (sameKey ▸ isCode)
    · rw [isDown_concat_of_not_concerns (by simp [Event.concerns, Ne.symm same])]
        at isDown
      exact .inr ⟨other, otherKey, otherListed, isCode, isDown⟩

/-- A key that goes up is no longer held. -/
theorem Follows.up
    (follows : Follows held history) {char : Char} {key : Key}
    (listed : (char, key) ∈ Layout.keys) :
    Follows (held.erase (Layout.code key))
      (history ++ [.up (.typed char)]) := by
  intro code
  rw [SortedSet.mem_erase, follows code]
  constructor
  · intro kept
    obtain ⟨⟨other, otherKey, otherListed, isCode, isDown⟩, different⟩ := kept
    refine ⟨other, otherKey, otherListed, isCode, ?_⟩
    have notSame : char ≠ other := by
      intro same
      subst same
      have sameKey := Layout.key_unique otherListed listed
      exact different (sameKey ▸ isCode)
    rw [isDown_concat_of_not_concerns]
    · exact isDown
    · simp [Event.concerns, notSame]
  · intro down
    obtain ⟨other, otherKey, otherListed, isCode, isDown⟩ := down
    by_cases same : char = other
    · subst same
      rw [isDown_concat_of_concerns (by simp [Event.concerns])] at isDown
      cases isDown
    · rw [isDown_concat_of_not_concerns (by simp [Event.concerns, same])] at isDown
      refine ⟨⟨other, otherKey, otherListed, isCode, isDown⟩, ?_⟩
      intro cleared
      -- here the layout has to be injective
      have sameKey : otherKey = key := Layout.code_inj.mp (isCode.symm.trans cleared)
      subst sameKey
      exact same (Layout.char_unique listed otherListed)

/-- The held keys follow every event. -/
theorem Follows.change
    (follows : Follows held history) (event : Event) :
    Follows (event.change held) (history ++ [event]) := by
  have unlisted {stroke : Stroke} (unknown : stroke.key? = none) :
      ∀ char key, (char, key) ∈ Layout.keys → stroke ≠ .typed char := by
    intro char key listed isTyped
    subst isTyped
    rw [Stroke.key?, Layout.find?_eq_some_iff.mpr listed] at unknown
    cases unknown
  have mapped {stroke : Stroke} {key : Key} (known : stroke.key? = some key) :
      ∃ char, stroke = .typed char ∧ (char, key) ∈ Layout.keys := by
    cases stroke with
    | typed char => exact ⟨char, rfl, Layout.find?_eq_some_iff.mp known⟩
    | escape => cases known
    | other => cases known
  cases event with
  | down stroke =>
      cases known : stroke.key? with
      | none =>
          rw [Event.change, known]
          refine follows.unconcerned fun char key listed => ?_
          simp [Event.concerns, unlisted known char key listed]
      | some key =>
          obtain ⟨char, rfl, listed⟩ := mapped known
          rw [Event.change, known]
          exact follows.down listed
  | up stroke =>
      cases known : stroke.key? with
      | none =>
          rw [Event.change, known]
          refine follows.unconcerned fun char key listed => ?_
          simp [Event.concerns, unlisted known char key listed]
      | some key =>
          obtain ⟨char, rfl, listed⟩ := mapped known
          rw [Event.change, known]
          exact follows.up listed
  | quit => exact follows.unconcerned fun _ _ _ => rfl
  | other => exact follows.unconcerned fun _ _ _ => rfl

/-! ## Readings -/

theorem quits_iff
    {event : Event} :
    event.quits = true ↔ event = .quit ∨ event = .down .escape := by
  cases event <;> simp [Event.quits]

def AsksToQuit (events : List Event) : Prop :=
  .quit ∈ events ∨ .down .escape ∈ events

theorem asksToQuit_cons_iff
    {event : Event} {events : List Event} :
    AsksToQuit (event :: events) ↔ event.quits = true ∨ AsksToQuit events := by
  rw [quits_iff]
  simp only [AsksToQuit, List.mem_cons, eq_comm (a := event)]
  exact or_or_or_comm ..

private theorem follow_of_asksToQuit
    {events : List Event} (held : KeySet)
    (quits : AsksToQuit events) :
    (follow events held).1 = false := by
  induction events generalizing held with
  | nil => simp [AsksToQuit] at quits
  | cons event rest inductionHypothesis =>
      rw [follow]
      by_cases quitsNow : event.quits = true
      · rw [if_pos quitsNow]
      · rw [if_neg quitsNow]
        exact inductionHypothesis _
          ((asksToQuit_cons_iff.mp quits).resolve_left quitsNow)

/-- Events that do not ask to quit are all taken in. -/
theorem follows_follow
    {events : List Event}
    (follows : Follows held history) (goesOn : ¬ AsksToQuit events) :
    (follow events held).1 = true ∧
      Follows (follow events held).2 (history ++ events) := by
  induction events generalizing held history with
  | nil =>
      rw [follow, List.append_nil]
      exact ⟨rfl, follows⟩
  | cons event rest inductionHypothesis =>
      rw [asksToQuit_cons_iff, not_or] at goesOn
      rw [follow, if_neg goesOn.1, List.append_cons]
      exact inductionHypothesis (follows.change event) goesOn.2

def afterBatches (window : Window) (batches : List (List Event)) : Window :=
  batches.foldl (fun window events => (window.readKeys events).2) window

private theorem follows_afterBatches
    {window : Window} {batches : List (List Event)}
    (follows : Follows window.held history)
    (going : ∀ batch ∈ batches, ¬ AsksToQuit batch) :
    Follows (window.afterBatches batches).held
      (history ++ batches.flatten) := by
  induction batches generalizing window history with
  | nil =>
      rw [List.flatten_nil, List.append_nil]
      exact follows
  | cons batch rest inductionHypothesis =>
      obtain ⟨first, others⟩ := List.forall_mem_cons.mp going
      rw [List.flatten_cons, ← List.append_assoc]
      exact inductionHypothesis (follows_follow follows first).2 others

/-- After any batches without a request to quit, a batch with one delivers
nothing, and any other delivers the codes of the characters of the layout whose
latest event in all batches is that they went down. -/
theorem held_keys_follow_events
    {scale : Int} {scheme caption : String} {window : Window}
    (created : create scale scheme caption = .ok window)
    {batches : List (List Event)}
    (going : ∀ batch ∈ batches, .quit ∉ batch ∧ .down .escape ∉ batch)
    (events : List Event) :
    let answer := ((window.afterBatches batches).readKeys events).1
    (answer = none ↔ .quit ∈ events ∨ .down .escape ∈ events) ∧
      ∀ keys, answer = some keys →
        ∀ code, code ∈ keys ↔
          ∃ char key, (char, key) ∈ Layout.keys ∧ code = key.val ∧
            IsDown (batches.flatten ++ events) (.typed char) := by
  have released : window.held = ∅ := by
    unfold create at created
    cases known : Palette.get scheme with
    | error error => simp [known, bind, Except.bind] at created
    | ok palette =>
        simp only [known, bind, Except.bind, pure, Except.pure,
          Except.ok.injEq] at created
        rw [← created]
  have follows : Follows (window.afterBatches batches).held batches.flatten := by
    have fresh : Follows window.held [] := released ▸ follows_nil
    refine follows_afterBatches fresh ?_
    intro batch belongs
    exact not_or.mpr (going batch belongs)
  intro answer
  by_cases quits : AsksToQuit events
  · have isAnswer : answer = none := by
      simp only [answer, readKeys, follow_of_asksToQuit _ quits]
      rfl
    rw [isAnswer]
    exact ⟨iff_of_true rfl quits, by simp⟩
  · obtain ⟨goesOn, delivered⟩ := follows_follow follows quits
    have isAnswer :
        answer = some (follow events (window.afterBatches batches).held).2 := by
      simp only [answer, readKeys, goesOn]
      rfl
    rw [isAnswer]
    refine ⟨iff_of_false (by simp) quits, ?_⟩
    intro keys isKeys code
    cases isKeys
    exact delivered code

/-- Two readings before the last one: a key goes down twice, another one goes up
without having been down. -/
def earlierBatches : List (List Event) :=
  [[.down (.typed 'x'), .other],
    [.up (.typed 'v'), .down (.typed 'x'), .down (.typed 'p')]]

/-- A key goes down and the other one up. -/
def lastBatch : List Event :=
  [.down (.typed '4'), .up (.typed 'x'), .up .escape]

/-- Keys that go down and up in turns, over several readings. -/
theorem held_keys_follow_events_interleaved :
    ∃ window keys, create 16 "classic" "chipvm" = .ok window ∧
      (∀ batch ∈ earlierBatches, .quit ∉ batch ∧ .down .escape ∉ batch) ∧
      ((window.afterBatches earlierBatches).readKeys lastBatch).1 = some keys ∧
      ∀ code, code ∈ keys ↔
        ∃ char key, (char, key) ∈ Layout.keys ∧ code = key.val ∧
          IsDown (earlierBatches.flatten ++ lastBatch) (.typed char) := by
  have created :
      create 16 "classic" "chipvm" =
        .ok { scale := 16, palette := .classic, caption := "chipvm" } :=
    rfl
  have going : ∀ batch ∈ earlierBatches,
      .quit ∉ batch ∧ .down .escape ∉ batch := by
    decide
  obtain ⟨quits_iff, delivered⟩ := held_keys_follow_events created going lastBatch
  have stays : ¬ (.quit ∈ lastBatch ∨ .down .escape ∈ lastBatch) := by decide
  obtain ⟨keys, isKeys⟩ :=
    Option.ne_none_iff_exists'.mp fun isNone => stays (quits_iff.mp isNone)
  exact ⟨_, keys, created, going, isKeys, delivered keys isKeys⟩

end Window

end Chip8
