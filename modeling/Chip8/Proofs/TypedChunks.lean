import Chip8.Proofs.TypedTokens

/-!
# Typed text in pieces

Text arrives in pieces.  If a piece goes on and does not end inside an escape
sequence, the tokens of the piece and of the text behind it are the tokens of
the whole text, so it does not matter whether the two arrive together.
-/

namespace Chip8

namespace Keyboard

/-- The token is no sequence without its last character. -/
def Token.IsWhole : Token → Prop
  | single _ => True
  | control _ final => final ≠ none
  | shift final => final ≠ none

def EndsWhole (text : List Char) : Prop :=
  ∃ found, Tokenises text found ∧ ∀ last ∈ found.getLast?, last.IsWhole

/-- Text behind the rest of a text does not change where the first token
ends. -/
theorem Token.EndsBefore.append
    {token : Token} {rest : List Char} (ends : token.EndsBefore rest)
    (goesOn : ¬ token.Quits) (whole : rest = [] → token.IsWhole)
    (later : List Char) :
    token.EndsBefore (rest ++ later) := by
  cases token with
  | single char =>
      -- An escape character that stands alone asks to quit.
      intro isEscape
      rw [isEscape] at goesOn
      exact absurd (.inr rfl) goesOn
  | control parameters final =>
      obtain ⟨inside, stops, closes, unclosed⟩ := ends
      have sameHead :
          (final.toList ++ (rest ++ later)).head? =
            (final.toList ++ rest).head? := by
        rw [← List.append_assoc]
        apply List.head?_append_of_ne_nil
        intro bothEmpty
        obtain ⟨noFinal, noRest⟩ := List.append_eq_nil_iff.mp bothEmpty
        exact whole noRest (Option.toList_eq_nil_iff.mp noFinal)
      refine ⟨inside, ?_, closes, ?_⟩
      · rw [sameHead]
        exact stops
      · intro noFinal
        rw [noFinal] at sameHead
        change (rest ++ later).head? = rest.head? at sameHead
        rw [sameHead]
        exact unclosed noFinal
  | shift final =>
      intro noFinal
      exact absurd noFinal (whole (ends noFinal))

/-- The tokens of two texts stand one behind the other if the first text does
not end inside a sequence. -/
theorem Tokenises.append
    {first second : List Char} {found others : List Token}
    (tokenises : Tokenises first found)
    (goesOn : ∀ token ∈ found, ¬ token.Quits)
    (whole : ∀ last ∈ found.getLast?, last.IsWhole)
    (behind : Tokenises second others) :
    Tokenises (first ++ second) (found ++ others) := by
  induction tokenises with
  | nil => exact behind
  | @cons token rest later ends tail inductionHypothesis =>
      have laterGoesOn : ∀ other ∈ later, ¬ other.Quits :=
        fun other belongs => goesOn other (List.mem_cons_of_mem _ belongs)
      have laterWhole : ∀ last ∈ later.getLast?, last.IsWhole := by
        intro last isLast
        apply whole last
        rw [List.getLast?_cons, Option.mem_def.mp isLast]
        rfl
      -- Only the last token can run into the text behind it.
      have wholeAtEnd : rest = [] → token.IsWhole := by
        intro noRest
        have noLater : later = [] := by
          rw [eq_tokens_of_tokenises tail, noRest, tokens]
        apply whole token
        rw [noLater]
        rfl
      rw [List.append_assoc]
      exact .cons (ends.append (goesOn token List.mem_cons_self) wholeAtEnd _)
        (inductionHypothesis laterGoesOn laterWhole)

end Keyboard

namespace Terminal

/-- A text that goes on and does not end inside a sequence may be fed before
the text behind it or together with it. -/
theorem feed_of_pieces
    {started : Terminal} {first : String}
    (goesOn : (started.feed first).1 = true)
    (whole : Keyboard.EndsWhole first.toList)
    (terminal : Terminal) (second : String) :
    terminal.feed (first ++ second) = (terminal.feed first).2.feed second := by
  obtain ⟨found, tokenises, lastWhole⟩ := whole
  have isFound := Keyboard.eq_tokens_of_tokenises tokenises
  rw [feed_eq, ← isFound] at goesOn
  have noneQuits : ∀ token ∈ found, ¬ token.Quits := of_decide_eq_true goesOn
  have behind := Keyboard.tokenises_tokens second.toList
  have together :
      Keyboard.tokens (first ++ second).toList =
        found ++ Keyboard.tokens second.toList := by
    rw [String.toList_append]
    exact (Keyboard.eq_tokens_of_tokenises
      (tokenises.append noneQuits lastWhole behind)).symm
  have sameEnd :
      (∀ token ∈ found ++ Keyboard.tokens second.toList, ¬ token.Quits) ↔
        ∀ token ∈ Keyboard.tokens second.toList, ¬ token.Quits := by
    simp only [List.forall_mem_append]
    exact and_iff_right noneQuits
  simp only [feed_eq, together, ← isFound, sameEnd,
    Keyboard.strokes_append noneQuits, Keyboard.Holds.strikeAll_append]

theorem tokenises_arrow :
    Keyboard.Tokenises "w\x1b[1;5A".toList
      [.single 'w', .control ['1', ';', '5'] (some 'A')] := by
  have letter : (Keyboard.Token.single 'w').EndsBefore "\x1b[1;5A".toList := by
    simp [Keyboard.Token.EndsBefore]
  have arrow :
      (Keyboard.Token.control ['1', ';', '5'] (some 'A')).EndsBefore [] := by
    simp [Keyboard.Token.EndsBefore, Keyboard.Between]
  exact .cons letter (.cons arrow .nil)

/-- A key and an arrow with parameters, then another sequence, a key and the
escape key. -/
theorem feed_of_pieces_arrow :
    ((feed {} "w\x1b[1;5A").1 = true ∧
        Keyboard.EndsWhole "w\x1b[1;5A".toList) ∧
      feed {} ("w\x1b[1;5A" ++ "\x1bOBe\x1b") =
        (feed {} "w\x1b[1;5A").2.feed "\x1bOBe\x1b" := by
  have goesOn : (feed {} "w\x1b[1;5A").1 = true := by
    rw [feed_eq, ← Keyboard.eq_tokens_of_tokenises tokenises_arrow]
    decide
  have whole : Keyboard.EndsWhole "w\x1b[1;5A".toList := by
    refine ⟨_, tokenises_arrow, ?_⟩
    intro last isLast
    cases isLast
    exact Option.some_ne_none 'A'
  exact ⟨⟨goesOn, whole⟩, feed_of_pieces goesOn whole {} "\x1bOBe\x1b"⟩

end Terminal

end Chip8
