import Mathlib
import Chip8.Frontend.Terminal

/-!
# The tokens of typed text

Typed text is a sequence of tokens: single characters and the escape sequences
`ESC [` and `ESC O`.  The grammar says what a token may look like in front of
the text that follows it, and every text is divided into tokens in exactly one
way.  Feeding a text strikes the keys of the single characters, up to the first
one that asks to quit, and passes over the sequences.

The text is also read by position.  No position outside the text is asked for,
and every turn moves the position forward.
-/

namespace Chip8

namespace Layout

/-! ## Characters in either case -/

/-- The characters with a given lower case are this one and its upper case. -/
theorem toLower_eq_iff
    {char mapped : Char} (notUpper : ¬ mapped.isUpper) :
    char.toLower = mapped ↔ char = mapped ∨ char = mapped.toUpper := by
  constructor
  · intro isLower
    by_cases upper : char.isUpper
    · right
      rw [← isLower, Char.toUpper_toLower_eq_toUpper,
        Char.toUpper_eq_of_not_isLower (Char.not_isLower_of_isUpper upper)]
    · left
      rw [← isLower, Char.toLower_eq_of_not_isUpper upper]
  · intro eitherCase
    rcases eitherCase with same | same
    · rw [same, Char.toLower_eq_of_not_isUpper notUpper]
    · rw [same, Char.toLower_toUpper_eq_toLower,
        Char.toLower_eq_of_not_isUpper notUpper]

/-- A character stands for a key, in lower or in upper case. -/
def StandsFor (char : Char) (key : Key) : Prop :=
  ∃ mapped, (mapped, key) ∈ keys ∧ (char = mapped ∨ char = mapped.toUpper)

theorem find?_eq_some_iff {char : Char} {key : Key} :
    find? char = some key ↔ (char, key) ∈ keys := by
  have distinct : ∀ entry ∈ keys, find? entry.1 = some entry.2 := by decide
  constructor
  · intro found
    obtain ⟨before, after, split, _⟩ := List.lookup_eq_some_iff.mp found
    rw [split]
    simp
  · intro listed
    exact distinct (char, key) listed

theorem findAnyCase?_eq_some_iff {char : Char} {key : Key} :
    findAnyCase? char = some key ↔ StandsFor char key := by
  have noUpper : ∀ entry ∈ keys, ¬ entry.1.isUpper := by decide
  rw [findAnyCase?, find?_eq_some_iff]
  constructor
  · intro listed
    exact ⟨char.toLower, listed, (toLower_eq_iff (noUpper _ listed)).mp rfl⟩
  · intro stands
    obtain ⟨mapped, listed, eitherCase⟩ := stands
    rw [(toLower_eq_iff (noUpper _ listed)).mpr eitherCase]
    exact listed

end Layout

namespace Keyboard

/-! ## The grammar -/

inductive Token where
  | single (char : Char)
  /-- `ESC [` with its parameters and, unless it breaks off, its last
  character. -/
  | control (parameters : List Char) (final : Option Char)
  /-- `ESC O` with its last character, unless the text ends before it. -/
  | shift (final : Option Char)
  deriving DecidableEq, Repr

/-- The code of a character lies in a range. -/
def Between (low high : Nat) (char : Char) : Prop :=
  low ≤ char.toNat ∧ char.toNat ≤ high

namespace Token

def text : Token → List Char
  | single char => [char]
  | control parameters final =>
      '\x1b' :: '[' :: (parameters ++ final.toList)
  | shift final => '\x1b' :: 'O' :: final.toList

/-- The grammar reads the token in front of the given text: the parameters of
a sequence go on as long as they can, its last character is taken if there is
one, and an escape character stands alone only if it opens no sequence. -/
def EndsBefore : Token → List Char → Prop
  | single char, rest =>
      char = '\x1b' → rest.head? ≠ some '[' ∧ rest.head? ≠ some 'O'
  | control parameters final, rest =>
      (∀ char ∈ parameters, Between 0x20 0x3F char) ∧
        (∀ follower ∈ (final.toList ++ rest).head?, ¬ Between 0x20 0x3F follower) ∧
        (∀ last ∈ final, Between 0x40 0x7E last) ∧
        (final = none → ∀ follower ∈ rest.head?, ¬ Between 0x40 0x7E follower)
  | shift final, rest => final = none → rest = []

def Quits (token : Token) : Prop :=
  token = single '\x03' ∨ token = single '\x1b'

instance (token : Token) : Decidable token.Quits :=
  inferInstanceAs (Decidable (_ ∨ _))

end Token

/-- The grammar divides a text into tokens. -/
inductive Tokenises : List Char → List Token → Prop where
  | nil : Tokenises [] []
  | cons {token : Token} {rest : List Char} {tokens : List Token} :
      token.EndsBefore rest → Tokenises rest tokens →
      Tokenises (token.text ++ rest) (token :: tokens)

/-! ## Dividing a text -/

@[simp]
theorem isParameter_iff {char : Char} :
    isParameter char = true ↔ Between 0x20 0x3F char := by
  simp [isParameter, Between]

@[simp]
theorem isFinal_iff {char : Char} :
    isFinal char = true ↔ Between 0x40 0x7E char := by
  simp [isFinal, Between]

/-- The first token of a text and the text behind it. -/
def firstToken (char : Char) (rest : List Char) : Token × List Char :=
  if char = escape then
    match rest with
    | '[' :: sequence =>
        (.control (sequence.takeWhile isParameter)
          ((sequence.dropWhile isParameter).head?.filter isFinal),
          afterControl sequence)
    | 'O' :: sequence => (.shift sequence.head?, sequence.drop 1)
    | _ => (.single char, rest)
  else (.single char, rest)

theorem append_afterFinal (text : List Char) :
    (text.head?.filter isFinal).toList ++ afterFinal text = text := by
  cases text with
  | nil => rfl
  | cons char rest =>
      rw [List.head?_cons, Option.filter_some, afterFinal]
      by_cases final : isFinal char = true
      · simp [final]
      · simp [final]

/-- The first token and what is left make up the text. -/
theorem text_firstToken (char : Char) (rest : List Char) :
    (firstToken char rest).1.text ++ (firstToken char rest).2 = char :: rest := by
  unfold firstToken
  by_cases isEscape : char = escape
  · rw [if_pos isEscape, isEscape]
    split
    · rename_i sequence
      change '\x1b' :: '[' :: (_ ++ _ ++ afterFinal _) = '\x1b' :: '[' :: sequence
      rw [List.append_assoc, append_afterFinal, List.takeWhile_append_dropWhile]
    · rename_i sequence
      cases sequence <;> rfl
    · rfl
  · rw [if_neg isEscape]
    rfl

private theorem length_firstToken_lt (char : Char) (rest : List Char) :
    (firstToken char rest).2.length < (char :: rest).length := by
  have nonempty : (firstToken char rest).1.text ≠ [] := by
    cases (firstToken char rest).1 <;> simp [Token.text]
  have positive := List.length_pos_iff.mpr nonempty
  have whole := congrArg List.length (text_firstToken char rest)
  rw [List.length_append] at whole
  omega

private theorem endsBefore_control (sequence : List Char) :
    (Token.control (sequence.takeWhile isParameter)
      ((sequence.dropWhile isParameter).head?.filter isFinal)).EndsBefore
        (afterControl sequence) := by
  have whole := append_afterFinal (sequence.dropWhile isParameter)
  refine ⟨?_, ?_, ?_, ?_⟩
  · intro parameter belongs
    exact isParameter_iff.mp (List.all_eq_true.mp List.all_takeWhile _ belongs)
  · intro follower isNext
    rw [afterControl, whole, Option.mem_def] at isNext
    have stops := List.head?_dropWhile_not isParameter sequence
    rw [isNext] at stops
    rw [← isParameter_iff]
    simp [stops]
  · intro last isLast
    exact isFinal_iff.mp (Option.filter_eq_some_iff.mp isLast).2
  · intro noFinal follower isNext
    rw [noFinal, Option.toList_none, List.nil_append] at whole
    rw [afterControl, whole, Option.mem_def] at isNext
    rw [isNext] at noFinal
    rw [← isFinal_iff]
    exact Option.filter_eq_none_iff.mp noFinal follower rfl

private theorem endsBefore_single
    {char : Char} {rest : List Char}
    (noControl : ∀ sequence, rest ≠ '[' :: sequence)
    (noShift : ∀ sequence, rest ≠ 'O' :: sequence) :
    (Token.single char).EndsBefore rest := by
  intro _
  constructor
  · intro isHead
    obtain ⟨sequence, isRest⟩ := List.head?_eq_some_iff.mp isHead
    exact noControl sequence isRest
  · intro isHead
    obtain ⟨sequence, isRest⟩ := List.head?_eq_some_iff.mp isHead
    exact noShift sequence isRest

private theorem endsBefore_firstToken (char : Char) (rest : List Char) :
    (firstToken char rest).1.EndsBefore (firstToken char rest).2 := by
  unfold firstToken
  by_cases isEscape : char = escape
  · rw [if_pos isEscape]
    split
    · exact endsBefore_control _
    · rename_i sequence
      intro noFinal
      rw [List.head?_eq_none_iff.mp noFinal]
      rfl
    · rename_i noControl noShift
      exact endsBefore_single noControl noShift
  · rw [if_neg isEscape]
    intro same
    exact absurd same isEscape

theorem firstToken_single
    {char : Char} {rest : List Char}
    (ends : (Token.single char).EndsBefore rest) :
    firstToken char rest = (.single char, rest) := by
  unfold firstToken
  by_cases isEscape : char = escape
  · obtain ⟨noControl, noShift⟩ := ends isEscape
    rw [if_pos isEscape]
    split
    · exact absurd rfl noControl
    · exact absurd rfl noShift
    · rfl
  · rw [if_neg isEscape]

private theorem firstToken_control
    {parameters rest : List Char} {final : Option Char}
    (ends : (Token.control parameters final).EndsBefore rest) :
    firstToken '\x1b' ('[' :: (parameters ++ (final.toList ++ rest))) =
      (.control parameters final, rest) := by
  obtain ⟨inside, stops, closes, unclosed⟩ := ends
  have areParameters : ∀ char ∈ parameters, isParameter char = true :=
    fun char belongs => isParameter_iff.mpr (inside char belongs)
  -- What follows the parameters is none, so dividing the text stops there too.
  have maximal :
      (final.toList ++ rest).takeWhile isParameter = [] ∧
        (final.toList ++ rest).dropWhile isParameter = final.toList ++ rest := by
    cases behind : final.toList ++ rest with
    | nil => exact ⟨rfl, rfl⟩
    | cons char later =>
        have notParameter : ¬ isParameter char = true := by
          rw [isParameter_iff]
          exact stops char (by rw [behind]; rfl)
        exact ⟨List.takeWhile_cons_of_neg notParameter,
          List.dropWhile_cons_of_neg notParameter⟩
  have isLast : (final.toList ++ rest).head?.filter isFinal = final := by
    cases final with
    | none =>
        apply Option.filter_eq_none_iff.mpr
        intro char isHead
        rw [isFinal_iff]
        exact unclosed rfl char isHead
    | some last =>
        exact Option.filter_some_pos (isFinal_iff.mpr (closes last rfl))
  have isRest : afterFinal (final.toList ++ rest) = rest := by
    have whole := append_afterFinal (final.toList ++ rest)
    rw [isLast] at whole
    exact List.append_cancel_left whole
  change (Token.control _ _, afterFinal _) = _
  rw [List.takeWhile_append_of_pos areParameters,
    List.dropWhile_append_of_pos areParameters, maximal.1, maximal.2, isLast,
    isRest, List.append_nil]

/-- A token in front of a text that ends it is the first token. -/
theorem exists_firstToken_eq
    {token : Token} {rest : List Char} (ends : token.EndsBefore rest) :
    ∃ char tail, token.text ++ rest = char :: tail ∧
      firstToken char tail = (token, rest) := by
  cases token with
  | single char => exact ⟨char, rest, rfl, firstToken_single ends⟩
  | control parameters final =>
      refine ⟨'\x1b', '[' :: (parameters ++ (final.toList ++ rest)), ?_,
        firstToken_control ends⟩
      simp [Token.text]
  | shift final =>
      refine ⟨'\x1b', 'O' :: (final.toList ++ rest), rfl, ?_⟩
      cases final with
      | none =>
          rw [ends rfl]
          rfl
      | some last => rfl

def tokens : List Char → List Token
  | [] => []
  | char :: rest => (firstToken char rest).1 :: tokens (firstToken char rest).2
termination_by text => text.length
decreasing_by exact length_firstToken_lt char rest

theorem tokenises_tokens (text : List Char) : Tokenises text (tokens text) := by
  fun_induction tokens text with
  | case1 => exact .nil
  | case2 char rest inductionHypothesis =>
      have first := Tokenises.cons (endsBefore_firstToken char rest) inductionHypothesis
      rw [text_firstToken] at first
      exact first

theorem eq_tokens_of_tokenises
    {text : List Char} {found : List Token} (tokenises : Tokenises text found) :
    found = tokens text := by
  induction tokenises with
  | nil => rw [tokens]
  | cons ends _ inductionHypothesis =>
      obtain ⟨char, tail, isText, isNext⟩ := exists_firstToken_eq ends
      rw [isText, tokens, isNext, inductionHypothesis]

/-- Every text is divided into tokens in exactly one way. -/
theorem tokenises_iff {text : List Char} {found : List Token} :
    Tokenises text found ↔ found = tokens text := by
  constructor
  · exact eq_tokens_of_tokenises
  · intro same
    rw [same]
    exact tokenises_tokens text

/-! ## Feeding tokens -/

def Token.key? : Token → Option Key
  | single char => Layout.findAnyCase? char
  | _ => none

/-- The keys that tokens strike, in order, up to the first one that asks to
quit. -/
def strokes (tokens : List Token) : List Key :=
  (tokens.takeWhile (¬ ·.Quits)).filterMap Token.key?

/-- A key is struck by a single character before the first token that asks to
quit. -/
def Strikes (tokens : List Token) (key : Key) : Prop :=
  ∃ char, .single char ∈ tokens.takeWhile (¬ ·.Quits) ∧
    Layout.StandsFor char key

/-- A key is struck by the tokens in front of the first one that quits. -/
theorem mem_strokes_iff {tokens : List Token} {key : Key} :
    key ∈ strokes tokens ↔ Strikes tokens key := by
  rw [strokes, List.mem_filterMap]
  constructor
  · intro struck
    obtain ⟨token, belongs, isKey⟩ := struck
    cases token with
    | single char =>
        exact ⟨char, belongs, Layout.findAnyCase?_eq_some_iff.mp isKey⟩
    | control | shift => contradiction
  · intro strikes
    obtain ⟨char, belongs, stands⟩ := strikes
    exact ⟨.single char, belongs, Layout.findAnyCase?_eq_some_iff.mpr stands⟩

private theorem strokes_of_quits
    {token : Token} (quits : token.Quits) (later : List Token) :
    strokes (token :: later) = [] := by
  simp [strokes, quits]

theorem strokes_append
    {earlier : List Token} (goesOn : ∀ token ∈ earlier, ¬ token.Quits)
    (later : List Token) :
    strokes (earlier ++ later) = strokes earlier ++ strokes later := by
  have passes : ∀ token ∈ earlier, decide (¬ token.Quits) = true :=
    fun token belongs => decide_eq_true (goesOn token belongs)
  rw [strokes, List.takeWhile_append_of_pos passes, List.filterMap_append,
    strokes, List.takeWhile_eq_self_iff.mpr passes, strokes]

def Holds.strikeAll (holds : Holds) (keys : List Key) (frames : Nat) : Holds :=
  keys.foldl (fun holds key => holds.strike key frames) holds

private theorem Holds.type_eq (holds : Holds) (char : Char) (frames : Nat) :
    holds.type char frames =
      holds.strikeAll (Layout.findAnyCase? char).toList frames := by
  unfold Holds.type
  cases Layout.findAnyCase? char <;> rfl

theorem Holds.strikeAll_append
    (holds : Holds) (first second : List Key) (frames : Nat) :
    holds.strikeAll (first ++ second) frames =
      (holds.strikeAll first frames).strikeAll second frames :=
  List.foldl_append

theorem feed_interrupt (frames : Nat) (rest : List Char) (holds : Holds) :
    feed frames (interrupt :: rest) holds = (false, holds) := by
  rw [feed.eq_def]
  rfl

theorem feed_escape_nil (frames : Nat) (holds : Holds) :
    feed frames [escape] holds = (false, holds) := by
  rw [feed.eq_def]
  rfl

/-- Behind an escape a bracket or an `O` starts a sequence, and anything else
quits. -/
theorem feed_escape_cons
    (frames : Nat) (kind : Char) (sequence : List Char) (holds : Holds) :
    feed frames (escape :: kind :: sequence) holds =
      if kind = '[' ∨ kind = 'O' then
        feed frames
          (if kind = 'O' then sequence.drop 1 else afterControl sequence) holds
      else (false, holds) := by
  rw [feed.eq_def]
  change (if escape = interrupt then _ else if escape = escape then _ else _) = _
  rw [if_neg (by decide), if_pos rfl]
  split
  · rename_i opens
    cases opens
    rfl
  · rename_i opens
    cases opens
    rfl
  · rename_i noControl noShift
    have isControl : kind ≠ '[' := fun same => noControl sequence (by rw [same])
    have isShift : kind ≠ 'O' := fun same => noShift sequence (by rw [same])
    simp [isControl, isShift]

theorem feed_char
    (frames : Nat) {char : Char} (rest : List Char) (holds : Holds)
    (notInterrupt : char ≠ interrupt) (notEscape : char ≠ escape) :
    feed frames (char :: rest) holds =
      feed frames rest (holds.type char frames) := by
  rw [feed.eq_def]
  dsimp only
  rw [if_neg notInterrupt, if_neg notEscape]

/-- Feeding a text deals with its first token. -/
theorem feed_cons (frames : Nat) (char : Char) (rest : List Char) (holds : Holds) :
    feed frames (char :: rest) holds =
      if (firstToken char rest).1.Quits then (false, holds)
      else feed frames (firstToken char rest).2
        (holds.strikeAll (firstToken char rest).1.key?.toList frames) := by
  by_cases isEscape : char = escape
  · rw [isEscape]
    cases rest with
    | nil => exact feed_escape_nil frames holds
    | cons kind sequence =>
        rw [feed_escape_cons]
        by_cases isControl : kind = '['
        · rw [isControl]
          rfl
        · by_cases isShift : kind = 'O'
          · rw [isShift]
            rfl
          · have ends : (Token.single escape).EndsBefore (kind :: sequence) := by
              intro _
              simp [isControl, isShift]
            rw [firstToken_single ends, if_neg (by simp [isControl, isShift])]
            rfl
  · rw [firstToken_single fun same => absurd same isEscape]
    by_cases isInterrupt : char = interrupt
    · rw [isInterrupt, feed_interrupt]
      rfl
    · have goesOn : ¬ (Token.single char).Quits := by
        intro quits
        rcases quits with same | same
        · exact isInterrupt (Token.single.inj same)
        · exact isEscape (Token.single.inj same)
      rw [feed_char frames rest holds isInterrupt isEscape, if_neg goesOn,
        Holds.type_eq]
      rfl

/-- Feeding a text strikes the keys of its tokens. -/
theorem feed_eq (frames : Nat) (text : List Char) (holds : Holds) :
    feed frames text holds =
      (decide (∀ token ∈ tokens text, ¬ token.Quits),
        holds.strikeAll (strokes (tokens text)) frames) := by
  induction text using tokens.induct generalizing holds with
  | case1 =>
      rw [feed, tokens]
      rfl
  | case2 char rest inductionHypothesis =>
      rw [feed_cons, tokens]
      by_cases quits : (firstToken char rest).1.Quits
      · rw [if_pos quits, strokes_of_quits quits]
        simp [quits, Holds.strikeAll]
      · have alone : ∀ token ∈ [(firstToken char rest).1], ¬ token.Quits := by
          simpa using quits
        have first :
            strokes [(firstToken char rest).1] = (firstToken char rest).1.key?.toList := by
          cases struck : (firstToken char rest).1.key? <;>
            simp [strokes, quits, struck]
        rw [if_neg quits, inductionHypothesis, ← List.singleton_append,
          strokes_append alone, Holds.strikeAll_append, first]
        simp [quits]

theorem Holds.get_strike
    (holds : Holds) (struck key : Key) (frames : Nat) :
    (holds.strike struck frames).get key =
      if key = struck then some frames else holds.get key := by
  change (holds.set struck (some frames))[key.val] = _
  rw [Vector.getElem_set]
  simp only [Fin.ext_iff, eq_comm]
  rfl

theorem Holds.get_strikeAll
    (holds : Holds) (struck : List Key) (key : Key) (frames : Nat) :
    (holds.strikeAll struck frames).get key =
      if key ∈ struck then some frames else holds.get key := by
  induction struck generalizing holds with
  | nil => rfl
  | cons first rest inductionHypothesis =>
      change ((holds.strike first frames).strikeAll rest frames).get key = _
      rw [inductionHypothesis, Holds.get_strike]
      by_cases again : key ∈ rest
      · rw [if_pos again, if_pos (List.mem_cons_of_mem first again)]
      · simp only [List.mem_cons, again, or_false, if_false]

/-! ## Reading by position -/

/-- The position behind the parameters from a position on. -/
def skipParameters (text : List Char) (position : Nat) : Option Nat :=
  if position < text.length then do
    let char ← text[position]?
    if isParameter char then skipParameters text (position + 1)
    else some position
  else some position
termination_by text.length - position

/-- The position behind the sequence that starts at a position. -/
def skipSequence (text : List Char) (position : Nat) : Option Nat := do
  let kind ← text[position + 1]?
  if kind = 'O' then some (min (position + 3) text.length)
  else
    let last ← skipParameters text (position + 2)
    if last < text.length then
      let final ← text[last]?
      some (if isFinal final then last + 1 else last)
    else some last

private theorem exists_skipParameters
    {text : List Char} {position : Nat} (inText : position ≤ text.length) :
    ∃ later, skipParameters text position = some later ∧
      position ≤ later ∧ later ≤ text.length ∧
      text.drop later = (text.drop position).dropWhile isParameter := by
  fun_induction skipParameters text position with
  | case1 position inside inductionHypothesis =>
      have isDrop := List.drop_eq_getElem_cons inside
      rw [List.getElem?_eq_getElem inside, isDrop]
      change ∃ later, (if isParameter text[position] then _ else _) = _ ∧ _
      by_cases parameter : isParameter text[position] = true
      · obtain ⟨later, isLater, least, most, same⟩ := inductionHypothesis inside
        refine ⟨later, ?_, by omega, most, ?_⟩
        · rw [if_pos parameter, isLater]
        · rw [same, List.dropWhile_cons_of_pos parameter]
      · refine ⟨position, if_neg parameter, by omega, inText, ?_⟩
        rw [isDrop, List.dropWhile_cons_of_neg parameter]
  | case2 position outside =>
      refine ⟨position, rfl, by omega, inText, ?_⟩
      rw [List.drop_eq_nil_iff.mpr (by omega)]
      rfl

/-- A sequence is left behind, with the position still in the text. -/
theorem exists_skipSequence
    {text : List Char} {position : Nat} {kind : Char}
    (isKind : text[position + 1]? = some kind) :
    ∃ later, skipSequence text position = some later ∧
      position < later ∧ later ≤ text.length ∧
      text.drop later =
        if kind = 'O' then (text.drop (position + 2)).drop 1
        else afterControl (text.drop (position + 2)) := by
  obtain ⟨inside, _⟩ := List.getElem?_eq_some_iff.mp isKind
  unfold skipSequence
  rw [isKind]
  change ∃ later, (if kind = 'O' then _ else _) = _ ∧ _
  by_cases isShift : kind = 'O'
  · refine ⟨min (position + 3) text.length, if_pos isShift, by omega, by omega, ?_⟩
    rw [if_pos isShift, List.drop_drop]
    by_cases complete : position + 3 ≤ text.length
    · rw [Nat.min_eq_left complete]
    · rw [List.drop_eq_nil_iff.mpr (by omega), List.drop_eq_nil_iff.mpr (by omega)]
  · obtain ⟨last, isLast, least, most, same⟩ := exists_skipParameters inside
    rw [if_neg isShift, if_neg isShift, isLast, afterControl, ← same]
    change ∃ later, (if last < text.length then _ else _) = _ ∧ _
    by_cases more : last < text.length
    · rw [if_pos more, List.getElem?_eq_getElem more,
        List.drop_eq_getElem_cons more, afterFinal]
      by_cases final : isFinal text[last] = true
      · refine ⟨last + 1, ?_, by omega, by omega, ?_⟩
        · simp [final]
        · rw [if_pos final]
      · refine ⟨last, ?_, by omega, most, ?_⟩
        · simp [final]
        · rw [if_neg final, List.drop_eq_getElem_cons more]
    · refine ⟨last, if_neg more, by omega, most, ?_⟩
      rw [List.drop_eq_nil_iff.mpr (by omega)]
      rfl

private theorem lt_of_skipSequence
    {text : List Char} {position later : Nat}
    (skipped : skipSequence text position = some later) :
    position < later := by
  cases isKind : text[position + 1]? with
  | none =>
      rw [skipSequence, isKind] at skipped
      contradiction
  | some kind =>
      obtain ⟨found, isFound, beyond, _⟩ := exists_skipSequence isKind
      rw [isFound] at skipped
      cases skipped
      exact beyond

/-- Takes typed text in from a position on.  There is no result if a position
outside the text is asked for. -/
def feedFrom (frames : Nat) (text : List Char) (position : Nat) (holds : Holds) :
    Option (Bool × Holds) :=
  if position < text.length then do
    let char ← text[position]?
    if char = interrupt then some (false, holds)
    else if char = escape then
      if position + 1 < text.length then
        let kind ← text[position + 1]?
        if kind = '[' ∨ kind = 'O' then
          match _isLater : skipSequence text position with
          | none => none
          | some later => feedFrom frames text later holds
        else some (false, holds)
      else some (false, holds)
    else feedFrom frames text (position + 1) (holds.type char frames)
  else some (true, holds)
termination_by text.length - position
decreasing_by
  · have := lt_of_skipSequence _isLater
    omega
  · omega

/-- Reading by position stays in the text and takes in what is left of it. -/
theorem feedFrom_eq
    (frames : Nat) {text : List Char} {position : Nat} (holds : Holds)
    (inText : position ≤ text.length) :
    feedFrom frames text position holds =
      some (feed frames (text.drop position) holds) := by
  -- By turns of the reader: each of them is one equation of `feed` on the text
  -- that is left.
  fun_induction feedFrom frames text position holds with
  | case1 position holds inside afterSequence afterChar =>
      rw [List.getElem?_eq_getElem inside, List.drop_eq_getElem_cons inside]
      change (if text[position] = interrupt then _ else _) = _
      by_cases isInterrupt : text[position] = interrupt
      · rw [if_pos isInterrupt, isInterrupt, feed_interrupt]
      · rw [if_neg isInterrupt]
        by_cases isEscape : text[position] = escape
        · rw [if_pos isEscape, isEscape]
          by_cases more : position + 1 < text.length
          · have isKind := List.getElem?_eq_getElem more
            obtain ⟨later, isLater, _, most, same⟩ := exists_skipSequence isKind
            rw [if_pos more, isKind, List.drop_eq_getElem_cons more,
              feed_escape_cons, ← same]
            change (if _ then _ else _) = _
            by_cases opens : text[position + 1] = '[' ∨ text[position + 1] = 'O'
            · rw [if_pos opens, if_pos opens,
                ← afterSequence more later isLater most]
              split
              · rename_i missing
                rw [isLater] at missing
                contradiction
              · rename_i found isFound
                rw [isLater] at isFound
                cases isFound
                rfl
            · rw [if_neg opens, if_neg opens]
          · rw [if_neg more, List.drop_eq_nil_iff.mpr (by omega), feed_escape_nil]
        · rw [if_neg isEscape, afterChar _ inside,
            feed_char frames _ holds isInterrupt isEscape]
  | case2 position holds outside =>
      rw [List.drop_eq_nil_iff.mpr (by omega), feed]

end Keyboard

namespace Terminal

theorem feed_eq (terminal : Terminal) (text : String) :
    terminal.feed text =
      (decide (∀ token ∈ Keyboard.tokens text.toList, ¬ token.Quits),
        { terminal with
          holds := terminal.holds.strikeAll
            (Keyboard.strokes (Keyboard.tokens text.toList))
            terminal.holdFrames }) := by
  rw [feed, Keyboard.feed_eq]

/-- Every text has exactly one division into tokens.  Reading it by position
ends without leaving the text, and gives the same answer: the session goes on
unless a token asks to quit, the keys struck before that are held for the whole
number of frames, and all else stays as it was. -/
theorem feed_follows_tokens (terminal : Terminal) (text : String) :
    ∃ tokens,
      (∀ found, Keyboard.Tokenises text.toList found ↔ found = tokens) ∧
      Keyboard.feedFrom terminal.holdFrames text.toList 0 terminal.holds =
        some ((terminal.feed text).1, (terminal.feed text).2.holds) ∧
      ((terminal.feed text).1 = false ↔ ∃ token ∈ tokens, token.Quits) ∧
      (∀ key, Keyboard.Strikes tokens key →
        (terminal.feed text).2.holds.get key = some terminal.holdFrames) ∧
      (∀ key, ¬ Keyboard.Strikes tokens key →
        (terminal.feed text).2.holds.get key = terminal.holds.get key) ∧
      (terminal.feed text).2 =
        { terminal with holds := (terminal.feed text).2.holds } := by
  have byPosition :=
    Keyboard.feedFrom_eq terminal.holdFrames terminal.holds
      (Nat.zero_le text.toList.length)
  rw [List.drop_zero, Keyboard.feed_eq] at byPosition
  refine ⟨Keyboard.tokens text.toList, fun _ => Keyboard.tokenises_iff, ?_, ?_,
    ?_, ?_, ?_⟩
  · rw [byPosition, feed_eq]
  · rw [feed_eq]
    simp
  · intro key strikes
    rw [feed_eq, Keyboard.Holds.get_strikeAll,
      if_pos (Keyboard.mem_strokes_iff.mpr strikes)]
  · intro key notStruck
    rw [feed_eq, Keyboard.Holds.get_strikeAll,
      if_neg (mt Keyboard.mem_strokes_iff.mp notStruck)]
  · rw [feed_eq]

end Terminal

end Chip8
