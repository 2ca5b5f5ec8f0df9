import Chip8.Proofs.DecimalScalars
import Chip8.Yaml.Document

/-!
# Documents of words

A word has letters, digits, underscores and dashes only, and it begins with a
letter or with a dash in front of one.  A document that is a single word is a
plain scalar, and a document in which each line has a word, a colon and another
word is a table of plain scalars (`readNode_word`, `readNode_linesText`).
-/

namespace Chip8.Yaml

/-! ## Words -/

/-- Whether a character is a letter, a digit or an underscore. -/
def isWordLetter (char : Char) : Bool := char.isAlphanum || char = '_'

def isInWord (char : Char) : Bool := isWordLetter char || char = '-'

/-- The text begins with a letter, or with a dash in front of one. -/
inductive StartsWord : List Char → Prop
  | letter {first : Char} {rest : List Char}
      (isLetter : isWordLetter first = true) :
      StartsWord (first :: rest)
  | signed {second : Char} {rest : List Char}
      (isLetter : isWordLetter second = true) :
      StartsWord ('-' :: second :: rest)

structure IsWord (word : List Char) : Prop where
  starts : StartsWord word
  inWord : ∀ char ∈ word, isInWord char = true

theorem isInWord_of_isWordLetter
    {char : Char}
    (isLetter : isWordLetter char = true) :
    isInWord char = true := by
  simp [isInWord, isLetter]

theorem isWord_of_letters
    {word : List Char}
    (nonempty : word ≠ [])
    (letters : ∀ char ∈ word, isWordLetter char = true) :
    IsWord word where
  starts := by
    obtain ⟨first, rest, rfl⟩ := List.exists_cons_of_ne_nil nonempty
    exact .letter (letters first List.mem_cons_self)
  inWord := fun char belongs => isInWord_of_isWordLetter (letters char belongs)

theorem isWord_of_sign
    {word : List Char}
    (nonempty : word ≠ [])
    (letters : ∀ char ∈ word, isWordLetter char = true) :
    IsWord ('-' :: word) where
  starts := by
    obtain ⟨first, rest, rfl⟩ := List.exists_cons_of_ne_nil nonempty
    exact .signed (letters first List.mem_cons_self)
  inWord := List.forall_mem_cons.mpr
    ⟨by decide, fun char belongs => isInWord_of_isWordLetter (letters char belongs)⟩

theorem StartsWord.append
    {text : List Char}
    (starts : StartsWord text)
    (rest : List Char) :
    StartsWord (text ++ rest) := by
  cases starts with
  | letter isLetter => exact .letter isLetter
  | signed isLetter => exact .signed isLetter

theorem StartsWord.exists_cons
    {text : List Char}
    (starts : StartsWord text) :
    ∃ first rest, text = first :: rest ∧ isInWord first = true := by
  cases starts with
  | letter isLetter => exact ⟨_, _, rfl, isInWord_of_isWordLetter isLetter⟩
  | signed isLetter => exact ⟨_, _, rfl, by decide⟩

theorem isBlank_of_isInWord
    {char : Char}
    (inWord : isInWord char = true) :
    isBlank char = false := by
  have noBlank : char ≠ ' ' := ne_of_holds inWord (by decide)
  have noTab : char ≠ '\t' := ne_of_holds inWord (by decide)
  simp [isBlank, noBlank, noTab]

theorem atGap_of_isInWord
    {char : Char}
    (inWord : isInWord char = true)
    (rest : List Char) :
    atGap (char :: rest) = false := by
  have noBreak : char ≠ '\n' := ne_of_holds inWord (by decide)
  simp [atGap, isBlank_of_isInWord inWord, noBreak]

/-! ## Places in front of words -/

section

variable {text : List Char}

theorem toToken_of_startsWord
    (starts : StartsWord text)
    (flow fresh : Bool) (column : Nat) :
    Place.toToken flow ⟨text, column, fresh⟩ = ⟨text, column, fresh⟩ := by
  obtain ⟨first, rest, rfl, inWord⟩ := starts.exists_cons
  have noBreak : first ≠ '\n' := ne_of_holds inWord (by decide)
  have noBlank : first ≠ ' ' := ne_of_holds inWord (by decide)
  have noTab : first ≠ '\t' := ne_of_holds inWord (by decide)
  have noComment : first ≠ '#' := ne_of_holds inWord (by decide)
  simp [Place.toToken, Place.skipFrom, noBreak, noBlank, noTab, noComment]

/-- A word does not begin like a marker between documents. -/
theorem startsMarker_of_startsWord
    (starts : StartsWord text)
    {mark : Char}
    (isMark : isWordLetter mark = false) :
    startsMarker mark text = false := by
  cases starts with
  | letter isLetter =>
      have noMark := ne_of_holds isLetter isMark
      unfold startsMarker
      split
      next isCons => simp [(List.cons.inj isCons).1 ▸ noMark]
      next => rfl
  | signed isLetter =>
      have noMark := ne_of_holds isLetter isMark
      unfold startsMarker
      split
      next isCons =>
        have isSecond := (List.cons.inj (List.cons.inj isCons).2).1
        simp [isSecond ▸ noMark]
      next => rfl

private theorem atMarker_of_startsWord
    (starts : StartsWord text)
    (column : Nat) :
    atMarker column text = false := by
  have noDashes : startsMarker '-' text = false :=
    startsMarker_of_startsWord starts (by decide)
  have noDots : startsMarker '.' text = false :=
    startsMarker_of_startsWord starts (by decide)
  simp [atMarker, noDashes, noDots]

theorem atEnd_of_startsWord
    (starts : StartsWord text)
    (column : Nat) (fresh : Bool) :
    Place.atEnd ⟨text, column, fresh⟩ = false := by
  have noMarker := atMarker_of_startsWord starts column
  obtain ⟨first, rest, rfl, _⟩ := starts.exists_cons
  simp [Place.atEnd, noMarker]

/-- A word is neither a dash nor a mark of a key or of a value. -/
theorem noIndicator_of_startsWord
    (starts : StartsWord text)
    (column : Nat) (fresh : Bool) :
    Place.atIndicator ⟨text, column, fresh⟩ '-' = false ∧
      Place.atIndicator ⟨text, column, fresh⟩ '?' = false ∧
      Place.atIndicator ⟨text, column, fresh⟩ ':' = false := by
  cases starts with
  | letter isLetter =>
      have noDash := ne_of_holds isLetter (by decide : isWordLetter '-' = false)
      have noQuestion := ne_of_holds isLetter (by decide : isWordLetter '?' = false)
      have noColon := ne_of_holds isLetter (by decide : isWordLetter ':' = false)
      simp [Place.atIndicator, noDash, noQuestion, noColon]
  | signed isLetter =>
      have noGap := atGap_of_isInWord (isInWord_of_isWordLetter isLetter)
      simp [Place.atIndicator, noGap]

end

/-! ## Scalars -/

/-- The characters of a word are taken in, whatever follows them. -/
theorem readPlain_append
    {word : List Char}
    (inWord : ∀ char ∈ word, isInWord char = true)
    (indent : Int) (before : List Char) (column : Nat) (rest : List Char) :
    readPlain false indent before {} true column (word ++ rest) =
      readPlain false indent (word.reverse ++ before) {} true (column + word.length)
        rest := by
  induction word generalizing before column with
  | nil => rfl
  | cons first others inductionHypothesis =>
      obtain ⟨firstInWord, othersInWord⟩ := List.forall_mem_cons.mp inWord
      have noBlank := isBlank_of_isInWord firstInWord
      have noBreak : first ≠ '\n' := ne_of_holds firstInWord (by decide)
      have noColon : first ≠ ':' := ne_of_holds firstInWord (by decide)
      have step :
          readPlain false indent before {} true column (first :: (others ++ rest)) =
            readPlain false indent (first :: before) {} true (column + 1)
              (others ++ rest) := by
        simp [readPlain, Gap.text, noBreak, noBlank, noColon]
      rw [List.cons_append, step, inductionHypothesis othersInWord,
        List.reverse_cons, List.append_assoc, List.singleton_append,
        List.length_cons, Nat.add_assoc, Nat.add_comm 1]

def EndsLine (rest : List Char) : Prop := rest = [] ∨ StartsWord rest

private theorem readPlain_break
    {indent : Int} {rest : List Char}
    (inside : 0 ≤ indent)
    (ends : EndsLine rest)
    (word : List Char) (column : Nat) :
    readPlain false indent word {} true column ('\n' :: rest) =
      .ok ⟨word.reverse, ⟨rest, 0, true⟩⟩ := by
  rcases ends with rfl | starts
  · simp [readPlain, Gap.lineBreak, Gap.isLineStart]
  · obtain ⟨first, others, rfl, inWord⟩ := starts.exists_cons
    have noBlank := isBlank_of_isInWord inWord
    have noBreak : first ≠ '\n' := ne_of_holds inWord (by decide)
    simp [readPlain, Gap.lineBreak, Gap.isLineStart, noBreak, noBlank, inside]

/-! ## Lines -/

/-- A line with a key, a colon and a value. -/
def lineText (line : List Char × List Char) : List Char :=
  line.1 ++ ':' :: ' ' :: (line.2 ++ ['\n'])

def linesText (lines : List (List Char × List Char)) : List Char :=
  lines.flatMap lineText

def lineNodes (line : List Char × List Char) : Node × Node :=
  (.scalar true line.1, .scalar true line.2)

/-- The key and the value of the line are words. -/
def IsWordLine (line : List Char × List Char) : Prop :=
  IsWord line.1 ∧ IsWord line.2

@[simp]
theorem linesText_cons
    (line : List Char × List Char) (lines : List (List Char × List Char)) :
    linesText (line :: lines) =
      line.1 ++ ':' :: ' ' :: (line.2 ++ '\n' :: linesText lines) := by
  simp [linesText, lineText]

private theorem endsLine_linesText
    {lines : List (List Char × List Char)}
    (words : ∀ line ∈ lines, IsWordLine line) :
    EndsLine (linesText lines) := by
  cases lines with
  | nil => exact .inl rfl
  | cons line others =>
      rw [linesText_cons]
      exact .inr ((words line List.mem_cons_self).1.starts.append _)

private theorem length_le_length_linesText
    (lines : List (List Char × List Char)) :
    lines.length ≤ (linesText lines).length := by
  induction lines with
  | nil => exact Nat.le_refl 0
  | cons line others inductionHypothesis =>
      rw [linesText_cons]
      simp only [List.length_append, List.length_cons]
      omega

/-- The place behind the end of a line. -/
theorem toToken_of_endsLine
    {rest : List Char}
    (ends : EndsLine rest) :
    Place.toToken false ⟨rest, 0, true⟩ = ⟨rest, 0, true⟩ := by
  rcases ends with rfl | starts
  · rfl
  · exact toToken_of_startsWord starts false true 0

theorem toToken_colon
    (rest : List Char) (column : Nat) :
    Place.toToken false ⟨':' :: rest, column, false⟩ = ⟨':' :: rest, column, false⟩ := by
  simp [Place.toToken, Place.skipFrom]

namespace Node

private theorem startsPlain_of_startsWord
    {text : List Char}
    (starts : StartsWord text) :
    startsPlain false text = true := by
  cases starts with
  | @letter first rest isLetter =>
      have others :
          ((Char.ofNat 0x60 :: "-?:\t\n ,[]\x7b\x7d#&*!|>'\"%@".toList).all
            fun char => !isWordLetter char) = true := by
        decide
      have apart :
          first ∉ Char.ofNat 0x60 :: "-?:\t\n ,[]\x7b\x7d#&*!|>'\"%@".toList := by
        intro listed
        have noLetter := List.all_eq_true.mp others first listed
        simp [isLetter] at noLetter
      simp at apart
      simp [startsPlain, apart]
  | signed isLetter =>
      have noGap := atGap_of_isInWord (isInWord_of_isWordLetter isLetter)
      simp [startsPlain, noGap]

/-- What begins like a word is read as a plain scalar. -/
theorem readLeaf_of_startsWord
    {text : List Char}
    (starts : StartsWord text)
    (fuel : Nat) (indent : Int) (column : Nat) (fresh : Bool) :
    readLeaf fuel indent ⟨text, column, fresh⟩ =
      (readPlain false indent [] {} true column text).map fun leaf =>
        (scalar true leaf.text, leaf.place) := by
  have plain := startsPlain_of_startsWord starts
  obtain ⟨first, rest, rfl, inWord⟩ := starts.exists_cons
  have noList : first ≠ '[' := ne_of_holds inWord (by decide)
  have noTable : first ≠ '\x7b' := ne_of_holds inWord (by decide)
  have noQuote : first ≠ '\'' := ne_of_holds inWord (by decide)
  have noQuotes : first ≠ '"' := ne_of_holds inWord (by decide)
  simp [readLeaf, readScalar, noList, noTable, noQuote, noQuotes, plain]
  rfl

section

variable {word : List Char}

/-- A word at the end of the document. -/
theorem readLeaf_word
    (isWord : IsWord word)
    (fuel : Nat) (indent : Int) (column : Nat) (fresh : Bool) :
    readLeaf fuel indent ⟨word, column, fresh⟩ =
      .ok (scalar true word, ⟨[], column + word.length, false⟩) := by
  have whole := readPlain_append isWord.inWord indent [] column []
  rw [List.append_nil, List.append_nil] at whole
  rw [readLeaf_of_startsWord isWord.starts, whole]
  simp [readPlain, Gap.isLineStart, Except.map]

/-- A word in front of a colon. -/
theorem readLeaf_key
    (isWord : IsWord word)
    (fuel : Nat) (indent : Int) (column : Nat) (fresh : Bool) (rest : List Char) :
    readLeaf fuel indent ⟨word ++ ':' :: ' ' :: rest, column, fresh⟩ =
      .ok (scalar true word, ⟨':' :: ' ' :: rest, column + word.length, false⟩) := by
  rw [readLeaf_of_startsWord (isWord.starts.append _), readPlain_append isWord.inWord]
  simp [readPlain, isBlank, atGap, Gap.isLineStart, Except.map]

/-- A word at the end of a line. -/
theorem readLeaf_line
    (isWord : IsWord word)
    {indent : Int} {rest : List Char}
    (inside : 0 ≤ indent)
    (ends : EndsLine rest)
    (fuel : Nat) (column : Nat) (fresh : Bool) :
    readLeaf fuel indent ⟨word ++ '\n' :: rest, column, fresh⟩ =
      .ok (scalar true word, ⟨rest, 0, true⟩) := by
  rw [readLeaf_of_startsWord (isWord.starts.append _), readPlain_append isWord.inWord,
    readPlain_break inside ends]
  simp [Except.map]

end

/-! ## Keys and values -/

/-- The colon behind a word makes it a key. -/
theorem isKeyBetween_key
    {word : List Char}
    (isWord : IsWord word)
    (column later : Nat) (fresh : Bool) (rest : List Char) :
    isKeyBetween ⟨word ++ ':' :: ' ' :: rest, column, fresh⟩
      ⟨':' :: ' ' :: rest, later, false⟩ = true := by
  have noBreak : '\n' ∉ word := by
    intro belongs
    have inWord := isWord.inWord _ belongs
    revert inWord
    decide
  simp [isKeyBetween, Place.breaksBefore, Place.atIndicator, atGap, isBlank, noBreak]

section

variable {text : List Char} {place after : Place} {column fuel : Nat} {indent : Int}
  {fresh : Bool} {leaf : Node}

/-- A part in block style that begins with a word and is no key. -/
theorem readBlock_leaf
    (start : place.toToken false = ⟨text, column, fresh⟩)
    (starts : StartsWord text)
    (inside : indent < column)
    (read : readLeaf fuel indent ⟨text, column, fresh⟩ = .ok (leaf, after))
    (noKey : isKeyBetween ⟨text, column, fresh⟩ (after.toToken false) = false)
    (dashes : Bool) :
    readBlock (fuel + 1) indent dashes place = .ok (leaf, after.toToken false) := by
  have deep : ¬ (column : Int) ≤ indent := by omega
  obtain ⟨noDash, noQuestion, noColon⟩ := noIndicator_of_startsWord starts column fresh
  rw [readBlock]
  simp [start, atEnd_of_startsWord starts, deep, noDash, noQuestion, noColon, read,
    noKey, bind, Except.bind, pure, Except.pure]

/-- A part in block style that begins with a key. -/
theorem readBlock_table
    (start : place.toToken false = ⟨text, column, true⟩)
    (starts : StartsWord text)
    (inside : indent < column)
    (read : readLeaf fuel indent ⟨text, column, true⟩ = .ok (leaf, after))
    (isKey : isKeyBetween ⟨text, column, true⟩ (after.toToken false) = true)
    {entries : List (Node × Node)} {finish : Place}
    (entriesRead :
      readEntry fuel column [] leaf ((after.toToken false).pass 1) =
        .ok (entries, finish))
    (dashes : Bool) :
    readBlock (fuel + 1) indent dashes place = .ok (table entries.reverse, finish) := by
  have deep : ¬ (column : Int) ≤ indent := by omega
  obtain ⟨noDash, noQuestion, noColon⟩ := noIndicator_of_startsWord starts column true
  rw [readBlock]
  simp [start, atEnd_of_startsWord starts, deep, noDash, noQuestion, noColon, read,
    isKey, entriesRead, bind, Except.bind, pure, Except.pure]

end

private theorem isKeyBetween_of_endsLine
    {rest : List Char}
    (ends : EndsLine rest)
    (start : Place) :
    isKeyBetween start ⟨rest, 0, true⟩ = false := by
  have noColon : Place.atIndicator ⟨rest, 0, true⟩ ':' = false := by
    rcases ends with rfl | starts
    · rfl
    · exact (noIndicator_of_startsWord starts 0 true).2.2
  simp [isKeyBetween, noColon]

/-- The value of a line. -/
theorem readEntry_value
    {content rest : List Char}
    (isWord : IsWord content)
    (ends : EndsLine rest)
    (fuel : Nat) (entries : List (Node × Node)) (key : Node) (column : Nat) :
    readEntry (fuel + 2) 0 entries key
        ⟨' ' :: (content ++ '\n' :: rest), column, false⟩ =
      readMore (fuel + 1) 0 ((key, scalar true content) :: entries) ⟨rest, 0, true⟩ := by
  have starts := isWord.starts.append ('\n' :: rest)
  have start :
      Place.toToken false ⟨' ' :: (content ++ '\n' :: rest), column, false⟩ =
        ⟨content ++ '\n' :: rest, column + 1, false⟩ := by
    rw [← toToken_of_startsWord starts false false (column + 1)]
    simp [Place.toToken, Place.skipFrom]
  have read := readLeaf_line isWord (Int.natCast_nonneg 0) ends fuel (column + 1) false
  have next := toToken_of_endsLine ends
  have noKey :
      isKeyBetween ⟨content ++ '\n' :: rest, column + 1, false⟩
        (Place.toToken false ⟨rest, 0, true⟩) = false := by
    rw [next]
    exact isKeyBetween_of_endsLine ends _
  have block := readBlock_leaf start starts (by omega) read noKey true
  simp only [readEntry, block, bind, Except.bind, next]

/-- The key of the next line. -/
theorem readMore_line
    {line : List Char × List Char}
    (words : IsWordLine line)
    (lines : List (List Char × List Char)) (fuel : Nat) (entries : List (Node × Node)) :
    readMore (fuel + 2) 0 entries ⟨linesText (line :: lines), 0, true⟩ =
      readEntry fuel 0 entries (scalar true line.1)
        ⟨' ' :: (line.2 ++ '\n' :: linesText lines), line.1.length + 1, false⟩ := by
  have starts := words.1.starts.append (':' :: ' ' :: (line.2 ++ '\n' :: linesText lines))
  obtain ⟨noDash, noQuestion, noColon⟩ := noIndicator_of_startsWord starts 0 true
  rw [linesText_cons, readMore, readEntries]
  simp [atEnd_of_startsWord starts, noDash, noQuestion, noColon, readLeaf_key words.1,
    toToken_colon, isKeyBetween_key words.1, Place.pass, bind, Except.bind]

/-- Each line takes three turns. -/
theorem readEntry_lines
    {content : List Char} {lines : List (List Char × List Char)} {fuel : Nat}
    (isWord : IsWord content)
    (words : ∀ line ∈ lines, IsWordLine line)
    (enough : 3 * lines.length + 2 ≤ fuel)
    (entries : List (Node × Node)) (key : Node) (column : Nat) :
    readEntry fuel 0 entries key
        ⟨' ' :: (content ++ '\n' :: linesText lines), column, false⟩ =
      .ok ((lines.map lineNodes).reverse ++ (key, scalar true content) :: entries,
        ⟨[], 0, true⟩) := by
  induction lines generalizing content fuel entries key column with
  | nil =>
      obtain ⟨turns, rfl⟩ : ∃ turns, fuel = turns + 2 := ⟨fuel - 2, by omega⟩
      rw [linesText, List.flatMap_nil, readEntry_value isWord (.inl rfl), readMore]
      rfl
  | cons line others inductionHypothesis =>
      rw [List.length_cons] at enough
      obtain ⟨turns, rfl⟩ : ∃ turns, fuel = turns + 4 := ⟨fuel - 4, by omega⟩
      obtain ⟨first, later⟩ := List.forall_mem_cons.mp words
      have turnsLeft : 3 * others.length + 2 ≤ turns + 1 := by omega
      rw [readEntry_value isWord (endsLine_linesText words), readMore_line first,
        inductionHypothesis first.2 later turnsLeft, List.map_cons,
        List.reverse_cons, List.append_assoc, List.singleton_append, lineNodes]

end Node

/-! ## Documents -/

/-- A document that begins with a word is a part in block style, with nothing
behind it. -/
theorem readNode_of_readBlock
    {text : List Char} {node : Node} {column : Nat} {fresh : Bool}
    (starts : StartsWord text)
    (block :
      Node.readBlock (8 * text.length + 8) (-1) false ⟨text, 0, true⟩ =
        .ok (node, ⟨[], column, fresh⟩)) :
    readNode text = .ok node := by
  have start := toToken_of_startsWord starts false true 0
  have noMarker : startsMarker '-' text = false :=
    startsMarker_of_startsWord starts (by decide)
  have nonempty : text ≠ [] := by
    rintro rfl
    contradiction
  have ended : checkEnd ⟨[], column, fresh⟩ = .ok () := rfl
  simp [readNode, start, nonempty, noMarker, block, ended, bind, Except.bind, pure,
    Except.pure]

private theorem readNode_word
    {word : List Char}
    (isWord : IsWord word) :
    readNode word = .ok (.scalar true word) := by
  have start := toToken_of_startsWord isWord.starts false true 0
  have read := Node.readLeaf_word isWord (8 * word.length + 7) (-1) 0 true
  exact readNode_of_readBlock isWord.starts
    (Node.readBlock_leaf start isWord.starts (by decide) read
      (by simp [Place.toToken, Place.skipFrom, Node.isKeyBetween, Place.atIndicator]) false)

private theorem readNode_linesText
    {lines : List (List Char × List Char)}
    (nonempty : lines ≠ [])
    (words : ∀ line ∈ lines, IsWordLine line) :
    readNode (linesText lines) = .ok (.table (lines.map lineNodes)) := by
  obtain ⟨line, others, rfl⟩ := List.exists_cons_of_ne_nil nonempty
  obtain ⟨first, later⟩ := List.forall_mem_cons.mp words
  have short := length_le_length_linesText (line :: others)
  rw [List.length_cons] at short
  have enough : 3 * others.length + 2 ≤ 8 * (linesText (line :: others)).length + 7 := by
    omega
  rw [linesText_cons] at enough ⊢
  have starts := first.1.starts.append (':' :: ' ' :: (line.2 ++ '\n' :: linesText others))
  have start := toToken_of_startsWord starts false true 0
  have isKey := Node.isKeyBetween_key first.1 0 (0 + line.1.length) true
    (line.2 ++ '\n' :: linesText others)
  rw [← toToken_colon] at isKey
  have block := Node.readBlock_table start starts (by decide)
    (Node.readLeaf_key first.1 _ (-1) 0 true _) isKey
    (Node.readEntry_lines first.2 later enough [] _ _) false
  have table := readNode_of_readBlock starts block
  simpa [lineNodes] using table

/-! ## Values -/

/-- Whether a character may stand in a line of words. -/
def isInLine (char : Char) : Bool :=
  isInWord char || char = ':' || char = ' ' || char = '\n'

private theorem toNat_of_isAlphanum
    {char : Char}
    (isAlphanum : char.isAlphanum = true) :
    0x30 ≤ char.toNat ∧ char.toNat ≤ 0x7A := by
  have codes :
      'A'.toNat = 0x41 ∧ 'Z'.toNat = 0x5A ∧ 'a'.toNat = 0x61 ∧ 'z'.toNat = 0x7A ∧
        '0'.toNat = 0x30 ∧ '9'.toNat = 0x39 := by
    decide
  have ranges :
      (decide ('A'.val ≤ char.val ∧ char.val ≤ 'Z'.val) ||
          ('a'.val ≤ char.val && char.val ≤ 'z'.val) ||
        ('0'.val ≤ char.val && char.val ≤ '9'.val)) = true :=
    isAlphanum
  simp only [UInt32.le_iff_toNat_le, Bool.or_eq_true, Bool.and_eq_true,
    decide_eq_true_eq, Char.toNat_val] at ranges
  omega

theorem toNat_of_isInLine
    {char : Char}
    (inLine : isInLine char = true) :
    char.toNat = 0x0A ∨ 0x20 ≤ char.toNat ∧ char.toNat ≤ 0x7E := by
  simp only [isInLine, isInWord, isWordLetter, Bool.or_eq_true, decide_eq_true_eq,
    or_assoc] at inLine
  rcases inLine with isAlphanum | rfl | rfl | rfl | rfl | rfl
  · have bounds := toNat_of_isAlphanum isAlphanum
    omega
  all_goals decide

private theorem unifyBreaks_of_isInLine
    {chars : List Char}
    (inLine : ∀ char ∈ chars, isInLine char = true) :
    unifyBreaks chars = chars := by
  induction chars with
  | nil => rfl
  | cons first rest inductionHypothesis =>
      obtain ⟨firstInLine, others⟩ := List.forall_mem_cons.mp inLine
      have noReturn : first ≠ '\r' := by
        rintro rfl
        revert firstInLine
        decide
      have noNextLine : first ≠ '\u0085' := by
        rintro rfl
        revert firstInLine
        decide
      rw [unifyBreaks, inductionHypothesis others]
      · exact fun _ isReturn => absurd isReturn noReturn
      · exact noReturn
      · exact noNextLine

/-- Plain characters pass the checks of a text, and the breaks between them stay
as they are. -/
theorem read_of_isInLine
    {chars : List Char}
    (inLine : ∀ char ∈ chars, isInLine char = true) :
    read (.ofList chars) = readNode chars >>= Node.value := by
  have allowed : chars.all isAllowed = true := by
    rw [List.all_eq_true]
    intro char belongs
    have bounds := toNat_of_isInLine (inLine char belongs)
    simp only [isAllowed, Bool.or_eq_true, Bool.and_eq_true, decide_eq_true_eq]
    omega
  have noSeparator : chars.any isSeparator = false := by
    rw [List.any_eq_false]
    intro char belongs isSeparating
    have bounds := toNat_of_isInLine (inLine char belongs)
    simp only [isSeparator, Bool.or_eq_true, decide_eq_true_eq] at isSeparating
    rcases isSeparating with rfl | rfl
    all_goals
      revert bounds
      decide
  have noMark : ∀ rest, chars ≠ '\ufeff' :: rest := by
    rintro rest rfl
    have inLine := inLine _ List.mem_cons_self
    revert inLine
    decide
  unfold read
  rw [String.toList_ofList]
  split
  next rest => exact absurd rfl (noMark rest)
  next =>
    simp only [allowed, noSeparator, Bool.not_true, Bool.false_eq_true, if_false,
      unifyBreaks_of_isInLine inLine]

theorem read_word
    {word : List Char}
    (isWord : IsWord word) :
    read (.ofList word) = (Node.scalar true word).value := by
  have inLine : ∀ char ∈ word, isInLine char = true := by
    intro char belongs
    simp [isInLine, isWord.inWord char belongs]
  rw [read_of_isInLine inLine, readNode_word isWord]
  rfl

theorem isInLine_of_mem_linesText
    {lines : List (List Char × List Char)}
    (words : ∀ line ∈ lines, IsWordLine line) :
    ∀ char ∈ linesText lines, isInLine char = true := by
  intro char belongs
  obtain ⟨line, listed, inText⟩ := List.mem_flatMap.mp belongs
  obtain ⟨isKey, isContent⟩ := words line listed
  simp only [lineText, List.mem_append, List.mem_cons, List.not_mem_nil, or_false] at inText
  rcases inText with inKey | rfl | rfl | inContent | rfl
  · simp [isInLine, isKey.inWord char inKey]
  · decide
  · decide
  · simp [isInLine, isContent.inWord char inContent]
  · decide

/-- The entry of a line whose key is a text. -/
def lineEntry (line : List Char × List Char) : Except Flaw (Value × Value) :=
  (read (.ofList line.2)).map fun value => (.text (.ofList line.1), value)

/-- The word is no other scalar than a text. -/
def IsTextWord (word : List Char) : Prop :=
  Scalar.ofPlain word = .plain (.text (.ofList word))

namespace Node

private theorem keyText?_lineNodes
    {line : List Char × List Char}
    (textKey : IsTextWord line.1) :
    (lineNodes line).1.keyText? = some line.1 := by
  rw [IsTextWord] at textKey
  simp only [lineNodes, keyText?, textKey]

private theorem entryValues_lineNodes
    {lines : List (List Char × List Char)}
    (words : ∀ line ∈ lines, IsWordLine line)
    (textKeys : ∀ line ∈ lines, IsTextWord line.1) :
    entryValues (lines.map lineNodes) = (lines.mapM lineEntry).map fun own => ([], own) := by
  induction lines with
  | nil => rfl
  | cons line others inductionHypothesis =>
      obtain ⟨words, otherWords⟩ := List.forall_mem_cons.mp words
      obtain ⟨textKey, otherKeys⟩ := List.forall_mem_cons.mp textKeys
      have noMerge : isMerge (scalar true line.1) = false := by
        rw [isMerge, decide_eq_false_iff_not]
        intro isMark
        have inWord : isInWord '<' = true := words.1.inWord '<' (by simp [isMark])
        revert inWord
        decide
      have key : value (scalar true line.1) = .ok (.text (.ofList line.1)) := by
        rw [IsTextWord] at textKey
        simp only [value, textKey]
      rw [List.map_cons, lineNodes, entryValues, noMerge, key, ← read_word words.2,
        inductionHypothesis otherWords otherKeys, List.mapM_cons, lineEntry]
      cases read (.ofList line.2) with
      | error flaw => rfl
      | ok content =>
          cases others.mapM lineEntry with
          | error flaw => rfl
          | ok own => rfl

end Node

/-- A document of lines is read line by line. -/
theorem read_linesText
    {lines : List (List Char × List Char)}
    (nonempty : lines ≠ [])
    (words : ∀ line ∈ lines, IsWordLine line)
    (textKeys : ∀ line ∈ lines, IsTextWord line.1)
    (nodup : (lines.map Prod.fst).Nodup) :
    read (.ofList (linesText lines)) =
      (lines.mapM lineEntry).map fun own => .ofEntries own := by
  have keys :
      (lines.map lineNodes).filterMap (fun entry => entry.1.keyText?) =
        lines.map Prod.fst := by
    rw [List.filterMap_map, List.filterMap_eq_map_iff_forall_eq_some]
    intro line listed
    exact Node.keyText?_lineNodes (textKeys line listed)
  rw [read_of_isInLine (isInLine_of_mem_linesText words),
    readNode_linesText nonempty words]
  simp only [bind, Except.bind, Node.value]
  rw [keys, if_pos nodup, Node.entryValues_lineNodes words textKeys]
  cases lines.mapM lineEntry with
  | error flaw => rfl
  | ok own => rfl

end Chip8.Yaml
