import Mathlib.Data.List.Forall2
import Mathlib.Tactic.Common

/-!
# The words of a shell command

A shell cuts a command into words at its blanks. Within single quotes every character stands for
itself, within double quotes almost every one does, and a backslash takes the meaning from the
character behind it.

A `Shell` is anything that keeps to these rules, whatever else it reads. `shellWords` is one: there,
`Quotes` says that a piece of a command stands for a text, wherever a word goes on with the piece.
Such pieces are put together (`Quotes.append`), and a command of pieces with blanks between them has
the words for which they stand (`shellWords_joinPieces`). It does not read a command with an
expansion, an operator or a pattern outside of quotes at all.
-/

set_option autoImplicit false
set_option relaxedAutoImplicit false

namespace Posix

/-! ### Reading a command -/

/-- Where a shell reads in a command. -/
inductive Place where
  /-- Outside of quotes. -/
  | plain
  /-- Within single quotes. -/
  | single
  /-- Within double quotes. -/
  | double
  /-- Behind a backslash outside of quotes. -/
  | escaped
  /-- Behind a backslash within double quotes. -/
  | doubleEscaped
  deriving DecidableEq

/-- What has been read of a command: the words that have ended and the one that has begun. -/
structure Reading where
  words : List (List Char)
  word : Option (List Char)
  place : Place
  deriving DecidableEq

/-- Nothing has been read. -/
def Reading.start : Reading := ⟨[], none, .plain⟩

/-- The word goes on with some characters. -/
def Reading.extend (reading : Reading) (characters : List Char) : Reading :=
  { reading with word := some (reading.word.getD [] ++ characters) }

/-- The word ends, when there is one. -/
def Reading.endWord (reading : Reading) : Reading :=
  { reading with words := reading.words ++ reading.word.toList, word := none }

/-- The shell reads on at another place. -/
def Reading.goTo (reading : Reading) (place : Place) : Reading :=
  { reading with place := place }

/-- The characters between two words. -/
def isBlank (character : Char) : Bool :=
  [' ', '\t'].contains character

/-- The quotes and the backslash. -/
def isQuoting (character : Char) : Bool :=
  ['\'', '"', '\\'].contains character

/-- The characters that may have a meaning of their own outside of quotes: the operators, the
expansions, the patterns, the comment and the end of the line. -/
def isActive (character : Char) : Bool :=
  ['|', '&', ';', '<', '>', '(', ')', '$', '\x60', '*', '?', '[', '#', '~', '!', '\x7b', '\x7d',
    '\n', '\r'].contains character

/-- The characters that begin an expansion, also within double quotes. -/
def isExpanding (character : Char) : Bool :=
  ['$', '\x60'].contains character

/-- The characters from which a backslash takes the meaning within double quotes. -/
def isEscapable (character : Char) : Bool :=
  ['$', '\x60', '"', '\\'].contains character

/-- A character is read. -/
def Reading.step (reading : Reading) (character : Char) : Option Reading :=
  match reading.place with
  | .plain =>
    if isBlank character then some reading.endWord
    else if character = '\'' then some ((reading.extend []).goTo .single)
    else if character = '"' then some ((reading.extend []).goTo .double)
    else if character = '\\' then some (reading.goTo .escaped)
    else if isActive character then none
    else some (reading.extend [character])
  | .single =>
    if character = '\'' then some (reading.goTo .plain) else some (reading.extend [character])
  | .double =>
    if character = '"' then some (reading.goTo .plain)
    else if character = '\\' then some (reading.goTo .doubleEscaped)
    else if isExpanding character then none
    else some (reading.extend [character])
  | .escaped =>
    -- A line goes on behind a backslash at its end.
    if character = '\n' then some (reading.goTo .plain)
    else some ((reading.extend [character]).goTo .plain)
  | .doubleEscaped =>
    if character = '\n' then some (reading.goTo .double)
    else if isEscapable character then some ((reading.extend [character]).goTo .double)
    else some ((reading.extend ['\\', character]).goTo .double)

/-- Some characters are read. -/
def Reading.read (reading : Reading) (characters : List Char) : Option Reading :=
  characters.foldlM Reading.step reading

/-- The words of a command, unless there is more in it than words, or a quote is not closed. -/
def shellWords (command : String) : Option (List String) := do
  let reading ← Reading.start.read command.toList
  if reading.place = .plain then some (reading.endWord.words.map String.ofList) else none

@[simp] theorem Reading.read_nil (reading : Reading) : reading.read [] = some reading := rfl

theorem Reading.read_cons (reading : Reading) (character : Char) (characters : List Char) :
    reading.read (character :: characters) =
      (reading.step character).bind fun next ↦ next.read characters := rfl

theorem Reading.read_append (reading : Reading) (front back : List Char) :
    reading.read (front ++ back) = (reading.read front).bind fun next ↦ next.read back := by
  rw [Reading.read, List.foldlM_append]
  rfl

@[simp] theorem Reading.extend_extend (reading : Reading) (first second : List Char) :
    (reading.extend first).extend second = reading.extend (first ++ second) := by
  simp [Reading.extend]

@[simp] theorem Reading.place_extend (reading : Reading) (characters : List Char) :
    (reading.extend characters).place = reading.place := rfl

@[simp] theorem Reading.place_goTo (reading : Reading) (place : Place) :
    (reading.goTo place).place = place := rfl

@[simp] theorem Reading.extend_goTo (reading : Reading) (place : Place) (characters : List Char) :
    (reading.goTo place).extend characters = (reading.extend characters).goTo place := rfl

@[simp] theorem Reading.goTo_goTo (reading : Reading) (first second : Place) :
    (reading.goTo first).goTo second = reading.goTo second := rfl

/-- A place that is gone to and left again leaves no trace. -/
theorem Reading.goTo_eq_self {reading : Reading} {place : Place} (hplace : reading.place = place) :
    reading.goTo place = reading := by
  subst hplace
  rfl

/-- A word that goes on only character by character goes on with all of them. Assumes: it has begun,
or there is a character. -/
theorem Reading.read_eq_extend {reading : Reading} {characters : List Char}
    (hbegun : reading.word.isSome = true ∨ characters ≠ [])
    (hstep : ∀ character ∈ characters, ∀ next : Reading, next.place = reading.place →
      next.step character = some (next.extend [character])) :
    reading.read characters = some (reading.extend characters) := by
  induction characters generalizing reading with
  | nil =>
    obtain ⟨word, hword⟩ := Option.isSome_iff_exists.mp (hbegun.resolve_right fun h ↦ h rfl)
    rw [Reading.read_nil, Reading.extend, hword, Option.getD_some, List.append_nil, ← hword]
  | cons character characters ih =>
    have hrest := @ih (reading.extend [character]) (.inl rfl) fun other hother next hnext ↦
      hstep other (List.mem_cons_of_mem _ hother) next hnext
    rw [Reading.read_cons, hstep character (List.mem_cons_self ..) reading rfl, Option.bind_some,
      hrest, Reading.extend_extend]
    rfl

/-! ### Pieces -/

/-- A piece of a command stands for a text. -/
def Quotes (quoted text : String) : Prop :=
  ∀ reading : Reading, reading.place = .plain →
    reading.read quoted.toList = some (reading.extend text.toList)

/-- A character stands for itself outside of quotes. -/
def isPlain (character : Char) : Bool :=
  !isBlank character && !isQuoting character && !isActive character && character != '\x00'

/-- A character stands for itself within double quotes. -/
def isPlainInDouble (character : Char) : Bool :=
  !isEscapable character && character != '\x00'

/-- A character stands for itself within single quotes. -/
def isPlainInSingle (character : Char) : Bool :=
  character != '\'' && character != '\x00'

variable {quoted text other otherText : String}

/-- Two pieces side by side stand for their texts side by side. -/
theorem Quotes.append (hquotes : Quotes quoted text) (hother : Quotes other otherText) :
    Quotes (quoted ++ other) (text ++ otherText) := by
  intro reading hplace
  rw [String.toList_append, Reading.read_append, hquotes reading hplace, Option.bind_some,
    hother (reading.extend text.toList) hplace, Reading.extend_extend, String.toList_append]

/-- Characters that have no meaning stand for themselves. Assumes: there is one. -/
theorem quotes_plain (hempty : text ≠ "") (hplain : ∀ character ∈ text.toList, isPlain character) :
    Quotes text text := by
  intro reading hplace
  refine Reading.read_eq_extend (.inr ?_) fun character hcharacter next hnext ↦ ?_
  · rwa [ne_eq, String.toList_eq_nil_iff]
  have hself := hplain character hcharacter
  simp only [isPlain, Bool.and_eq_true, Bool.not_eq_true'] at hself
  obtain ⟨⟨⟨hblank, hquoting⟩, hactive⟩, -⟩ := hself
  have hquotes : character ≠ '\'' ∧ character ≠ '"' ∧ character ≠ '\\' := by
    simpa [isQuoting] using hquoting
  rw [Reading.step, hnext, hplace]
  simp only [hblank, hactive, hquotes.1, hquotes.2.1, hquotes.2.2, if_false, Bool.false_eq_true]

/-- A word in which every character stands for itself outside of quotes. -/
def isPlainWord (word : String) : Bool :=
  word != "" && word.toList.all isPlain

theorem quotes_of_isPlainWord {word : String} (hword : isPlainWord word = true) :
    Quotes word word := by
  rw [isPlainWord, Bool.and_eq_true, bne_iff_ne, List.all_eq_true] at hword
  exact quotes_plain hword.1 hword.2

/-- A text between two quotes stands for itself. Assumes: the quote opens and closes some place, at
which the characters of the text have no meaning. -/
theorem quotes_of_quote {quote : Char} {place : Place}
    (hopen : ∀ reading : Reading, reading.place = .plain →
      reading.step quote = some ((reading.extend []).goTo place))
    (hclose : ∀ reading : Reading, reading.place = place →
      reading.step quote = some (reading.goTo .plain))
    (hstep : ∀ character ∈ text.toList, ∀ next : Reading, next.place = place →
      next.step character = some (next.extend [character]))
    (hquoted : quoted.toList = quote :: (text.toList ++ [quote])) : Quotes quoted text := by
  intro reading hplace
  have hinner : ((reading.extend []).goTo place).read text.toList =
      some ((reading.extend text.toList).goTo place) := by
    rw [Reading.read_eq_extend (.inl rfl) hstep, Reading.extend_goTo, Reading.extend_extend,
      List.nil_append]
  rw [hquoted, Reading.read_cons, hopen reading hplace, Option.bind_some, Reading.read_append,
    hinner, Option.bind_some, Reading.read_cons, hclose _ rfl, Option.bind_some, Reading.read_nil,
    Reading.goTo_goTo]
  exact congrArg some (Reading.goTo_eq_self hplace)

/-- Within double quotes most characters stand for themselves. -/
theorem quotes_double (hplain : ∀ character ∈ text.toList, isPlainInDouble character) :
    Quotes ("\"" ++ text ++ "\"") text := by
  refine @quotes_of_quote _ _ '"' .double (fun reading hplace ↦ ?_) (fun reading hplace ↦ ?_)
    (fun character hcharacter next hnext ↦ ?_) ?_
  · rw [Reading.step, hplace]
    rfl
  · rw [Reading.step, hplace]
    rfl
  · have hself := hplain character hcharacter
    rw [isPlainInDouble, Bool.and_eq_true, Bool.not_eq_true'] at hself
    have hcases : character ≠ '$' ∧ character ≠ '\x60' ∧ character ≠ '"' ∧ character ≠ '\\' := by
      simpa [isEscapable] using hself.1
    rw [Reading.step, hnext]
    simp [isExpanding, hcases.1, hcases.2.1, hcases.2.2.1, hcases.2.2.2]
  · rw [String.toList_append, String.toList_append]
    rfl

/-- Within single quotes every other character stands for itself. -/
theorem quotes_single (hplain : ∀ character ∈ text.toList, isPlainInSingle character) :
    Quotes ("'" ++ text ++ "'") text := by
  refine @quotes_of_quote _ _ '\'' .single (fun reading hplace ↦ ?_) (fun reading hplace ↦ ?_)
    (fun character hcharacter next hnext ↦ ?_) ?_
  · rw [Reading.step, hplace]
    rfl
  · rw [Reading.step, hplace]
    rfl
  · have hself := hplain character hcharacter
    rw [isPlainInSingle, Bool.and_eq_true, bne_iff_ne] at hself
    rw [Reading.step, hnext]
    simp [hself.1]
  · rw [String.toList_append, String.toList_append]
    rfl

/-! ### Commands -/

/-- Pieces with a blank before each of them add the words for which they stand. -/
theorem read_blanks {pieces texts : List String} (hpieces : pieces.Forall₂ Quotes texts)
    {reading : Reading} (hplace : reading.place = .plain) :
    ∃ next, reading.read (pieces.flatMap fun piece ↦ ' ' :: piece.toList) = some next ∧
      next.place = .plain ∧
      next.endWord.words = reading.endWord.words ++ texts.map String.toList := by
  induction hpieces generalizing reading with
  | nil => exact ⟨reading, rfl, hplace, (List.append_nil _).symm⟩
  | @cons piece text pieces texts hpiece _ ih =>
    have hblank : reading.step ' ' = some reading.endWord := by
      rw [Reading.step, hplace]
      rfl
    obtain ⟨next, hnext, hplain, hwords⟩ :=
      @ih (reading.endWord.extend text.toList) hplace
    refine ⟨next, ?_, hplain, ?_⟩
    · rw [List.flatMap_cons, List.cons_append, Reading.read_cons, hblank, Option.bind_some,
        Reading.read_append, hpiece reading.endWord hplace, Option.bind_some, hnext]
    · rw [hwords]
      simp [Reading.endWord, Reading.extend]

/-- Pieces with a blank between two of them. -/
def joinPieces (piece : String) (pieces : List String) : String :=
  pieces.foldl (fun front piece ↦ front ++ " " ++ piece) piece

@[simp] theorem joinPieces_nil (piece : String) : joinPieces piece [] = piece := rfl

@[simp] theorem joinPieces_cons (piece next : String) (pieces : List String) :
    joinPieces piece (next :: pieces) = joinPieces (piece ++ " " ++ next) pieces := rfl

theorem joinPieces_append (piece : String) (front back : List String) :
    joinPieces piece (front ++ back) = joinPieces (joinPieces piece front) back :=
  List.foldl_append

/-- A text with a blank at its end goes on with a piece. -/
theorem append_joinPieces {front piece : String} {pieces : List String}
    (hfront : front = joinPieces piece pieces ++ " ") (next : String) :
    front ++ next = joinPieces piece (pieces ++ [next]) := by
  rw [hfront, joinPieces_append, joinPieces_cons, joinPieces_nil]

/-- A piece behind a text that ends in a blank, and one more behind an option. -/
theorem append_option_joinPieces {front option piece : String} {pieces : List String}
    (hfront : front = joinPieces piece pieces ++ " ") (next value : String) :
    front ++ next ++ (" " ++ option) ++ value =
      joinPieces piece (pieces ++ [next, option ++ value]) := by
  rw [hfront, joinPieces_append, joinPieces_cons, joinPieces_cons, joinPieces_nil]
  simp only [String.append_assoc]

theorem toList_joinPieces (piece : String) (pieces : List String) :
    (joinPieces piece pieces).toList =
      piece.toList ++ pieces.flatMap fun piece ↦ ' ' :: piece.toList := by
  induction pieces generalizing piece with
  | nil => exact (List.append_nil _).symm
  | cons next pieces ih =>
    rw [joinPieces_cons, ih, String.toList_append, String.toList_append, List.flatMap_cons,
      List.append_assoc, List.append_assoc]
    rfl

/-- A command of pieces with a blank between two of them has the words for which they stand. -/
theorem shellWords_joinPieces {piece text : String} {pieces texts : List String}
    (hpiece : Quotes piece text) (hpieces : pieces.Forall₂ Quotes texts) :
    shellWords (joinPieces piece pieces) = some (text :: texts) := by
  obtain ⟨next, hnext, hplain, hwords⟩ :=
    @read_blanks pieces texts hpieces (Reading.start.extend text.toList) rfl
  have hread : Reading.start.read (joinPieces piece pieces).toList = some next := by
    rw [toList_joinPieces, Reading.read_append, hpiece .start rfl, Option.bind_some, hnext]
  have hmap : next.endWord.words.map String.ofList = text :: texts := by
    rw [hwords]
    simp [Reading.endWord, Reading.extend, Reading.start, Function.comp_def]
  show (Reading.start.read _).bind _ = _
  rw [hread, Option.bind_some, if_pos hplain, hmap]

/-! ### Shells -/

/-- The words that are no name of a program at the front of a command, of those that are plain. -/
def reservedWords : List String :=
  ["case", "do", "done", "elif", "else", "esac", "fi", "for", "function", "if", "in", "select",
    "then", "time", "until", "while"]

/-- A plain word that stands for a program at the front of a command: it is not reserved, and no
assignment. -/
def isProgramName (word : String) : Bool :=
  isPlainWord word && !reservedWords.contains word && !word.toList.contains '='

/-- A shell: the words of a command, and the pieces of a command that stand for a text. Nothing is
said about expansions, operators and patterns. -/
structure Shell where
  words : String → Option (List String)
  /-- A piece of a command stands for a text. -/
  Quotes : String → String → Prop
  quotes_word : ∀ {word}, isPlainWord word = true → Quotes word word
  quotes_single : ∀ {text : String}, (∀ character ∈ text.toList, isPlainInSingle character) →
    Quotes ("'" ++ text ++ "'") text
  quotes_double : ∀ {text : String}, (∀ character ∈ text.toList, isPlainInDouble character) →
    Quotes ("\"" ++ text ++ "\"") text
  quotes_append : ∀ {quoted text other otherText}, Quotes quoted text → Quotes other otherText →
    Quotes (quoted ++ other) (text ++ otherText)
  /-- The words of a command of a program are those for which its pieces stand. -/
  words_joinPieces : ∀ {program : String} {pieces texts : List String},
    isProgramName program = true → pieces.Forall₂ Quotes texts →
      words (joinPieces program pieces) = some (program :: texts)

theorem isPlainWord_of_isProgramName {word : String} (hword : isProgramName word = true) :
    isPlainWord word = true := by
  rw [isProgramName, Bool.and_eq_true, Bool.and_eq_true] at hword
  exact hword.1.1

/-- The shell that reads words and nothing else. -/
def wordShell : Shell where
  words := shellWords
  Quotes := Quotes
  quotes_word := quotes_of_isPlainWord
  quotes_single := quotes_single
  quotes_double := quotes_double
  quotes_append := Quotes.append
  words_joinPieces hprogram hpieces :=
    shellWords_joinPieces (quotes_of_isPlainWord (isPlainWord_of_isProgramName hprogram)) hpieces

variable (shell : Shell)

/-- Plain words stand for themselves before other pieces. -/
theorem Shell.forall₂_quotes_append {front pieces texts : List String}
    (hfront : front.all isPlainWord = true) (hpieces : pieces.Forall₂ shell.Quotes texts) :
    (front ++ pieces).Forall₂ shell.Quotes (front ++ texts) := by
  have hself : front.Forall₂ shell.Quotes front :=
    List.forall₂_same.mpr fun word hword ↦
      shell.quotes_word (List.all_eq_true.mp hfront word hword)
  exact List.rel_append hself hpieces

/-- The words of a command in which every word is plain. -/
theorem Shell.words_of_plain {program : String} {pieces : List String}
    (hprogram : isProgramName program = true) (hpieces : pieces.all isPlainWord = true)
    {command : String} (hcommand : command = joinPieces program pieces) :
    shell.words command = some (program :: pieces) := by
  have hself := shell.forall₂_quotes_append hpieces .nil
  rw [List.append_nil] at hself
  rw [hcommand, shell.words_joinPieces hprogram hself]

end Posix
