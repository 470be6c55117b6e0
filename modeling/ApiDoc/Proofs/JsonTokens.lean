/-
This file says which texts spell which tokens of JSON. A text spells tokens if they are what the pass
makes of it before it goes on with the rest; words and numbers only do so if the rest begins a token
of its own.
-/
import ApiDoc.Json.Printer
import ApiDoc.Json.Token
import ApiDoc.Proofs.Dictionary
import ApiDoc.Proofs.ShortNumbers

namespace ApiDoc.Json.Token

/-! ### Spelling -/

/-- The text spells the tokens, whatever follows. -/
def Spells (text : Text) (tokens : List Token) : Prop :=
  ∀ rest, listFrom .between (text ++ rest) = tokens ++ listFrom .between rest

/-- A code point that ends a word or a number. -/
def isDelimiter (point : CodePoint) : Bool :=
  isSpace point || point = .char '"' || (punctuation? point).isSome

/-- The text is empty or starts with a code point that ends a word or a number. -/
def Delimits (text : Text) : Prop := ∀ point ∈ text.head?, isDelimiter point = true

/-- The text spells the tokens where a delimiter follows. -/
def SpellsBefore (text : Text) (tokens : List Token) : Prop :=
  ∀ rest, Delimits rest → listFrom .between (text ++ rest) = tokens ++ listFrom .between rest

theorem Spells.before {text : Text} {tokens : List Token} (spells : Spells text tokens) :
    SpellsBefore text tokens :=
  fun rest _ => spells rest

theorem spells_nil : Spells [] [] := fun _ => rfl

theorem Spells.append {first second : Text} {tokens others : List Token}
    (spells : Spells first tokens) (spellsSecond : Spells second others) :
    Spells (first ++ second) (tokens ++ others) := by
  intro rest
  rw [List.append_assoc, spells, spellsSecond, List.append_assoc]

/-- After a text that spells tokens, only the last text waits for a delimiter. -/
theorem Spells.append_before {first second : Text} {tokens others : List Token}
    (spells : Spells first tokens) (spellsSecond : SpellsBefore second others) :
    SpellsBefore (first ++ second) (tokens ++ others) := by
  intro rest delimits
  rw [List.append_assoc, spells, spellsSecond rest delimits, List.append_assoc]

/-- A text that waits for a delimiter finds it in a text that begins with one. -/
theorem SpellsBefore.append {first second : Text} {tokens others : List Token}
    (spells : SpellsBefore first tokens) (spellsSecond : Spells second others)
    (delimits : ∀ rest, Delimits (second ++ rest)) :
    Spells (first ++ second) (tokens ++ others) := by
  intro rest
  rw [List.append_assoc, spells _ (delimits rest), spellsSecond, List.append_assoc]

/-- Two texts that wait for a delimiter spell their tokens if the second begins with one. -/
theorem SpellsBefore.append_before {first second : Text} {tokens others : List Token}
    (spells : SpellsBefore first tokens) (spellsSecond : SpellsBefore second others)
    (delimits : ∀ rest, Delimits rest → Delimits (second ++ rest)) :
    SpellsBefore (first ++ second) (tokens ++ others) := by
  intro rest delimitsRest
  rw [List.append_assoc, spells _ (delimits rest delimitsRest), spellsSecond rest delimitsRest,
    List.append_assoc]

theorem delimits_cons {point : CodePoint} (delimiter : isDelimiter point = true) (rest : Text) :
    Delimits (point :: rest) := by
  intro first member
  cases member
  exact delimiter

/-! ### Spaces and punctuation -/

theorem spells_space {point : CodePoint} (space : isSpace point = true) : Spells [point] [] := by
  intro rest
  show listFrom .between (point :: rest) = _
  rw [listFrom]
  simp only [pass, passOutside, space, if_true, List.isEmpty_nil, List.nil_append]

theorem spells_spaces {spaces : Text} (blank : ∀ point ∈ spaces, isSpace point = true) :
    Spells spaces [] := by
  induction spaces with
  | nil => exact spells_nil
  | cons point rest inductionHypothesis =>
    exact (spells_space (blank point List.mem_cons_self)).append
      (inductionHypothesis fun other member => blank other (List.mem_cons_of_mem _ member))

theorem spells_punctuation {point : CodePoint} {token : Token}
    (punctuates : punctuation? point = some token) : Spells [point] [token] := by
  have noSpace : isSpace point = false := by
    unfold punctuation? at punctuates
    split at punctuates <;> first | rfl | cases punctuates
  have noQuote : point ≠ .char '"' := by
    rintro rfl
    cases punctuates
  intro rest
  show listFrom .between (point :: rest) = _
  rw [listFrom]
  simp only [pass, passOutside, noSpace, noQuote, punctuates, if_false, Bool.false_eq_true,
    List.isEmpty_nil, if_true, List.nil_append]

/-! ### Words and numbers -/

/-- A delimiter ends the run before it and is otherwise passed as if there were none. -/
theorem passOutside_of_delimiter {point : CodePoint} (delimiter : isDelimiter point = true)
    {pending : Text} (run : pending ≠ []) :
    passOutside pending point =
      (ofBare pending.reverse ++ (passOutside [] point).1, (passOutside [] point).2) := by
  have notEmpty : pending.isEmpty = false := List.isEmpty_eq_false_iff.mpr run
  unfold passOutside
  simp only [notEmpty, List.isEmpty_nil, if_true, Bool.false_eq_true, if_false]
  unfold isDelimiter at delimiter
  split
  · rw [List.append_nil]
  · split
    · rw [List.append_nil]
    · rename_i noSpace noQuote
      simp only [noSpace, noQuote, Bool.false_or, decide_false] at delimiter
      obtain ⟨token, punctuates⟩ := Option.isSome_iff_exists.mp delimiter
      rw [punctuates]
      rfl

theorem passOutside_of_bare {point : CodePoint} (bare : isDelimiter point = false)
    (pending : Text) : passOutside pending point = ([], .bare (point :: pending)) := by
  unfold isDelimiter at bare
  rw [Bool.or_eq_false_iff, Bool.or_eq_false_iff] at bare
  obtain ⟨⟨noSpace, noQuote⟩, noPunctuation⟩ := bare
  unfold passOutside
  rw [noSpace, if_neg Bool.false_ne_true, if_neg (of_decide_eq_false noQuote),
    Option.isSome_eq_false_iff.mp noPunctuation |> Option.isNone_iff_eq_none.mp]

/-- A run without delimiters is judged as a whole. -/
theorem listFrom_bare {run : Text} (bare : ∀ point ∈ run, isDelimiter point = false)
    (pending : Text) (begun : pending ≠ []) {rest : Text} (delimits : Delimits rest) :
    listFrom (.bare pending) (run ++ rest) =
      ofBare (pending.reverse ++ run) ++ listFrom .between rest := by
  induction run generalizing pending with
  | nil =>
    rw [List.append_nil, List.nil_append]
    cases rest with
    | nil => exact (List.append_nil _).symm
    | cons point rest =>
      rw [listFrom, listFrom]
      show (passOutside pending point).1 ++ listFrom (passOutside pending point).2 rest =
        _ ++ ((passOutside [] point).1 ++ listFrom (passOutside [] point).2 rest)
      rw [passOutside_of_delimiter (delimits point rfl) begun, List.append_assoc]
  | cons point run inductionHypothesis =>
    rw [List.cons_append, listFrom]
    show (passOutside pending point).1 ++ listFrom (passOutside pending point).2 (run ++ rest) = _
    rw [passOutside_of_bare (bare point List.mem_cons_self), List.nil_append,
      inductionHypothesis (fun other member => bare other (List.mem_cons_of_mem _ member))
        (point :: pending) (List.cons_ne_nil _ _), List.reverse_cons, List.append_assoc]
    rfl

theorem spellsBefore_bare {run : Text} (begun : run ≠ [])
    (bare : ∀ point ∈ run, isDelimiter point = false) : SpellsBefore run (ofBare run) := by
  intro rest delimits
  cases run with
  | nil => exact absurd rfl begun
  | cons point run =>
    rw [List.cons_append, listFrom]
    show (passOutside [] point).1 ++ listFrom (passOutside [] point).2 (run ++ rest) = _
    rw [passOutside_of_bare (bare point List.mem_cons_self), List.nil_append,
      listFrom_bare (fun other member => bare other (List.mem_cons_of_mem _ member)) [point]
        (List.cons_ne_nil _ _) delimits]
    rfl

/-- Every word is one token. -/
theorem spellsBefore_word (word : Text) {value : Json} (known : (word, value) ∈ words) :
    SpellsBefore word [.word value] := by
  have judged : ∀ entry ∈ words, entry.1 ≠ [] ∧
      (∀ point ∈ entry.1, isDelimiter point = false) ∧ ofBare entry.1 = [.word entry.2] := by
    decide
  obtain ⟨begun, bare, judgedWord⟩ := judged (word, value) known
  rw [← judgedWord]
  exact spellsBefore_bare begun bare

/-! ### Integers -/

/-- The values of the digits of a number. -/
def digitsOf (number : Nat) : List Nat := (Nat.toDigits 10 number).map (·.toNat - 48)

theorem asciiDigit?_of_isDigit {character : Char} (digit : character.isDigit = true) :
    (CodePoint.char character).asciiDigit? = some (character.toNat - 48) := by
  unfold Char.isDigit at digit
  rw [Bool.and_eq_true, decide_eq_true_iff, decide_eq_true_iff] at digit
  exact if_pos digit

theorem isDigit_of_mem {number : Nat} {character : Char}
    (member : character ∈ Nat.toDigits 10 number) : character.isDigit = true :=
  Nat.isDigit_of_mem_toDigits (by decide) (by decide) member

theorem takeDigits_map {characters : List Char}
    (digits : ∀ character ∈ characters, character.isDigit = true) :
    takeDigits (characters.map .char) = (characters.map (·.toNat - 48), []) := by
  induction characters with
  | nil => rfl
  | cons character rest inductionHypothesis =>
    rw [List.map_cons, takeDigits, asciiDigit?_of_isDigit (digits character List.mem_cons_self)]
    simp only [inductionHypothesis fun other member => digits other (List.mem_cons_of_mem _ member)]
    rfl

/-- A number that is written with a zero first is zero. -/
theorem eq_zero_of_head {number : Nat} (zero : (digitsOf number).head? = some 0) : number = 0 := by
  induction number using Nat.strongRecOn with
  | ind number inductionHypothesis =>
    by_cases small : number < 10
    · unfold digitsOf at zero
      rw [Nat.toDigits_of_lt_base small, List.map_singleton,
        Nat.toNat_digitChar_sub_48_of_lt_ten small] at zero
      exact Option.some_inj.mp zero
    · have quotient : number / 10 = 0 := by
        refine inductionHypothesis (number / 10) (by omega) ?_
        unfold digitsOf at zero ⊢
        rw [Nat.toDigits_of_base_le (by decide) (by omega), List.map_append, List.head?_append] at zero
        cases written : (Nat.toDigits 10 (number / 10)).map (·.toNat - 48) with
        | nil => exact absurd (List.map_eq_nil_iff.mp written) Nat.toDigits_ne_nil
        | cons first rest =>
          rw [written] at zero
          exact zero
      omega

theorem valueOfDigits_digitsOf (number : Nat) : valueOfDigits (digitsOf number) = number := by
  unfold valueOfDigits digitsOf
  rw [List.foldl_map]
  refine Eq.trans ?_ (@Nat.ofDigitChars_ten_toDigits number)
  rw [Nat.ofDigitChars_eq_foldl]
  congr 1
  funext value character
  rw [Nat.mul_comm]
  rfl

theorem takeWhole_ofNat (number : Nat) :
    takeWhole (Text.ofNat number) = (digitsOf number, []) := by
  have taken : takeDigits (Text.ofNat number) = (digitsOf number, []) :=
    takeDigits_map fun _ => isDigit_of_mem
  unfold takeWhole
  rw [taken]
  cases written : digitsOf number with
  | nil => rfl
  | cons first rest =>
    cases first with
    | succ digit => rfl
    | zero =>
      obtain rfl : number = 0 := eq_zero_of_head (by rw [written]; rfl)
      cases written
      rfl

/-- A minus sign before digits makes them a negative number. -/
theorem takeNumber_negative (number : Nat) :
    takeNumber (.char '-' :: Text.ofNat number) =
      some (.integer true (digitsOf number), []) := by
  unfold takeNumber
  simp only [takeWhole_ofNat]
  cases digits : digitsOf number with
  | nil => exact absurd (List.map_eq_nil_iff.mp digits) Nat.toDigits_ne_nil
  | cons first rest => rfl

theorem takeNumber_ofNat (number : Nat) :
    takeNumber (Text.ofNat number) = some (.integer false (digitsOf number), []) := by
  have noSign : CodePoint.char '-' ∉ Text.ofNat number := by
    intro member
    obtain ⟨character, among, same⟩ := List.mem_map.mp member
    cases same
    cases isDigit_of_mem among
  unfold takeNumber
  split
  rename_i negative body parts
  split at parts
  · rename_i rest written
    exact absurd (written ▸ List.mem_cons_self) noSign
  · cases parts
    rw [takeWhole_ofNat]
    cases digits : digitsOf number with
    | nil => exact absurd (List.map_eq_nil_iff.mp digits) Nat.toDigits_ne_nil
    | cons first rest => rfl

/-- The text of an integer is read as its sign and its digits. -/
theorem takeNumber_ofInt (value : Int) :
    takeNumber (Text.ofInt value) = some (.integer (value < 0) (digitsOf value.natAbs), []) := by
  cases value with
  | negSucc number =>
    rw [decide_eq_true (Int.negSucc_lt_zero number)]
    exact takeNumber_negative (number + 1)
  | ofNat number => exact takeNumber_ofNat number

/-- No digit and no sign is a delimiter, nor is it in a word. -/
theorem ofInt_points (value : Int) {point : CodePoint} (member : point ∈ Text.ofInt value) :
    point = .char '-' ∨ ∃ character, character.isDigit = true ∧ point = .char character := by
  cases value with
  | ofNat number =>
    obtain ⟨character, among, same⟩ := List.mem_map.mp member
    exact Or.inr ⟨character, isDigit_of_mem among, same.symm⟩
  | negSucc number =>
    rcases List.mem_cons.mp member with sign | digit
    · exact Or.inl sign
    · obtain ⟨character, among, same⟩ := List.mem_map.mp digit
      exact Or.inr ⟨character, isDigit_of_mem among, same.symm⟩

theorem isDelimiter_of_isDigit {character : Char} (digit : character.isDigit = true) :
    isDelimiter (.char character) = false := by
  have outside : ∀ other : Char, other.isDigit = false → character ≠ other := by
    rintro other noDigit rfl
    exact nomatch noDigit.symm.trans digit
  unfold isDelimiter isSpace punctuation?
  simp [outside]

theorem ofInt_ne_nil (value : Int) : Text.ofInt value ≠ [] := by
  cases value with
  | negSucc number => exact List.cons_ne_nil _ _
  | ofNat number =>
    intro nothing
    exact Nat.toDigits_ne_nil (List.map_eq_nil_iff.mp nothing)

/-- Every word has a letter. -/
theorem exists_letter {word : Text} (member : word ∈ Dict.keys words) :
    ∃ point ∈ word, point ≠ .char '-' ∧
      ∀ character, character.isDigit = true → point ≠ .char character := by
  have letters : ∀ word ∈ Dict.keys words, ∃ point ∈ word, point ≠ .char '-' ∧
      point.toChar?.all (!·.isDigit) = true := by decide
  obtain ⟨point, among, noSign, noDigit⟩ := letters word member
  refine ⟨point, among, noSign, ?_⟩
  rintro character digit rfl
  rw [CodePoint.toChar?, Option.all_some, digit] at noDigit
  cases noDigit

/-- The text of an integer is one token. -/
theorem ofBare_ofInt (value : Int) :
    ofBare (Text.ofInt value) = [.integer (value < 0) (digitsOf value.natAbs)] := by
  have noWord : Dict.get? words (Text.ofInt value) = none := by
    rw [Dict.get?_eq_none_iff]
    intro member
    obtain ⟨point, among, noSign, noDigit⟩ := exists_letter member
    rcases ofInt_points value among with sign | ⟨character, digit, same⟩
    · exact noSign sign
    · exact noDigit character digit same
  unfold ofBare
  rw [noWord, takeNumber_ofInt]

theorem spellsBefore_ofInt (value : Int) :
    SpellsBefore (Text.ofInt value) [.integer (value < 0) (digitsOf value.natAbs)] := by
  rw [← ofBare_ofInt]
  refine spellsBefore_bare (ofInt_ne_nil value) fun point member => ?_
  rcases ofInt_points value member with rfl | ⟨character, digit, rfl⟩
  · rfl
  · exact isDelimiter_of_isDigit digit

/-- The digits of an integer and its sign denote it. -/
theorem signed_digitsOf (value : Int) :
    Numeral.signed (value < 0) (valueOfDigits (digitsOf value.natAbs)) = value := by
  rw [valueOfDigits_digitsOf]
  unfold Numeral.signed
  split <;> rename_i negative <;> rw [decide_eq_true_iff] at negative <;> omega

theorem length_digitsOf_le {value : Int} (short : Numeral.IsShort value) :
    (digitsOf value.natAbs).length ≤ maximalDigits := by
  rw [digitsOf, List.length_map]
  exact (Nat.length_toDigits_le_iff (by decide) (by decide)).mpr short

end ApiDoc.Json.Token
