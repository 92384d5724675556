import GraphCalc.Proofs.Spelling

/-!
# Unique readability

A formula that is spelled out can be read off the start of a longer text in one way only, provided that the formula
stops there: the next character is a blank, a comma or a closing bracket, or there is none. `Plain.readable` proves
this by induction on the formula. So a text determines its formula up to the differences that `aligned` takes away:
`text_eq_iff_aligned_eq`.

The one place where the first characters do not tell how to go on is `-(`. A bracket there holds either a formula
that starts with a minus sign itself or two formulas with an operation between them, and only after the first of
them, at the blank or the closing bracket, it is known which.
-/

namespace GraphCalc.Expr

open Double (Unsigned)

variable {a b e f : Expr} {x : Float} {name : String} {args : List Expr} {cs ds rest rest' : List Char}

def chars (e : Expr) : List Char := e.text.toList

/-- A complete formula may stand before a text. -/
def Stops (rest : List Char) : Prop := ∀ c ∈ rest.head?, c ∈ [' ', ',', ')']

/-- The characters that names and literals are made of, among others. -/
def isWordChar (c : Char) : Bool := !([' ', ',', '(', ')'].contains c)

/-- A text that reads on to the next separator and does not start with a minus sign. -/
structure IsWord (cs : List Char) : Prop where
  first : ∃ c rest, cs = c :: rest ∧ c ≠ '-'
  chars : ∀ c ∈ cs, isWordChar c = true

/-- Only one formula, where it stops, is at the start of a text that the formula starts. -/
def Readable (e : Expr) : Prop :=
  ∀ f rest rest', Plain f → Stops rest → Stops rest' →
    chars e ++ rest = chars f ++ rest' → e = f ∧ rest = rest'

theorem Stops.not_word (stops : Stops rest) : ∀ c ∈ rest.head?, isWordChar c = false := by
  intro c head
  have separator := stops c head
  fin_cases separator <;> rfl

/-- Two words that are followed by no more of a word, in the same text, are the same. -/
theorem IsWord.eq (first : IsWord cs) (second : IsWord ds) (ends : ∀ c ∈ rest.head?, isWordChar c = false)
    (ends' : ∀ c ∈ rest'.head?, isWordChar c = false) (same : cs ++ rest = ds ++ rest') :
    cs = ds ∧ rest = rest' := by
  have longest {ws : List Char} {t : List Char} (word : IsWord ws)
      (ends : ∀ c ∈ t.head?, isWordChar c = false) : (ws ++ t).takeWhile isWordChar = ws := by
    rw [List.takeWhile_append_of_pos word.chars]
    cases t with
    | nil => simp
    | cons c t => simp [ends c (by simp)]
  have words : cs = ds := by
    rw [← longest first ends, same, longest second ends']
  subst words
  exact ⟨rfl, List.append_cancel_left same⟩

theorem IsWord.ne_open (word : IsWord cs) : cs ++ rest ≠ '(' :: rest' := by
  obtain ⟨⟨c, cs, rfl, _⟩, chars⟩ := word
  intro same
  obtain ⟨rfl, _⟩ := List.cons.inj same
  exact absurd (chars _ List.mem_cons_self) (by decide)

theorem IsWord.ne_minus (word : IsWord cs) : cs ++ rest ≠ '-' :: rest' := by
  obtain ⟨⟨c, cs, rfl, plus⟩, _⟩ := word
  intro same
  exact plus (List.cons.inj same).1

/-- A kind of characters with no separator among them. -/
theorem isWordChar_of_kind {p : Char → Bool} {c : Char} (free : [' ', ',', '(', ')'].any p = false)
    (inside : p c = true) : isWordChar c = true := by
  unfold isWordChar
  by_contra separator
  rw [Bool.not_eq_true, Bool.not_eq_false', List.contains_iff_mem] at separator
  exact absurd (List.any_eq_true.mpr ⟨c, separator, inside⟩) (by simp [free])

theorem isWord_of_isNumeral (numeral : Double.IsNumeral cs) : IsWord cs := by
  obtain ⟨⟨c, rest, rfl, first⟩, chars⟩ := numeral
  refine ⟨⟨c, rest, rfl, ?_⟩, fun d member => isWordChar_of_kind rfl (chars d member)⟩
  rintro rfl
  cases first

theorem isWord_numeral (unsigned : Unsigned x) : IsWord (Double.numeral x).toList := by
  rcases unsigned.numeral_cases with text | text | numeral
  · rw [text]
    show IsWord ['n', 'a', 'n']
    exact ⟨⟨'n', _, rfl, by decide⟩, by simp [isWordChar]⟩
  · rw [text]
    show IsWord ['i', 'n', 'f']
    exact ⟨⟨'i', _, rfl, by decide⟩, by simp [isWordChar]⟩
  · exact isWord_of_isNumeral numeral

/-- How an identifier starts. -/
theorem exists_of_isIdentifier (identifier : isIdentifier name = true) :
    ∃ c cs, name.toList = c :: cs ∧ (isLetter c || c == '_') = true ∧
      ∀ d ∈ cs, (isLetter d || d.isDigit || d == '_') = true := by
  unfold isIdentifier at identifier
  cases letters : name.toList with
  | nil =>
    rw [letters] at identifier
    cases identifier
  | cons c cs =>
    rw [letters, Bool.and_eq_true, List.all_eq_true] at identifier
    exact ⟨c, cs, rfl, identifier⟩

theorem isWord_of_isIdentifier (identifier : isIdentifier name = true) : IsWord name.toList := by
  obtain ⟨c, cs, letters, first, others⟩ := exists_of_isIdentifier identifier
  rw [letters]
  refine ⟨⟨c, cs, rfl, ?_⟩, fun d member => ?_⟩
  · rintro rfl
    cases first
  · rcases List.mem_cons.mp member with rfl | member
    · exact isWordChar_of_kind (p := fun d => isLetter d || d == '_') rfl first
    · exact isWordChar_of_kind (p := fun d => isLetter d || d.isDigit || d == '_') rfl (others d member)

theorem Atom.isWord (atom : Atom e) : IsWord (chars e) := by
  cases atom with
  | number unsigned =>
    rw [chars, text]
    exact isWord_numeral unsigned
  | var named =>
    rw [chars, text]
    exact isWord_of_isIdentifier named.identifier

/-! ## How each kind of formula is written, before any text -/

theorem chars_between (op : BinaryOp) (a b : Expr) (rest : List Char) :
    chars (operation op.name [a, b]) ++ rest =
      '(' :: (chars a ++ ' ' :: (op.name.toList ++ ' ' :: (chars b ++ ')' :: rest))) := by
  have between : isInfix op.name = true := by cases op <;> decide
  rw [chars, text, List.map_cons, List.map_singleton]
  show (if isInfix op.name then "(" ++ a.text ++ " " ++ op.name ++ " " ++ b.text ++ ")" else _).toList ++ rest = _
  rw [if_pos between]
  simp [chars, String.toList_append]

/-- What stands behind the sign of a negation: brackets keep two signs apart. -/
def operand (a : Expr) : List Char :=
  if (chars a).head? = some '-' then '(' :: (chars a ++ [')']) else chars a

theorem operand_of_sign (sign : (chars a).head? = some '-') (rest : List Char) :
    operand a ++ rest = '(' :: (chars a ++ ')' :: rest) := by
  rw [operand, if_pos sign]
  simp

theorem operand_of_not_sign (bare : (chars a).head? ≠ some '-') : operand a = chars a := if_neg bare

theorem chars_negation (a : Expr) (rest : List Char) :
    chars (operation UnaryOp.negate.name [a]) ++ rest = '-' :: (operand a ++ rest) := by
  rw [chars, text, List.map_singleton, operationText_single, if_pos rfl, negated, operand, chars]
  split <;> simp [String.toList_append]

theorem operationText_call {op : Op} {texts : List String} (called : isCall op = true) :
    operationText op.name texts = op.name ++ "(" ++ ", ".intercalate texts ++ ")" := by
  have notInfix : isInfix op.name = false := by
    revert called
    rcases op with op | op | op <;> cases op <;> decide
  have notNegation : op.name ≠ UnaryOp.negate.name := by
    revert called
    rcases op with op | op | op <;> cases op <;> decide
  match texts with
  | [] | _ :: _ :: _ :: _ => rfl
  | [operand] =>
    rw [operationText_single, if_neg notNegation, String.intercalate_singleton]
  | [left, right] =>
    show (if isInfix op.name then _ else op.name ++ "(" ++ left ++ ", " ++ right ++ ")") = _
    rw [if_neg (by simp [notInfix])]
    simp [String.intercalate_cons_cons, String.append_assoc]

/-- The arguments of a call. -/
def listed (args : List Expr) : List Char := [',', ' '].intercalate (args.map chars)

theorem listed_singleton (a : Expr) : listed [a] = chars a := List.intercalate_singleton

theorem listed_cons (a b : Expr) (args : List Expr) (rest : List Char) :
    listed (a :: b :: args) ++ rest = chars a ++ ',' :: ' ' :: (listed (b :: args) ++ rest) := by
  simp [listed, List.intercalate_cons_cons]

theorem chars_call {op : Op} (called : isCall op = true) (args : List Expr) (rest : List Char) :
    chars (operation op.name args) ++ rest = op.name.toList ++ '(' :: (listed args ++ ')' :: rest) := by
  have texts : (args.map text).map String.toList = args.map chars := by rw [List.map_map]; rfl
  rw [chars, text, operationText_call called]
  simp [String.toList_append, String.toList_intercalate, listed, ← texts]

theorem isWord_call {op : Op} (called : isCall op = true) : IsWord op.name.toList := by
  have identifier : isIdentifier op.name = true := by
    revert called
    rcases op with op | op | op <;> cases op <;> decide
  exact isWord_of_isIdentifier identifier

theorem not_isWordChar_open : ∀ c ∈ ('(' :: cs).head?, isWordChar c = false := by
  intro c head
  cases head
  rfl

theorem stops_blank : Stops (' ' :: cs) := by simp [Stops]

theorem stops_comma : Stops (',' :: cs) := by simp [Stops]

theorem stops_close : Stops (')' :: cs) := by simp [Stops]

theorem stops_nil : Stops [] := by simp [Stops]

theorem not_stops_open : ¬Stops ('(' :: cs) := by simp [Stops]

/-- No identifier starts with a digit. -/
theorem not_isDigit_of_letter {c : Char} (letter : (isLetter c || c == '_') = true) : c.isDigit = false := by
  by_contra digit
  have digit : 48 ≤ c.toNat ∧ c.toNat ≤ 57 := by
    simpa [Char.isDigit, UInt32.le_iff_toNat_le] using digit
  have letter : (65 ≤ c.toNat ∧ c.toNat ≤ 90 ∨ 97 ≤ c.toNat ∧ c.toNat ≤ 122) ∨ 128 ≤ c.toNat ∨ c = '_' := by
    simpa [isLetter, Char.isAlpha, Char.isUpper, Char.isLower, UInt32.le_iff_toNat_le, or_assoc] using letter
  rcases letter with upperOrLower | beyond | rfl
  · omega
  · omega
  · exact absurd digit.2 (by decide)

/-- The text of a literal or a name determines it. -/
theorem Atom.eq (first : Atom e) (second : Atom f) (same : chars e = chars f) : e = f := by
  have distinct {x : Float} {name : String} (unsigned : Unsigned x) (named : IsName name) :
      Double.numeral x ≠ name := by
    intro same
    obtain ⟨c, cs, letters, first, _⟩ := exists_of_isIdentifier named.identifier
    rcases unsigned.numeral_cases with text | text | ⟨⟨d, ds, text, digit⟩, _⟩
    · exact named.notNan (same.symm.trans text)
    · exact named.notInfinite (same.symm.trans text)
    · -- no digit starts an identifier
      rw [same, letters] at text
      obtain ⟨rfl, _⟩ := List.cons.inj text
      rw [not_isDigit_of_letter first] at digit
      cases digit
  replace same : e.text = f.text := String.toList_inj.mp same
  cases first with
  | number unsigned =>
    cases second with
    | number unsigned' =>
      rw [text, text] at same
      rw [Double.eq_of_numeral_eq unsigned unsigned' same]
    | var named =>
      rw [text, text] at same
      exact absurd same (distinct unsigned named)
  | var named =>
    cases second with
    | number unsigned =>
      rw [text, text] at same
      exact absurd same.symm (distinct unsigned named)
    | var named' =>
      rw [text, text] at same
      rw [same]

theorem BinaryOp.exists_symbol (op : BinaryOp) : ∃ c, op.name.toList = [c] := by
  cases op <;> exact ⟨_, rfl⟩

/-- The symbol between two formulas determines the operation. -/
theorem symbol_eq {op op' : BinaryOp}
    (same : op.name.toList ++ ' ' :: cs = op'.name.toList ++ ' ' :: ds) : op = op' ∧ cs = ds := by
  obtain ⟨c, symbol⟩ := BinaryOp.exists_symbol op
  obtain ⟨c', symbol'⟩ := BinaryOp.exists_symbol op'
  rw [symbol, symbol'] at same
  obtain ⟨rfl, blanks⟩ := List.cons.inj same
  have names : op.name = op'.name := String.toList_inj.mp (symbol.trans symbol'.symm)
  have ops : Op.binary op = Op.binary op' := Op.name_injective names
  exact ⟨Op.binary.inj ops, (List.cons.inj blanks).2⟩

theorem Readable.atom (atom : Atom e) : Readable e := by
  intro f rest rest' plain stops stops' same
  have word := atom.isWord
  cases plain with
  | atom other =>
    obtain ⟨texts, rests⟩ := word.eq other.isWord stops.not_word stops'.not_word same
    exact ⟨atom.eq other texts, rests⟩
  | between op left right =>
    rw [chars_between] at same
    exact absurd same word.ne_open
  | negation inner =>
    rw [chars_negation] at same
    exact absurd same word.ne_minus
  | call called arity each =>
    rw [chars_call called] at same
    obtain ⟨_, rfl⟩ := word.eq (isWord_call called) stops.not_word not_isWordChar_open same
    exact absurd stops not_stops_open

theorem Readable.between (op : BinaryOp) (left : Readable a) (right : Readable b) :
    Readable (operation op.name [a, b]) := by
  intro f rest rest' plain stops stops' same
  rw [chars_between] at same
  cases plain with
  | atom other => exact absurd same.symm other.isWord.ne_open
  | between op' plainLeft plainRight =>
    rw [chars_between] at same
    obtain ⟨rfl, afterLeft⟩ := left _ _ _ plainLeft stops_blank stops_blank (List.cons.inj same).2
    obtain ⟨rfl, afterSymbol⟩ := symbol_eq (List.cons.inj afterLeft).2
    obtain ⟨rfl, afterRight⟩ := right _ _ _ plainRight stops_close stops_close afterSymbol
    exact ⟨rfl, (List.cons.inj afterRight).2⟩
  | negation inner =>
    rw [chars_negation] at same
    cases same
  | call called arity each =>
    rw [chars_call called] at same
    exact absurd same.symm (isWord_call called).ne_open

/-- A formula that starts with a bracket is an operation between two formulas. -/
theorem Plain.of_open (plain : Plain e) (opens : chars e ++ rest = '(' :: cs) :
    ∃ (op : BinaryOp) (a b : Expr), e = operation op.name [a, b] ∧ Plain a ∧
      chars a ++ ' ' :: (op.name.toList ++ ' ' :: (chars b ++ ')' :: rest)) = cs := by
  cases plain with
  | atom other => exact absurd opens other.isWord.ne_open
  | between op left right =>
    rw [chars_between] at opens
    exact ⟨op, _, _, rfl, left, (List.cons.inj opens).2⟩
  | negation inner =>
    rw [chars_negation] at opens
    cases opens
  | call called arity each =>
    rw [chars_call called] at opens
    exact absurd opens (isWord_call called).ne_open

/-- Behind the sign of a negation a bracket may open for a negation inside, or for an operation between two
formulas. The formula that follows it ends before a closing bracket or before a blank. -/
theorem Readable.negation (plain : Plain a) (inner : Readable a) (below : ∀ b ∈ a.children, Readable b) :
    Readable (operation UnaryOp.negate.name [a]) := by
  intro f rest rest' other stops stops' same
  rw [chars_negation] at same
  cases other with
  | atom other => exact absurd same.symm other.isWord.ne_minus
  | between op left right =>
    rw [chars_between] at same
    cases same
  | call called arity each =>
    rw [chars_call called] at same
    exact absurd same.symm (isWord_call called).ne_minus
  | @negation c plainC =>
    rw [chars_negation] at same
    have operands := (List.cons.inj same).2
    by_cases sign : (chars a).head? = some '-'
    · rw [operand_of_sign sign] at operands
      by_cases sign' : (chars c).head? = some '-'
      · rw [operand_of_sign sign'] at operands
        obtain ⟨rfl, after⟩ := inner _ _ _ plainC stops_close stops_close (List.cons.inj operands).2
        exact ⟨rfl, (List.cons.inj after).2⟩
      · -- `a` ends before a bracket, and what is left of the operation in `c` before a blank
        rw [operand_of_not_sign sign'] at operands
        obtain ⟨op, left, right, rfl, plainLeft, body⟩ := plainC.of_open operands.symm
        obtain ⟨_, after⟩ := inner _ _ _ plainLeft stops_close stops_blank body.symm
        cases after
    · rw [operand_of_not_sign sign] at operands
      by_cases sign' : (chars c).head? = some '-'
      · -- the same with the sides exchanged, which takes that the left formula in `a` is readable
        rw [operand_of_sign sign'] at operands
        obtain ⟨op, left, right, rfl, _, body⟩ := plain.of_open operands
        have readable : Readable left := below left List.mem_cons_self
        obtain ⟨_, after⟩ := readable _ _ _ plainC stops_blank stops_close body
        cases after
      · rw [operand_of_not_sign sign'] at operands
        obtain ⟨rfl, after⟩ := inner _ _ _ plainC stops stops' operands
        exact ⟨rfl, after⟩

/-- Lists of arguments of one length are read one after the other. -/
theorem eq_of_listed {others : List Expr} (readable : ∀ a ∈ args, Readable a) (plain : ∀ b ∈ others, Plain b)
    (length : args.length = others.length)
    (same : listed args ++ ')' :: rest = listed others ++ ')' :: rest') : args = others ∧ rest = rest' := by
  induction args generalizing others with
  | nil =>
    obtain rfl : others = [] := List.length_eq_zero_iff.mp length.symm
    exact ⟨rfl, (List.cons.inj same).2⟩
  | cons a args ih =>
    obtain ⟨b, others, rfl⟩ := List.exists_cons_of_length_eq_add_one length.symm
    obtain ⟨readableFirst, readableRest⟩ := List.forall_mem_cons.mp readable
    obtain ⟨plainFirst, plainRest⟩ := List.forall_mem_cons.mp plain
    replace length : args.length = others.length := Nat.succ.inj length
    match args, others with
    | [], [] =>
      rw [listed_singleton, listed_singleton] at same
      obtain ⟨rfl, after⟩ := readableFirst _ _ _ plainFirst stops_close stops_close same
      exact ⟨rfl, (List.cons.inj after).2⟩
    | _ :: _, _ :: _ =>
      rw [listed_cons, listed_cons] at same
      obtain ⟨rfl, after⟩ := readableFirst _ _ _ plainFirst stops_comma stops_comma same
      simp only [List.cons.injEq, true_and] at after
      obtain ⟨others, rests⟩ := ih readableRest plainRest length after
      exact ⟨congrArg _ others, rests⟩

theorem Readable.call {op : Op} (called : isCall op = true) (arity : args.length = op.arity)
    (each : ∀ a ∈ args, Readable a) : Readable (operation op.name args) := by
  intro f rest rest' plain stops stops' same
  rw [chars_call called] at same
  have word := isWord_call called
  cases plain with
  | atom other =>
    obtain ⟨_, rfl⟩ := other.isWord.eq word stops'.not_word not_isWordChar_open same.symm
    exact absurd stops' not_stops_open
  | between op left right =>
    rw [chars_between] at same
    exact absurd same word.ne_open
  | negation inner =>
    rw [chars_negation] at same
    exact absurd same word.ne_minus
  | call called' arity' each' =>
    rw [chars_call called'] at same
    obtain ⟨names, tails⟩ := word.eq (isWord_call called') not_isWordChar_open not_isWordChar_open same
    obtain rfl := Op.name_injective (String.toList_inj.mp names)
    obtain ⟨rfl, after⟩ := eq_of_listed each each' (arity.trans arity'.symm) (List.cons.inj tails).2
    exact ⟨rfl, after⟩

theorem Plain.readable (plain : Plain e) : Readable e := by
  have both : Readable e ∧ ∀ a ∈ e.children, Readable a := by
    induction plain with
    | @atom e atom =>
      refine ⟨.atom atom, ?_⟩
      cases atom <;> exact nofun
    | between op _ _ ihLeft ihRight =>
      refine ⟨.between op ihLeft.1 ihRight.1, ?_⟩
      simp [children, ihLeft.1, ihRight.1]
    | negation plain ih =>
      refine ⟨.negation plain ih.1 ih.2, ?_⟩
      simp [children, ih.1]
    | call called arity _ ih =>
      have each := fun a member => (ih a member).1
      exact ⟨.call called arity each, each⟩
  exact both.1

/-- The text of a formula determines it, up to the signs of zeros and to negative literals written as negations. -/
theorem text_eq_iff_aligned_eq (wa : WellWritten a) (wb : WellWritten b) :
    a.text = b.text ↔ a.aligned = b.aligned := by
  rw [aligned_eq_iff_spelled_eq]
  constructor
  · intro same
    have texts : chars a.spelled ++ [] = chars b.spelled ++ [] := by
      rw [chars, chars, text_spelled, text_spelled, same]
    exact (wa.plain.readable _ _ _ wb.plain stops_nil stops_nil texts).1
  · intro same
    rw [← text_spelled a, same, text_spelled b]

/-- Three formulas whose texts start alike. Two of them are written `-(-5)`, the third `-(-5 + 5)`. -/
theorem text_eq_iff_aligned_eq_behind_two_signs :
    let literal := operation "negate" [number (-5)]
    let nested := operation "negate" [operation "negate" [number 5]]
    let sum := operation "negate" [operation "+" [number (-5), number 5]]
    (WellWritten literal ∧ WellWritten nested ∧ WellWritten sum) ∧
      literal ≠ nested ∧ literal.text = nested.text ∧ literal.text ≠ sum.text := by
  have notPositive : ¬(0 : Float) < -5 := by decide
  have positive : (0 : Float) < 5 := by decide
  have minus : Double.aligned (-5) = -5 := Double.aligned_of_neg (by decide)
  have plus : Double.aligned 5 = 5 := Double.aligned_of_pos positive
  have negation {e : Expr} (inner : WellWritten e) : WellWritten (operation "negate" [e]) :=
    wellWritten_operation (.unary .negate) rfl (List.forall_mem_singleton.mpr inner)
  have literal := negation (wellWritten_number (-5))
  have nested := negation (negation (wellWritten_number 5))
  have sum : WellWritten (operation "negate" [operation "+" [number (-5), number 5]]) :=
    negation (wellWritten_operation (.binary .add) rfl (by simp [wellWritten_number]))
  refine ⟨⟨literal, nested, sum⟩, nofun, (text_eq_iff_aligned_eq literal nested).mpr ?_, fun same => ?_⟩
  · simp [aligned, foldNegation, UnaryOp.name, minus, plus, positive, notPositive]
  · have agree := (text_eq_iff_aligned_eq literal sum).mp same
    simp [aligned, foldNegation, UnaryOp.name, minus, notPositive] at agree

end GraphCalc.Expr
