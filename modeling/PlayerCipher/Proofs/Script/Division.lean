import Mathlib.Data.Nat.Find
import PlayerCipher.Proofs.Scrambler.Basic
import PlayerCipher.Proofs.Script.Lines

/-! Division in arithmetic.
An arithmetic expression is a run of pieces in which an operand and what follows an operand
alternate. The pieces are read back as they were printed, each slash as a division, unless a slash
behind a step (`++` or `--`) finds another slash that closes it as a regex literal. -/

namespace PlayerCipher

namespace Arithmetic

open Lexeme

inductive Operator where
  | plus
  | minus
  | times
  | divide
  | remainder
deriving DecidableEq, Repr

inductive Step where
  | up
  | down
deriving DecidableEq, Repr

mutual

inductive Expression where
  | primary (operand : Primary)
  | binary (left : Expression) (operator : Operator) (right : Expression)

inductive Primary where
  | name (text : String) (plain : isPlainName text = true)
  | number (first : Char) (more : List Char) (decimal : (first :: more).all Char.isDigit = true)
  | group (inner : Expression)
  | element (array : Primary) (index : Expression)
  | stepped (text : String) (plain : isPlainName text = true) (step : Step)

end

inductive Piece where
  | name (text : String) (plain : isPlainName text = true)
  | number (first : Char) (more : List Char) (decimal : (first :: more).all Char.isDigit = true)
  | operator (operator : Operator)
  | step (step : Step)
  | paren
  | closeParen
  | bracket
  | closeBracket

namespace Piece

def text : Piece → List Char
  | name text _ => text.toList
  | number first more _ => first :: more
  | operator .plus => ['+']
  | operator .minus => ['-']
  | operator .times => ['*']
  | operator .divide => ['/']
  | operator .remainder => ['%']
  | step .up => ['+', '+']
  | step .down => ['-', '-']
  | paren => ['(']
  | closeParen => [')']
  | bracket => ['[']
  | closeBracket => [']']

def kind : Piece → Token.Kind
  | name .. => .ident
  | number .. => .number
  | _ => .punct

def view (piece : Piece) : Token.Kind × String :=
  (piece.kind, String.ofList piece.text)

def begins : Piece → Bool
  | name .. | number .. | paren => true
  | _ => false

def ends : Piece → Bool
  | name .. | number .. | step _ | closeParen | closeBracket => true
  | _ => false

def isStep : Piece → Bool
  | step _ => true
  | _ => false

def isSlash : Piece → Bool
  | operator .divide => true
  | _ => false

end Piece

mutual

def Expression.pieces : Expression → List Piece
  | .primary operand => operand.pieces
  | .binary left operator right => left.pieces ++ .operator operator :: right.pieces

def Primary.pieces : Primary → List Piece
  | .name text plain => [.name text plain]
  | .number first more decimal => [.number first more decimal]
  | .group inner => .paren :: (inner.pieces ++ [.closeParen])
  | .element array index => array.pieces ++ .bracket :: (index.pieces ++ [.closeBracket])
  | .stepped text plain step => [.name text plain, .step step]

end

/-- Whether an operand stands wherever one is due, and nowhere else; `ended` tells whether one has
just ended. -/
def fits (ended : Bool) : List Piece → Bool
  | [] => ended
  | piece :: pieces => piece.begins != ended && fits piece.ends pieces

mutual

theorem Expression.fits_append (expression : Expression) (pieces : List Piece) :
    fits false (expression.pieces ++ pieces) = fits true pieces := by
  cases expression with
  | primary operand => exact operand.fits_append pieces
  | binary left operator right =>
    rw [Expression.pieces, List.append_assoc, left.fits_append]
    exact right.fits_append pieces

theorem Primary.fits_append (operand : Primary) (pieces : List Piece) :
    fits false (operand.pieces ++ pieces) = fits true pieces := by
  cases operand with
  | name => rfl
  | number => rfl
  | group inner =>
    rw [Primary.pieces, List.cons_append, List.append_assoc]
    exact inner.fits_append (.closeParen :: pieces)
  | element array index =>
    rw [Primary.pieces, List.append_assoc, array.fits_append, List.cons_append, List.append_assoc]
    exact index.fits_append (.closeBracket :: pieces)
  | stepped => rfl

end

def gap (spaced : Bool) : List Char :=
  if spaced then [' '] else []

/-- An assignment of the expression, printed without spaces or with one between two pieces. -/
def Expression.source (expression : Expression) (spaced : Bool) : String :=
  String.ofList ('x' :: '=' :: (gap spaced).intercalate (expression.pieces.map Piece.text))

/-- Whether a slash behind the run closes a regex literal that began in front of it: a `[` hides
slashes up to the next `]`. -/
def Reaches (run : List Piece) : Prop :=
  ∀ front back, run = front ++ .bracket :: back → .closeBracket ∈ back

/-- A slash right behind a step, and another one that closes it as a regex literal. -/
structure Misreads (pieces front : List Piece) (step : Step) (inner back : List Piece) : Prop where
  whole : pieces =
    front ++ .step step :: .operator .divide :: (inner ++ .operator .divide :: back)
  reaches : Reaches inner

def IsMisleading (pieces : List Piece) : Prop :=
  ∃ front step inner back, Misreads pieces front step inner back

/-- The first slash behind a step that another one closes, and the first one that closes it. -/
structure IsFirst (pieces front : List Piece) (step : Step) (inner back : List Piece) : Prop where
  misreads : Misreads pieces front step inner back
  slash : ∀ {front' step' inner' back'}, Misreads pieces front' step' inner' back' →
    front.length ≤ front'.length
  closing : ∀ {inner' back'}, Misreads pieces front step inner' back' →
    inner.length ≤ inner'.length

/-- Whether a character class is open behind the piece in a regex literal. -/
def Piece.classAfter (inClass : Bool) : Piece → Bool
  | bracket => true
  | closeBracket => false
  | _ => inClass

def classBehind (inClass : Bool) (run : List Piece) : Bool :=
  run.foldl Piece.classAfter inClass

/-- Whether a slash in the run closes a regex literal that began in front of it. -/
def closes (inClass : Bool) : List Piece → Bool
  | [] => false
  | piece :: pieces =>
    (piece.isSlash && !inClass) || closes (piece.classAfter inClass) pieces

/-- Whether a slash of the run right behind a step is closed, in the run or in `back` behind it;
`stepped` tells whether the run follows a step. -/
def misleads (stepped : Bool) (back : List Piece) : List Piece → Bool
  | [] => false
  | piece :: front =>
    (stepped && piece.isSlash && closes false (front ++ back)) || misleads piece.isStep back front

def behind (spaced : Bool) (pieces : List Piece) : List Char :=
  pieces.flatMap fun piece => gap spaced ++ piece.text

/-- A regex literal from one slash to another, with `inner` between them, and the letters right
behind it. -/
def literalText (spaced : Bool) (inner back : List Piece) : List Char :=
  '/' :: (behind spaced (inner ++ [.operator .divide]) ++
    (behind spaced back).takeWhile Char.isAlpha)

/-- Characters of the pieces that begin an operand, or of those that do not. -/
def heads (begins : Bool) (c : Char) : Bool :=
  if begins then c == '(' || isIdentChar c
  else ['+', '-', '*', '/', '%', ')', '[', ']'].contains c

variable {spaced ended stepped inClass : Bool} {piece : Piece}
  {pieces front inner back : List Piece} {step : Step} {before : Option Token}

theorem intercalate_pieces (spaced : Bool) (pieces : List Piece) :
    ∀ piece, (gap spaced).intercalate ((piece :: pieces).map Piece.text) =
      piece.text ++ behind spaced pieces := by
  induction pieces with
  | nil =>
    intro piece
    simp [behind]
  | cons next pieces ih =>
    intro piece
    have later := ih next
    simp only [List.intercalate, List.map_cons, List.intersperse, List.flatten_cons] at later ⊢
    rw [later]
    simp [behind]

theorem Piece.text_cons (piece : Piece) :
    ∃ c cs, piece.text = c :: cs ∧ heads piece.begins c = true := by
  cases piece with
  | name text plain =>
    have named := Scrambler.all_nameChar plain
    unfold isPlainName at plain
    cases shape : text.toList with
    | nil => simp [shape] at plain
    | cons c cs =>
      rw [shape, List.all_cons, Bool.and_eq_true] at named
      exact ⟨c, cs, shape, by simp [heads, begins, isIdentChar, named.1]⟩
  | number first more decimal =>
    rw [List.all_cons, Bool.and_eq_true] at decimal
    refine ⟨first, more, rfl, ?_⟩
    simp [heads, begins, isIdentChar, Text.isNameChar, Char.isAlphanum, decimal.1]
  | operator operator => cases operator <;> exact ⟨_, _, rfl, rfl⟩
  | step step => cases step <;> exact ⟨_, _, rfl, rfl⟩
  | paren => exact ⟨_, _, rfl, rfl⟩
  | closeParen => exact ⟨_, _, rfl, rfl⟩
  | bracket => exact ⟨_, _, rfl, rfl⟩
  | closeBracket => exact ⟨_, _, rfl, rfl⟩

theorem behind_cons (spaced : Bool) (piece : Piece) (pieces : List Piece) :
    behind spaced (piece :: pieces) = gap spaced ++ (piece.text ++ behind spaced pieces) := by
  simp [behind]

theorem head_behind (fit : fits ended pieces = true) {c : Char}
    (first : (behind spaced pieces).head? = some c) : c = ' ' ∨ heads (!ended) c = true := by
  cases pieces with
  | nil => cases first
  | cons piece pieces =>
    obtain ⟨d, ds, text, opens⟩ := piece.text_cons
    rw [behind_cons, text] at first
    cases spaced with
    | true => exact .inl (Option.some.inj first).symm
    | false =>
      obtain rfl := Option.some.inj first
      rw [fits, Bool.and_eq_true, bne_iff_ne] at fit
      rw [← Bool.eq_not.2 fit.1]
      exact .inr opens

theorem stops_behind (fit : fits true pieces = true) (p : Char → Bool)
    (others : [' ', '+', '-', '*', '/', '%', ')', '[', ']'].any p = false) :
    (behind spaced pieces).head?.any p = false := by
  rw [List.any_eq_false] at others
  cases first : (behind spaced pieces).head? with
  | none => rfl
  | some c =>
    rw [Option.any_some, ← Bool.not_eq_true]
    apply others c
    rcases head_behind fit first with rfl | member
    · exact .head _
    · exact .tail _ (List.contains_iff_mem.1 member)

theorem head_operand (fit : fits false pieces = true) {c : Char}
    (first : (behind spaced pieces).head? = some c) : c ∉ ['=', '+', '-', '*', '/'] := by
  have others : ['=', '+', '-', '*', '/'].any (heads true) = false := rfl
  intro member
  rcases head_behind fit first with rfl | opens
  · exact absurd member (by decide)
  · exact List.any_eq_false.1 others c member opens

theorem find_operator {c d : Char} (operator : c ∈ ['+', '-', '*', '/', '%'])
    (plain : d ∉ ['=', '+', '-', '*', '/']) (rest : List Char) :
    punctuators.find? (fun punct => punct.toList.isPrefixOf (c :: d :: rest)) =
      some (String.ofList [c]) := by
  simp only [List.mem_cons, List.not_mem_nil, or_false, not_or] at operator plain
  obtain ⟨equals, plus, minus, star, -⟩ := plain
  rcases operator with rfl | rfl | rfl | rfl | rfl <;>
    simp [punctuators, List.isPrefixOf, Ne.symm equals, Ne.symm plus, Ne.symm minus, Ne.symm star]

theorem behind_operand (fit : fits false pieces = true) (spaced : Bool) :
    ∃ d rest, behind spaced pieces = d :: rest ∧ d ∉ ['=', '+', '-', '*', '/'] := by
  have nonempty : behind spaced pieces ≠ [] := by
    cases pieces with
    | nil => cases fit
    | cons piece pieces =>
      obtain ⟨c, cs, text, -⟩ := piece.text_cons
      rw [behind_cons, text]
      simp
  obtain ⟨d, rest, shape⟩ := List.exists_cons_of_ne_nil nonempty
  exact ⟨d, rest, shape, head_operand fit (by rw [shape]; rfl)⟩

theorem next_operator {c : Char} (operator : c ∈ ['+', '-', '*', '/', '%'])
    (plain : (Text.isLayout c || isQuote c || c.isDigit || isIdentChar c || c == '/') = false)
    (fit : fits false pieces = true) (before : Option Token) :
    next before c (behind spaced pieces) = (⟨some .punct, [c]⟩, behind spaced pieces) := by
  have point : c ≠ '.' := by
    rintro rfl
    exact absurd operator (by decide)
  obtain ⟨d, rest, shape, apart⟩ := behind_operand fit spaced
  simp only [Bool.or_eq_false_iff, beq_eq_false_iff_ne] at plain
  obtain ⟨⟨⟨⟨layout, quote⟩, digit⟩, named⟩, slash⟩ := plain
  rw [shape, next_punct (by simp [layout, quote, named]) (by simp [digit, point])
    (fun same => absurd same slash) (find_operator operator apart rest), String.toList_ofList]
  rfl

theorem next_step (step : Step) (before : Option Token) (rest : List Char) :
    ∃ c cs, (Piece.step step).text = c :: cs ∧
      next before c (cs ++ rest) = (⟨some .punct, (Piece.step step).text⟩, rest) := by
  cases step <;> exact ⟨_, _, rfl, rfl⟩

theorem next_slash (spaced : Bool) (fit : fits false pieces = true) (before : Option Token) :
    next before '/' (behind spaced pieces) =
      match if regexMayFollow before then regexTail false (behind spaced pieces) else none with
      | some (text, rest) => (⟨some .regex, '/' :: text⟩, rest)
      | none => (⟨some .punct, ['/']⟩, behind spaced pieces) := by
  obtain ⟨d, rest, shape, apart⟩ := behind_operand fit spaced
  have found := find_operator (c := '/') (by decide) apart rest
  rw [shape]
  simp only [List.mem_cons, List.not_mem_nil, or_false, not_or] at apart
  obtain ⟨-, -, -, star, slash⟩ := apart
  have line : (d :: rest).head? ≠ some '/' := by
    simpa using slash
  have block : (d :: rest).head? ≠ some '*' := by
    simpa using star
  cases may : regexMayFollow before with
  | true =>
    rw [if_pos rfl]
    cases tail : regexTail false (d :: rest) with
    | none => exact next_unclosed line block may tail
    | some read => exact next_regexTail line block may tail
  | false =>
    rw [next_punct (by decide) (by simp) (fun _ => ⟨may, line, block⟩) found]
    rfl

def isRegexMark (c : Char) : Bool :=
  ['\\', '\n', '/', '[', ']'].contains c

theorem any_isRegexMark {p : Char → Bool} {cs : List Char} (all : cs.all p = true)
    (others : ['\\', '\n', '/', '[', ']'].any p = false) : cs.any isRegexMark = false := by
  rw [List.any_eq_false] at others ⊢
  intro c member mark
  exact others c (List.contains_iff_mem.1 mark) (List.all_eq_true.1 all c member)

theorem regexTail_plain {cs : List Char} (plain : cs.any isRegexMark = false) (rest : List Char) :
    regexTail inClass (cs ++ rest) =
      (regexTail inClass rest).map fun (text, after) => (cs ++ text, after) := by
  induction cs with
  | nil => simp
  | cons c cs ih =>
    rw [List.any_cons, Bool.or_eq_false_iff, ← Bool.not_eq_true, isRegexMark,
      List.contains_iff_mem] at plain
    obtain ⟨other, plain⟩ := plain
    simp only [List.mem_cons, List.not_mem_nil, or_false, not_or] at other
    obtain ⟨slash, line, closes, opens, shuts⟩ := other
    rw [List.cons_append, regexTail_cons slash, if_neg line, if_neg (fun same => closes same.1),
      if_neg opens, if_neg shuts, ih plain, Option.map_map]
    rfl

theorem regexTail_piece (goes : (piece.isSlash && !inClass) = false) (rest : List Char) :
    regexTail inClass (piece.text ++ rest) =
      (regexTail (piece.classAfter inClass) rest).map fun (text, after) =>
        (piece.text ++ text, after) := by
  cases piece with
  | name text plain =>
    exact regexTail_plain (any_isRegexMark (Scrambler.all_nameChar plain) rfl) rest
  | number first more decimal => exact regexTail_plain (any_isRegexMark decimal rfl) rest
  | operator operator =>
    cases operator with
    | divide =>
      have within : inClass = true := by simpa [Piece.isSlash] using goes
      subst within
      rw [Piece.text, List.singleton_append, regexTail_cons (by decide)]
      rfl
    | plus => exact regexTail_plain rfl rest
    | minus => exact regexTail_plain rfl rest
    | times => exact regexTail_plain rfl rest
    | remainder => exact regexTail_plain rfl rest
  | step step => cases step <;> exact regexTail_plain rfl rest
  | paren => exact regexTail_plain rfl rest
  | closeParen => exact regexTail_plain rfl rest
  | bracket =>
    rw [Piece.text, List.singleton_append, regexTail_cons (by decide)]
    rfl
  | closeBracket =>
    rw [Piece.text, List.singleton_append, regexTail_cons (by decide)]
    rfl

theorem gap_plain (spaced : Bool) : (gap spaced).any isRegexMark = false := by
  cases spaced <;> rfl

theorem Piece.eq_divide (slash : piece.isSlash = true) : piece = .operator .divide := by
  unfold isSlash at slash
  split at slash
  · rfl
  · cases slash

theorem Piece.eq_step (steps : piece.isStep = true) : ∃ step, piece = .step step := by
  unfold isStep at steps
  split at steps
  · exact ⟨_, rfl⟩
  · cases steps

theorem regexTail_slash (rest : List Char) :
    regexTail false ('/' :: rest) =
      some ('/' :: rest.takeWhile Char.isAlpha, rest.dropWhile Char.isAlpha) := by
  rw [regexTail_cons (by decide)]
  rfl

theorem isSome_regexTail_behind (spaced : Bool) (pieces : List Piece) :
    ∀ inClass, (regexTail inClass (behind spaced pieces)).isSome = closes inClass pieces := by
  induction pieces with
  | nil =>
    intro inClass
    rfl
  | cons piece pieces ih =>
    intro inClass
    rw [behind_cons, regexTail_plain (gap_plain spaced), Option.isSome_map, closes]
    by_cases ends : (piece.isSlash && !inClass) = true
    · rw [ends, Bool.true_or]
      rw [Bool.and_eq_true, Bool.not_eq_true'] at ends
      obtain ⟨slash, rfl⟩ := ends
      obtain rfl := Piece.eq_divide slash
      exact congrArg Option.isSome (regexTail_slash _)
    · rw [Bool.not_eq_true] at ends
      rw [ends, Bool.false_or, regexTail_piece ends, Option.isSome_map, ih]

theorem regexTail_behind (spaced : Bool) (inner back : List Piece) :
    ∀ inClass, closes inClass inner = false → classBehind inClass inner = false →
      regexTail inClass (behind spaced (inner ++ .operator .divide :: back)) =
        some (behind spaced (inner ++ [.operator .divide]) ++
            (behind spaced back).takeWhile Char.isAlpha,
          (behind spaced back).dropWhile Char.isAlpha) := by
  induction inner with
  | nil =>
    rintro inClass - rfl
    rw [List.nil_append, behind_cons, regexTail_plain (gap_plain spaced), Piece.text,
      List.singleton_append, regexTail_slash]
    simp [behind, Piece.text]
  | cons piece inner ih =>
    intro inClass unclosed outside
    rw [closes, Bool.or_eq_false_iff] at unclosed
    rw [List.cons_append, behind_cons, regexTail_plain (gap_plain spaced),
      regexTail_piece unclosed.1, ih _ unclosed.2 outside]
    simp [behind_cons]

/-! ### The first slash that misleads -/

theorem closes_append (inner back : List Piece) : ∀ inClass,
    closes inClass (inner ++ back) =
      (closes inClass inner || closes (classBehind inClass inner) back) := by
  induction inner with
  | nil =>
    intro inClass
    rfl
  | cons piece inner ih =>
    intro inClass
    rw [List.cons_append, closes, closes, ih, Bool.or_assoc]
    rfl

theorem closes_divide (outside : classBehind false inner = false) (back : List Piece) :
    closes false (inner ++ .operator .divide :: back) = true := by
  rw [closes_append, outside]
  simp [closes, Piece.isSlash]

theorem exists_of_closes (pieces : List Piece) : ∀ inClass, closes inClass pieces = true →
    ∃ inner back, pieces = inner ++ .operator .divide :: back ∧
      classBehind inClass inner = false := by
  induction pieces with
  | nil =>
    intro inClass closed
    cases closed
  | cons piece pieces ih =>
    intro inClass closed
    rw [closes, Bool.or_eq_true, Bool.and_eq_true, Bool.not_eq_true'] at closed
    rcases closed with ⟨slash, outside⟩ | later
    · exact ⟨[], pieces, by rw [Piece.eq_divide slash]; rfl, outside⟩
    · obtain ⟨inner, back, rfl, outside⟩ := ih _ later
      exact ⟨piece :: inner, back, rfl, outside⟩

theorem classBehind_iff (run : List Piece) : ∀ inClass, classBehind inClass run = true ↔
    (inClass = true ∧ .closeBracket ∉ run) ∨
      ∃ front back, run = front ++ .bracket :: back ∧ .closeBracket ∉ back := by
  induction run with
  | nil =>
    intro inClass
    simp [classBehind]
  | cons piece run ih =>
    intro inClass
    have step : classBehind inClass (piece :: run) =
        classBehind (piece.classAfter inClass) run := rfl
    have first : (∃ front back, piece :: run = front ++ .bracket :: back ∧
        .closeBracket ∉ back) ↔ (piece = .bracket ∧ .closeBracket ∉ run) ∨
          ∃ front back, run = front ++ .bracket :: back ∧ .closeBracket ∉ back := by
      simp only [List.cons_eq_append_iff]
      constructor
      · rintro ⟨front, back, (⟨rfl, same⟩ | ⟨more, rfl, rfl⟩), absent⟩
        · obtain ⟨rfl, rfl⟩ := List.cons.inj same
          exact .inl ⟨rfl, absent⟩
        · exact .inr ⟨more, back, rfl, absent⟩
      · rintro (⟨rfl, absent⟩ | ⟨more, back, rfl, absent⟩)
        · exact ⟨[], run, .inl ⟨rfl, rfl⟩, absent⟩
        · exact ⟨piece :: more, back, .inr ⟨more, rfl, rfl⟩, absent⟩
    rw [step, ih, first, ← or_assoc]
    refine or_congr_left ?_
    cases piece <;> simp [Piece.classAfter]

theorem reaches_iff : Reaches inner ↔ classBehind false inner = false := by
  rw [← Bool.not_eq_true, classBehind_iff]
  simp [Reaches]

theorem misleads_iff (front : List Piece) : ∀ stepped, misleads stepped back front = true ↔
    (stepped = true ∧ ∃ rest, front = .operator .divide :: rest ∧
      closes false (rest ++ back) = true) ∨
    ∃ ahead step rest, front = ahead ++ .step step :: .operator .divide :: rest ∧
      closes false (rest ++ back) = true := by
  induction front with
  | nil =>
    intro stepped
    simp [misleads]
  | cons piece front ih =>
    intro stepped
    have slash : (piece.isSlash && closes false (front ++ back)) = true ↔
        ∃ rest, piece :: front = .operator .divide :: rest ∧
          closes false (rest ++ back) = true := by
      rw [Bool.and_eq_true]
      constructor
      · rintro ⟨slash, closed⟩
        exact ⟨front, by rw [Piece.eq_divide slash], closed⟩
      · rintro ⟨rest, same, closed⟩
        obtain ⟨rfl, rfl⟩ := List.cons.inj same
        exact ⟨rfl, closed⟩
    have later : (piece.isStep = true ∧ ∃ rest, front = .operator .divide :: rest ∧
        closes false (rest ++ back) = true) ∨
          (∃ ahead step rest, front = ahead ++ .step step :: .operator .divide :: rest ∧
            closes false (rest ++ back) = true) ↔
        ∃ ahead step rest, piece :: front = ahead ++ .step step :: .operator .divide :: rest ∧
          closes false (rest ++ back) = true := by
      constructor
      · rintro (⟨steps, rest, rfl, closed⟩ | ⟨ahead, step, rest, rfl, closed⟩)
        · obtain ⟨step, rfl⟩ := Piece.eq_step steps
          exact ⟨[], step, rest, rfl, closed⟩
        · exact ⟨piece :: ahead, step, rest, rfl, closed⟩
      · rintro ⟨ahead, step, rest, whole, closed⟩
        cases ahead with
        | nil =>
          obtain ⟨rfl, rfl⟩ := List.cons.inj whole
          exact .inl ⟨rfl, rest, rfl, closed⟩
        | cons first ahead =>
          obtain ⟨rfl, rfl⟩ := List.cons.inj whole
          exact .inr ⟨ahead, step, rest, rfl, closed⟩
    rw [misleads, Bool.or_eq_true, Bool.and_assoc, Bool.and_eq_true, slash, ih, later]

theorem exists_of_misleads (wrong : misleads false back front = true) :
    ∃ ahead step rest inner behind, front = ahead ++ .step step :: .operator .divide :: rest ∧
      Misreads (front ++ back) ahead step inner behind := by
  rcases (misleads_iff front false).1 wrong with ⟨contra, -⟩ | ⟨ahead, step, rest, rfl, closed⟩
  · cases contra
  · obtain ⟨inner, behind, whole, outside⟩ := exists_of_closes _ _ closed
    refine ⟨ahead, step, rest, inner, behind, rfl, ?_, reaches_iff.2 outside⟩
    simp [whole]

theorem misleads_nil_iff : misleads false [] pieces = true ↔ IsMisleading pieces := by
  constructor
  · intro wrong
    obtain ⟨ahead, step, -, inner, behind, -, misreads⟩ := exists_of_misleads wrong
    rw [List.append_nil] at misreads
    exact ⟨ahead, step, inner, behind, misreads⟩
  · rintro ⟨front, step, inner, back, whole, reaches⟩
    refine (misleads_iff pieces false).2 (.inr ⟨front, step, _, whole, ?_⟩)
    rw [List.append_nil]
    exact closes_divide (reaches_iff.1 reaches) back

instance (pieces : List Piece) : Decidable (IsMisleading pieces) :=
  decidable_of_iff _ misleads_nil_iff

theorem IsMisleading.exists_first (misleading : IsMisleading pieces) :
    ∃ front step inner back, IsFirst pieces front step inner back := by
  classical
  obtain ⟨front, step, inner, back, misreads⟩ := misleading
  have places : ∃ n, ∃ front step inner back,
      front.length = n ∧ Misreads pieces front step inner back :=
    ⟨_, front, step, inner, back, rfl, misreads⟩
  obtain ⟨front, step, inner, back, place, misreads⟩ := Nat.find_spec places
  have ends : ∃ n, ∃ inner back, inner.length = n ∧ Misreads pieces front step inner back :=
    ⟨_, inner, back, rfl, misreads⟩
  obtain ⟨inner, back, stop, misreads⟩ := Nat.find_spec ends
  refine ⟨front, step, inner, back, misreads, fun other => ?_, fun other => ?_⟩
  · rw [place]
    exact Nat.find_min' places ⟨_, _, _, _, rfl, other⟩
  · rw [stop]
    exact Nat.find_min' ends ⟨_, _, rfl, other⟩

section First

variable (first : IsFirst pieces front step inner back)
include first

theorem IsFirst.closes_inner : closes false inner = false := by
  rw [← Bool.not_eq_true]
  intro closed
  obtain ⟨inner', rest, rfl, outside⟩ := exists_of_closes _ _ closed
  have sooner : Misreads pieces front step inner' (rest ++ .operator .divide :: back) :=
    ⟨by rw [first.misreads.whole]; simp, reaches_iff.2 outside⟩
  have late := first.closing sooner
  simp only [List.length_append, List.length_cons] at late
  omega

theorem IsFirst.misleads_front :
    misleads false (.operator .divide :: (inner ++ .operator .divide :: back))
      (front ++ [.step step]) = false := by
  rw [← Bool.not_eq_true]
  intro wrong
  obtain ⟨ahead, step', rest, inner', back', whole, misreads⟩ := exists_of_misleads wrong
  rw [List.append_assoc, List.singleton_append, ← first.misreads.whole] at misreads
  have late := first.slash misreads
  have lengths := congrArg List.length whole
  simp only [List.length_append, List.length_cons, List.length_nil] at lengths
  omega

end First

/-! ### Reading -/

theorem numberTail_digits {hex : Bool} {next : Option Char} (cs : List Char)
    (digits : cs.all Char.isDigit = true)
    (stops : next.any (fun c => c.isAlphanum || c == '_' || c == '.') = false) :
    ∀ last, last.isDigit = true →
      numberTail hex last (cs ++ next.toList) = (cs, next.toList) := by
  induction cs with
  | nil =>
    intro last digit
    have power : (last == 'e' || last == 'E') = false := by
      rw [Bool.or_eq_false_iff, beq_eq_false_iff_ne, beq_eq_false_iff_ne]
      constructor <;> rintro rfl <;> exact absurd digit (by decide)
    cases next with
    | none => rfl
    | some c =>
      rw [Option.any_some] at stops
      simp [numberTail, stops, power]
  | cons c cs ih =>
    intro last _
    rw [List.all_cons, Bool.and_eq_true] at digits
    have goes : c.isAlphanum = true := by
      simp [Char.isAlphanum, digits.1]
    rw [List.cons_append, numberTail, ih digits.2 c digits.1]
    simp [goes]

theorem isNumeralBefore_digits {next : Option Char} {c : Char} {cs : List Char}
    (digits : (c :: cs).all Char.isDigit = true)
    (stops : next.any (fun c => c.isAlphanum || c == '_' || c == '.') = false) :
    isNumeralBefore next (c :: cs) = true := by
  rw [List.all_cons, Bool.and_eq_true] at digits
  simp [isNumeralBefore, digits.1, numberTail_digits cs digits.2 stops c digits.1]

theorem next_piece (spaced : Bool) (fit : fits piece.ends pieces = true)
    (divides : piece.isSlash = true → regexMayFollow before = true →
      closes false pieces = false) :
    ∃ c cs, piece.text = c :: cs ∧ next before c (cs ++ behind spaced pieces) =
      (⟨some piece.kind, piece.text⟩, behind spaced pieces) := by
  cases piece with
  | name text plain =>
    have ends : isWordBefore (behind spaced pieces).head? text.toList = true :=
      Scrambler.endsBefore_word plain (stops_behind fit _ rfl)
    obtain ⟨c, cs, shape, read⟩ := next_word ends
    exact ⟨c, cs, shape, read before⟩
  | number first more decimal =>
    have ends : isNumeralBefore (behind spaced pieces).head? (first :: more) = true :=
      isNumeralBefore_digits decimal (stops_behind fit _ rfl)
    obtain ⟨c, cs, shape, read⟩ := next_numeral ends
    exact ⟨c, cs, shape, read before⟩
  | operator operator =>
    cases operator with
    | divide =>
      refine ⟨'/', [], rfl, ?_⟩
      have none : (if regexMayFollow before then regexTail false (behind spaced pieces) else none) =
          none := by
        split_ifs with may
        · have unclosed := isSome_regexTail_behind spaced pieces false
          rw [divides rfl may] at unclosed
          simpa using unclosed
        · rfl
      rw [List.nil_append, next_slash spaced fit, none]
      rfl
    | plus => exact ⟨'+', [], rfl, next_operator (by decide) rfl fit before⟩
    | minus => exact ⟨'-', [], rfl, next_operator (by decide) rfl fit before⟩
    | times => exact ⟨'*', [], rfl, next_operator (by decide) rfl fit before⟩
    | remainder => exact ⟨'%', [], rfl, next_operator (by decide) rfl fit before⟩
  | step step => exact next_step step before _
  | paren => exact ⟨'(', [], rfl, next_mark rfl before⟩
  | closeParen => exact ⟨')', [], rfl, next_mark rfl before⟩
  | bracket => exact ⟨'[', [], rfl, next_mark rfl before⟩
  | closeBracket => exact ⟨']', [], rfl, next_mark rfl before⟩

theorem viewsFrom_gap (before : Option Token) (spaced : Bool) (cs : List Char) :
    viewsFrom before (gap spaced ++ cs) = viewsFrom before cs := by
  cases spaced with
  | true =>
    rw [gap, if_pos rfl, List.singleton_append, viewsFrom]
    rfl
  | false => rfl

theorem viewsFrom_next {kind : Token.Kind} {c : Char} {cs text rest : List Char}
    (read : next before c cs = (⟨some kind, text⟩, rest)) :
    viewsFrom before (c :: cs) =
      (kind, String.ofList text) :: viewsFrom (some ⟨kind, String.ofList text, 0⟩) rest := by
  rw [viewsFrom, read]
  rfl

def Piece.token (piece : Piece) : Token :=
  ⟨piece.kind, String.ofList piece.text, 0⟩

theorem regexMayFollow_token (ends : piece.ends = true) :
    regexMayFollow (some piece.token) = piece.isStep := by
  cases piece with
  | name text plain =>
    have words : ∀ word ∈ regexLeadWords, Token.isReserved word = true := by
      decide
    simp only [isPlainName, Bool.and_eq_true, Bool.not_eq_true'] at plain
    have lead : regexLeadWords.contains text = false := by
      rw [← Bool.not_eq_true, List.contains_iff_mem]
      exact fun lead => Bool.false_ne_true (plain.2.symm.trans (words text lead))
    rwa [← String.ofList_toList (s := text)] at lead
  | number => rfl
  | operator => cases ends
  | step step => cases step <;> rfl
  | paren => cases ends
  | closeParen => rfl
  | bracket => cases ends
  | closeBracket => rfl

/-- Pieces are read back, whatever stands behind them, as long as no slash among them misleads. -/
theorem viewsFrom_front (spaced : Bool) (back front : List Piece) :
    ∀ {ended stepped : Bool} (before : Option Token), fits ended (front ++ back) = true →
      (ended = true → regexMayFollow before = stepped) → misleads stepped back front = false →
      viewsFrom before (behind spaced (front ++ back)) = front.map Piece.view ++
        viewsFrom ((front.getLast?.map Piece.token).or before) (behind spaced back) := by
  induction front with
  | nil =>
    intro ended stepped before _ _ _
    rfl
  | cons piece front ih =>
    intro ended stepped before fit may right
    rw [List.cons_append, fits, Bool.and_eq_true, bne_iff_ne] at fit
    obtain ⟨due, fit⟩ := fit
    rw [misleads, Bool.or_eq_false_iff] at right
    have divides : piece.isSlash = true → regexMayFollow before = true →
        closes false (front ++ back) = false := by
      intro slash after
      have ended : ended = true := by
        obtain rfl := Piece.eq_divide slash
        simpa [Piece.begins] using due
      rw [may ended] at after
      simpa [after, slash] using right.1
    obtain ⟨c, cs, text, read⟩ := next_piece spaced fit divides
    have more := ih (some piece.token) fit regexMayFollow_token right.2
    have last : ((piece :: front).getLast?.map Piece.token).or before =
        (front.getLast?.map Piece.token).or (some piece.token) := by
      rw [List.getLast?_cons]
      cases front.getLast? <;> rfl
    rw [List.cons_append, behind_cons, viewsFrom_gap, text, List.cons_append, viewsFrom_next read,
      ← Piece.token, more, last]
    rfl

theorem viewsFrom_behind (spaced : Bool) (fit : fits false pieces = true)
    (plain : ¬IsMisleading pieces) (before : Option Token) :
    viewsFrom before (behind spaced pieces) = pieces.map Piece.view := by
  rw [← misleads_nil_iff, Bool.not_eq_true] at plain
  have fit' : fits false (pieces ++ []) = true := by
    rwa [List.append_nil]
  have read := viewsFrom_front spaced [] pieces before fit' Bool.noConfusion plain
  have none : ∀ before : Option Token, viewsFrom before (behind spaced []) = [] := by
    intro before
    rw [behind, List.flatMap_nil, viewsFrom]
  rwa [List.append_nil, none, List.append_nil] at read

theorem fits_behind (front : List Piece) :
    ∀ {ended}, fits ended (front ++ piece :: pieces) = true → fits piece.ends pieces = true := by
  induction front with
  | nil =>
    intro ended fit
    rw [List.nil_append, fits, Bool.and_eq_true] at fit
    exact fit.2
  | cons first front ih =>
    intro ended fit
    rw [List.cons_append, fits, Bool.and_eq_true] at fit
    exact ih fit.2

/-- Everything from the first slash that misleads to the one that closes it is one literal. -/
theorem viewsFrom_first (spaced : Bool) (fit : fits false pieces = true)
    (first : IsFirst pieces front step inner back) (before : Option Token) :
    ∃ views, viewsFrom before (behind spaced pieces) =
      (front ++ [Piece.step step]).map Piece.view ++
        (.regex, String.ofList (literalText spaced inner back)) :: views := by
  obtain ⟨whole, reaches⟩ := first.misreads
  have cut : pieces = (front ++ [.step step]) ++
      .operator .divide :: (inner ++ .operator .divide :: back) := by
    rw [whole]
    simp
  rw [cut] at fit
  have operand : fits false (inner ++ .operator .divide :: back) = true := fits_behind _ fit
  have read := viewsFrom_front spaced _ _ before fit Bool.noConfusion first.misleads_front
  rw [List.getLast?_concat, Option.map_some, Option.some_or] at read
  have may : regexMayFollow (some (Piece.step step).token) = true :=
    @regexMayFollow_token (.step step) rfl
  have slash := next_slash spaced operand (some (Piece.step step).token)
  rw [may, if_pos rfl,
    regexTail_behind spaced inner back false first.closes_inner (reaches_iff.1 reaches)] at slash
  rw [cut, read, behind_cons, viewsFrom_gap, Piece.text, List.singleton_append,
    viewsFrom_next slash]
  exact ⟨_, rfl⟩

theorem Expression.fits_pieces (expression : Expression) : fits false expression.pieces = true := by
  have whole := expression.fits_append []
  rwa [List.append_nil] at whole

theorem viewsFrom_source (expression : Expression) (spaced : Bool) :
    viewsFrom none (expression.source spaced).toList =
      (.ident, "x") :: (.punct, "=") ::
        viewsFrom (some ⟨.punct, "=", 0⟩) (behind spaced expression.pieces) := by
  have fit := expression.fits_pieces
  rw [Expression.source, String.toList_ofList]
  cases run : expression.pieces with
  | nil =>
    rw [run] at fit
    cases fit
  | cons piece pieces =>
    rw [run, fits, Bool.and_eq_true, bne_iff_ne, ne_eq, Bool.not_eq_false] at fit
    obtain ⟨c, cs, text, opens⟩ := piece.text_cons
    rw [fit.1] at opens
    have equals : isMarkBefore (piece.text ++ behind spaced pieces).head? '=' = true := by
      have others : ['=', '>'].any (heads true) = false := rfl
      rw [text]
      simp only [isMarkBefore, List.cons_append, List.head?_cons, Option.any_some,
        Bool.not_eq_true', Bool.or_eq_false_iff, beq_eq_false_iff_ne]
      constructor <;> rintro rfl <;>
        exact List.any_eq_false.1 others _ (by decide) opens
    have word : next none 'x' ('=' :: (piece.text ++ behind spaced pieces)) =
        (⟨some .ident, ['x']⟩, '=' :: (piece.text ++ behind spaced pieces)) := rfl
    rw [intercalate_pieces, viewsFrom_next word, viewsFrom_next (next_mark equals _), behind_cons,
      viewsFrom_gap]

theorem Piece.kind_ne_regex (piece : Piece) : piece.kind ≠ .regex := by
  cases piece <;> exact Token.Kind.noConfusion

/-- Arithmetic is read back as its pieces unless a slash behind a step is closed by another one. Then
it is read back up to the first such slash, and from there to the one that closes it as a regex
literal. -/
theorem tokenize_source (expression : Expression) (spaced : Bool) :
    ((∃ token ∈ tokenize (expression.source spaced), token.kind = .regex) ↔
      IsMisleading expression.pieces) ∧
    (¬IsMisleading expression.pieces →
      (tokenize (expression.source spaced)).map Token.view =
        (.ident, "x") :: (.punct, "=") :: expression.pieces.map Piece.view) ∧
    (IsMisleading expression.pieces → ∃ front step inner back,
      IsFirst expression.pieces front step inner back ∧
        (.ident, "x") :: (.punct, "=") :: (front ++ [Piece.step step]).map Piece.view ++
          [(.regex, String.ofList (literalText spaced inner back))] <+:
            (tokenize (expression.source spaced)).map Token.view) := by
  have views := view_tokenize (expression.source spaced)
  rw [viewsFrom_source] at views
  have right (plain : ¬IsMisleading expression.pieces) :=
    viewsFrom_behind spaced expression.fits_pieces plain (some ⟨.punct, "=", 0⟩)
  have wrong (misleading : IsMisleading expression.pieces) :
      ∃ front step inner back, IsFirst expression.pieces front step inner back ∧
        (.ident, "x") :: (.punct, "=") :: (front ++ [Piece.step step]).map Piece.view ++
          [(.regex, String.ofList (literalText spaced inner back))] <+:
            (tokenize (expression.source spaced)).map Token.view := by
    obtain ⟨front, step, inner, back, first⟩ := misleading.exists_first
    obtain ⟨more, read⟩ :=
      viewsFrom_first spaced expression.fits_pieces first (some ⟨.punct, "=", 0⟩)
    refine ⟨front, step, inner, back, first, more, ?_⟩
    rw [views, read]
    simp
  refine ⟨⟨fun ⟨token, member, regex⟩ => ?_, fun misleading => ?_⟩, fun plain => ?_, wrong⟩
  · by_contra plain
    have view := List.mem_map_of_mem (f := Token.view) member
    simp only [views, right plain, List.mem_cons, List.mem_map] at view
    rcases view with same | same | ⟨piece, -, same⟩
    · exact absurd (regex.symm.trans (congrArg Prod.fst same)) (by decide)
    · exact absurd (regex.symm.trans (congrArg Prod.fst same)) (by decide)
    · exact piece.kind_ne_regex ((congrArg Prod.fst same).trans regex)
  · obtain ⟨front, step, inner, back, -, more, read⟩ := wrong misleading
    have found : (.regex, String.ofList (literalText spaced inner back)) ∈
        (tokenize (expression.source spaced)).map Token.view := by
      rw [← read]
      simp
    obtain ⟨token, inside, view⟩ := List.mem_map.1 found
    exact ⟨token, inside, congrArg Prod.fst view⟩
  · rw [views, right plain]

/-- A slash behind a step that no other follows, and one that is closed inside a parenthesis. -/
theorem tokenize_source_steps :
    (∃ expression : Expression, expression.source true = "x=( a + b ) / c [ d / 2 ] / e -- / 7" ∧
      ¬IsMisleading expression.pieces ∧
      (tokenize (expression.source true)).map Token.view =
        (.ident, "x") :: (.punct, "=") :: expression.pieces.map Piece.view) ∧
    ∃ expression : Expression, expression.source false = "x=a++/(b/c)" ∧
      IsMisleading expression.pieces ∧ ∃ front step inner back,
        IsFirst expression.pieces front step inner back ∧
          (.ident, "x") :: (.punct, "=") :: (front ++ [Piece.step step]).map Piece.view ++
            [(.regex, String.ofList (literalText false inner back))] <+:
              (tokenize (expression.source false)).map Token.view := by
  let name (text : String) (plain : isPlainName text = true) : Expression :=
    .primary (.name text plain)
  let sum : Expression := .binary (name "a" rfl) .plus (name "b" rfl)
  let index : Expression := .binary (name "d" rfl) .divide (.primary (.number '2' [] rfl))
  let product : Expression := .binary (.binary (.primary (.group sum)) .divide
    (.primary (.element (.name "c" rfl) index))) .divide (.primary (.stepped "e" rfl .down))
  let lone : Expression := .binary product .divide (.primary (.number '7' [] rfl))
  let inner : Expression := .binary (name "b" rfl) .divide (name "c" rfl)
  let closed : Expression := .binary (.primary (.stepped "a" rfl .up)) .divide
    (.primary (.group inner))
  have plain : ¬IsMisleading lone.pieces := by decide
  have misleading : IsMisleading closed.pieces := by decide
  exact ⟨⟨lone, rfl, plain, (tokenize_source lone true).2.1 plain⟩,
    closed, rfl, misleading, (tokenize_source closed false).2.2 misleading⟩

/-- Two divisions behind a step are taken for a regex literal. -/
theorem tokenize_source_regex :
    (∃ expression : Expression, expression.source false = "x=a++/b/c" ∧
      expression.pieces.map (fun piece => String.ofList piece.text) =
        ["a", "++", "/", "b", "/", "c"]) ∧
    (tokenize "x=a++/b/c").map Token.view =
      [(.ident, "x"), (.punct, "="), (.ident, "a"), (.punct, "++"), (.regex, "/b/c")] := by
  let quotient : Expression := .binary (.primary (.stepped "a" rfl .up)) .divide
    (.primary (.name "b" rfl))
  refine ⟨⟨.binary quotient .divide (.primary (.name "c" rfl)), ?_, ?_⟩, ?_⟩
  · decide +kernel
  · decide +kernel
  · decide +kernel

end Arithmetic

end PlayerCipher
