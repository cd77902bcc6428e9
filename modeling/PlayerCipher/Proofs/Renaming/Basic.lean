import Mathlib.Logic.Equiv.Basic
import Mathlib.Order.Monotone.Basic
import PlayerCipher.Script.Statement

/-! Renamings of the identifiers of a script.
A renaming sends identifiers to identifiers one to one. It keeps the empty text, the reserved
words and the few words that the reader of scripts looks for by name. On tokens it acts on
identifiers and on the contents of closed string literals, as a member may be named either
way; kinds, offsets and all other texts stay. A relabelling also moves the tokens to other
offsets, in the same order. What is asked of a token elsewhere is asked here once of its
relabelled form. -/

namespace PlayerCipher

structure Renaming where
  map : String → String
  injective : Function.Injective map
  /-- The empty text, the reserved words, and the words that scripts are searched for. -/
  keeps : ∀ word ∈ "" :: "async" :: "length" :: "reverse" :: "splice" :: "split" ::
    Token.reservedWords, map word = word

namespace Renaming

/-- The renaming that exchanges two names, if neither is a word to keep. -/
def exchange (a b : String)
    (free : ∀ word ∈ "" :: "async" :: "length" :: "reverse" :: "splice" :: "split" ::
      Token.reservedWords, word ≠ a ∧ word ≠ b) : Renaming where
  map := Equiv.swap a b
  injective := (Equiv.swap a b).injective
  keeps word member := Equiv.swap_apply_of_ne_of_ne (free word member).1 (free word member).2

variable (ρ : Renaming)

def token (token : Token) : Token :=
  match token.kind with
  | .ident => { token with text := ρ.map token.text }
  | .str =>
    match token.contents? with
    | some contents =>
      let quote := token.text.toList.take 1
      { token with text := String.ofList (quote ++ (ρ.map contents).toList ++ quote) }
    | none => token
  | .number | .regex | .punct => token

def tokens (tokens : List Token) : List Token :=
  tokens.map ρ.token

theorem map_reserved {word : String} (reserved : word ∈ Token.reservedWords) :
    ρ.map word = word :=
  ρ.keeps word (by simp [reserved])

@[simp] theorem map_empty : ρ.map "" = "" :=
  ρ.keeps "" (by simp)

@[simp] theorem map_eq_map {a b : String} : ρ.map a = ρ.map b ↔ a = b :=
  ρ.injective.eq_iff

theorem map_eq_kept {text word : String} (kept : ρ.map word = word) :
    ρ.map text = word ↔ text = word := by
  rw [← kept, ρ.map_eq_map, kept]

@[simp] theorem map_eq_empty {text : String} : ρ.map text = "" ↔ text = "" :=
  ρ.map_eq_kept ρ.map_empty

theorem map_mem {words : List String} (kept : ∀ word ∈ words, ρ.map word = word)
    {text : String} : ρ.map text ∈ words ↔ text ∈ words := by
  constructor
  · intro member
    have back : ρ.map (ρ.map text) = ρ.map text := kept _ member
    rwa [ρ.injective back] at member
  · intro member
    rwa [kept _ member]

@[simp] theorem isReserved_map (text : String) :
    Token.isReserved (ρ.map text) = Token.isReserved text := by
  have same : ρ.map text ∈ Token.reservedWords ↔ text ∈ Token.reservedWords :=
    ρ.map_mem fun _ => ρ.map_reserved
  simp [Token.isReserved, same]

end Renaming

/-- A renaming of the tokens together with a move of them that keeps their order. -/
structure Relabelling extends Renaming where
  move : Nat → Nat
  move_strictMono : StrictMono move

namespace Relabelling

variable (σ : Relabelling)

def token (token : Token) : Token :=
  { σ.toRenaming.token token with offset := σ.move token.offset }

def tokens (tokens : List Token) : List Token :=
  tokens.map σ.token

@[simp] theorem token_kind (token : Token) : (σ.token token).kind = token.kind := by
  unfold Relabelling.token Renaming.token
  split
  · rfl
  · split <;> rfl
  all_goals rfl

@[simp] theorem token_offset (token : Token) :
    (σ.token token).offset = σ.move token.offset := rfl

theorem token_text_ident {token : Token} (ident : token.kind = .ident) :
    (σ.token token).text = σ.map token.text := by
  simp [Relabelling.token, Renaming.token, ident]

theorem token_text_plain {token : Token} (notIdent : token.kind ≠ .ident)
    (notStr : token.kind ≠ .str) : (σ.token token).text = token.text := by
  unfold Relabelling.token Renaming.token
  split <;> simp_all

@[simp] theorem isMark_token (token : Token) (text : String) :
    (σ.token token).isMark text = token.isMark text := by
  by_cases punct : token.kind = .punct
  · have same : (σ.token token).text = token.text :=
      σ.token_text_plain (by simp [punct]) (by simp [punct])
    simp [Token.isMark, same]
  · rw [Bool.eq_iff_iff]
    simp [Token.isMark, punct]

theorem spells_token {word : String} (kept : σ.map word = word) (token : Token) :
    (σ.token token).spells word = token.spells word := by
  by_cases ident : token.kind = .ident
  · simp [Token.spells, ident, σ.token_text_ident ident, σ.map_eq_kept kept]
  · rw [Bool.eq_iff_iff]
    simp [Token.spells, ident]

theorem spells_map_token (name : String) (token : Token) :
    (σ.token token).spells (σ.map name) = token.spells name := by
  by_cases ident : token.kind = .ident
  · simp [Token.spells, ident, σ.token_text_ident ident]
  · rw [Bool.eq_iff_iff]
    simp [Token.spells, ident]

@[simp] theorem isIdentifier_token (token : Token) :
    (σ.token token).isIdentifier = token.isIdentifier := by
  by_cases ident : token.kind = .ident
  · simp [Token.isIdentifier, ident, σ.token_text_ident ident]
  · rw [Bool.eq_iff_iff]
    simp [Token.isIdentifier, ident]

theorem token_text_identifier {token : Token} (identifier : token.isIdentifier = true) :
    (σ.token token).text = σ.map token.text := by
  apply σ.token_text_ident
  simp only [Token.isIdentifier, Bool.and_eq_true, beq_iff_eq] at identifier
  exact identifier.1

@[simp] theorem contents?_token (token : Token) :
    (σ.token token).contents? = token.contents?.map σ.map := by
  by_cases str : token.kind = .str
  · cases found : token.contents? with
    | none =>
      have same : σ.token token = { token with offset := σ.move token.offset } := by
        simp [Relabelling.token, Renaming.token, str, found]
      rw [same]
      exact found
    | some contents =>
      have first : ∃ quote rest, token.text.toList = quote :: rest := by
        cases shape : token.text.toList with
        | nil => simp [Token.contents?, shape] at found
        | cons quote rest => exact ⟨quote, rest, rfl⟩
      obtain ⟨quote, rest, shape⟩ := first
      have renamed : (σ.token token).text.toList =
          quote :: ((σ.map contents).toList ++ [quote]) := by
        simp [Relabelling.token, Renaming.token, str, found, shape]
      simp [Token.contents?, str, renamed]
  · simp [Token.contents?, str]

@[simp] theorem opens_token (token : Token) : (σ.token token).opens = token.opens := by
  by_cases punct : token.kind = .punct
  · have same : (σ.token token).text = token.text :=
      σ.token_text_plain (by simp [punct]) (by simp [punct])
    simp [Token.opens, same]
  · rw [Bool.eq_iff_iff]
    simp [Token.opens, punct]

@[simp] theorem closes_token (token : Token) : (σ.token token).closes = token.closes := by
  by_cases punct : token.kind = .punct
  · have same : (σ.token token).text = token.text :=
      σ.token_text_plain (by simp [punct]) (by simp [punct])
    simp [Token.closes, same]
  · rw [Bool.eq_iff_iff]
    simp [Token.closes, punct]

@[simp] theorem separates_token (token : Token) :
    (σ.token token).separates = token.separates := by
  simp [Token.separates]

@[simp] theorem tokens_nil : σ.tokens [] = [] := rfl

@[simp] theorem tokens_cons (token : Token) (tokens : List Token) :
    σ.tokens (token :: tokens) = σ.token token :: σ.tokens tokens := rfl

@[simp] theorem tokens_length (tokens : List Token) :
    (σ.tokens tokens).length = tokens.length :=
  List.length_map _

theorem tokens_take (n : Nat) (tokens : List Token) :
    (σ.tokens tokens).take n = σ.tokens (tokens.take n) :=
  (List.map_take).symm

theorem tokens_drop (n : Nat) (tokens : List Token) :
    (σ.tokens tokens).drop n = σ.tokens (tokens.drop n) :=
  (List.map_drop).symm

theorem tokens_reverse (tokens : List Token) :
    (σ.tokens tokens).reverse = σ.tokens tokens.reverse :=
  (List.map_reverse).symm

theorem tokens_append (left right : List Token) :
    σ.tokens (left ++ right) = σ.tokens left ++ σ.tokens right :=
  List.map_append

end Relabelling

namespace Renaming

variable (ρ : Renaming)

def inPlace : Relabelling :=
  { ρ with move := id, move_strictMono := strictMono_id }

theorem inPlace_token (token : Token) : ρ.inPlace.token token = ρ.token token := by
  unfold Relabelling.token Renaming.token
  split
  · rfl
  · split <;> rfl
  all_goals rfl

theorem inPlace_tokens (tokens : List Token) : ρ.inPlace.tokens tokens = ρ.tokens tokens :=
  List.map_congr_left fun token _ => ρ.inPlace_token token

end Renaming

end PlayerCipher
