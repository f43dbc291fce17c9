import Mathlib.Data.List.Forall2

/-! The grammar of tables: JSON objects whose keys stand for texts and whose values
can be anything. Most parts of it relate a text that starts with the part to what
follows the part; nothing of how a text is read enters. -/
namespace ValueGrammar.Tables

/-- The characters that may stand between the parts. -/
def blanks : List Char := [' ', '\t', '\n', '\r']

inductive Spaces : List Char → List Char → Prop where
  | none {text : List Char} : Spaces text text
  | more {c : Char} {text rest : List Char} (blank : c ∈ blanks) (others : Spaces text rest) :
    Spaces (c :: text) rest

/-! ### Numbers -/

/-- Any number of digits. -/
inductive DigitRun : List Char → List Char → Prop where
  | none {text : List Char} : DigitRun text text
  | more {c : Char} {text rest : List Char} (digit : c.isDigit = true)
    (others : DigitRun text rest) : DigitRun (c :: text) rest

/-- At least one digit. -/
inductive SomeDigits : List Char → List Char → Prop where
  | digits {c : Char} {text rest : List Char} (digit : c.isDigit = true)
    (others : DigitRun text rest) : SomeDigits (c :: text) rest

/-- A power of ten behind its mark. -/
inductive Power : List Char → List Char → Prop where
  | unsigned {text rest : List Char} (digits : SomeDigits text rest) : Power text rest
  | signed {c : Char} {text rest : List Char} (sign : c = '+' ∨ c = '-')
    (digits : SomeDigits text rest) : Power (c :: text) rest

/-- A power of ten, or none. -/
inductive Exponent : List Char → List Char → Prop where
  | none {text : List Char} : Exponent text text
  | marked {c : Char} {text rest : List Char} (mark : c = 'e' ∨ c = 'E')
    (power : Power text rest) : Exponent (c :: text) rest

/-- What may follow the whole part of a number. -/
inductive Fraction : List Char → List Char → Prop where
  | none {text rest : List Char} (exponent : Exponent text rest) : Fraction text rest
  | point {text after rest : List Char} (places : SomeDigits text after)
    (exponent : Exponent after rest) : Fraction ('.' :: text) rest

/-- A number without its sign; no other digit follows a zero in front. -/
inductive Unsigned : List Char → List Char → Prop where
  | zero {text rest : List Char} (fraction : Fraction text rest) : Unsigned ('0' :: text) rest
  | digits {c : Char} {text after rest : List Char} (digit : c.isDigit = true) (other : c ≠ '0')
    (digits : DigitRun text after) (fraction : Fraction after rest) : Unsigned (c :: text) rest

inductive Number : List Char → List Char → Prop where
  | positive {text rest : List Char} (unsigned : Unsigned text rest) : Number text rest
  | negative {text rest : List Char} (unsigned : Unsigned text rest) : Number ('-' :: text) rest

/-! ### Strings -/

/-- The letters that can follow a backslash, with what they stand for. -/
def escapes : List (Char × Char) :=
  [('"', '"'), ('\\', '\\'), ('/', '/'), ('b', '\x08'), ('f', '\x0c'), ('n', '\n'), ('r', '\r'),
    ('t', '\t')]

/-- The hexadecimal digits in the order of their values. -/
def lowerDigits : List Char :=
  ['0', '1', '2', '3', '4', '5', '6', '7', '8', '9', 'a', 'b', 'c', 'd', 'e', 'f']

def upperDigits : List Char :=
  ['0', '1', '2', '3', '4', '5', '6', '7', '8', '9', 'A', 'B', 'C', 'D', 'E', 'F']

/-- A hexadecimal digit in either case and its value. -/
def HexDigit (c : Char) (n : Nat) : Prop :=
  lowerDigits[n]? = some c ∨ upperDigits[n]? = some c

/-- The number that four hexadecimal digits write, and what follows them. -/
inductive Code : List Char → Nat → List Char → Prop where
  | digits {a b c d : Char} {i j k l : Nat} {rest : List Char} (first : HexDigit a i)
    (second : HexDigit b j) (third : HexDigit c k) (fourth : HexDigit d l) :
    Code (a :: b :: c :: d :: rest) (16 * (16 * (16 * i + j) + k) + l) rest

/-- A character that stands for itself. -/
structure Plain (c : Char) : Prop where
  printed : 0x20 ≤ c.toNat
  not_quote : c ≠ '"'
  not_backslash : c ≠ '\\'

/-- What can stand between the quotes of a string. A code need not be that of a
character. -/
inductive Body : List Char → Prop where
  | none : Body []
  | plain {c : Char} {text : List Char} (plain : Plain c) (others : Body text) : Body (c :: text)
  | short {letter c : Char} {text : List Char} (known : (letter, c) ∈ escapes)
    (others : Body text) : Body ('\\' :: letter :: text)
  | code {text rest : List Char} {n : Nat} (digits : Code text n rest) (others : Body rest) :
    Body ('\\' :: 'u' :: text)

/-- The codes that come first in a pair. -/
def IsFirst (n : Nat) : Prop := 0xd800 ≤ n ∧ n ≤ 0xdbff

/-- The codes that come second in a pair. -/
def IsSecond (n : Nat) : Prop := 0xdc00 ≤ n ∧ n ≤ 0xdfff

/-- The character that a pair of codes stands for. -/
def paired (first second : Nat) : Char :=
  Char.ofNat (0x10000 + (first - 0xd800) * 0x400 + (second - 0xdc00))

/-- The characters that the inside of a string stands for. A code of a pair stands for
no character by itself. -/
inductive Spells : List Char → List Char → Prop where
  | none : Spells [] []
  | plain {c : Char} {text spelled : List Char} (plain : Plain c) (others : Spells text spelled) :
    Spells (c :: text) (c :: spelled)
  | short {letter c : Char} {text spelled : List Char} (known : (letter, c) ∈ escapes)
    (others : Spells text spelled) : Spells ('\\' :: letter :: text) (c :: spelled)
  | code {text rest spelled : List Char} {n : Nat} (digits : Code text n rest)
    (single : ¬ IsFirst n ∧ ¬ IsSecond n) (others : Spells rest spelled) :
    Spells ('\\' :: 'u' :: text) (Char.ofNat n :: spelled)
  | pair {text middle rest spelled : List Char} {n m : Nat}
    (digits : Code text n ('\\' :: 'u' :: middle)) (first : IsFirst n)
    (digits' : Code middle m rest) (second : IsSecond m) (others : Spells rest spelled) :
    Spells ('\\' :: 'u' :: text) (paired n m :: spelled)

/-! ### Values -/

mutual

/-- A value without the space around it. -/
inductive Value : List Char → List Char → Prop where
  | null {rest : List Char} : Value ('n' :: 'u' :: 'l' :: 'l' :: rest) rest
  | true {rest : List Char} : Value ('t' :: 'r' :: 'u' :: 'e' :: rest) rest
  | false {rest : List Char} : Value ('f' :: 'a' :: 'l' :: 's' :: 'e' :: rest) rest
  | number {text rest : List Char} (number : Number text rest) : Value text rest
  | string {literal rest : List Char} (body : Body literal) :
    Value ('"' :: (literal ++ '"' :: rest)) rest
  | noItems {text rest : List Char} (spaces : Spaces text (']' :: rest)) : Value ('[' :: text) rest
  | array {text rest : List Char} (items : Items text (']' :: rest)) : Value ('[' :: text) rest
  | object {text rest : List Char} {keys : List (List Char)}
    (inside : Inside text keys ('\x7d' :: rest)) : Value ('\x7b' :: text) rest

/-- One value or more. -/
inductive Items : List Char → List Char → Prop where
  | item {text value after rest : List Char} (spaces : Spaces text value)
    (item : Value value after) (others : MoreItems after rest) : Items text rest

/-- The values behind one, if there are any. -/
inductive MoreItems : List Char → List Char → Prop where
  | last {text rest : List Char} (spaces : Spaces text rest) : MoreItems text rest
  | next {text after rest : List Char} (spaces : Spaces text (',' :: after))
    (others : Items after rest) : MoreItems text rest

/-- What stands between the braces of an object, with the insides of its keys. -/
inductive Inside : List Char → List (List Char) → List Char → Prop where
  | empty {text rest : List Char} (spaces : Spaces text rest) : Inside text [] rest
  | members {text rest : List Char} {keys : List (List Char)} (members : Members text keys rest) :
    Inside text keys rest

/-- One member or more. -/
inductive Members : List Char → List (List Char) → List Char → Prop where
  | member {text literal behind rest : List Char} {keys : List (List Char)}
    (spaces : Spaces text ('"' :: (literal ++ '"' :: behind))) (body : Body literal)
    (field : Field behind keys rest) : Members text (literal :: keys) rest

/-- What stands behind a key. -/
inductive Field : List Char → List (List Char) → List Char → Prop where
  | field {text between value after rest : List Char} {keys : List (List Char)}
    (spaces : Spaces text (':' :: between)) (spaces' : Spaces between value)
    (value : Value value after) (others : MoreMembers after keys rest) : Field text keys rest

/-- The members behind one, if there are any. -/
inductive MoreMembers : List Char → List (List Char) → List Char → Prop where
  | last {text rest : List Char} (spaces : Spaces text rest) : MoreMembers text [] rest
  | next {text after rest : List Char} {keys : List (List Char)}
    (spaces : Spaces text (',' :: after)) (others : Members after keys rest) :
    MoreMembers text keys rest

end

/-- The keys stand for these names. -/
def Named (keys : List (List Char)) (names : List String) : Prop :=
  List.Forall₂ (fun key name => Spells key name.toList) keys names

/-- The text is an object, and its keys stand for these names. -/
inductive Table : List Char → List String → Prop where
  | object {text inner after : List Char} {keys : List (List Char)} {names : List String}
    (leading : Spaces text ('\x7b' :: inner)) (inside : Inside inner keys ('\x7d' :: after))
    (named : Named keys names) (trailing : Spaces after []) : Table text names

end ValueGrammar.Tables
