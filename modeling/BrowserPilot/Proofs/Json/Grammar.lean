import BrowserPilot.Json.Scan
import BrowserPilot.Text.Blank
import Mathlib.Data.List.Forall2

namespace BrowserPilot.Json

/-!
# The written form of JSON

A grammar on rows of characters, apart from every reader. The parts of a list and of an
object are kept with the blanks around them, so that the text of the whole is theirs joined
by commas.
-/

/-- Blanks between tokens. -/
def IsGap (cs : List Char) : Prop := ∀ c ∈ cs, isGap c = true

theorem IsGap.nil : IsGap [] := List.forall_mem_nil _

theorem isBlank_of_isGap {c : Char} (h : isGap c = true) : Text.isBlank c = true := by
  simp only [isGap, Bool.or_eq_true, beq_iff_eq] at h
  rcases h with ((rfl | rfl) | rfl) | rfl <;> decide

theorem isGap_of_not_isBlank {c : Char} (h : Text.isBlank c = false) : isGap c = false := by
  cases hgap : isGap c with
  | false => rfl
  | true => exact absurd (isBlank_of_isGap hgap) (by simp [h])

theorem IsGap.append {cs ds : List Char} (hc : IsGap cs) (hd : IsGap ds) : IsGap (cs ++ ds) :=
  List.forall_mem_append.2 ⟨hc, hd⟩

/-! ## Strings -/

/-- The number that four hexadecimal digits denote. -/
def hexCode? : List Char → Option Nat
  | [a, b, c, d] =>
    match hexValue? a, hexValue? b, hexValue? c, hexValue? d with
    | some a, some b, some c, some d => some (((a * 16 + b) * 16 + c) * 16 + d)
    | _, _, _, _ => none
  | _ => none

/-- The character that the two halves of a surrogate pair stand for. -/
def pairedChar (high low : Nat) : Char :=
  Char.ofNat ((high - 0xD800) * 0x400 + (low - 0xDC00) + 0x10000)

/-- What may follow a backslash, and the character it stands for. -/
inductive Escape : List Char → Char → Prop
  | letter {l c : Char} (h : letterEscape? l = some c) : Escape [l] c
  | code {digits : List Char} {n : Nat} (h : hexCode? digits = some n)
      (hlow : isLowSurrogate n = false) (hhigh : isHighSurrogate n = false) :
      Escape ('u' :: digits) (Char.ofNat n)
  | pair {first second : List Char} {high low : Nat} (hfirst : hexCode? first = some high)
      (hhigh : isHighSurrogate high = true) (hsecond : hexCode? second = some low)
      (hlow : isLowSurrogate low = true) :
      Escape ('u' :: (first ++ '\\' :: 'u' :: second)) (pairedChar high low)

/-- What is written between quotes for the given characters. -/
inductive Spells : List Char → List Char → Prop
  | nil : Spells [] []
  | plain {c : Char} {raw cs : List Char} (hquote : c ≠ '"') (hslash : c ≠ '\\')
      (hcontrol : 32 ≤ c.toNat) (h : Spells raw cs) : Spells (c :: raw) (c :: cs)
  | escape {e raw cs : List Char} {c : Char} (he : Escape e c) (h : Spells raw cs) :
      Spells ('\\' :: (e ++ raw)) (c :: cs)

/-- What may stand between quotes where nobody asks what it spells. A surrogate may stand alone. -/
inductive Quotable : List Char → Prop
  | nil : Quotable []
  | plain {c : Char} {raw : List Char} (hquote : c ≠ '"') (hslash : c ≠ '\\')
      (hcontrol : 32 ≤ c.toNat) (h : Quotable raw) : Quotable (c :: raw)
  | letter {l c : Char} {raw : List Char} (hletter : letterEscape? l = some c) (h : Quotable raw) :
      Quotable ('\\' :: l :: raw)
  | code {digits raw : List Char} {n : Nat} (hcode : hexCode? digits = some n) (h : Quotable raw) :
      Quotable ('\\' :: 'u' :: (digits ++ raw))

theorem Spells.quotable {raw cs : List Char} (h : Spells raw cs) : Quotable raw := by
  induction h with
  | nil => exact .nil
  | plain hquote hslash hcontrol _ ih => exact .plain hquote hslash hcontrol ih
  | escape he _ ih =>
      cases he with
      | letter hletter => exact .letter hletter ih
      | code hcode => exact .code hcode ih
      | pair hfirst _ hsecond _ =>
          simpa using Quotable.code hfirst (.code hsecond ih)

/-! ## Numbers -/

/-- At least one digit. -/
def IsDigits (cs : List Char) : Prop := cs ≠ [] ∧ ∀ c ∈ cs, isDigit c = true

/-- The whole part of a number, without leading zeros. -/
def IsWhole (cs : List Char) : Prop := cs = ['0'] ∨ IsDigits cs ∧ cs.head? ≠ some '0'

/-- The fraction of a number, if there is one. -/
inductive IsFraction : List Char → Prop
  | none : IsFraction []
  | some {digits : List Char} (h : IsDigits digits) : IsFraction ('.' :: digits)

/-- The exponent of a number, if there is one. -/
inductive IsExponent : List Char → Prop
  | none : IsExponent []
  | some {mark : Char} {sign digits : List Char} (hmark : mark = 'e' ∨ mark = 'E')
      (hsign : sign = [] ∨ sign = ['+'] ∨ sign = ['-']) (h : IsDigits digits) :
      IsExponent (mark :: (sign ++ digits))

/-- A number without its minus sign. -/
inductive IsMagnitude : List Char → Prop
  | mk {whole fraction exponent : List Char} (hwhole : IsWhole whole)
      (hfraction : IsFraction fraction) (hexponent : IsExponent exponent) :
      IsMagnitude (whole ++ (fraction ++ exponent))

theorem isBlank_of_isDigit {c : Char} (h : isDigit c = true) : Text.isBlank c = false := by
  simp only [isDigit, Bool.and_eq_true, decide_eq_true_eq, Char.le_def, UInt32.le_iff_toNat_le] at h
  have hlow : 48 ≤ c.toNat := h.1
  have hhigh : c.toNat ≤ 57 := h.2
  simp [Text.isBlank]
  omega

theorem IsMagnitude.exists_digit {text : List Char} (h : IsMagnitude text) :
    ∃ d tail, text = d :: tail ∧ isDigit d = true := by
  obtain @⟨whole, fraction, exponent, hwhole, -, -⟩ := h
  rcases hwhole with rfl | ⟨⟨hne, hall⟩, -⟩
  · exact ⟨'0', _, rfl, rfl⟩
  · cases whole with
    | nil => exact absurd rfl hne
    | cons d digits => exact ⟨d, _, rfl, hall d List.mem_cons_self⟩

/-! ## Values -/

/-- A text between blanks. -/
structure Item where
  before : List Char
  text : List Char
  after : List Char
  before_gap : IsGap before
  after_gap : IsGap after

def Item.chars (i : Item) : List Char := i.before ++ (i.text ++ i.after)

/-- A text after a name in quotes and a colon. -/
structure Member where
  before : List Char
  name : List Char
  between : List Char
  value : Item
  before_gap : IsGap before
  between_gap : IsGap between

def Member.chars (m : Member) : List Char :=
  m.before ++ '"' :: (m.name ++ '"' :: (m.between ++ ':' :: m.value.chars))

/-- What stands between brackets: parts with commas between them, or blanks if there are none. -/
inductive Row : List (List Char) → List Char → Prop
  | none {gap : List Char} (h : IsGap gap) : Row [] gap
  | some (part : List Char) (parts : List (List Char)) :
      Row (part :: parts) (joinComma (part :: parts))

/-- Parts with a comma before each. -/
def further (parts : List (List Char)) : List Char := parts.flatMap (',' :: ·)

@[simp] theorem further_nil : further [] = [] := rfl

@[simp] theorem further_cons (part : List Char) (parts : List (List Char)) :
    further (part :: parts) = ',' :: (part ++ further parts) := rfl

theorem joinComma_cons (part : List Char) (parts : List (List Char)) :
    joinComma (part :: parts) = part ++ further parts := by
  induction parts generalizing part with
  | nil => simp [joinComma]
  | cons next parts ih => simp [joinComma, ih]

/-- A value, nested to any depth. -/
inductive Value : List Char → Prop
  | null : Value ['n', 'u', 'l', 'l']
  | true : Value ['t', 'r', 'u', 'e']
  | false : Value ['f', 'a', 'l', 's', 'e']
  | magnitude {text : List Char} (h : IsMagnitude text) : Value text
  | negative {text : List Char} (h : IsMagnitude text) : Value ('-' :: text)
  | string {raw : List Char} (h : Quotable raw) : Value ('"' :: (raw ++ ['"']))
  | array {inner : List Char} (items : List Item) (hrow : Row (items.map Item.chars) inner)
      (h : ∀ i ∈ items, Value i.text) : Value ('[' :: (inner ++ [']']))
  | object {inner : List Char} (members : List Member)
      (hrow : Row (members.map Member.chars) inner) (hname : ∀ m ∈ members, Quotable m.name)
      (h : ∀ m ∈ members, Value m.value.text) : Value ('{' :: (inner ++ ['}']))

/-- What may come after a name or a value, apart from blanks. -/
def marks : List Char := [',', ':', ']', '}']

theorem mem_marks_iff {c : Char} : c ∈ marks ↔ c = ',' ∨ c = ':' ∨ c = ']' ∨ c = '}' := by
  simp [marks]

theorem exists_head_of_value {text : List Char} (h : Value text) :
    ∃ c tail, text = c :: tail ∧ Text.isBlank c = false ∧ c ∉ marks := by
  cases h with
  | magnitude h =>
      obtain ⟨d, tail, rfl, hd⟩ := h.exists_digit
      refine ⟨d, tail, rfl, isBlank_of_isDigit hd, fun hmark ↦ ?_⟩
      rcases mem_marks_iff.1 hmark with rfl | rfl | rfl | rfl <;> cases hd
  | _ => exact ⟨_, _, rfl, by decide, by decide⟩

/-- The text of a string, with its quotes. -/
inductive IsString : List Char → String → Prop
  | mk {raw : List Char} {s : String} (h : Spells raw s.toList) : IsString ('"' :: (raw ++ ['"'])) s

/-- The text of a boolean. -/
inductive IsBoolean : List Char → Bool → Prop
  | true : IsBoolean ['t', 'r', 'u', 'e'] true
  | false : IsBoolean ['f', 'a', 'l', 's', 'e'] false

/-- The text of a list, with what each of its items is. -/
inductive IsList {α : Type} (L : List Char → α → Prop) : List Char → List α → Prop
  | mk {inner : List Char} {as : List α} (items : List Item)
      (hrow : Row (items.map Item.chars) inner) (h : List.Forall₂ (fun i a ↦ L i.text a) items as) :
      IsList L ('[' :: (inner ++ [']'])) as

theorem IsString.value {text : List Char} {s : String} (h : IsString text s) : Value text := by
  cases h with
  | mk h => exact .string h.quotable

theorem IsBoolean.value {text : List Char} {b : Bool} (h : IsBoolean text b) : Value text := by
  cases h with
  | true => exact .true
  | false => exact .false

theorem IsList.value {α : Type} {L : List Char → α → Prop} {text : List Char} {as : List α}
    (h : IsList L text as) (hvalue : ∀ text a, L text a → Value text) : Value text := by
  cases h with
  | mk items hrow h =>
      have hboth : List.Forall₂ (fun (i : Item) a ↦ Value i.text ∧ L i.text a) items as :=
        h.imp fun i a ha ↦ ⟨hvalue _ _ ha, ha⟩
      exact .array items hrow ((List.forall₂_and_left _ _).1 hboth).1

end BrowserPilot.Json
