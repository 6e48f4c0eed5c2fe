import Vigil.Json.Fault
import Vigil.Json.Magnitude
import Vigil.Positional
import Vigil.Text.Code
import Vigil.Text.Numeral

/-!
# Tokens of JSON texts

`Token.scan` splits a text into tokens, one place of the text at a time. Scanning stops at the first
place where no text that goes on from there is JSON; the token begun there carries the fault. A
scalar carries what it reads as and whether it may be passed over, since the two differ: a number
out of range, an unpaired surrogate and a stray byte may be passed over, and a number that the end
of the text cuts short is truncated when it is read and malformed when it is passed over.
-/

namespace Vigil.Json

open Text (Code)

/-- What a number reads as: a natural number of 64 bits in plain digits, or some other number. -/
inductive Numeral where
  | natural (n : Nat)
  | other
  deriving DecidableEq, Repr

/-- A literal, a number or a text. A literal is known by its first letter: `meaning` is the Boolean
that it begins to spell, or `none` for `null`. -/
inductive Scalar where
  | literal (meaning : Option Bool) (l : Lexeme Unit)
  | number (l : Lexeme Numeral)
  | text (l : Lexeme String)

inductive Token where
  | openArray
  | closeArray
  | openObject
  | closeObject
  | comma
  | colon
  | scalar (s : Scalar)
  /-- A place at which no token begins. -/
  | garbage

/-- The first fault of a reading that went wrong, or went well so far and then met `f`. -/
def reject (f : Fault) : Except Fault α → Except Fault β
  | .ok _ => .error f
  | .error g => .error g

/-! ## Numbers -/

/-- Where the scan of a number stands. -/
inductive Phase where
  /-- After the minus sign. -/
  | sign
  /-- After a leading zero. -/
  | zero
  | whole
  /-- After the decimal point. -/
  | point
  | fraction
  /-- After the letter of the exponent. -/
  | letter
  /-- After the sign of the exponent. -/
  | powerSign
  | power
  deriving DecidableEq

/-- A number as far as it is scanned: `significand · 10 ^ (scale ± power)`. Digits that no longer
fit into 64 bits only scale it. -/
structure NumberDraft where
  negative : Bool
  significand : Nat
  scale : Int
  /-- No digit was dropped, and neither a fraction nor an exponent has begun. -/
  exact : Bool
  /-- A digit of the fraction was dropped. -/
  full : Bool
  power : Nat
  powerNegative : Bool

namespace NumberDraft

/-- The draft of a number of which only the sign is known. -/
def empty (negative : Bool) : NumberDraft where
  negative := negative
  significand := 0
  scale := 0
  exact := true
  full := false
  power := 0
  powerNegative := false

/-- The draft with one more digit before the decimal point. -/
def pushWhole (d : NumberDraft) (digit : Nat) : NumberDraft :=
  let next := 10 * d.significand + digit
  if d.exact && next < Positional.word64 then { d with significand := next }
  else { d with exact := false, scale := d.scale + 1 }

/-- The draft with one more digit after the decimal point. -/
def pushFraction (d : NumberDraft) (digit : Nat) : NumberDraft :=
  let next := 10 * d.significand + digit
  if !d.full && next < Positional.word64 then { d with significand := next, scale := d.scale - 1 }
  else { d with full := true }

def pushPower (d : NumberDraft) (digit : Nat) : NumberDraft :=
  { d with power := 10 * d.power + digit }

/-- What a complete number reads as. -/
def value (d : NumberDraft) : Except Fault Numeral :=
  let exponent := if d.powerNegative then d.scale - d.power else d.scale + d.power
  if d.exact then .ok (if d.negative then .other else .natural d.significand)
  else if overflows d.significand exponent then .error .malformed
  else .ok .other

end NumberDraft

/-- What one more place does to the scan of a number. -/
inductive NumberStep where
  | more (p : Phase) (d : NumberDraft)
  /-- The number is complete, and the place is not part of it. -/
  | complete
  | fault

/-- The scan of a number after a decimal point or the letter of an exponent, where they are allowed,
or else its end. -/
def Phase.leaveDigits (d : NumberDraft) (point : Bool) (c : Char) : NumberStep :=
  if point && c == '.' then .more .point { d with exact := false }
  else if c == 'e' || c == 'E' then .more .letter { d with exact := false }
  else .complete

/-- The scan of a number after one more character. -/
def Phase.next (p : Phase) (d : NumberDraft) (c : Char) : NumberStep :=
  match p, Text.digit? c with
  | .sign, some 0 => .more .zero d
  | .sign, some n => .more .whole (d.pushWhole n)
  | .sign, none => .fault
  | .zero, some _ => .fault
  | .zero, none => leaveDigits d true c
  | .whole, some n => .more .whole (d.pushWhole n)
  | .whole, none => leaveDigits d true c
  | .point, some n => .more .fraction (d.pushFraction n)
  | .point, none => .fault
  | .fraction, some n => .more .fraction (d.pushFraction n)
  | .fraction, none => leaveDigits d false c
  | .letter, some n => .more .power (d.pushPower n)
  | .letter, none =>
    if c == '+' then .more .powerSign d
    else if c == '-' then .more .powerSign { d with powerNegative := true }
    else .fault
  | .powerSign, some n => .more .power (d.pushPower n)
  | .powerSign, none => .fault
  | .power, some n => .more .power (d.pushPower n)
  | .power, none => .complete

/-- Whether a number may end at a phase. -/
def Phase.complete : Phase → Bool
  | .zero | .whole | .fraction | .power => true
  | .sign | .point | .letter | .powerSign => false

/-! ## Texts -/

inductive Escape where
  | outside
  /-- After a backslash. -/
  | begun
  /-- In the four bytes of a code unit; the places seen are listed the latest first. -/
  | unit (seen : List Code)

structure TextDraft where
  /-- The characters, the latest first, or the first fault of reading them. -/
  value : Except Fault (List Char)
  /-- A leading surrogate that waits for its partner. -/
  surrogate : Option Nat
  /-- A byte was met that belongs to no character. -/
  stray : Bool
  escape : Escape

namespace TextDraft

/-- The draft of a text of which only the opening quotation mark is known. -/
def empty : TextDraft where
  value := .ok []
  surrogate := none
  stray := false
  escape := .outside

/-- The draft with one more character, which may not follow a leading surrogate. -/
def push (d : TextDraft) (c : Char) : TextDraft :=
  { d with
    value := if d.surrogate.isSome then reject .malformed d.value else d.value.map (c :: ·)
    surrogate := none
    escape := .outside }

/-- The draft with one more UTF-16 code unit. A leading surrogate waits for a trailing one, and each
is a fault alone. -/
def pushUnit (d : TextDraft) (n : Nat) : TextDraft :=
  let trailing := decide (0xDC00 ≤ n ∧ n ≤ 0xDFFF)
  match d.surrogate with
  | some m =>
    if trailing then
      let c := Char.ofNat (0x10000 + (m - 0xD800) * 0x400 + (n - 0xDC00))
      { d with value := d.value.map (c :: ·), surrogate := none, escape := .outside }
    else
      { d with value := reject .malformed d.value, surrogate := none, escape := .outside }
  | none =>
    if trailing then { d with value := reject .malformed d.value, escape := .outside }
    else if 0xD800 ≤ n ∧ n ≤ 0xDBFF then { d with surrogate := some n, escape := .outside }
    else d.push (Char.ofNat n)

def complete (d : TextDraft) : Except Fault String :=
  if d.surrogate.isSome || d.stray then reject .malformed d.value
  else d.value.map fun cs => String.ofList cs.reverse

end TextDraft

/-- What one more place does to the scan of a text. -/
inductive TextStep where
  | more (d : TextDraft)
  | complete
  | fault

/-- The code unit that four hexadecimal digits give; the places are listed the latest first. -/
def codeUnit? (seen : List Code) : Option Nat :=
  match seen.mapM fun c => c.char?.bind Text.hexDigit? with
  | some [d, c, b, a] => some (((a * 16 + b) * 16 + c) * 16 + d)
  | _ => none

/-- The character that a one-character escape stands for. -/
def escaped? : Char → Option Char
  | '"' => some '"'
  | '\\' => some '\\'
  | '/' => some '/'
  | 'b' => some '\x08'
  | 'f' => some '\x0c'
  | 'n' => some '\n'
  | 'r' => some '\r'
  | 't' => some '\t'
  | _ => none

/-- The scan of a text after one more place. -/
def TextDraft.next (d : TextDraft) (c : Code) : TextStep :=
  match d.escape with
  | .unit seen =>
    let seen := c :: seen
    if Code.totalSize seen < 4 then .more { d with escape := .unit seen }
    else
      match codeUnit? seen with
      | some n => .more (d.pushUnit n)
      | none => .fault
  | .begun =>
    match c with
    | .char 'u' => .more { d with escape := .unit [] }
    | .char c =>
      match escaped? c with
      | some e => .more (d.push e)
      | none => .fault
    | .stray _ => .fault
  | .outside =>
    match c with
    | .char '"' => .complete
    | .char '\\' => .more { d with escape := .begun }
    | .char c => if c.toNat < 0x20 then .fault else .more (d.push c)
    | .stray _ => .more { d.push 'x' with stray := true }

/-! ## The scan -/

/-- Where the scan stands. -/
inductive Mode where
  | between
  /-- In a literal of which the characters `left` are still to come. -/
  | word (left : List Char) (meaning : Option Bool)
  | number (p : Phase) (d : NumberDraft)
  | text (d : TextDraft)
  | stopped

/-- The scan of a text: where it stands and the tokens so far, the latest first. -/
structure Scan where
  mode : Mode
  tokens : List Token

namespace Scan

def emit (s : Scan) (t : Token) : Scan :=
  ⟨.between, t :: s.tokens⟩

def stop (s : Scan) (t : Scalar) : Scan :=
  ⟨.stopped, .scalar t :: s.tokens⟩

/-- The scan after one more place outside of any token. -/
def start (s : Scan) (c : Code) : Scan :=
  match c with
  | .stray _ => ⟨.stopped, .garbage :: s.tokens⟩
  | .char c =>
    match c with
    | ' ' | '\n' | '\t' | '\r' => { s with mode := .between }
    | '[' => s.emit .openArray
    | ']' => s.emit .closeArray
    | '\x7b' => s.emit .openObject
    | '\x7d' => s.emit .closeObject
    | ',' => s.emit .comma
    | ':' => s.emit .colon
    | 'n' => { s with mode := .word ['u', 'l', 'l'] none }
    | 't' => { s with mode := .word ['r', 'u', 'e'] (some true) }
    | 'f' => { s with mode := .word ['a', 'l', 's', 'e'] (some false) }
    | '"' => { s with mode := .text .empty }
    | '-' => { s with mode := .number .sign (.empty true) }
    | c =>
      match Text.digit? c with
      | some 0 => { s with mode := .number .zero (.empty false) }
      | some n => { s with mode := .number .whole ((NumberDraft.empty false).pushWhole n) }
      | none => ⟨.stopped, .garbage :: s.tokens⟩

/-- The scan after one more place. -/
def step (s : Scan) (c : Code) : Scan :=
  match s.mode with
  | .stopped => s
  | .between => s.start c
  | .word left meaning =>
    match left with
    | [] => s.start c
    | l :: left =>
      if c = .char l then
        if left.isEmpty then s.emit (.scalar (.literal meaning ⟨.ok (), none⟩))
        else { s with mode := .word left meaning }
      else s.stop (.literal meaning ⟨.error .malformed, some .malformed⟩)
  | .number p d =>
    let next := match c with
      | .char c => p.next d c
      | .stray _ => if p.complete then .complete else .fault
    match next with
    | .more p d => { s with mode := .number p d }
    | .complete => (s.emit (.scalar (.number ⟨d.value, none⟩))).start c
    | .fault => s.stop (.number ⟨.error .malformed, some .malformed⟩)
  | .text d =>
    match d.next c with
    | .more d => { s with mode := .text d }
    | .complete => s.emit (.scalar (.text ⟨d.complete, none⟩))
    | .fault => s.stop (.text ⟨reject .malformed d.value, some .malformed⟩)

/-- The tokens of a text of which the scan has seen all places. -/
def finish (s : Scan) : List Token :=
  let rest := match s.mode with
    | .between | .stopped => []
    | .word _ meaning => [.scalar (.literal meaning ⟨.error .truncated, some .truncated⟩)]
    | .number p d =>
      if p.complete then [.scalar (.number ⟨d.value, none⟩)]
      else [.scalar (.number ⟨.error .truncated, some .malformed⟩)]
    | .text d => [.scalar (.text ⟨reject .truncated d.value, some .truncated⟩)]
  (rest ++ s.tokens).reverse

end Scan

def Token.scan (codes : List Code) : List Token :=
  (codes.foldl Scan.step ⟨.between, []⟩).finish

end Vigil.Json
