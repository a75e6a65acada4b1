import Fanout.Json.Draft

/-!
# Fanout — reading texts

`Document.ofText` reads a text as far as it is well formed. A reading step gives
a draft and the text after it, or no text where the reading ends at a break.
-/

namespace Fanout

namespace Draft

/-- A draft and the text after it; none if the draft ends in a break. -/
abbrev Step := Draft × Option (List Char)

/-- A step that ends at a break. -/
def stop (place : Break) : Step := (.broken place, none)

/-! ## Characters -/

/-- Blanks between tokens. -/
def isBlank (c : Char) : Bool := c == ' ' || c == '\t' || c == '\n' || c == '\r'

/-- The text after leading blanks. -/
def dropBlanks (text : List Char) : List Char := text.dropWhile isBlank

/-- The value of a hexadecimal digit. -/
def hexDigit? (c : Char) : Option Nat :=
  if '0' ≤ c ∧ c ≤ '9' then some (c.toNat - '0'.toNat)
  else if 'a' ≤ c ∧ c ≤ 'f' then some (c.toNat - 'a'.toNat + 10)
  else if 'A' ≤ c ∧ c ≤ 'F' then some (c.toNat - 'A'.toNat + 10)
  else none

/-- The value of four hexadecimal digits. -/
def hexCode? (a b c d : Char) : Option Nat := do
  let a ← hexDigit? a
  let b ← hexDigit? b
  let c ← hexDigit? c
  let d ← hexDigit? d
  return ((a * 16 + b) * 16 + c) * 16 + d

/-! ## Words and numbers -/

/-- The draft of a literal word, if the text goes on with it. -/
def readWord (draft : Draft) : List Char → List Char → Step
  | [], rest => (draft, some rest)
  | _ :: _, [] => stop (.unnamed .truncated .truncated)
  | expected :: word, c :: rest =>
    if c = expected then readWord draft word rest else stop (.all .malformed)

/-- The leading decimal digits, and the text after them. -/
def readDigits (text : List Char) : List Nat × List Char :=
  ((text.takeWhile Char.isDigit).map (fun c => c.toNat - '0'.toNat), text.dropWhile Char.isDigit)

/-- A number that lacks a digit. Where the text ends there, only a strict reader goes on to ask
for more text. -/
def lacksDigit (rest : List Char) : Step :=
  stop (if rest.isEmpty then .unnamed .truncated .malformed else .all .malformed)

/-- The sign and the digits of an exponent. -/
def readExponent (text : List Char) : Except (List Char) (Int × List Char) :=
  let (negative, text) := match text with
    | '-' :: rest => (true, rest)
    | '+' :: rest => (false, rest)
    | _ => (false, text)
  match readDigits text with
  | ([], rest) => .error rest
  | (digits, rest) =>
    let size : Int := (digits.foldl (fun acc digit => acc * 10 + digit) 0 : Nat)
    .ok (if negative then -size else size, rest)

/-- The number whose digits before the point begin the text. -/
def readNumber (negative : Bool) (text : List Char) : Step :=
  match readDigits text with
  | ([], rest) => lacksDigit rest
  -- no digit may follow a leading zero
  | (0 :: _ :: _, _) => stop (.all .malformed)
  | (whole, rest) =>
    let finish (fraction : Option (List Nat)) : List Char → Step
      | 'e' :: rest | 'E' :: rest =>
        match readExponent rest with
        | .ok (exponent, rest) =>
          (.number (Number.ofLiteral? negative whole fraction (some exponent)), some rest)
        | .error rest => lacksDigit rest
      | rest => (.number (Number.ofLiteral? negative whole fraction none), some rest)
    match rest with
    | '.' :: rest =>
      match readDigits rest with
      | ([], rest) => lacksDigit rest
      | (fraction, rest) => finish (some fraction) rest
    | _ => finish none rest

/-! ## Strings -/

/-- The content of a string and the text after its closing quote, or the break in it. -/
inductive Quoted where
  | closed (content : Option String) (rest : List Char)
  | broken (place : Break)

/-- The character that a one-letter escape stands for. -/
def unescape? : Char → Option Char
  | '"' => some '"'
  | '\\' => some '\\'
  | '/' => some '/'
  | 'b' => some '\x08'
  | 'f' => some '\x0c'
  | 'n' => some '\n'
  | 'r' => some '\r'
  | 't' => some '\t'
  | _ => none

/-- The break in a string whose content so far is well paired or not: an unpaired surrogate is
the earlier fault for a strict reader. -/
def quotedBreak (content : Option (List Char)) (fault : Fault) : Quoted :=
  .broken (if content.isSome then .all fault else ⟨.malformed, fault, .malformed⟩)

/-- The fault of an escape with fewer than four characters left in the text: the four digits are
counted in bytes. -/
def shortEscape (rest : List Char) : Fault :=
  if 4 ≤ rest.foldl (fun size c => size + c.utf8Size) 0 then .malformed else .truncated

/-- The first half of a surrogate pair. -/
def isLeading (code : Nat) : Bool := decide (0xD800 ≤ code ∧ code < 0xDC00)

/-- The second half of a surrogate pair. -/
def isTrailing (code : Nat) : Bool := decide (0xDC00 ≤ code ∧ code < 0xE000)

/-- The character that a surrogate pair stands for. -/
def pairedChar (leading trailing : Nat) : Char :=
  Char.ofNat ((leading - 0xD800) * 0x400 + (trailing - 0xDC00) + 0x10000)

/-- A string after its opening quote. The content so far is kept last character first, and not at
all once a surrogate has been met without its other half; `leading` is a first half that the
second has to follow at once. -/
def readQuoted (content : Option (List Char)) (leading : Option Nat) : List Char → Quoted
  | [] => quotedBreak content .truncated
  | ['\\'] => quotedBreak content .truncated
  | '\\' :: 'u' :: a :: b :: c :: d :: rest =>
    match hexCode? a b c d, leading with
    | none, _ => quotedBreak content .malformed
    -- the second half of a pair, or a first half left alone
    | some code, some first =>
      if isTrailing code then readQuoted (content.map (pairedChar first code :: ·)) none rest
      else readQuoted none none rest
    | some code, none =>
      if isLeading code then readQuoted content (some code) rest
      else if isTrailing code then readQuoted none none rest
      else readQuoted (content.map (Char.ofNat code :: ·)) none rest
  | '\\' :: 'u' :: short => quotedBreak content (shortEscape short)
  -- any other character comes too late for a first half that waits for its second
  | '\\' :: c :: rest =>
    let content := if leading.isSome then none else content
    match unescape? c with
    | some meant => readQuoted (content.map (meant :: ·)) none rest
    | none => quotedBreak content .malformed
  | '"' :: rest =>
    let content := if leading.isSome then none else content
    .closed (content.map (fun chars => String.ofList chars.reverse)) rest
  | c :: rest =>
    let content := if leading.isSome then none else content
    if c.toNat < 32 then quotedBreak content .malformed
    else readQuoted (content.map (c :: ·)) none rest

/-- The draft of a string after its opening quote. -/
def readString (text : List Char) : Step :=
  match readQuoted (some []) none text with
  | .closed content rest => (.string content, some rest)
  | .broken place => stop place

/-! ## Values -/

mutual

/-- The value that begins the text after blanks. -/
def read : Nat → List Char → Step
  | 0, _ => stop (.all .truncated)
  | fuel + 1, text =>
    match dropBlanks text with
    | [] => stop (.all .truncated)
    | 'n' :: rest => readWord .null ['u', 'l', 'l'] rest
    | 't' :: rest => readWord (.bool true) ['r', 'u', 'e'] rest
    | 'f' :: rest => readWord (.bool false) ['a', 'l', 's', 'e'] rest
    | '"' :: rest => readString rest
    | '-' :: rest => readNumber true rest
    | '[' :: rest =>
      match dropBlanks rest with
      | ']' :: rest => (.array [] none, some rest)
      | [] => (.array [] (some (.all .truncated)), none)
      | rest => readItems fuel [] rest
    | '\x7b' :: rest =>
      match dropBlanks rest with
      | '\x7d' :: rest => (.object [] none, some rest)
      | rest => readMembers fuel [] rest
    | c :: rest => if c.isDigit then readNumber false (c :: rest) else stop (.all .malformed)

/-- The items of an array from the next item on; those read so far stand last first. -/
def readItems : Nat → List Draft → List Char → Step
  | 0, before, _ => (.array before.reverse (some (.all .truncated)), none)
  | fuel + 1, before, text =>
    match read fuel text with
    | (item, none) => (.array (item :: before).reverse none, none)
    | (item, some rest) =>
      let items := item :: before
      match dropBlanks rest with
      | ']' :: rest => (.array items.reverse none, some rest)
      | ',' :: rest => readItems fuel items rest
      | [] => (.array items.reverse (some (.all .truncated)), none)
      | _ => (.array items.reverse (some (.all .malformed)), none)

/-- The members of an object from the next key on; those read so far stand last first. -/
def readMembers : Nat → List (Key × Draft) → List Char → Step
  | 0, before, _ => (.object before.reverse (some (.all .truncated)), none)
  | fuel + 1, before, text =>
    let finish (member : Key × Draft) : Step := (.object (member :: before).reverse none, none)
    match dropBlanks text with
    | [] => finish (.absent, .broken (.all .truncated))
    | '"' :: rest =>
      match readQuoted (some []) none rest with
      | .broken place => finish (.absent, .broken place)
      | .closed content rest =>
        let key := match content with
          | some key => Key.named key
          | none => Key.unpaired
        match dropBlanks rest with
        | [] => finish (key, .broken (.all .truncated))
        | ':' :: rest =>
          match read fuel rest with
          | (value, none) => finish (key, value)
          | (value, some rest) =>
            let members := (key, value) :: before
            match dropBlanks rest with
            | '\x7d' :: rest => (.object members.reverse none, some rest)
            | ',' :: rest => readMembers fuel members rest
            | [] => (.object members.reverse (some (.all .truncated)), none)
            | _ => (.object members.reverse (some (.all .malformed)), none)
        | _ => finish (key, .broken (.all .malformed))
    | _ => finish (.absent, .broken (.all .malformed))

end

end Draft

/-- The document that a text holds. Every step of the reading leaves a shorter text or is followed
by one that does, so twice the length of the text is enough steps. -/
def Document.ofText (text : String) : Document :=
  let chars := text.toList
  match Draft.read (2 * chars.length + 2) chars with
  | (root, none) => ⟨root, false⟩
  | (root, some rest) => ⟨root, !(Draft.dropBlanks rest).isEmpty⟩

end Fanout
