import StreamAnalytics.Lib.Fnv
import Mathlib.Data.List.Basic

/-!
# JSON texts

JSON without insignificant white space, as the standard encoder writes it: values
are byte sequences.  `compact` is the compaction
of a raw value that the encoder embeds: it accepts the texts that the standard
library accepts, removes white space and escapes the characters that are special
in HTML.

Sequences of items between a pair of brackets are written by `renderList` and read
by `scanList`, for every reader of an item.
-/

namespace StreamAnalytics

/-- A byte sequence. -/
abbrev Bytes := List UInt8

namespace Json

/-! ## Characters -/

abbrev quote : UInt8 := 34
abbrev backslash : UInt8 := 92
abbrev comma : UInt8 := 44
abbrev colon : UInt8 := 58
abbrev openBrace : UInt8 := 123
abbrev closeBrace : UInt8 := 125
abbrev openBracket : UInt8 := 91
abbrev closeBracket : UInt8 := 93
abbrev minus : UInt8 := 45
abbrev plus : UInt8 := 43
abbrev dot : UInt8 := 46
abbrev zero : UInt8 := 48

/-- The space, the tabulator, the line feed and the carriage return. -/
def isSpace (b : UInt8) : Bool := b == 32 || b == 9 || b == 10 || b == 13

/-- The digits of the decimal system. -/
def isDigit (b : UInt8) : Bool := 48 ≤ b && b ≤ 57

/-- The letters that mark an exponent. -/
def isExponentMark (b : UInt8) : Bool := b == 101 || b == 69

/-- The digits of the hexadecimal system. -/
def isHex (b : UInt8) : Bool := isDigit b || (97 ≤ b && b ≤ 102) || (65 ≤ b && b ≤ 70)

/-- The bytes that stand for themselves in a string. -/
def isPlain (b : UInt8) : Bool := 32 ≤ b && b != quote && b != backslash

/-- The characters after a backslash, other than that of a code point. -/
def simpleEscapes : Bytes := [quote, backslash, 47, 98, 102, 110, 114, 116]

/-- The text without leading white space. -/
def skipSpace (raw : Bytes) : Bytes := raw.dropWhile isSpace

/-! ## Lists -/

section Lists

/-- The items separated by commas, and the closing bracket. -/
def renderList (close : UInt8) : List Bytes → Bytes
  | [] => [close]
  | [item] => item ++ [close]
  | item :: item' :: items => item ++ comma :: renderList close (item' :: items)

variable {σ : Type} {A : Type}

/-- Reads a nonempty list of items up to the closing bracket. -/
def scanList (close : UInt8) (item : σ → Bytes → Option (σ × Bytes)) :
    Nat → σ → Bytes → Option (σ × Bytes)
  | 0, _, _ => none
  | n + 1, s, raw =>
    (item s raw).bind fun (s, raw) =>
      match skipSpace raw with
      | [] => none
      | c :: rest =>
        if c = comma then scanList close item n s rest
        else if c = close then some (s, rest)
        else none

end Lists

/-! ## Grammar -/

/-- A string. -/
def renderString (body : Bytes) : Bytes := quote :: (body ++ [quote])

/-- A member of an object. -/
def renderMember (key value : Bytes) : Bytes := renderString key ++ colon :: value

/-- An object. -/
def renderObject (members : List Bytes) : Bytes := openBrace :: renderList closeBrace members

/-- An array. -/
def renderArray (elements : List Bytes) : Bytes := openBracket :: renderList closeBracket elements

/-- The literals `null`, `true` and `false`. -/
def literals : List Bytes := [[110, 117, 108, 108], [116, 114, 117, 101], [102, 97, 108, 115, 101]]

/-! ## Encoding -/

/-- The decimal representation of a natural number. -/
def formatNat (n : Nat) : Bytes := (Nat.toDigits 10 n).map Char.toUInt8

/-- `strconv.AppendInt` in base 10. -/
def formatInt (v : Int) : Bytes := if v < 0 then minus :: formatNat v.natAbs else formatNat v.natAbs

/-- A lower case hexadecimal digit. -/
def hexDigit (n : UInt8) : UInt8 := if n < 10 then 48 + n else 87 + n

/-- The escape of a byte by its code point. -/
def escapeByte (b : UInt8) : Bytes :=
  [backslash, 117, 48, 48, hexDigit (b >>> 4), hexDigit (b &&& 15)]

/-- The bytes that are special in HTML. -/
def isHtml (b : UInt8) : Bool := b == 60 || b == 62 || b == 38

/-- Escapes what is special in HTML and the separators of lines and paragraphs. -/
def escapeHTML : Bytes → Bytes
  | [] => []
  | b :: rest =>
    if isHtml b then escapeByte b ++ escapeHTML rest
    else
      match b, rest with
      | 226, 128 :: 168 :: rest => backslash :: 117 :: 50 :: 48 :: 50 :: 56 :: escapeHTML rest
      | 226, 128 :: 169 :: rest => backslash :: 117 :: 50 :: 48 :: 50 :: 57 :: escapeHTML rest
      | b, rest => b :: escapeHTML rest

/-- The text of a byte in a string, apart from what `escapeHTML` escapes. -/
def quoteByte (b : UInt8) : Bytes :=
  if isPlain b then [b]
  else if b = quote ∨ b = backslash then [backslash, b]
  else if b = 8 then [backslash, 98]
  else if b = 12 then [backslash, 102]
  else if b = 10 then [backslash, 110]
  else if b = 13 then [backslash, 114]
  else if b = 9 then [backslash, 116]
  else escapeByte b

/-- The encoding of a string. -/
def ofString (s : String) : Bytes := renderString (escapeHTML ((Fnv.bytes s).flatMap quoteByte))

/-! ## Compaction -/

/-- Reads a string after its first quote: the text up to its last quote, and the rest. -/
def scanBody : Bytes → Option (Bytes × Bytes)
  | [] => none
  | b :: rest =>
    if b = quote then some ([], rest)
    else if b = backslash then
      match rest with
      | [] => none
      | c :: rest =>
        if c ∈ simpleEscapes then
          (scanBody rest).map fun (body, rest) => (backslash :: c :: body, rest)
        else if c = 117 then
          match rest with
          | h₁ :: h₂ :: h₃ :: h₄ :: rest =>
            if [h₁, h₂, h₃, h₄].all isHex then
              (scanBody rest).map fun (body, rest) =>
                (backslash :: 117 :: h₁ :: h₂ :: h₃ :: h₄ :: body, rest)
            else none
          | _ => none
        else none
    else if isPlain b then (scanBody rest).map fun (body, rest) => (b :: body, rest)
    else none

/-- Reads a nonempty sequence of digits. -/
def scanDigits (raw : Bytes) : Option (Bytes × Bytes) :=
  if raw.takeWhile isDigit = [] then none
  else some (raw.takeWhile isDigit, raw.dropWhile isDigit)

/-- Reads the integer part of a number. -/
def scanInt : Bytes → Option (Bytes × Bytes)
  | [] => none
  | b :: rest => if b = zero then some ([zero], rest) else scanDigits (b :: rest)

/-- Reads a fraction, if there is one. -/
def scanFraction : Bytes → Option (Bytes × Bytes)
  | [] => some ([], [])
  | b :: rest =>
    if b = dot then (scanDigits rest).map fun (ds, rest) => (dot :: ds, rest)
    else some ([], b :: rest)

/-- Reads the sign of an exponent, if there is one. -/
def scanSign : Bytes → Bytes × Bytes
  | [] => ([], [])
  | b :: rest => if b = plus ∨ b = minus then ([b], rest) else ([], b :: rest)

/-- Reads an exponent, if there is one. -/
def scanExponent : Bytes → Option (Bytes × Bytes)
  | [] => some ([], [])
  | b :: rest =>
    if isExponentMark b then
      (scanDigits (scanSign rest).2).map fun (ds, rest') =>
        (b :: ((scanSign rest).1 ++ ds), rest')
    else some ([], b :: rest)

/-- Reads a number after its sign. -/
def scanUnsigned (raw : Bytes) : Option (Bytes × Bytes) := do
  let (int, raw) ← scanInt raw
  let (frac, raw) ← scanFraction raw
  let (exp, raw) ← scanExponent raw
  some (int ++ (frac ++ exp), raw)

/-- Reads one of the given literals. -/
def scanLiteral (texts : List Bytes) (raw : Bytes) : Option (Bytes × Bytes) :=
  (texts.find? fun text => text.isPrefixOf raw).map fun text => (text, raw.drop text.length)

/-- Reads a value that is neither an object nor an array. -/
def compactAtom : Bytes → Option (Bytes × Bytes)
  | [] => none
  | b :: rest =>
    if b = quote then
      (scanBody rest).map fun (body, rest) => (renderString (escapeHTML body), rest)
    else if b = minus then
      (scanUnsigned rest).map fun (text, rest) => (minus :: text, rest)
    else if isDigit b then scanUnsigned (b :: rest)
    else scanLiteral literals (b :: rest)

/-- Reads a key and the colon after it. -/
def scanKey (raw : Bytes) : Option (Bytes × Bytes) :=
  match skipSpace raw with
  | [] => none
  | b :: rest =>
    if b = quote then
      (scanBody rest).bind fun (body, rest) =>
        match skipSpace rest with
        | [] => none
        | c :: rest => if c = colon then some (escapeHTML body, rest) else none
    else none

/-- Reads a list between brackets that may be empty. -/
def scanBracketed {A : Type} (close : UInt8) (item : List A → Bytes → Option (List A × Bytes))
    (raw : Bytes) : Option (List A × Bytes) :=
  if (skipSpace raw).head? = some close then some ([], (skipSpace raw).tail)
  else scanList close item raw.length [] raw

/-- Reads a value, in which objects and arrays are nested at most `depth` deep. -/
def compactValue : Nat → Bytes → Option (Bytes × Bytes)
  | 0, raw => compactAtom (skipSpace raw)
  | depth + 1, raw =>
    match skipSpace raw with
    | [] => none
    | b :: rest =>
      if b = openBrace then
        (scanBracketed closeBrace (fun members raw =>
          (scanKey raw).bind fun (key, raw) =>
            (compactValue depth raw).map fun (value, raw) =>
              (members ++ [(key, value)], raw)) rest).map
            fun (members, rest) =>
              (renderObject (members.map fun m => renderMember m.1 m.2), rest)
      else if b = openBracket then
        (scanBracketed closeBracket (fun elements raw =>
          (compactValue depth raw).map fun (value, raw) => (elements ++ [value], raw)) rest).map
            fun (elements, rest) => (renderArray elements, rest)
      else compactAtom (b :: rest)

/-- `maxNestingDepth`. -/
def maxNestingDepth : Nat := 10000

/-- The compaction of a text with escaping for HTML, if the text is valid. -/
def compact (raw : Bytes) : Option Bytes :=
  (compactValue maxNestingDepth raw).bind fun (value, rest) =>
    if skipSpace rest = [] then some value else none

end Json
end StreamAnalytics
