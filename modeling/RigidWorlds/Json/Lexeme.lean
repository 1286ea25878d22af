import RigidWorlds.Json.Numeral

namespace RigidWorlds.Json

def isBlank (c : Char) : Bool := c = ' ' || c = '\n' || c = '\t' || c = '\r'

def skipBlanks (rest : List Char) : List Char := rest.dropWhile isBlank

def readWord : List Char → List Char → Except Fault (Parsed Unit)
  | [], rest => .ok ((), rest)
  | _ :: _, [] => .error (.here .endInValue [])
  | expected :: word, c :: rest =>
      if c = expected then readWord word rest else .error (.next .expectedIdent (c :: rest))

def hexValue? (c : Char) : Option Nat :=
  if '0' ≤ c ∧ c ≤ '9' then some (c.toNat - 48)
  else if 'a' ≤ c ∧ c ≤ 'f' then some (c.toNat - 87)
  else if 'A' ≤ c ∧ c ≤ 'F' then some (c.toNat - 55)
  else none

/-- Four hexadecimal digits.  Anything else is refused behind four bytes, or at the end. -/
def readHex (rest : List Char) : Except Fault (Parsed Nat) :=
  let refused : Except Fault (Parsed Nat) :=
    if byteCount rest < 4 then .error (.placed .endInText 0)
    else .error (.placed .invalidEscape (byteCount rest - 4))
  match rest with
  | a :: b :: c :: d :: after =>
      match hexValue? a, hexValue? b, hexValue? c, hexValue? d with
      | some a, some b, some c, some d => .ok (((a * 16 + b) * 16 + c) * 16 + d, after)
      | _, _, _, _ => refused
  | _ => refused

def isLeadingSurrogate (n : Nat) : Bool := 0xD800 ≤ n && n ≤ 0xDBFF

def isTrailingSurrogate (n : Nat) : Bool := 0xDC00 ≤ n && n ≤ 0xDFFF

/-- The trailing half of a pair of escapes, behind the leading half `high`. -/
def readTrailingSurrogate (high : Nat) : List Char → Except Fault (Parsed Char)
  | [] => .error (.here .endInText [])
  | '\\' :: rest =>
      match rest with
      | [] => .error (.here .endInText [])
      | 'u' :: rest => do
          let (low, rest) ← readHex rest
          if isTrailingSurrogate low then
            return (Char.ofNat ((high - 0xD800) * 0x400 + (low - 0xDC00) + 0x10000), rest)
          else throw (.here .loneSurrogate rest)
      | rest => .error (.next .unfinishedSurrogate rest)
  | rest => .error (.next .unfinishedSurrogate rest)

/-- A character by its number, behind the escape letter. -/
def readUnicodeEscape (rest : List Char) : Except Fault (Parsed Char) := do
  let (n, rest) ← readHex rest
  if isTrailingSurrogate n then throw (.here .loneSurrogate rest)
  else if isLeadingSurrogate n then readTrailingSurrogate n rest
  else return (Char.ofNat n, rest)

def simpleEscape? (c : Char) : Option Char :=
  match c with
  | '"' => some '"'
  | '\\' => some '\\'
  | '/' => some '/'
  | 'b' => some '\x08'
  | 'f' => some '\x0c'
  | 'n' => some '\n'
  | 'r' => some '\r'
  | 't' => some '\t'
  | _ => none

def readEscape : List Char → Except Fault (Parsed Char)
  | [] => .error (.here .endInText [])
  | 'u' :: rest => readUnicodeEscape rest
  | c :: rest =>
      match simpleEscape? c with
      | some d => .ok (d, rest)
      | none => .error (.next .invalidEscape (c :: rest))

/-- The characters up to the closing quote; the fuel bounds their number. -/
def readChars : Nat → List Char → Except Fault (Parsed (List Char))
  | _, [] => .error (.here .endInText [])
  | 0, rest => .error (.here .endInText rest)
  | fuel + 1, c :: rest =>
      if c = '"' then .ok ([], rest)
      else if c = '\\' then do
        let (d, rest) ← readEscape rest
        let (ds, rest) ← readChars fuel rest
        return (d :: ds, rest)
      else if c < ' ' then .error (.next .controlCharacter (c :: rest))
      else do
        let (ds, rest) ← readChars fuel rest
        return (c :: ds, rest)

def readText (rest : List Char) : Except Fault (Parsed String) := do
  let (chars, rest) ← readChars (rest.length + 1) rest
  return (String.ofList chars, rest)

end RigidWorlds.Json
