import RigidWorlds.Json.Lexeme

/-!
Passing over values that nobody asks for.  Only the shape of the text is checked: nesting is not
bounded, numbers may be of any size, and escapes need not form characters.
-/

namespace RigidWorlds.Json

def skipExponent (rest : List Char) : Except Fault (List Char) :=
  let digits :=
    match rest with
    | '+' :: digits | '-' :: digits => digits
    | digits => digits
  match digits with
  | [] => .error (.here .invalidNumber [])
  | c :: rest =>
      if isDigit c then .ok (rest.dropWhile isDigit)
      else .error (.next .invalidNumber (c :: rest))

def skipAfterDigits (rest : List Char) : Except Fault (List Char) :=
  match rest with
  | 'e' :: rest | 'E' :: rest => skipExponent rest
  | rest => .ok rest

def skipFraction (rest : List Char) : Except Fault (List Char) :=
  match rest with
  | [] => .error (.next .invalidNumber [])
  | c :: rest =>
      if isDigit c then skipAfterDigits (rest.dropWhile isDigit)
      else .error (.next .invalidNumber (c :: rest))

def skipAfterInteger (rest : List Char) : Except Fault (List Char) :=
  match rest with
  | '.' :: rest => skipFraction rest
  | rest => skipAfterDigits rest

def skipNumber (rest : List Char) : Except Fault (List Char) :=
  match rest with
  | [] => .error (.here .invalidNumber [])
  | c :: rest =>
      if c = '0' then
        match rest with
        | d :: _ =>
            if isDigit d then .error (.next .invalidNumber rest) else skipAfterInteger rest
        | [] => .ok []
      else if isDigit c then skipAfterInteger (rest.dropWhile isDigit)
      else .error (.next .invalidNumber (c :: rest))

def skipEscape (rest : List Char) : Except Fault (List Char) :=
  match rest with
  | [] => .error (.here .endInText [])
  | c :: rest =>
      if c = 'u' then (readHex rest).map (·.2)
      else if (simpleEscape? c).isSome then .ok rest
      else .error (.next .invalidEscape (c :: rest))

def skipText : Nat → List Char → Except Fault (List Char)
  | _, [] => .error (.here .endInText [])
  | 0, rest => .error (.here .endInText rest)
  | fuel + 1, c :: rest =>
      if c = '"' then .ok rest
      else if c = '\\' then (skipEscape rest).bind (skipText fuel)
      else if c < ' ' then .error (.here .controlCharacter (c :: rest))
      else skipText fuel rest

/-- Passes over a key and its colon, in front of the key. -/
def skipKey (rest : List Char) : Except Fault (List Char) :=
  match skipBlanks rest with
  | [] => .error (.next .endInObject [])
  | c :: rest =>
      if c = '"' then do
        let rest ← skipText (rest.length + 1) rest
        match skipBlanks rest with
        | ':' :: rest => return rest
        | [] => throw (.next .endInObject [])
        | rest => throw (.next .expectedColon rest)
      else .error (.next .keyMustBeText (c :: rest))

mutual

def skipValue : Nat → List Char → Except Fault (List Char)
  | 0, rest => .error (.here .tooDeep rest)
  | fuel + 1, rest =>
      match skipBlanks rest with
      | [] => .error (.next .endInValue [])
      | 'n' :: rest => (readWord ['u', 'l', 'l'] rest).map (·.2)
      | 't' :: rest => (readWord ['r', 'u', 'e'] rest).map (·.2)
      | 'f' :: rest => (readWord ['a', 'l', 's', 'e'] rest).map (·.2)
      | '-' :: rest => skipNumber rest
      | '"' :: rest => skipText (rest.length + 1) rest
      | '[' :: rest => skipItems fuel true rest
      | '\x7b' :: rest => skipEntries fuel true rest
      | c :: rest =>
          if isDigit c then skipNumber (c :: rest) else .error (.next .expectedValue (c :: rest))

def skipItems : Nat → Bool → List Char → Except Fault (List Char)
  | 0, _, rest => .error (.here .tooDeep rest)
  | fuel + 1, first, rest =>
      match skipBlanks rest with
      | [] => .error (.next .endInList [])
      | c :: rest =>
          if c = ']' then .ok rest
          else if first then (skipValue fuel (c :: rest)).bind (skipItems fuel false)
          else if c = ',' then (skipValue fuel rest).bind (skipItems fuel false)
          else .error (.next .expectedCommaOrBracket (c :: rest))

def skipEntries : Nat → Bool → List Char → Except Fault (List Char)
  | 0, _, rest => .error (.here .tooDeep rest)
  | fuel + 1, first, rest =>
      match skipBlanks rest with
      | [] => .error (.next .endInObject [])
      | c :: rest =>
          if c = '\x7d' then .ok rest
          else if first ∨ c = ',' then do
            let rest ← skipKey (if first then c :: rest else rest)
            let rest ← skipValue fuel rest
            skipEntries fuel false rest
          else .error (.next .expectedCommaOrBrace (c :: rest))

end

end RigidWorlds.Json
