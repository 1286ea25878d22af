import RigidWorlds.Json.Lexeme

/-!
Reading whole values.  The readers for lists and objects are split into steps (`nextItem`,
`nextKey`, `closeList`, `closeObject`) which the decoders of records share.
-/

namespace RigidWorlds.Json

/-- Whether another item follows in a list; the text is then in front of it, otherwise in front of
the closing bracket. -/
def nextItem (first : Bool) (rest : List Char) : Except Fault (Parsed Bool) :=
  match skipBlanks rest with
  | [] => .error (.next .endInList [])
  | ']' :: rest => .ok (false, ']' :: rest)
  | c :: rest =>
      if first then .ok (true, c :: rest)
      else if c = ',' then
        match skipBlanks rest with
        | [] => .error (.next .endInValue [])
        | ']' :: rest => .error (.next .trailingComma (']' :: rest))
        | rest => .ok (true, rest)
      else .error (.next .expectedCommaOrBracket (c :: rest))

/-- Whether another key follows in an object; the text is then behind its opening quote, otherwise
in front of the closing brace. -/
def nextKey (first : Bool) (rest : List Char) : Except Fault (Parsed Bool) :=
  match skipBlanks rest with
  | [] => .error (.next .endInObject [])
  | '\x7d' :: rest => .ok (false, '\x7d' :: rest)
  | c :: rest =>
      if first then
        if c = '"' then .ok (true, rest) else .error (.next .keyMustBeText (c :: rest))
      else if c = ',' then
        match skipBlanks rest with
        | '"' :: rest => .ok (true, rest)
        | '\x7d' :: rest => .error (.next .trailingComma ('\x7d' :: rest))
        | [] => .error (.next .endInValue [])
        | rest => .error (.next .keyMustBeText rest)
      else .error (.next .expectedCommaOrBrace (c :: rest))

def readColon (rest : List Char) : Except Fault (Parsed Unit) :=
  match skipBlanks rest with
  | ':' :: rest => .ok ((), rest)
  | [] => .error (.next .endInObject [])
  | rest => .error (.next .expectedColon rest)

/-- The end of a list: the fault if there is one, and how far it was read. -/
def closeList (rest : List Char) : Option Fault × List Char :=
  match skipBlanks rest with
  | ']' :: rest => (none, rest)
  | ',' :: rest =>
      match skipBlanks rest with
      | ']' :: rest => (some (.next .trailingComma (']' :: rest)), ']' :: rest)
      | rest => (some (.next .trailingCharacters rest), rest)
  | [] => (some (.next .endInList []), [])
  | rest => (some (.next .trailingCharacters rest), rest)

/-- The end of an object: the fault if there is one, and how far it was read. -/
def closeObject (rest : List Char) : Option Fault × List Char :=
  match skipBlanks rest with
  | '\x7d' :: rest => (none, rest)
  | ',' :: rest => (some (.next .trailingComma (',' :: rest)), ',' :: rest)
  | [] => (some (.next .endInObject []), [])
  | rest => (some (.next .trailingCharacters rest), rest)

/-- How many containers may be open at once, and one more. -/
def depthLimit : Nat := 128

mutual

/-- A value; `depth` bounds the containers that may still be opened, the fuel the steps. -/
def readValue : Nat → Nat → List Char → Except Fault (Parsed Value)
  | 0, _, rest => .error (.here .tooDeep rest)
  | fuel + 1, depth, rest =>
      match skipBlanks rest with
      | [] => .error (.next .endInValue [])
      | 'n' :: rest => do
          let (_, rest) ← readWord ['u', 'l', 'l'] rest
          return (.null, rest)
      | 't' :: rest => do
          let (_, rest) ← readWord ['r', 'u', 'e'] rest
          return (.boolean true, rest)
      | 'f' :: rest => do
          let (_, rest) ← readWord ['a', 'l', 's', 'e'] rest
          return (.boolean false, rest)
      | '-' :: rest => do
          let (n, rest) ← readNumber true rest
          return (.number n, rest)
      | '"' :: rest => do
          let (s, rest) ← readText rest
          return (.text s, rest)
      | '[' :: rest =>
          if depth ≤ 1 then .error (.next .tooDeep ('[' :: rest))
          else do
            let (items, rest) ← readItems fuel (depth - 1) true rest
            return (.array items, rest)
      | '\x7b' :: rest =>
          if depth ≤ 1 then .error (.next .tooDeep ('\x7b' :: rest))
          else do
            let (entries, rest) ← readEntries fuel (depth - 1) true rest
            return (.ofEntries entries, rest)
      | c :: rest =>
          if isDigit c then do
            let (n, rest) ← readNumber false (c :: rest)
            return (.number n, rest)
          else .error (.next .expectedValue (c :: rest))

def readItems : Nat → Nat → Bool → List Char → Except Fault (Parsed (List Value))
  | 0, _, _, rest => .error (.here .tooDeep rest)
  | fuel + 1, depth, first, rest => do
      let (more, rest) ← nextItem first rest
      if more then
        let (v, rest) ← readValue fuel depth rest
        let (vs, rest) ← readItems fuel depth false rest
        return (v :: vs, rest)
      else return ([], rest.drop 1)

/-- The entries of an object up to and with its brace, in the order of the text. -/
def readEntries : Nat → Nat → Bool → List Char → Except Fault (Parsed (List (String × Value)))
  | 0, _, _, rest => .error (.here .tooDeep rest)
  | fuel + 1, depth, first, rest => do
      let (more, rest) ← nextKey first rest
      if more then
        let (key, rest) ← readText rest
        let (_, rest) ← readColon rest
        let (v, rest) ← readValue fuel depth rest
        let (entries, rest) ← readEntries fuel depth false rest
        return ((key, v) :: entries, rest)
      else return ([], rest.drop 1)

end

/-- Enough steps for any text of the given length: each takes a character or closes a container. -/
def stepsFor (rest : List Char) : Nat := 2 * rest.length + 2

/-- What stands in front of the text where something else was expected. -/
def mismatch (expected : String) (rest : List Char) : Fault :=
  let wrong (found : Found) (rest : List Char) : Fault :=
    .here (.invalidType found expected) rest
  let word (chars : List Char) (found : Found) (rest : List Char) : Fault :=
    match readWord chars rest with
    | .ok (_, rest) => wrong found rest
    | .error fault => fault
  let number (negative : Bool) (rest : List Char) : Fault :=
    match readNumber negative rest with
    | .ok (n, rest) => wrong (.number n) rest
    | .error fault => fault
  match rest with
  | [] => .next .expectedValue []
  | 'n' :: rest => word ['u', 'l', 'l'] .null rest
  | 't' :: rest => word ['r', 'u', 'e'] (.boolean true) rest
  | 'f' :: rest => word ['a', 'l', 's', 'e'] (.boolean false) rest
  | '-' :: rest => number true rest
  | '"' :: rest =>
      match readText rest with
      | .ok (s, rest) => wrong (.text s) rest
      | .error fault => fault
  | '[' :: rest => wrong .sequence ('[' :: rest)
  | '\x7b' :: rest => wrong .map ('\x7b' :: rest)
  | c :: rest =>
      if isDigit c then number false (c :: rest) else .next .expectedValue (c :: rest)

/-- Reads one thing that fills the text but for blanks. -/
def readAll (read : List Char → Except Fault (Parsed α)) (text : String) : Except ReadError α :=
  let chars := text.toList
  match read chars with
  | .error fault => .error (fault.report chars)
  | .ok (a, rest) =>
      match skipBlanks rest with
      | [] => .ok a
      | rest => .error ((Fault.next .trailingCharacters rest).report chars)

def readObject (rest : List Char) : Except Fault (Parsed (List (String × Value))) :=
  match skipBlanks rest with
  | [] => .error (.next .endInValue [])
  | '\x7b' :: rest => do
      let (entries, rest) ← readEntries (stepsFor rest) (depthLimit - 1) true rest
      return (entries.foldl (fun sorted (k, v) => insertEntry k v sorted) [], rest)
  | rest => .error (mismatch "a map" rest)

def parseObject (text : String) : Except ReadError (List (String × Value)) :=
  readAll readObject text

def parse (text : String) : Except ReadError Value :=
  readAll (fun rest => readValue (stepsFor rest) depthLimit rest) text

end RigidWorlds.Json
