import ScriptRealm.Toml.Scalar

/-!
# Reading documents

A document is a sequence of lines: headers, pairs of a key and a value,
comments and empty lines. A value ends on its line unless it is an array,
a table in braces or a text in triple quotes.

The readers take characters off the front of a text and fail if it is not
as it should be. Those that repeat do so for a given number of rounds;
each round takes at least one character, so the length of the text is
enough. Only the nesting of values and the length of keys have a bound of
their own, `maxDepth`.
-/

set_option autoImplicit false

namespace ScriptRealm.Toml

/-- How deep arrays and tables in braces may stand in each other, and how
many parts a key may have. -/
def maxDepth : Nat := 80

/-- Takes characters off the front of a text. -/
abbrev Reader : Type → Type := StateT (List Char) Option

namespace Reader

/-- The next character, which stays. -/
def peek? : Reader (Option Char) := do return (← get).head?

/-- Takes the given characters if they are next. -/
def accept (text : List Char) : Reader Bool := do
  let cs ← get
  if text.isPrefixOf cs then
    set (cs.drop text.length)
    return true
  else
    return false

/-- Takes the given characters, which must be next. -/
def expect (text : List Char) : Reader Unit := do
  unless ← accept text do failure

/-- Takes the longest run of characters of a class. -/
def takeWhile (p : Char → Bool) : Reader (List Char) := do
  let cs ← get
  set (cs.dropWhile p)
  return cs.takeWhile p

/-- Takes the next character. -/
def next : Reader Char := do
  match ← get with
  | c :: rest =>
      set rest
      return c
  | [] => failure

/-! ### Layout -/

/-- A blank within a line. -/
def isInlineBlank (c : Char) : Bool := c == ' ' || c == '\t'

/-- Takes the blanks within a line. -/
def skipBlanks : Reader Unit := modify (·.dropWhile isInlineBlank)

/-- A character that may stand in a text or a comment: no control
character but the tabulator. -/
def isText (c : Char) : Bool := c == '\t' || (' ' ≤ c && c != '\x7f')

/-- Takes a line break if one is next. -/
def lineBreak : Reader Bool := do
  if ← accept ['\n'] then return true else accept ['\r', '\n']

/-- Takes a comment if one is next. -/
def comment : Reader Unit := do
  if ← accept ['#'] then
    let _ ← takeWhile isText

/-- The end of a line, after blanks and a comment. -/
def lineEnd : Reader Unit := do
  skipBlanks
  comment
  unless (← get).isEmpty do
    unless ← lineBreak do failure

/-- The text after its blanks and line breaks. -/
def afterBreaks : List Char → List Char
  | '\n' :: rest | '\r' :: '\n' :: rest => afterBreaks rest
  | c :: rest => if isInlineBlank c then afterBreaks rest else c :: rest
  | [] => []

/-- The text after its blanks, comments and line breaks. A comment ends at
the first character that may not stand in it. -/
def afterLayout (inComment : Bool) : List Char → List Char
  | '\n' :: rest | '\r' :: '\n' :: rest => afterLayout false rest
  | c :: rest =>
      if inComment then
        if isText c then afterLayout true rest else c :: rest
      else if c == '#' then afterLayout true rest
      else if isInlineBlank c then afterLayout false rest
      else c :: rest
  | [] => []

/-- Takes blanks, comments and line breaks as far as they go. -/
def skipLayout : Reader Unit := modify (afterLayout false)

/-! ### Texts in quotes -/

/-- The character with a code of the given number of digits. -/
def codePoint (digits : Nat) : Reader Char := do
  let cs ← get
  set (cs.drop digits)
  match Literal.numeral? 16 (cs.take digits) with
  | some n =>
      if (cs.take digits).length = digits ∧ n.isValidChar then return Char.ofNat n else failure
  | none => failure

/-- The character that an escape stands for, after its backslash. -/
def escape : Reader Char := do
  match ← next with
  | 'b' => return '\x08'
  | 't' => return '\t'
  | 'n' => return '\n'
  | 'f' => return '\x0c'
  | 'r' => return '\r'
  | 'e' => return '\x1b'
  | '"' => return '"'
  | '\\' => return '\\'
  | 'x' => codePoint 2
  | 'u' => codePoint 4
  | 'U' => codePoint 8
  | _ => failure

/-- A text on one line up to its closing double quote. -/
def basicText : Nat → Reader (List Char)
  | 0 => failure
  | rounds + 1 => do
      match ← next with
      | '"' => return []
      | '\\' => return (← escape) :: (← basicText rounds)
      | c => if isText c then return c :: (← basicText rounds) else failure

/-- A text on one line up to its closing single quote. -/
def literalText : Reader (List Char) := do
  let text ← takeWhile fun c => isText c && c != '\''
  expect ['\'']
  return text

/-- The characters of the quotes at the end of a text in triple quotes
that belong to the text, if its end is next. -/
def closing? (quote : Char) : Reader (Option (List Char)) := do
  let cs ← get
  let run := (cs.takeWhile (· == quote)).length
  if run < 3 then return none
  else
    -- Up to two quotes may stand right before the closing three.
    let taken := min run 5
    set (cs.drop taken)
    return some (List.replicate (taken - 3) quote)

/-- A line ended by a backslash goes on at the next character that is no
blank and no line break. -/
def lineJoin : Reader Bool := do
  let cs ← get
  skipBlanks
  if ← lineBreak then
    modify afterBreaks
    return true
  else
    -- No line break followed, so the blanks belong to the text.
    set cs
    return false

/-- A text up to its closing triple quotes. -/
def longText (quote : Char) (escapes : Bool) : Nat → Reader (List Char)
  | 0 => failure
  | rounds + 1 => do
      match ← closing? quote with
      | some quotes => return quotes
      | none =>
          if ← lineBreak then
            return '\n' :: (← longText quote escapes rounds)
          else
            match ← next with
            | '\\' =>
                if !escapes then
                  return '\\' :: (← longText quote escapes rounds)
                else if ← lineJoin then
                  longText quote escapes rounds
                else
                  return (← escape) :: (← longText quote escapes rounds)
            | c => if isText c then return c :: (← longText quote escapes rounds) else failure

/-- A text in triple quotes, after the opening ones. A line break right
after them is not part of it. -/
def longTextBody (quote : Char) (escapes : Bool) : Reader String := do
  let _ ← lineBreak
  return String.ofList (← longText quote escapes ((← get).length + 1))

/-- A text in quotes of any kind, if one is next. -/
def quoted? : Reader (Option String) := do
  if ← accept ['"', '"', '"'] then
    return some (← longTextBody '"' true)
  else if ← accept ['\'', '\'', '\''] then
    return some (← longTextBody '\'' false)
  else if ← accept ['"'] then
    return some (String.ofList (← basicText ((← get).length + 1)))
  else if ← accept ['\''] then
    return some (String.ofList (← literalText))
  else
    return none

/-! ### Keys -/

/-- A character of a key without quotes. -/
def isKeyChar (c : Char) : Bool := c.isAlphanum || c == '_' || c == '-'

/-- One part of a key. -/
def keyPart : Reader String := do
  if ← accept ['"'] then
    return String.ofList (← basicText ((← get).length + 1))
  else if ← accept ['\''] then
    return String.ofList (← literalText)
  else
    let name ← takeWhile isKeyChar
    if name.isEmpty then failure else return String.ofList name

/-- Parts of a key, divided by points, at most the given number of them. -/
def keyParts : Nat → Reader (List String)
  | 0 => failure
  | bound + 1 => do
      skipBlanks
      let part ← keyPart
      skipBlanks
      if ← accept ['.'] then
        return part :: (← keyParts bound)
      else
        return [part]

/-- The parts of a key. -/
def key : Reader (List String) := keyParts maxDepth

/-! ### Values -/

/-- A character of a scalar without quotes. -/
def isScalarChar (c : Char) : Bool :=
  c.isAlphanum || c == '_' || c == '-' || c == '+' || c == '.' || c == ':'

/-- A scalar without quotes. A date may be followed by a blank and a
time. -/
def scalar : Reader Node := do
  let first ← takeWhile isScalarChar
  let rest ← get
  match isDate first, rest with
  -- Without a digit after it, the blank belongs to what follows the value.
  | true, ' ' :: c :: _ =>
      if c.isDigit then
        set (rest.drop 1)
        let time ← takeWhile isScalarChar
        (scalar? (first ++ ' ' :: time) : Option Node)
      else
        (scalar? first : Option Node)
  | _, _ => (scalar? first : Option Node)

mutual

/-- A value in which arrays and tables stand at most `depth` deep in each
other. -/
def value (depth : Nat) : Nat → Reader Node
  | 0 => failure
  | rounds + 1 => do
      match ← quoted? with
      | some text => return .string text
      | none =>
          if ← accept ['['] then
            -- The nesting is bounded apart from the rounds.
            if depth = 0 then failure
            return .array (← items (depth - 1) rounds)
          else if ← accept ['\x7b'] then
            if depth = 0 then failure
            return .inlineTable (← pairs (depth - 1) rounds [])
          else
            scalar

/-- The items of an array up to its closing bracket. -/
def items (depth : Nat) : Nat → Reader (List Node)
  | 0 => failure
  | rounds + 1 => do
      skipLayout
      if ← accept [']'] then
        return []
      else
        let item ← value depth rounds
        skipLayout
        if ← accept [','] then
          return item :: (← items depth rounds)
        else
          expect [']']
          return [item]

/-- The pairs of a table in braces up to the closing one, added to the
entries there are. -/
def pairs (depth : Nat) : Nat → Entries → Reader Entries
  | 0, _ => failure
  | rounds + 1, entries => do
      skipLayout
      if ← accept ['\x7d'] then
        return entries
      else
        let parts ← key
        skipLayout
        expect ['=']
        skipLayout
        let node ← value depth rounds
        let entries ← (entries.insert parts node : Option Entries)
        skipLayout
        if ← accept [','] then
          pairs depth rounds entries
        else
          expect ['\x7d']
          return entries

end

/-! ### Lines -/

/-- Reads the lines of a document. `path` leads to the table that the last
header opened. -/
def lines : Nat → (path : List String) → Entries → Reader Entries
  | 0, _, entries => do
      if (← get).isEmpty then return entries else failure
  | rounds + 1, path, entries => do
      skipLayout
      if (← get).isEmpty then
        return entries
      else if ← accept ['[', '['] then
        let parts ← key
        expect [']', ']']
        lineEnd
        let last ← (parts.getLast? : Option String)
        -- The tables on the way are opened as far as they are missing.
        let entries ← (entries.alongHeader (Entries.openElement last) parts.dropLast :
          Option Entries)
        lines rounds parts entries
      else if ← accept ['['] then
        let parts ← key
        expect [']']
        lineEnd
        let last ← (parts.getLast? : Option String)
        let entries ← (entries.alongHeader (Entries.openTable last) parts.dropLast :
          Option Entries)
        lines rounds parts entries
      else
        let parts ← key
        expect ['=']
        skipBlanks
        let node ← value maxDepth rounds
        lineEnd
        let entries ← (entries.alongHeader (Entries.insert parts node) path : Option Entries)
        lines rounds path entries

end Reader

/-- The entries of a document. A byte order mark at its front is not part
of it. -/
def parse? (text : String) : Option Entries :=
  let cs := match text.toList with
    | '\uFEFF' :: rest => rest
    | cs => cs
  ((Reader.lines (cs.length + 1) [] []).run cs).map Prod.fst

end ScriptRealm.Toml
