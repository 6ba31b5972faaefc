import Morphing.Yaml.Cursor

/-!
# YAML scalars

A scalar is plain, quoted or a block of lines. Plain and quoted scalars can run over several lines,
which are folded: a single line break becomes a space, and of several the first is lost. The lines
of a block are joined as they are, or folded where neither of two lines is indented.
-/

namespace Morphing.Yaml

/-! ## Gaps -/

/-- What stands between two words of a scalar: blanks of the same line, or line breaks, the first of
them apart. -/
structure Gap where
  blanks : Text := []
  broken : Bool := false
  first : Text := []
  more : Text := []

namespace Gap

/-- What becomes of a gap when its scalar goes on. -/
def fold (g : Gap) : Text :=
  if !g.broken then g.blanks
  else if g.first.head? == some '\n' then if g.more.isEmpty then [' '] else g.more
  else g.first ++ g.more

/-- Read on in a gap. Behind a line break, tabs are refused in the columns before `indent`. -/
def read? (indent : Int) : (fuel : Nat) → Gap → Cursor → Option (Gap × Cursor)
  | 0, _, _ => none
  | fuel + 1, g, c =>
    match c.break? with
    | some (b, next) =>
      if g.broken then read? indent fuel { g with more := g.more ++ b } next
      else read? indent fuel { g with blanks := [], broken := true, first := b } next
    | none =>
      match c.rest with
      | [] => some (g, c)
      | char :: _ =>
        if !isSpace char then some (g, c)
        else if !g.broken then
          read? indent fuel { g with blanks := g.blanks ++ [char] } (c.skip 1)
        else if char = '\t' ∧ (c.column : Int) < indent then none
        else read? indent fuel g (c.skip 1)

end Gap

/-! ## Plain scalars -/

/-- Characters that have a meaning of their own in flow style. -/
def isFlowIndicator (c : Char) : Bool :=
  c == ',' || c == '[' || c == ']' || c == '{' || c == '}'

/-- The beginning of a text up to a gap or an indicator that ends a plain scalar. In flow style, a
colon is refused in front of another indicator. -/
def plainWord? (flow : Bool) : Text → Option Text
  | [] => some []
  | c :: rest =>
    if isGap c then some []
    else if flow && c == ':' && rest.head?.any (fun c => isFlowIndicator c || c == '?') then none
    else if (c == ':' && atGap rest) || (flow && isFlowIndicator c) then some []
    else (plainWord? flow rest).map (c :: ·)

/-- A scalar, where it ends, and whether that is on another line than its last word. -/
structure Reading where
  text : Text
  cursor : Cursor
  broken : Bool := false

/-- Read on in a plain scalar behind a gap. In block style, the lines after the first stand at
`indent` at least. -/
def plainWith (flow : Bool) (indent : Int) : (fuel : Nat) → Text → Gap → Cursor → Option Reading
  | 0, _, _, _ => none
  | fuel + 1, text, gap, c =>
    if c.atMarker || c.sees '#' then some ⟨text, c, gap.broken⟩
    else do
      let word ← plainWord? flow c.rest
      if word.isEmpty then return ⟨text, c, gap.broken⟩
      else
        let text := text ++ gap.fold ++ word
        let c := c.skip word.length
        if !c.rest.head?.any isGap then return ⟨text, c, false⟩
        else
          let (gap, c) ← Gap.read? indent (c.rest.length + 1) {} c
          if !flow && (c.column : Int) < indent then return ⟨text, c, gap.broken⟩
          else plainWith flow indent fuel text gap c

/-- Whether a plain scalar can begin with a text. -/
def startsPlain (flow : Bool) : Text → Bool
  | [] => false
  | c :: rest =>
    if c = '-' then !rest.head?.any isSpace
    else if c = '?' ∨ c = ':' then !flow && !atGap rest
    else !(isGap c || isFlowIndicator c || c == '#' || c == '&' || c == '*' || c == '!' ||
      c == '|' || c == '>' || c == '\'' || c == '"' || c == '%' || c == '@' || c.toNat == 0x60)

/-- Read a plain scalar inside a collection that is indented by `indent`. -/
def plain? (flow : Bool) (indent : Int) (c : Cursor) : Option Reading :=
  plainWith flow (indent + 1) (c.rest.length + 1) [] {} c

/-! ## Quoted scalars -/

/-- The beginning of a text between single quotes, where a quote is written twice, up to a gap or
the closing quote, and its length in writing. -/
def singleWord : Text → Text × Nat
  | '\'' :: '\'' :: rest =>
    let (word, length) := singleWord rest
    ('\'' :: word, length + 2)
  | c :: rest =>
    if c = '\'' ∨ isGap c then ([], 0)
    else
      let (word, length) := singleWord rest
      (c :: word, length + 1)
  | [] => ([], 0)

/-- The character that an escape of one letter stands for. -/
def escaped? (c : Char) : Option Char :=
  match c with
  | '0' => some '\x00'
  | 'a' => some '\x07'
  | 'b' => some '\x08'
  | 't' | '\t' => some '\t'
  | 'n' => some '\n'
  | 'v' => some '\x0b'
  | 'f' => some '\x0c'
  | 'r' => some '\r'
  | 'e' => some '\x1b'
  | ' ' => some ' '
  | '"' => some '"'
  | '/' => some '/'
  | '\\' => some '\\'
  | 'N' => some (Char.ofNat 0x85)
  | '_' => some (Char.ofNat 0xA0)
  | 'L' => some (Char.ofNat 0x2028)
  | 'P' => some (Char.ofNat 0x2029)
  | _ => none

/-- The number of digits after an escape that gives a code point. -/
def escapeLength? : Char → Option Nat
  | 'x' => some 2
  | 'u' => some 4
  | 'U' => some 8
  | _ => none

/-- The value of a digit to base sixteen. -/
def digit? (c : Char) : Option Nat :=
  if '0' ≤ c ∧ c ≤ '9' then some (c.toNat - 0x30)
  else if 'a' ≤ c ∧ c ≤ 'f' then some (c.toNat - 0x61 + 10)
  else if 'A' ≤ c ∧ c ≤ 'F' then some (c.toNat - 0x41 + 10)
  else none

/-- The number that digits to base sixteen stand for. -/
def ofHexadecimal? (digits : Text) : Option Nat :=
  digits.foldlM (fun n c => (digit? c).map (n * 16 + ·)) 0

/-- The character whose code point is written with the given digits. -/
def ofCode? (digits : Text) : Option Char := do
  let code ← ofHexadecimal? digits
  if Nat.isValidChar code then some (Char.ofNat code) else none

/-- The beginning of a text between double quotes up to a gap, the closing quote or a backslash at
the end of a line, and its length in writing. -/
def doubleWord? : (fuel : Nat) → Text → Option (Text × Nat)
  | 0, _ => none
  | fuel + 1, t =>
    match t with
    | [] => some ([], 0)
    | '\\' :: c :: rest =>
      if isBreak c then some ([], 0)
      else
        match escaped? c, escapeLength? c with
        | some char, _ => do
          let (word, length) ← doubleWord? fuel rest
          return (char :: word, length + 2)
        | none, some digits => do
          if rest.length < digits then none
          else
            let char ← ofCode? (rest.take digits)
            let (word, length) ← doubleWord? fuel (rest.drop digits)
            return (char :: word, length + digits + 2)
        | none, none => none
    | c :: rest =>
      if c = '"' ∨ isGap c then some ([], 0)
      else if c = '\\' then none
      else do
        let (word, length) ← doubleWord? fuel rest
        return (c :: word, length + 1)

/-- Read on in a quoted scalar. -/
def quotedWith (quote : Char) : (fuel : Nat) → Text → Cursor → Option Reading
  | 0, _, _ => none
  | fuel + 1, text, c => do
    if c.atMarker || c.rest.isEmpty then none
    else
      let (word, length) ←
        if quote = '\'' then some (singleWord c.rest) else doubleWord? (c.rest.length + 1) c.rest
      let text := text ++ word
      let c := c.skip length
      let (gap, c) : Gap × Cursor :=
        if c.sees '\\' then ({ broken := true }, (c.skip 1).nextLine) else ({}, c)
      if c.sees quote then return ⟨text, c.skip 1, false⟩
      else
        let (gap, c) ← Gap.read? 0 (c.rest.length + 1) gap c
        quotedWith quote fuel (text ++ gap.fold) c

/-- Read a quoted scalar, from its opening quote on. -/
def quoted? (quote : Char) (c : Cursor) : Option Reading :=
  quotedWith quote (c.rest.length + 1) [] (c.skip 1)

/-! ## Blocks of lines -/

/-- What becomes of the line breaks at the end of a block of lines. -/
inductive Chomp where
  | clip
  | strip
  | keep
deriving DecidableEq, Repr

/-- How a block of lines is to be read. Its indentation counts from that of the collection it is
in. -/
structure BlockHeader where
  folded : Bool
  chomp : Chomp := .clip
  indent : Option Nat := none

/-- Read the indentation of a block of lines, if it is given. -/
def BlockHeader.indent? (h : BlockHeader) (c : Cursor) : Option (BlockHeader × Cursor) :=
  match c.rest with
  | digit :: _ =>
    if digit = '0' then none
    else if digit.isDigit then
      some ({ h with indent := some (digit.toNat - 0x30) }, c.skip 1)
    else some (h, c)
  | [] => some (h, c)

/-- Read how the end of a block of lines is treated, if it is given. -/
def BlockHeader.chomp? (h : BlockHeader) (c : Cursor) : Option (BlockHeader × Cursor) :=
  match c.rest with
  | '+' :: _ => some ({ h with chomp := .keep }, c.skip 1)
  | '-' :: _ => some ({ h with chomp := .strip }, c.skip 1)
  | _ => none

/-- Read the header of a block of lines, after its indicator, up to the end of the line. -/
def BlockHeader.read? (h : BlockHeader) (c : Cursor) : Option (BlockHeader × Cursor) := do
  let (h, c) ← match h.chomp? c with
    | some (h, c) => h.indent? c
    | none => (h.indent? c).map fun (h, c) =>
      if h.indent.isNone then (h, c) else (h.chomp? c).getD (h, c)
  return (h, ← c.lineEnd?)

/-- What stands before the next line of a block: line breaks, and as many spaces as the block is
indented. -/
structure Margin where
  breaks : Text := []
  /-- The most spaces of any line so far. -/
  widest : Nat := 0

/-- Read up to the next line of a block that is indented by `indent`, or by any number of spaces as
long as that is not known. Tabs are refused within the indentation. -/
def Margin.read? (indent : Option Nat) : (fuel : Nat) → Margin → Cursor → Option (Margin × Cursor)
  | 0, _, _ => none
  | fuel + 1, m, c =>
    let room := indent.map (· - c.column)
    let spaces := (c.rest.takeWhile (· == ' ')).length
    let c := c.skip (room.elim spaces (min spaces))
    let m := { m with widest := max m.widest c.column }
    if c.sees '\t' && indent.all (c.column < ·) then none
    else
      match c.break? with
      | some (b, next) => read? indent fuel { m with breaks := m.breaks ++ b } next
      | none => some (m, c)

/-- What of a block of lines has been read: the break after the last line, those behind it, and
whether the last line begins with a blank. -/
structure BlockText where
  text : Text := []
  last : Text := []
  more : Text := []
  indented : Bool := false

/-- The breaks between two lines of a block. -/
def BlockText.joint (b : BlockText) (folded indented : Bool) : Text :=
  if folded && b.last.head? == some '\n' && !b.indented && !indented then
    if b.more.isEmpty then [' '] else b.more
  else b.last ++ b.more

/-- Read on in a block of lines that is indented by `indent`. -/
def BlockText.read? (folded : Bool) (indent : Nat) :
    (fuel : Nat) → BlockText → Cursor → Option (BlockText × Cursor)
  | 0, _, _ => none
  | fuel + 1, b, c => do
    if c.column ≠ indent || c.rest.isEmpty then return (b, c)
    else
      let indented := c.rest.head?.any isSpace
      let (line, c) := c.take fun c => !isBreak c
      let (last, c) := c.break?.getD ([], c)
      let (margin, c) ← Margin.read? (some indent) (c.rest.length + 1) {} c
      let text := b.text ++ b.joint folded indented ++ line
      BlockText.read? folded indent fuel ⟨text, last, margin.breaks, indented⟩ c

/-- Read a block of lines, from its indicator on, inside a collection that is indented by
`parent`. -/
def block? (folded : Bool) (parent : Int) (c : Cursor) : Option Reading := do
  let (header, c) ← BlockHeader.read? { folded } (c.skip 1)
  let c := c.nextLine
  let given := header.indent.map fun n => (max parent 0).toNat + n
  let (margin, c) ← Margin.read? given (c.rest.length + 1) {} c
  let indent := given.getD (max (max margin.widest (parent + 1).toNat) 1)
  let (b, c) ← BlockText.read? folded indent (c.rest.length + 1) { more := margin.breaks } c
  let ending := match header.chomp with
    | .strip => []
    | .clip => b.last
    | .keep => b.last ++ b.more
  return ⟨b.text ++ ending, c, false⟩

end Morphing.Yaml
