/-!
# The YAML of rehearsals

One document of block and flow collections with plain and quoted scalars. Anchors, tags, block
scalars, directives and keys marked by a question mark are refused.

A cursor is what is left of a text, with the line, the column and the number of characters that
precede it. Line ends are made one character each beforehand, so that a line number and a column
can be kept by looking at single characters.

A scalar may run over several lines. A line end inside of it is folded: a single one becomes a
space, and of several the first is dropped. A scalar keeps whether it was quoted, because an
unquoted one may stand for the absence of a value.

A block collection is held together by the column at which its entries begin. A key has to begin
where a key may, has to stand on one line with its colon, and is at most 1024 characters long; a
key may begin at the start of a line, after a dash, and inside brackets.

Every function below hands on a smaller bound than it was given. The bound that `document?` starts
with is twice the length of the text, and since no two calls in a row leave the cursor where it is,
it is never used up.
-/

namespace GatedRollout.Yaml

/-! ## Characters -/

def isBlank (c : Char) : Bool := c == ' ' || c == '\t'

/-- Line ends, once they are one character each. -/
def isBreak (c : Char) : Bool := c == '\n' || c == '\u2028' || c == '\u2029'

def atBoundary : List Char → Bool
  | [] => true
  | c :: _ => isBlank c || isBreak c

def isPrintable (c : Char) : Bool :=
  let n := c.toNat
  n == 0x9 || n == 0xA || n == 0xD || (0x20 ≤ n && n ≤ 0x7E) || n == 0x85 ||
    (0xA0 ≤ n && n ≤ 0xD7FF) || (0xE000 ≤ n && n ≤ 0xFFFD) || 0x10000 ≤ n

/-- The text with every line end of one or two characters as a newline, the separators of lines
and paragraphs apart. -/
def unifyLineEnds : List Char → List Char
  | '\r' :: '\n' :: rest => '\n' :: unifyLineEnds rest
  | '\r' :: rest => '\n' :: unifyLineEnds rest
  | c :: rest => (if c == '\u0085' then '\n' else c) :: unifyLineEnds rest
  | [] => []

/-! ## Cursors -/

structure Position where
  line : Nat := 0
  column : Nat := 0
  index : Nat := 0
  deriving DecidableEq, Repr

def Position.after (p : Position) (c : Char) : Position :=
  if isBreak c then ⟨p.line + 1, 0, p.index + 1⟩ else ⟨p.line, p.column + 1, p.index + 1⟩

structure Cursor where
  position : Position
  rest : List Char
  deriving DecidableEq, Repr

namespace Cursor

def column (c : Cursor) : Nat := c.position.column

def drop (c : Cursor) : Nat → Cursor
  | 0 => c
  | n + 1 =>
      match c.rest with
      | [] => c
      | x :: rest => Cursor.drop ⟨c.position.after x, rest⟩ n

def beginsMarker (c : Cursor) (marker : List Char) : Bool :=
  c.column == 0 && marker.isPrefixOf c.rest && atBoundary (c.rest.drop marker.length)

def atDocumentStart (c : Cursor) : Bool := c.beginsMarker ['-', '-', '-']

def atDocumentEnd (c : Cursor) : Bool := c.beginsMarker ['.', '.', '.']

def atEnd (c : Cursor) : Bool := c.rest.isEmpty || c.atDocumentStart || c.atDocumentEnd

def atIndicator (c : Cursor) (indicator : Char) : Bool :=
  match c.rest with
  | x :: rest => x == indicator && atBoundary rest
  | [] => false

/-! ## Between tokens -/

/-- Pass blanks, comments and line ends. A line end makes the cursor fresh: a key may begin there.
Outside of brackets a tab is no blank where a key may begin. -/
def skipFrom (flow : Bool) (fresh comment : Bool) (p : Position) : List Char → Cursor × Bool
  | [] => (⟨p, []⟩, fresh)
  | c :: rest =>
      if isBreak c then skipFrom flow (fresh || !flow) false (p.after c) rest
      else if comment || c == ' ' || (c == '\t' && (flow || !fresh)) then
        skipFrom flow fresh comment (p.after c) rest
      else if c == '#' then skipFrom flow fresh true (p.after c) rest
      else (⟨p, c :: rest⟩, fresh)

def skip (c : Cursor) (fresh : Bool) : Cursor × Bool := skipFrom false fresh false c.position c.rest

def skipInFlow (c : Cursor) : Cursor := (skipFrom true false false c.position c.rest).1

end Cursor

/-! ## Gaps between words -/

/-- The blanks or line ends since the last character that counts, in reverse. -/
inductive Gap
  | none
  | blanks (cs : List Char)
  | breaks (first : Char) (more : List Char)
  /-- A line end that is not part of the text, and the further ones after it. -/
  | joined (more : List Char)
  deriving DecidableEq, Repr

namespace Gap

def crossesLine : Gap → Bool
  | breaks _ _ => true
  | joined _ => true
  | _ => false

/-- The gap with a further blank. At the start of a line blanks do not count. -/
def pushBlank (g : Gap) (c : Char) : Gap :=
  match g with
  | none => blanks [c]
  | blanks cs => blanks (c :: cs)
  | g => g

/-- The gap with a further line end. Blanks before it do not count. -/
def pushBreak (g : Gap) (c : Char) : Gap :=
  match g with
  | none => breaks c []
  | blanks _ => breaks c []
  | breaks first more => breaks first (c :: more)
  | joined more => joined (c :: more)

def fold : Gap → List Char
  | none => []
  | blanks cs => cs
  | breaks '\n' [] => [' ']
  | breaks '\n' more => more
  | breaks first more => more ++ [first]
  | joined more => more

end Gap

/-- A scalar that was read: its text, where it ended, and whether a line end was passed after its
last character. -/
structure Scanned where
  text : String
  cursor : Cursor
  crossed : Bool

/-! ## Plain scalars -/

def indicators : List Char :=
  ['-', '?', ':', ',', '[', ']', '\x7b', '\x7d', '#', '&', '*', '!', '|', '>', '\'', '"', '%', '@',
    '\x60']

def flowIndicators : List Char := [',', '[', ']', '\x7b', '\x7d']

def beginsPlain (flow : Bool) : List Char → Bool
  | [] => false
  | c :: rest =>
      !isBlank c && !isBreak c &&
        (!indicators.contains c ||
          (c == '-' && !atBoundary rest) ||
          (!flow && (c == '?' || c == ':') && !atBoundary rest))

/-- Read a plain scalar. It ends at a colon before a boundary, at a comment, at a document marker,
inside brackets at a comma or bracket, and outside of them at a line that is not indented by
`indent`. -/
def plainFrom (flow : Bool) (indent : Nat) (p : Position) (acc : List Char) (gap : Gap)
    (started : Bool) : List Char → Option Scanned
  | [] => some ⟨String.ofList acc.reverse, ⟨p, []⟩, gap.crossesLine⟩
  | c :: rest =>
      let stop := some ⟨String.ofList acc.reverse, ⟨p, c :: rest⟩, gap.crossesLine⟩
      if isBlank c then
        if c == '\t' && gap.crossesLine && p.column < indent then none
        else plainFrom flow indent (p.after c) acc (gap.pushBlank c) started rest
      else if isBreak c then
        plainFrom flow indent (p.after c) acc (gap.pushBreak c) started rest
      else
        let afterGap := !started || gap != .none
        if afterGap && gap.crossesLine && !flow && p.column < indent then stop
        else if afterGap && (Cursor.mk p (c :: rest)).atEnd then stop
        else if afterGap && c == '#' then stop
        else if flow && c == ':' && (rest.head?.any fun x => x == '?' || flowIndicators.contains x)
        then none
        else if c == ':' && atBoundary rest then stop
        else if flow && flowIndicators.contains c then stop
        else plainFrom flow indent (p.after c) (c :: (gap.fold ++ acc)) .none true rest

def plain? (flow : Bool) (indent : Nat) (c : Cursor) : Option Scanned :=
  plainFrom flow indent c.position [] .none false c.rest

/-! ## Quoted scalars -/

/-- Read a scalar in single quotes, after the first of them. A quote inside is written twice. -/
def singleFrom (p : Position) (acc : List Char) (gap : Gap) : List Char → Option Scanned
  | [] => none
  | '\'' :: '\'' :: rest =>
      singleFrom ((p.after '\'').after '\'') ('\'' :: (gap.fold ++ acc)) .none rest
  | c :: rest =>
      if isBlank c then singleFrom (p.after c) acc (gap.pushBlank c) rest
      else if isBreak c then singleFrom (p.after c) acc (gap.pushBreak c) rest
      else if (Cursor.mk p (c :: rest)).atEnd then none
      else if c == '\'' then
        some ⟨String.ofList (gap.fold ++ acc).reverse, ⟨p.after c, rest⟩, false⟩
      else singleFrom (p.after c) (c :: (gap.fold ++ acc)) .none rest

def simpleEscapes : List (Char × Char) :=
  [('0', '\x00'), ('a', '\x07'), ('b', '\x08'), ('t', '\t'), ('\t', '\t'), ('n', '\n'),
    ('v', '\x0b'), ('f', '\x0c'), ('r', '\r'), ('e', '\x1b'), (' ', ' '), ('"', '"'), ('/', '/'),
    ('\\', '\\'), ('N', '\u0085'), ('_', '\u00a0'), ('L', '\u2028'), ('P', '\u2029')]

def escapeWidth : Char → Option Nat
  | 'x' => some 2
  | 'u' => some 4
  | 'U' => some 8
  | _ => none

def hexValue? (c : Char) : Option Nat :=
  if c.isDigit then some (c.toNat - '0'.toNat)
  else if 'a' ≤ c ∧ c ≤ 'f' then some (c.toNat - 'a'.toNat + 10)
  else if 'A' ≤ c ∧ c ≤ 'F' then some (c.toNat - 'A'.toNat + 10)
  else none

/-- The character with this code point, surrogates being none. -/
def charOfCode? (n : Nat) : Option Char := if n.isValidChar then some (Char.ofNat n) else none

inductive Escape
  | none
  | begun
  | digits (left value : Nat)
  deriving DecidableEq, Repr

def doubleFrom (p : Position) (acc : List Char) (gap : Gap) (escape : Escape) :
    List Char → Option Scanned
  | [] => none
  | c :: rest =>
      match escape with
      | .begun =>
          if isBreak c then doubleFrom (p.after c) acc (.joined []) .none rest
          else
            match simpleEscapes.lookup c with
            | some x => doubleFrom (p.after c) (x :: acc) .none .none rest
            | none => do
                let width ← escapeWidth c
                doubleFrom (p.after c) acc .none (.digits width 0) rest
      | .digits left value => do
          let digit ← hexValue? c
          let value := value * 16 + digit
          if left ≤ 1 then
            let x ← charOfCode? value
            doubleFrom (p.after c) (x :: acc) .none .none rest
          else doubleFrom (p.after c) acc .none (.digits (left - 1) value) rest
      | .none =>
          if isBlank c then doubleFrom (p.after c) acc (gap.pushBlank c) .none rest
          else if isBreak c then doubleFrom (p.after c) acc (gap.pushBreak c) .none rest
          else if (Cursor.mk p (c :: rest)).atEnd then none
          else if c == '"' then
            some ⟨String.ofList (gap.fold ++ acc).reverse, ⟨p.after c, rest⟩, false⟩
          else if c == '\\' then doubleFrom (p.after c) (gap.fold ++ acc) .none .begun rest
          else doubleFrom (p.after c) (c :: (gap.fold ++ acc)) .none .none rest

def quoted? (c : Cursor) : Option Scanned :=
  match c.rest with
  | '\'' :: rest => singleFrom (c.position.after '\'') [] .none rest
  | '"' :: rest => doubleFrom (c.position.after '"') [] .none .none rest
  | _ => none

/-! ## Nodes -/

inductive Node
  | scalar (text : String) (quoted : Bool)
  | sequence (items : List Node)
  | mapping (pairs : List (Node × Node))

namespace Node

def empty : Node := .scalar "" false

instance : Inhabited Node := ⟨empty⟩

def text? : Node → Option String
  | scalar text _ => some text
  | _ => none

def isNull : Node → Bool
  | scalar text false => ["", "~", "null", "Null", "NULL"].contains text
  | _ => false

end Node

/-! ## Collections -/

/-- A node that was read, the cursor at the token after it, and whether a key may begin there. -/
structure Read where
  node : Node
  cursor : Cursor
  fresh : Bool

def isKeyBetween (start colon : Cursor) : Bool :=
  start.position.line == colon.position.line &&
    colon.position.index ≤ start.position.index + 1024

mutual

def readInline (flow : Bool) (indent : Nat) (c : Cursor) : Nat → Option (Node × Cursor × Bool)
  | 0 => none
  | bound + 1 =>
      match c.rest with
      | '[' :: _ => readFlowItems indent (c.drop 1) [] bound
      | '\x7b' :: _ => readFlowPairs indent (c.drop 1) [] bound
      | '\'' :: _ => (quoted? c).map fun s => (.scalar s.text true, s.cursor, false)
      | '"' :: _ => (quoted? c).map fun s => (.scalar s.text true, s.cursor, false)
      | _ =>
          if beginsPlain flow c.rest then
            (plain? flow indent c).map fun s => (.scalar s.text false, s.cursor, s.crossed)
          else none

def readFlowValue (indent : Nat) (c : Cursor) : Nat → Option (Node × Cursor)
  | 0 => none
  | bound + 1 =>
      let c := c.skipInFlow
      match c.rest with
      | ',' :: _ => some (.empty, c)
      | ']' :: _ => some (.empty, c)
      | '\x7d' :: _ => some (.empty, c)
      | _ =>
          if c.atEnd then none
          else (readInline true indent c bound).map fun (node, c, _) => (node, c.skipInFlow)

/-- The items of a flow sequence. An item may be a single pair. -/
def readFlowItems (indent : Nat) (c : Cursor) (items : List Node) :
    Nat → Option (Node × Cursor × Bool)
  | 0 => none
  | bound + 1 =>
      let c := c.skipInFlow
      if c.atEnd then none
      else if c.rest.head? == some ']' then
        some (.sequence items.reverse, c.drop 1, false)
      else do
        let (node, d, _) ← readInline true indent c bound
        let d := d.skipInFlow
        let (item, d) ←
          if d.rest.head? == some ':' then
            if isKeyBetween c d then
              (readFlowValue indent (d.drop 1) bound).map fun (value, d) =>
                (.mapping [(node, value)], d)
            else none
          else some (node, d)
        match d.rest with
        | ',' :: _ => readFlowItems indent (d.drop 1) (item :: items) bound
        | ']' :: _ => some (.sequence (item :: items).reverse, d.drop 1, false)
        | _ => none

/-- The pairs of a flow mapping. A key may stand without a value. -/
def readFlowPairs (indent : Nat) (c : Cursor) (pairs : List (Node × Node)) :
    Nat → Option (Node × Cursor × Bool)
  | 0 => none
  | bound + 1 =>
      let c := c.skipInFlow
      if c.atEnd then none
      else if c.rest.head? == some '\x7d' then
        some (.mapping pairs.reverse, c.drop 1, false)
      else do
        let (key, d, _) ← readInline true indent c bound
        let d := d.skipInFlow
        let (value, d) ←
          if d.rest.head? == some ':' then
            if isKeyBetween c d then readFlowValue indent (d.drop 1) bound else none
          else some (.empty, d)
        match d.rest with
        | ',' :: _ => readFlowPairs indent (d.drop 1) ((key, value) :: pairs) bound
        | '\x7d' :: _ => some (.mapping ((key, value) :: pairs).reverse, d.drop 1, false)
        | _ => none

def readNode (indent : Nat) (c : Cursor) (fresh : Bool) : Nat → Option Read
  | 0 => none
  | bound + 1 =>
      if c.atIndicator '-' then
        if fresh then readItems c.column false c [] bound else none
      else do
        let (node, d, crossed) ← readInline false indent c bound
        let (d, after) := d.skip crossed
        if d.atIndicator ':' then
          if fresh && isKeyBetween c d then readPairs c.column node d [] bound else none
        else some ⟨node, d, after⟩

/-- The items of a block sequence, from a dash on. A sequence that stands at the column of the
mapping around it ends where that goes on. -/
def readItems (column : Nat) (shared : Bool) (c : Cursor) (items : List Node) :
    Nat → Option Read
  | 0 => none
  | bound + 1 => do
      let (e, fresh) := (c.drop 1).skip true
      let item ←
        if !e.atEnd && column < e.column then readNode (column + 1) e true bound
        else some ⟨.empty, e, fresh⟩
      let items := item.node :: items
      let d := item.cursor
      let all : Read := ⟨.sequence items.reverse, d, item.fresh⟩
      if d.atEnd || d.column < column then some all
      else if item.fresh && d.column == column then
        if d.atIndicator '-' then readItems column shared d items bound
        else if shared then some all
        else none
      else none

def readPairs (column : Nat) (key : Node) (colon : Cursor) (pairs : List (Node × Node)) :
    Nat → Option Read
  | 0 => none
  | bound + 1 => do
      let (e, fresh) := (colon.drop 1).skip false
      let value ←
        if e.atEnd then some ⟨.empty, e, fresh⟩
        else if !fresh || column < e.column then readNode (column + 1) e fresh bound
        else if e.column == column && e.atIndicator '-' then readItems column true e [] bound
        else some ⟨.empty, e, fresh⟩
      let pairs := (key, value.node) :: pairs
      let d := value.cursor
      if d.atEnd || d.column < column then some ⟨.mapping pairs.reverse, d, value.fresh⟩
      else if value.fresh && d.column == column then do
        let (key, next, crossed) ← readInline false (column + 1) d bound
        let (next, _) := next.skip crossed
        if next.atIndicator ':' && isKeyBetween d next then
          readPairs column key next pairs bound
        else none
      else none

end

def endsStream (c : Cursor) : Nat → Bool
  | 0 => false
  | bound + 1 =>
      c.rest.isEmpty || (c.atDocumentEnd && endsStream ((c.drop 3).skip false).1 bound)

/-- The root node of a text that holds a single document. -/
def document? (text : String) : Option Node := do
  let chars := text.toList
  guard (chars.all isPrintable)
  let chars := unifyLineEnds (if chars.head? == some '\ufeff' then chars.drop 1 else chars)
  let bound := 2 * chars.length + 4
  let (c, fresh) := (Cursor.mk {} chars).skip true
  let (c, fresh) := if c.atDocumentStart then (c.drop 3).skip false else (c, fresh)
  let root ← if c.atEnd then some ⟨.empty, c, fresh⟩ else readNode 0 c fresh bound
  guard (endsStream root.cursor bound)
  return root.node

end GatedRollout.Yaml
