import Terrain.Text.Blank
import Terrain.Text.Half
import Terrain.Text.Hex

/-!
# Tokens of configurations

A configuration is a text whose structure is shown by indentation, by marks, or by both. It is cut
into tokens, among them tokens that no character stands for: the start of a list or map that only
its indentation shows, its end, and the mark of a key, which is known for one only when the colon
after it is read.

* `Scanner` is the state of the cutting: the place, the open indentations, the number of open
  brackets, and for each of them the token that may still turn out to be a key.
* A key stands on one line and has at most `keyReach` characters. A token in a place where a key
  is needed and that turns out to be none is an error.
* Line ends are line feeds here; tabs are no indentation and start no token.
* A text that cannot be cut to its end has the tokens before the flaw, and then one that tells the
  flaw. A token that may still turn out to be a key when the flaw is met, and those after it, are
  not among them.
* Every token but the last takes at least one character, so the length of the text bounds the
  number of steps.
-/

namespace Terrain.Yaml

/-! ## 1. Characters -/

/-- The characters that end a line. -/
def isBreak (c : Char) : Bool :=
  c = '\n' || c.toNat = 0x85 || c.toNat = 0x2028 || c.toNat = 0x2029

/-- A blank, a tab or the end of a line. -/
def isGap (c : Char) : Bool := c = ' ' || c = '\t' || isBreak c

/-- Whether a gap, or the end of the text, comes next. -/
def gapNext (t : Text) : Bool := t.head?.all isGap

/-- The characters a configuration may hold. -/
def isAllowed (c : Char) : Bool :=
  let n := c.toNat
  n = 9 || n = 10 || n = 13 || (0x20 ≤ n && n ≤ 0x7E) || n = 0x85 || (0xA0 ≤ n && n ≤ 0xFFFD) ||
    0x10000 ≤ n

/-- The marks of flow collections. -/
def isFlowMark (c : Char) : Bool := c = ',' || c = '[' || c = ']' || c = '\x7b' || c = '\x7d'

/-- The characters that start no plain scalar, unless something that is no gap follows some of
    them. -/
def isIndicator (c : Char) : Bool :=
  isFlowMark c || "-?:#&*!|>'\"%@`".toList.contains c

/-! ## 2. Places -/

/-- A place in the text: what comes next, the characters before it, its line and its column. -/
structure Place where
  rest : Text
  index : Nat
  line : Nat
  column : Nat

/-- The start of a text. -/
def Place.start (t : Text) : Place := ⟨t, 0, 0, 0⟩

/-- The place after one more character. -/
def Place.next (p : Place) : Place :=
  match p.rest with
  | [] => p
  | c :: r =>
    if isBreak c then ⟨r, p.index + 1, p.line + 1, 0⟩
    else if c.toNat = 0xFEFF then ⟨r, p.index + 1, p.line, p.column⟩
    else ⟨r, p.index + 1, p.line, p.column + 1⟩

/-- The place after `n` more characters. -/
def Place.skip (p : Place) : Nat → Place
  | 0 => p
  | n + 1 => p.next.skip n

/-- The place after the characters of a class. -/
def Place.skipWhile (p : Place) (f : Char → Bool) : Place := p.skip (p.rest.takeWhile f).length

/-- Whether a document starts or ends at a place: three marks at the start of a line, and a gap. -/
def Place.atMark (p : Place) (mark : Char) : Bool :=
  p.rest.take 3 == [mark, mark, mark] && gapNext (p.rest.drop 3)

/-- Whether either mark of documents is next. -/
def Place.atSeparator (p : Place) : Bool := p.atMark '-' || p.atMark '.'

/-! ## 3. Tokens -/

/-- Why a text is no configuration: its structure or a scalar is malformed, an escape names no
    character, or the text ends where it has to go on. -/
inductive Flaw where
  | malformed
  | noCharacter (code : Nat)
  | ended
  deriving DecidableEq, Repr

/-- Tokens. A scalar tells whether it is plain; after a flaw there are no more. -/
inductive Token where
  | documentStart
  | documentEnd
  | directive
  | listStart
  | mapStart
  | blockEnd
  | openList
  | closeList
  | openMap
  | closeMap
  | entry
  | comma
  | key
  | value
  | scalar (plain : Bool) (text : Text)
  | flaw (f : Flaw)
  deriving DecidableEq, Repr

/-- A token that may turn out to be a key: its number, whether it must be one, and its place. -/
structure KeyCandidate where
  number : Nat
  required : Bool
  index : Nat
  line : Nat
  column : Nat

/-- The state of the cutting. Candidates for keys are kept by the number of open brackets, the
    innermost first; indentation is one less than no column outside all lists and maps. -/
structure Scanner where
  place : Place
  tokens : Array Token
  flow : Nat
  indent : Int
  indents : List Int
  keyAllowed : Bool
  candidates : List (Nat × KeyCandidate)

/-- The state at the start of a text. -/
def Scanner.start (t : Text) : Scanner := ⟨.start t, #[], 0, -1, [], true, []⟩

/-- The most characters of a key. -/
def keyReach : Nat := 1024

/-! ## 4. Indentation and keys -/

/-- One more token, at the end. -/
def Scanner.emit (s : Scanner) (t : Token) : Scanner := { s with tokens := s.tokens.push t }

/-- The lists and maps that are open at a column are closed; `fuel` is their number at most. -/
def Scanner.unwindFrom (column : Int) : Nat → Scanner → Scanner
  | 0, s => s
  | fuel + 1, s =>
    if column < s.indent then
      Scanner.unwindFrom column fuel
        ({ s with indent := s.indents.headD (-1), indents := s.indents.drop 1 }.emit .blockEnd)
    else s

/-- The lists and maps indented deeper than a column end. Inside brackets indentation does not
    count. -/
def Scanner.unwind (s : Scanner) (column : Int) : Scanner :=
  if s.flow = 0 then Scanner.unwindFrom column (s.indents.length + 1) s else s

/-- A list or map starts where the column is deeper than the indentation; `true` if it does. -/
def Scanner.deepen (s : Scanner) (column : Int) : Scanner × Bool :=
  if s.indent < column then ({ s with indent := column, indents := s.indent :: s.indents }, true)
  else (s, false)

/-- The candidate of the innermost brackets. -/
def Scanner.candidate? (s : Scanner) : Option KeyCandidate :=
  (s.candidates.find? (·.1 == s.flow)).map (·.2)

/-- The innermost candidate is given up, which it must not be if it is required. -/
def Scanner.giveUp (s : Scanner) : Except Flaw Scanner :=
  match s.candidate? with
  | some k =>
    if k.required then .error .malformed
    else .ok { s with candidates := s.candidates.filter (·.1 != s.flow) }
  | none => .ok s

/-- Candidates on other lines and too far away are given up. -/
def Scanner.dropStale (s : Scanner) : Except Flaw Scanner :=
  let stale (k : KeyCandidate) : Bool :=
    k.line != s.place.line || keyReach < s.place.index - k.index
  if s.candidates.any fun c => stale c.2 && c.2.required then .error .malformed
  else .ok { s with candidates := s.candidates.filter fun c => !stale c.2 }

/-- The next token becomes the candidate, where a key is allowed. It is required to be a key where
    it stands right at the indentation. -/
def Scanner.nominate (s : Scanner) : Except Flaw Scanner :=
  if s.keyAllowed then do
    let s ← s.giveUp
    let p := s.place
    let required := s.flow = 0 && s.indent = (p.column : Int)
    return { s with
      candidates := (s.flow, ⟨s.tokens.size, required, p.index, p.line, p.column⟩) ::
        s.candidates }
  else .ok s

/-- A token put before the token of a number. -/
def insertToken (tokens : Array Token) (number : Nat) (t : Token) : Array Token :=
  let l := tokens.toList
  (l.take number ++ t :: l.drop number).toArray

/-! ## 5. Marks -/

/-- A token of one character. -/
def Scanner.mark (s : Scanner) (t : Token) : Scanner := { s with place := s.place.next }.emit t

/-- An opening bracket. -/
def Scanner.openFlow (s : Scanner) (t : Token) : Except Flaw Scanner := do
  let s ← s.nominate
  return { s with flow := s.flow + 1, keyAllowed := true }.mark t

/-- A closing bracket. -/
def Scanner.closeFlow (s : Scanner) (t : Token) : Except Flaw Scanner := do
  let s ← s.giveUp
  return { s with flow := s.flow - 1, keyAllowed := false }.mark t

/-- A comma between brackets. -/
def Scanner.flowEntry (s : Scanner) : Except Flaw Scanner := do
  let s ← { s with keyAllowed := true }.giveUp
  return s.mark .comma

/-- The dash of a list entry. -/
def Scanner.blockEntry (s : Scanner) : Except Flaw Scanner := do
  let s ←
    if s.flow = 0 then
      if s.keyAllowed then
        let (s, deeper) := s.deepen s.place.column
        pure (if deeper then s.emit .listStart else s)
      else throw .malformed
    else pure s
  let s ← { s with keyAllowed := true }.giveUp
  return s.mark .entry

/-- The question mark of a key. -/
def Scanner.keyMark (s : Scanner) : Except Flaw Scanner := do
  let s ←
    if s.flow = 0 then
      if s.keyAllowed then
        let (s, deeper) := s.deepen s.place.column
        pure (if deeper then s.emit .mapStart else s)
      else throw .malformed
    else pure s
  let s ← { s with keyAllowed := s.flow = 0 }.giveUp
  return s.mark .key

/-- The colon before a value. The candidate, if there is one, turns out to be its key. -/
def Scanner.valueMark (s : Scanner) : Except Flaw Scanner := do
  match s.candidate? with
  | some k =>
    let s := { s with
      candidates := s.candidates.filter (·.1 != s.flow)
      tokens := insertToken s.tokens k.number .key }
    let s :=
      if s.flow = 0 then
        let (s, deeper) := s.deepen k.column
        if deeper then { s with tokens := insertToken s.tokens k.number .mapStart } else s
      else s
    return { s with keyAllowed := false }.mark .value
  | none =>
    let s ←
      if s.flow = 0 then
        if s.keyAllowed then
          let (s, deeper) := s.deepen s.place.column
          pure (if deeper then s.emit .mapStart else s)
        else throw .malformed
      else pure s
    let s ← { s with keyAllowed := s.flow = 0 }.giveUp
    return s.mark .value

/-- The three marks of a document, or a directive line with its end. -/
def Scanner.separator (s : Scanner) (t : Token) (after : Place) : Except Flaw Scanner := do
  let s ← (s.unwind (-1)).giveUp
  return { s with keyAllowed := false, place := after }.emit t

/-- Whether a directive line, after its percent sign, has a name and is one that can be followed.
    The version of a configuration must be 1. -/
def directiveStands (line : Text) : Bool :=
  let isNameChar (c : Char) : Bool := c.isAlphanum || c = '-' || c = '_'
  let name := line.takeWhile isNameChar
  let after := line.dropWhile isNameChar
  !name.isEmpty && (after.isEmpty || after.head? == some ' ') &&
    (name != "YAML".toList ||
      (let version := after.dropWhile (· = ' ')
       let minor := (version.dropWhile Char.isDigit).drop 1
       version.takeWhile (· ≠ '.') == ['1'] && version.contains '.' &&
        !(minor.takeWhile Char.isDigit).isEmpty))

/-! ## 6. Quoted scalars -/

/-- What a backslash and a character stand for. -/
def escapeOf? (c : Char) : Option Char :=
  match c with
  | '0' => some (Char.ofNat 0)
  | 'a' => some (Char.ofNat 7)
  | 'b' => some (Char.ofNat 8)
  | 't' => some '\t'
  | '\t' => some '\t'
  | 'n' => some '\n'
  | 'v' => some (Char.ofNat 11)
  | 'f' => some (Char.ofNat 12)
  | 'r' => some '\r'
  | 'e' => some (Char.ofNat 27)
  | ' ' => some ' '
  | '"' => some '"'
  | '\\' => some '\\'
  | '/' => some '/'
  | 'N' => some (Char.ofNat 0x85)
  | '_' => some (Char.ofNat 0xA0)
  | 'L' => some (Char.ofNat 0x2028)
  | 'P' => some (Char.ofNat 0x2029)
  | _ => none

/-- The number of digits of an escape by number. -/
def escapePlaces? (c : Char) : Option Nat :=
  match c with
  | 'x' => some 2
  | 'u' => some 4
  | 'U' => some 8
  | _ => none

/-- The character of a number, half of a pair or not. There is none beyond the last. -/
def codeChar (n : Nat) : Except Flaw Char :=
  if 0x10FFFF < n then .error (.noCharacter n) else .ok (Text.unitChar n)

/-- How a character that ends a line is kept: the ends of lines and paragraphs as they are, all
    others as a line feed. -/
def breakChar (c : Char) : Char := if c.toNat = 0x2028 ∨ c.toNat = 0x2029 then c else '\n'

/-- The empty lines at a place between quotes, as characters, and the place after them and the
    blanks of the next line. No document starts or ends between quotes. -/
def quotedBreaks : Nat → Place → Except Flaw (Text × Place)
  | 0, p => .ok ([], p)
  | fuel + 1, p =>
    if p.atSeparator then .error .malformed
    else
      let p := p.skipWhile fun c => c = ' ' || c = '\t'
      match p.rest with
      | c :: _ =>
        if isBreak c then do
          let (more, p) ← quotedBreaks fuel p.next
          return (breakChar c :: more, p)
        else .ok ([], p)
      | [] => .error .ended

/-- The blanks at a place between quotes: as they are within a line; a line end with them counts
    as one blank, and with empty lines as their ends. -/
def quotedGap (p : Place) : Except Flaw (Text × Place) := do
  let blanks := p.rest.takeWhile fun c => c = ' ' || c = '\t'
  let p := p.skip blanks.length
  match p.rest with
  | [] => throw .ended
  | c :: _ =>
    if isBreak c then
      let (breaks, p) ← quotedBreaks p.rest.length p.next
      if breakChar c ≠ '\n' then return (breakChar c :: breaks, p)
      if breaks.isEmpty then return ([' '], p)
      return (breaks, p)
    else return (blanks, p)

/-- One escape, the place being after its backslash. -/
def quotedEscape (p : Place) : Except Flaw (Text × Place) := do
  match p.rest with
  | [] => throw .ended
  | c :: r =>
    match escapeOf? c, escapePlaces? c with
    | some d, _ => return ([d], p.next)
    | none, some places =>
      let ds := r.take places
      if !(ds.all fun d => (Text.hexValue? d).isSome) then throw .malformed
      if ds.length < places then throw .ended
      let n := ds.foldl (fun n d => 16 * n + (Text.hexValue? d).getD 0) 0
      return ([← codeChar n], p.skip (places + 1))
    | none, none =>
      if isBreak c then quotedBreaks p.rest.length p.next else throw .malformed

/-- The characters of a scalar between quotes `q` from a place on, and the place after the closing
    quote. Only between double quotes a backslash escapes; an apostrophe is written twice between
    apostrophes. -/
def quotedFrom (q : Char) : Nat → Place → Except Flaw (Text × Place)
  | 0, _ => .error .ended
  | fuel + 1, p =>
    match p.rest with
    | [] => .error .ended
    | c :: r =>
      if isGap c then do
        let (gap, p) ← quotedGap p
        let (more, p) ← quotedFrom q fuel p
        return (gap ++ more, p)
      else if c = q then
        if q = '\'' ∧ r.head? = some '\'' then do
          let (more, p) ← quotedFrom q fuel (p.skip 2)
          return ('\'' :: more, p)
        else .ok ([], p.next)
      else if c = '\\' ∧ q = '"' then do
        let (chars, p) ← quotedEscape p.next
        let (more, p) ← quotedFrom q fuel p
        return (chars ++ more, p)
      else do
        let (more, p) ← quotedFrom q fuel p.next
        return (c :: more, p)

/-- A scalar between quotes. -/
def Scanner.quoted (s : Scanner) (q : Char) : Except Flaw Scanner := do
  let s ← s.nominate
  let (chars, p) ← quotedFrom q (s.place.rest.length + 1) s.place.next
  return { s with keyAllowed := false, place := p }.emit (.scalar false chars)

/-! ## 7. Plain scalars -/

/-- Whether a plain scalar ends before a text. A colon ends it only before a gap, or between
    brackets before one of their marks; between brackets so do the marks themselves. -/
def plainEnds (flow : Bool) : Text → Bool
  | [] => true
  | c :: r =>
    isGap c || (c = ':' && (gapNext r || (flow && r.head?.any isFlowMark))) ||
      (flow && (isFlowMark c || c = '?'))

/-- The characters of a plain scalar up to the next gap or its end. -/
def plainRun (flow : Bool) : Text → Text
  | [] => []
  | c :: r => if plainEnds flow (c :: r) then [] else c :: plainRun flow r

/-- The empty lines after a line end in a plain scalar, and the place after them and the blanks of
    the next line; nothing where a document starts or ends. -/
def plainBreaks : Nat → Place → Option Text × Place
  | 0, p => (some [], p)
  | fuel + 1, p =>
    match p.rest with
    | c :: _ =>
      if c = ' ' then plainBreaks fuel p.next
      else if isBreak c then
        let p := p.next
        if p.atSeparator then (none, p)
        else
          let (more, p) := plainBreaks fuel p
          (more.map (breakChar c :: ·), p)
      else (some [], p)
    | [] => (some [], p)

/-- The gap after a run of a plain scalar: how it counts if the scalar goes on, whether a line
    ended, and the place after it. Nothing where the scalar cannot go on. -/
def plainGap (p : Place) : Option Text × Bool × Place :=
  let blanks := p.rest.takeWhile (· = ' ')
  let p := p.skip blanks.length
  match p.rest with
  | c :: _ =>
    if isBreak c then
      let p := p.next
      if p.atSeparator then (none, true, p)
      else
        match plainBreaks p.rest.length p with
        | (none, p) => (none, true, p)
        | (some breaks, p) =>
          if breakChar c ≠ '\n' then (some (breakChar c :: breaks), true, p)
          else if breaks.isEmpty then (some [' '], true, p)
          else (some breaks, true, p)
    else (if blanks.isEmpty then none else some blanks, false, p)
  | [] => (if blanks.isEmpty then none else some blanks, false, p)

/-- The characters of a plain scalar, the gap `gap` having been read before the place; then
    whether a key may follow, and the place after it. A line must be indented at least to
    `indent`. -/
def plainFrom (flow : Bool) (indent : Int) (gap : Text) (keyAllowed : Bool) :
    Nat → Place → Text × Bool × Place
  | 0, p => ([], keyAllowed, p)
  | fuel + 1, p =>
    if p.rest.head? = some '#' then ([], keyAllowed, p)
    else
      let run := plainRun flow p.rest
      if run.isEmpty then ([], keyAllowed, p)
      else
        match plainGap (p.skip run.length) with
        | (none, ended, p) => (gap ++ run, ended, p)
        | (some next, ended, p) =>
          if p.rest.head? = some '#' ∨ (flow = false ∧ (p.column : Int) < indent) then
            (gap ++ run, ended, p)
          else
            let (more, keyAllowed, p) := plainFrom flow indent next ended fuel p
            (gap ++ run ++ more, keyAllowed, p)

/-- A plain scalar. -/
def Scanner.plain (s : Scanner) : Except Flaw Scanner := do
  let s ← s.nominate
  let (chars, keyAllowed, p) :=
    plainFrom (s.flow != 0) (s.indent + 1) [] false (s.place.rest.length + 1) s.place
  return { s with keyAllowed := keyAllowed, place := p }.emit (.scalar true chars)

/-! ## 8. The next token -/

/-- The place after blanks, comments and line ends, and whether a line ended on the way. -/
def skipGaps : Nat → Place → Place × Bool
  | 0, p => (p, false)
  | fuel + 1, p =>
    let p := p.skipWhile (· = ' ')
    let p := if p.rest.head? = some '#' then p.skipWhile (!isBreak ·) else p
    if p.rest.head?.any isBreak then ((skipGaps fuel p.next).1, true) else (p, false)

/-- The next token at a place where a character is left. -/
def Scanner.token (s : Scanner) (c : Char) (r : Text) : Except Flaw Scanner :=
  let p := s.place
  let block := s.flow = 0
  if c = '%' ∧ p.column = 0 then
    if directiveStands (r.takeWhile (!isBreak ·)) then
      s.separator .directive (p.skipWhile (!isBreak ·)).next
    else .error .malformed
  else if p.column = 0 ∧ p.atMark '-' then s.separator .documentStart (p.skip 3)
  else if p.column = 0 ∧ p.atMark '.' then s.separator .documentEnd (p.skip 3)
  else if c = '[' then s.openFlow .openList
  else if c = '\x7b' then s.openFlow .openMap
  else if c = ']' then s.closeFlow .closeList
  else if c = '\x7d' then s.closeFlow .closeMap
  else if c = ',' then s.flowEntry
  else if c = '-' ∧ gapNext r then s.blockEntry
  else if c = '?' ∧ (¬ block ∨ gapNext r) then s.keyMark
  else if c = ':' ∧ (¬ block ∨ gapNext r) then s.valueMark
  else if c = '\'' ∨ c = '"' then s.quoted c
  else if ¬ isGap c ∧ ¬ isIndicator c ∨
      ¬ gapNext r ∧ (c = '-' ∨ block ∧ (c = '?' ∨ c = ':')) then s.plain
  else .error .malformed

/-- The tokens that are certain at a state: those before the first that may turn out to be a
    key. -/
def Scanner.settled (s : Scanner) : List Token :=
  match (s.candidates.map (·.2.number)).min? with
  | some n => s.tokens.toList.take n
  | none => s.tokens.toList

/-- The state after the next token, or after all if there are no characters left; `true` if it is
    the last. A text that is `cut` does not end where its characters do. -/
def Scanner.advance (cut : Bool) (s : Scanner) : Except Flaw (Scanner × Bool) := do
  let (p, ended) := skipGaps (s.place.rest.length + 1) s.place
  let s := { s with place := p, keyAllowed := s.keyAllowed || (ended && s.flow = 0) }
  let s ← s.dropStale
  let s := s.unwind p.column
  match s.place.rest with
  | [] =>
    if cut then throw .ended
    return (← (s.unwind (-1)).giveUp, true)
  | c :: r => return (← (← s.token c r).dropStale, false)

/-- The tokens of a text from a state on. -/
def Scanner.run (cut : Bool) : Nat → Scanner → List Token
  | 0, s => s.tokens.toList
  | fuel + 1, s =>
    match s.advance cut with
    | .error f => s.settled ++ [.flaw f]
    | .ok (s, true) => s.tokens.toList
    | .ok (s, false) => s.run cut fuel

/-- The tokens of a text, which may be cut off. A byte order mark at its start is skipped. -/
def tokens (t : Text) (cut : Bool) : List Token :=
  let s := Scanner.start t
  let s := if t.head? = some (Char.ofNat 0xFEFF) then { s with place := s.place.next } else s
  s.run cut (t.length + 1)

end Terrain.Yaml
