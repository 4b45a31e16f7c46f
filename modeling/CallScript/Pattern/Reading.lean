import CallScript.Number.Reading
import CallScript.Pattern.Tree
import CallScript.Text.CharacterName
import CallScript.Text.Word

/-! Patterns read from their text. A backslash and the character after it count as one mark; complaints
name the place of the mark they are about. Reading is recursive in the nesting of groups, with the
number of marks as its bound. -/
namespace CallScript.Pattern

inductive Mark where
  | plain (c : Char)
  | escaped (c : Char)
  deriving DecidableEq, Repr

def Mark.chars : Mark → List Char
  | .plain c => [c]
  | .escaped c => ['\\', c]

def Mark.text (m : Mark) : String := String.ofList m.chars

def marksOf : List Char → List Mark × Bool
  | [] => ([], false)
  | ['\\'] => ([], true)
  | '\\' :: c :: rest => let (marks, broken) := marksOf rest; (.escaped c :: marks, broken)
  | c :: rest => let (marks, broken) := marksOf rest; (.plain c :: marks, broken)

inductive Complaint where
  | placed (reason : String) (place : Nat)
  | general (reason : String)
  | hugeRepetition
  | hugeCode
  deriving DecidableEq, Repr

structure Source where
  marks : List Mark
  broken : Bool
  place : Nat
  options : Options
  names : List (String × Nat)
  widths : List (Option (Nat × Nat))
  behindFrom : Option Nat
  conditions : List (Nat × Nat)
  late : Option String

abbrev Reader := StateT Source (Except Complaint)

def complain {α : Type} (reason : String) (back : Nat) : Reader α := do
  throw (.placed reason ((← get).place - back))

def endOfPattern : String := "bad escape (end of pattern)"

def checkNext : Reader Unit := do
  let s ← get
  if s.marks.isEmpty && s.broken then throw (.placed endOfPattern s.place)

def next? : Reader (Option Mark) := do
  return (← get).marks.head?

def advance : Reader (Option Mark) := do
  let s ← get
  match s.marks with
  | [] => return none
  | m :: rest => do
      set { s with marks := rest, place := s.place + m.chars.length }
      checkNext
      return some m

def accept (c : Char) : Reader Bool := do
  if (← next?) == some (.plain c) then
    let _ ← advance
    return true
  else return false

def takeClass (among : Char → Bool) : Nat → Reader (List Char)
  | 0 => return []
  | count + 1 => do
      match ← next? with
      | some (.plain c) =>
          if among c then
            let _ ← advance
            return c :: (← takeClass among count)
          else return []
      | _ => return []

def takeUntil (closing : Char) (what : String) : Nat → List Char → Reader String
  | 0, _ => complain ("missing " ++ what) 0
  | bound + 1, found => do
      match ← advance with
      | none =>
          if found.isEmpty then complain ("missing " ++ what) 0
          else complain ("missing " ++ closing.toString ++ ", unterminated name") found.length
      | some m =>
          if m == .plain closing then
            if found.isEmpty then complain ("missing " ++ what) 1 else return String.ofList found
          else takeUntil closing what bound (found ++ m.chars)

def nameUntil (closing : Char) (what : String) : Reader String := do
  takeUntil closing what ((← get).marks.length + 1) []

def isAsciiLetter (c : Char) : Bool := c.isAlpha

def isHex (c : Char) : Bool :=
  c.isDigit || ('a' ≤ c && c ≤ 'f') || ('A' ≤ c && c ≤ 'F')

def isOctal (c : Char) : Bool := '0' ≤ c && c ≤ '7'

def numeral (radix : Nat) (digits : List Char) : Nat :=
  digits.foldl (fun n c =>
    radix * n + (if c.isDigit then c.toNat - 48 else if c.isLower then c.toNat - 87 else c.toNat - 55)) 0

def controlCode? (c : Char) : Option Nat :=
  match c with
  | 'a' => some 7
  | 'b' => some 8
  | 'f' => some 12
  | 'n' => some 10
  | 'r' => some 13
  | 't' => some 9
  | 'v' => some 11
  | '\\' => some 92
  | _ => none

def category? (c : Char) : Option Member :=
  match c with
  | 'd' => some (.category .digit false)
  | 'D' => some (.category .digit true)
  | 's' => some (.category .space false)
  | 'S' => some (.category .space true)
  | 'w' => some (.category .word false)
  | 'W' => some (.category .word true)
  | _ => none

def badEscape {α : Type} (spelling : List Char) : Reader α :=
  complain ("bad escape " ++ String.ofList spelling) spelling.length

def hexEscape (c : Char) (count : Nat) : Reader Nat := do
  let digits ← takeClass isHex count
  let spelling := '\\' :: c :: digits
  if digits.length < count then
    complain ("incomplete escape " ++ String.ofList spelling) spelling.length
  else if Nat.pow 2 31 ≤ numeral 16 digits then throw .hugeCode
  else if 0x110000 ≤ numeral 16 digits then badEscape spelling
  else return numeral 16 digits

def namedEscape : Reader Nat := do
  if !(← accept '\x7b') then complain ("missing \x7b") 0
  let name ← nameUntil '\x7d' "character name"
  match Text.characterNamed? name with
  | some c => return c.toNat
  | none => complain ("undefined character name " ++ Text.quoted name) (name.length + 4)

def octalEscape (digits : List Char) : Reader Nat := do
  if 255 < numeral 8 digits then
    complain ("octal escape value \\" ++ String.ofList digits ++ " outside of range 0-0o377") (digits.length + 1)
  else return numeral 8 digits

def codeEscape? (c : Char) : Reader (Option Nat) := do
  if c == 'x' then return some (← hexEscape c 2)
  else if c == 'u' then return some (← hexEscape c 4)
  else if c == 'U' then return some (← hexEscape c 8)
  else if c == 'N' then return some (← namedEscape)
  else return none

def memberEscape (c : Char) : Reader Member := do
  match controlCode? c, category? c with
  | some code, _ => return .literal code
  | none, some member => return member
  | none, none =>
      match ← codeEscape? c with
      | some code => return .literal code
      | none =>
          if isOctal c then return .literal (← octalEscape (c :: (← takeClass isOctal 2)))
          else if c.isDigit || isAsciiLetter c then badEscape ['\\', c]
          else return .literal c.toNat

def groupWidth (s : Source) (group : Nat) : Option (Nat × Nat) :=
  (s.widths[group]?).join

def checkBehind (group : Nat) : Reader Unit := do
  let s ← get
  match s.behindFrom with
  | none => return ()
  | some first =>
      if (groupWidth s group).isNone then complain "cannot refer to an open group" 0
      else if first ≤ group then
        complain "cannot refer to group defined in the same lookbehind subpattern" 0
      else return ()

/-- A group by its number, in decimal digits; three octal digits are a code point. -/
def numberEscape (c : Char) : Reader Node := do
  let digits ← do
    match ← next? with
    | some (.plain d) =>
        if d.isDigit then
          let _ ← advance
          match ← next? with
          | some (.plain e) =>
              if isOctal c && isOctal d && isOctal e then
                let _ ← advance
                return Node.literal (← octalEscape [c, d, e])
              else pure [c, d]
          | _ => pure [c, d]
        else pure [c]
    | _ => pure [c]
  let group := numeral 10 digits
  let s ← get
  if group < s.widths.length then
    if (groupWidth s group).isNone then complain "cannot refer to an open group" (digits.length + 1)
    checkBehind group
    return .reference group
  else complain ("invalid group reference " ++ toString group) digits.length

def nodeEscape (c : Char) : Reader Node := do
  match c with
  | 'A' => return .boundary .textBeginning
  | 'Z' => return .boundary .textEnding
  | 'b' => return .boundary .word
  | 'B' => return .boundary .notWord
  | _ =>
      match category? c, controlCode? c with
      | some member, _ => return .set false [member]
      | none, some code => return .literal code
      | none, none =>
          match ← codeEscape? c with
          | some code => return .literal code
          | none =>
              if c == '0' then return .literal (numeral 8 (← takeClass isOctal 2))
              else if c.isDigit then numberEscape c
              else if isAsciiLetter c then badEscape ['\\', c]
              else return .literal c.toNat

def unterminatedSet {α : Type} (start : Nat) : Reader α :=
  throw (.placed "unterminated character set" start)

def markMember (m : Mark) : Reader Member :=
  match m with
  | .escaped c => memberEscape c
  | .plain c => return .literal c.toNat

def readMembers (start : Nat) : Nat → List Member → Reader (List Member)
  | 0, _ => unterminatedSet start
  | bound + 1, members => do
      match ← advance with
      | none => unterminatedSet start
      | some m =>
          if m == .plain ']' && !members.isEmpty then return members
          else
            let low ← markMember m
            if ← accept '-' then
              match ← advance with
              | none => unterminatedSet start
              | some n =>
                  if n == .plain ']' then return members ++ [low, .literal 45]
                  else
                    let high ← markMember n
                    let bad : Reader (List Member) :=
                      complain ("bad character range " ++ m.text ++ "-" ++ n.text)
                        (m.chars.length + 1 + n.chars.length)
                    match low, high with
                    | .literal a, .literal b =>
                        if b < a then bad else readMembers start bound (members ++ [.range a b])
                    | _, _ => bad
            else readMembers start bound (members ++ [low])

def readSet (start : Nat) : Reader Node := do
  let negated ← accept '^'
  let members ← readMembers start ((← get).marks.length + 1) []
  return .set negated members

def readBounds : Reader (Option (Nat × Option Nat)) := do
  let saved ← get
  if (← next?) == some (.plain '\x7d') then return none
  let low ← takeClass Char.isDigit saved.marks.length
  let (separated, high) ← do
    if ← accept ',' then pure (true, ← takeClass Char.isDigit saved.marks.length)
    else pure (false, low)
  if !(← accept '\x7d') then
    set saved
    return none
  let least := numeral 10 low
  if unbounded ≤ least then throw .hugeRepetition
  if high.isEmpty then return some (least, none)
  let most := numeral 10 high
  if unbounded ≤ most then throw .hugeRepetition
  if separated && most < least then
    throw (.placed "min repeat greater than max repeat" saved.place)
  return some (least, some most)

def repeatLast (start : Nat) (nodes : List Node) (least : Nat) (most : Option Nat) : Reader (List Node) := do
  match nodes.getLast? with
  | none => throw (.placed "nothing to repeat" start)
  | some (.boundary _) => throw (.placed "nothing to repeat" start)
  | some (.repeated ..) => throw (.placed "multiple repeat" start)
  | some node => do
      let eagerness ← do
        if ← accept '?' then pure Eagerness.lazy
        else if ← accept '+' then pure Eagerness.possessive
        else pure Eagerness.greedy
      return nodes.dropLast ++ [.repeated eagerness least most node]

inductive OptionLetter where
  | ignoreCase
  | multiline
  | dotAll
  | verbose
  | ascii
  | unicode
  | locale
  | template
  deriving DecidableEq, Repr

def optionLetter? (m : Mark) : Option OptionLetter :=
  match m with
  | .plain 'i' => some .ignoreCase
  | .plain 'm' => some .multiline
  | .plain 's' => some .dotAll
  | .plain 'x' => some .verbose
  | .plain 'a' => some .ascii
  | .plain 'u' => some .unicode
  | .plain 'L' => some .locale
  | .plain 't' => some .template
  | _ => none

def OptionLetter.isCharset : OptionLetter → Bool
  | .ascii | .unicode | .locale => true
  | _ => false

def optionsOf (letters : List OptionLetter) : Options :=
  ⟨letters.contains .ignoreCase, letters.contains .multiline, letters.contains .dotAll,
    letters.contains .verbose, letters.contains .ascii⟩

def Options.union (a b : Options) : Options :=
  ⟨a.ignoreCase || b.ignoreCase, a.multiline || b.multiline, a.dotAll || b.dotAll, a.verbose || b.verbose,
    a.ascii || b.ascii⟩

def Options.without (a b : Options) : Options :=
  ⟨a.ignoreCase && !b.ignoreCase, a.multiline && !b.multiline, a.dotAll && !b.dotAll, a.verbose && !b.verbose,
    a.ascii && !b.ascii⟩

def isLetterMark (m : Mark) : Bool :=
  match m with
  | .plain c => c.isAlpha || (128 ≤ c.toNat && Text.isWordChar c && !Text.isDigit c)
  | .escaped _ => false

def unknownOption {α : Type} (m : Mark) (missing : String) : Reader α :=
  complain (if isLetterMark m then "unknown flag" else missing) m.chars.length

def readAdded : Nat → List OptionLetter → OptionLetter → Reader (List OptionLetter × Mark)
  | 0, _, _ => complain "missing -, : or )" 0
  | bound + 1, letters, letter => do
      if letter == .locale then complain "bad inline flags: cannot use 'L' flag with a str pattern" 0
      let letters := letter :: letters
      if letter.isCharset && letters.any (fun other => other.isCharset && other != letter) then
        complain "bad inline flags: flags 'a', 'u' and 'L' are incompatible" 0
      match ← advance with
      | none => complain "missing -, : or )" 0
      | some m =>
          if m == .plain ')' || m == .plain '-' || m == .plain ':' then return (letters, m)
          else
            match optionLetter? m with
            | some letter => readAdded bound letters letter
            | none => unknownOption m "missing -, : or )"

def readRemoved : Nat → List OptionLetter → OptionLetter → Reader (List OptionLetter)
  | 0, _, _ => complain "missing :" 0
  | bound + 1, letters, letter => do
      if letter.isCharset then complain "bad inline flags: cannot turn off flags 'a', 'u' and 'L'" 0
      let letters := letter :: letters
      match ← advance with
      | none => complain "missing :" 0
      | some m =>
          if m == .plain ':' then return letters
          else
            match optionLetter? m with
            | some letter => readRemoved bound letters letter
            | none => unknownOption m "missing :"

def readOptions (first : Mark) : Reader (Option Scoping) := do
  let bound := (← get).marks.length + 2
  let (added, ending) ← do
    match optionLetter? first with
    | some letter => readAdded bound [] letter
    | none => pure ([], first)
  if ending == .plain ')' then
    modify (fun s => { s with options := s.options.union (optionsOf added) })
    return none
  if added.contains .template then complain "bad inline flags: cannot turn on global flag" 1
  let removed ← do
    if ending == .plain '-' then
      match ← advance with
      | none => complain "missing flag" 0
      | some m =>
          match optionLetter? m with
          | some letter => readRemoved bound [] letter
          | none => unknownOption m "missing flag"
    else pure []
  if removed.contains .template then complain "bad inline flags: cannot turn off global flag" 1
  if added.any removed.contains then complain "bad inline flags: flag turned on and off" 1
  return some ⟨optionsOf added, optionsOf removed, added.contains .unicode⟩

def isIdentifier (name : String) : Bool :=
  match name.toList with
  | [] => false
  | c :: rest => Text.isWordChar c && !Text.isDigit c && rest.all Text.isWordChar

def checkName (name : String) : Reader Unit := do
  if !isIdentifier name then
    complain ("bad character in group name " ++ Text.quoted name) (name.length + 1)

def lookupName (name : String) : Reader Nat := do
  match (← get).names.find? (fun entry => entry.1 == name) with
  | some entry => return entry.2
  | none => complain ("unknown group name " ++ Text.quoted name) (name.length + 1)

def readCondition : Reader Nat := do
  let name ← nameUntil ')' "group name"
  let group ← do
    if isIdentifier name then lookupName name
    else
      let bad : Reader Nat := complain ("bad character in group name " ++ Text.quoted name) (name.length + 1)
      match Number.readInteger name with
      | .error _ => bad
      | .ok n =>
          if n < 0 then bad
          else if n == 0 then complain "bad group number" (name.length + 1)
          else if Nat.pow 2 30 ≤ n then
            complain ("invalid group reference " ++ toString n) (name.length + 1)
          else
            let place := (← get).place - name.length - 1
            modify (fun s => { s with conditions := s.conditions ++ [(n.toNat, place)] })
            pure n.toNat
  checkBehind group
  return group

def openGroup (name : Option String) : Reader Nat := do
  let s ← get
  let group := s.widths.length
  match name with
  | none => set { s with widths := s.widths ++ [none] }
  | some name =>
      match s.names.find? (fun entry => entry.1 == name) with
      | some entry =>
          complain ("redefinition of group name " ++ Text.quoted name ++ " as group " ++ toString group ++
            "; was group " ++ toString entry.2) (name.length + 1)
      | none => set { s with widths := s.widths ++ [none], names := s.names ++ [(name, group)] }
  return group

def widthOf (node : Node) : Reader (Nat × Nat) := do
  let s ← get
  return node.width (fun group => (groupWidth s group).getD (0, 0))

def closeGroup (group : Nat) (body : Node) : Reader Unit := do
  let width ← widthOf body
  modify (fun s => { s with widths := s.widths.set group (some width) })

def expectClosing (start : Nat) : Reader Unit := do
  if !(← accept ')') then throw (.placed "missing ), unterminated subpattern" start)

def skipComment (start : Nat) : Nat → Reader Unit
  | 0 => throw (.placed "missing ), unterminated comment" start)
  | bound + 1 => do
      match ← advance with
      | none => throw (.placed "missing ), unterminated comment" start)
      | some m => if m == .plain ')' then return () else skipComment start bound

def skipLine : Nat → Reader Unit
  | 0 => return ()
  | bound + 1 => do
      match ← advance with
      | none => return ()
      | some m => if m == .plain '\n' then return () else skipLine bound

inductive Opening where
  | capture (name : Option String)
  | plain
  | atomic
  | scoped (scoping : Scoping)
  | look (behind negated : Bool)
  | conditional (group : Nat)
  | done (node : Option Node)

def readOpening (start : Nat) (atBeginning : Bool) : Reader Opening := do
  if !(← accept '?') then return .capture none
  match ← advance with
  | none => complain "unexpected end of pattern" 0
  | some m =>
      if m == .plain 'P' then
        if ← accept '<' then
          let name ← nameUntil '>' "group name"
          checkName name
          return .capture (some name)
        else if ← accept '=' then
          let name ← nameUntil ')' "group name"
          checkName name
          let group ← lookupName name
          if (groupWidth (← get) group).isNone then complain "cannot refer to an open group" (name.length + 1)
          checkBehind group
          return .done (some (.reference group))
        else
          match ← advance with
          | none => complain "unexpected end of pattern" 0
          | some m => complain ("unknown extension ?P" ++ m.text) (m.chars.length + 2)
      else if m == .plain ':' then return .plain
      else if m == .plain '#' then
        skipComment start ((← get).marks.length + 1)
        return .done none
      else if m == .plain '=' then return .look false false
      else if m == .plain '!' then return .look false true
      else if m == .plain '<' then
        match ← advance with
        | none => complain "unexpected end of pattern" 0
        | some m =>
            if m == .plain '=' then return .look true false
            else if m == .plain '!' then return .look true true
            else complain ("unknown extension ?<" ++ m.text) (m.chars.length + 2)
      else if m == .plain '(' then return .conditional (← readCondition)
      else if m == .plain '>' then return .atomic
      else if (optionLetter? m).isSome || m == .plain '-' then
        match ← readOptions m with
        | some scoping => return .scoped scoping
        | none =>
            if !atBeginning then
              throw (.placed "global flags not at the start of the expression" start)
            return .done none
      else complain ("unknown extension ?" ++ m.text) (m.chars.length + 1)

/-- A look behind goes back by the width of its body, which has to be fixed. -/
def lookNode (behind negated : Bool) (body : Node) : Reader Node := do
  if !behind then return .look none negated body
  let (low, high) ← widthOf body
  let late := if unbounded < low then some "looks too much behind"
    else if low != high then some "look-behind requires fixed-width pattern" else none
  modify (fun s => { s with late := s.late.or late })
  return .look (some low) negated body

def isVerboseBlank (c : Char) : Bool :=
  c == ' ' || (9 ≤ c.toNat && c.toNat ≤ 13)

mutual

def readChoice (bound : Nat) (verbose nested : Bool) (before : List Node) : Reader Node :=
  match bound with
  | 0 => throw (.general "")
  | bound + 1 => do
      let node ← readSequence bound verbose nested (!nested && before.isEmpty) []
      if ← accept '|' then
        let options := (← get).options
        let verbose := if nested then verbose else options.verbose
        readChoice bound verbose nested (before ++ [node])
      else
        match before with
        | [] => return node
        | _ => return .choice (before ++ [node])

/-- Nodes one after another; `first` while options of the whole pattern may still come. -/
def readSequence (bound : Nat) (verbose nested first : Bool) (nodes : List Node) : Reader Node :=
  match bound with
  | 0 => throw (.general "")
  | bound + 1 => do
      let more (verbose : Bool) (nodes : List Node) : Reader Node := readSequence bound verbose nested first nodes
      match ← next? with
      | none => return .sequence nodes
      | some (.escaped c) => do
          let _ ← advance
          more verbose (nodes ++ [← nodeEscape c])
      | some (.plain c) =>
          if c == '|' || c == ')' then return .sequence nodes
          else do
            let start := (← get).place
            let _ ← advance
            if verbose && isVerboseBlank c then more verbose nodes
            else if verbose && c == '#' then
              skipLine ((← get).marks.length + 1)
              more verbose nodes
            else if c == '[' then more verbose (nodes ++ [← readSet start])
            else if c == '*' then more verbose (← repeatLast start nodes 0 none)
            else if c == '+' then more verbose (← repeatLast start nodes 1 none)
            else if c == '?' then more verbose (← repeatLast start nodes 0 (some 1))
            else if c == '\x7b' then
              match ← readBounds with
              | none => more verbose (nodes ++ [.literal c.toNat])
              | some (least, most) => more verbose (← repeatLast start nodes least most)
            else if c == '.' then more verbose (nodes ++ [.any])
            else if c == '^' then more verbose (nodes ++ [.boundary .beginning])
            else if c == '$' then more verbose (nodes ++ [.boundary .ending])
            else if c == '(' then
              match ← readOpening start (first && nodes.isEmpty) with
              | .done (some node) => more verbose (nodes ++ [node])
              | .done none => do
                  let options := (← get).options
                  more (verbose || (!nested && options.verbose)) nodes
              | .capture name => do
                  let group ← openGroup name
                  let body ← readChoice bound verbose true []
                  expectClosing start
                  closeGroup group body
                  more verbose (nodes ++ [.capture group body])
              | .plain => do
                  let body ← readChoice bound verbose true []
                  expectClosing start
                  more verbose (nodes ++ [.sequence [body]])
              | .atomic => do
                  let body ← readChoice bound verbose true []
                  expectClosing start
                  more verbose (nodes ++ [.atomic body])
              | .scoped scoping => do
                  let inner := (verbose || scoping.added.verbose) && !scoping.removed.verbose
                  let body ← readChoice bound inner true []
                  expectClosing start
                  more verbose (nodes ++ [.scoped scoping body])
              | .look behind negated => do
                  let outer := (← get).behindFrom
                  if behind && outer.isNone then modify (fun s => { s with behindFrom := some s.widths.length })
                  let body ← readChoice bound verbose true []
                  if behind && outer.isNone then modify (fun s => { s with behindFrom := none })
                  expectClosing start
                  more verbose (nodes ++ [← lookNode behind negated body])
              | .conditional group => do
                  let matched ← readSequence bound verbose true false []
                  let unmatched ← do
                    if ← accept '|' then
                      let node ← readSequence bound verbose true false []
                      if (← next?) == some (.plain '|') then
                        complain "conditional backref with more than two branches" 0
                      pure node
                    else pure (.sequence [])
                  expectClosing start
                  more verbose (nodes ++ [.conditional group matched unmatched])
            else more verbose (nodes ++ [.literal c.toNat])

end

structure Compiled where
  node : Node
  options : Options
  groups : Nat

def readAll (bound : Nat) : Reader Compiled := do
  checkNext
  let node ← readChoice bound false false []
  if (← next?).isSome then complain "unbalanced parenthesis" 0
  let s ← get
  match s.conditions.find? (fun condition => s.widths.length ≤ condition.1) with
  | some (group, place) => throw (.placed ("invalid group reference " ++ toString group) place)
  | none =>
      match s.late with
      | some reason => throw (.general reason)
      | none => return ⟨node, s.options, s.widths.length - 1⟩

def lineAndColumn (cs : List Char) (place : Nat) : Option (Nat × Nat) :=
  if cs.contains '\n' then
    let before := cs.take place
    let column := (before.reverse.takeWhile (· != '\n')).length + 1
    some (before.count '\n' + 1, column)
  else none

def Complaint.fault (cs : List Char) : Complaint → Fault
  | .placed reason place => .pattern reason (some place) (lineAndColumn cs place)
  | .general reason => .pattern reason none none
  | .hugeRepetition => .repetitionNumber
  | .hugeCode => .codePoint

def compile (s : String) : Except Fault Compiled :=
  let cs := s.toList
  let (marks, broken) := marksOf cs
  let source : Source := ⟨marks, broken, 0, {}, [], [none], none, [], none⟩
  match (readAll (4 * marks.length + 8)).run source with
  | .ok (compiled, _) => .ok compiled
  | .error complaint => .error (complaint.fault cs)

end CallScript.Pattern
