import CallScript.Text.Digit
import CallScript.Text.Quoted

/-! Command lines read against an interface: switches, of which some take an argument, and one operand
at most, which is a single word or a command with everything after it. Long switches may be shortened as
long as one of them alone begins so, and an argument may be joined to its switch. After two dashes every
word is an operand. Words that nothing takes are left over; the first error ends the reading. -/
namespace CallScript.CommandLine

structure Switch where
  names : List String
  takesArgument : Bool
  choices : List String := []
  deriving DecidableEq, Repr

def Switch.label (s : Switch) : String :=
  "/".intercalate s.names

inductive Operand where
  | word (name : String)
  | command (name : String) (choices : List String)
  deriving DecidableEq, Repr

def Operand.name : Operand → String
  | .word name => name
  | .command name _ => name

structure Interface where
  program : String
  switches : List Switch
  operand : Option Operand
  usage : String
  description : String

structure Joined where
  equals : Bool
  text : List Char
  deriving DecidableEq, Repr

structure Use where
  switch : Switch
  spelling : String
  joined : Option Joined
  deriving DecidableEq, Repr

inductive Mark where
  | word
  | divider
  | switch (use : Use)
  | unknownSwitch
  deriving DecidableEq, Repr

def Interface.spellings (i : Interface) : List (String × Switch) :=
  i.switches.flatMap (fun s => s.names.map (fun name => (name, s)))

def Interface.spelled? (i : Interface) (spelling : String) : Option Switch :=
  (i.spellings.find? (fun entry => entry.1 == spelling)).map Prod.snd

def splitEquals (word : String) : String × Option String :=
  let before := word.toList.takeWhile (· != '=')
  match word.toList.drop before.length with
  | [] => (word, none)
  | _ :: after => (String.ofList before, some (String.ofList after))

def isDigits (cs : List Char) : Bool :=
  !cs.isEmpty && cs.all Text.isDigit

/-- Negative numbers are words although they begin with a dash. -/
def isNegativeNumber (word : String) : Bool :=
  match word.toList with
  | '-' :: rest =>
      let body := if rest.getLast? == some '\n' then rest.dropLast else rest
      match body.dropWhile Text.isDigit with
      | '.' :: fraction => isDigits fraction
      | more => more.isEmpty && isDigits body
  | _ => false

def Interface.candidates (i : Interface) (word : String) : List Use :=
  match word.toList with
  | '-' :: '-' :: _ =>
      let (beginning, argument) := splitEquals word
      (i.spellings.filter (fun entry => beginning.toList.isPrefixOf entry.1.toList)).map (fun entry =>
        ⟨entry.2, entry.1, argument.map (fun text => ⟨true, text.toList⟩)⟩)
  | dash :: letter :: rest =>
      (i.spellings.filter (fun entry => entry.1.toList == [dash, letter])).map (fun entry =>
        ⟨entry.2, entry.1, some ⟨false, rest⟩⟩)
  | _ => []

def Interface.markShortened (i : Interface) (word : String) : Except String Mark :=
  match i.candidates word with
  | [use] => .ok (.switch use)
  | [] => .ok (if isNegativeNumber word || word.toList.contains ' ' then .word else .unknownSwitch)
  | uses =>
      .error ("ambiguous option: " ++ word ++ " could match " ++ ", ".intercalate (uses.map Use.spelling))

def Interface.mark (i : Interface) (word : String) : Except String Mark :=
  match word.toList with
  | '-' :: _ :: _ =>
      match i.spelled? word, splitEquals word with
      | some s, _ => .ok (.switch ⟨s, word, none⟩)
      | none, (before, some argument) =>
          match i.spelled? before with
          | some s => .ok (.switch ⟨s, before, some ⟨true, argument.toList⟩⟩)
          | none => i.markShortened word
      | none, (_, none) => i.markShortened word
  | _ => .ok .word

def Interface.markAll (i : Interface) : List String → Except String (List (String × Mark))
  | [] => .ok []
  | word :: rest =>
      if word == "--" then .ok ((word, .divider) :: rest.map (fun w => (w, Mark.word)))
      else do
        let mark ← i.mark word
        return (word, mark) :: (← i.markAll rest)

inductive Finding where
  | switch (s : Switch) (argument : Option String)
  | operand (words : List String)
  deriving DecidableEq, Repr

structure Reading where
  findings : List Finding
  leftOver : List String
  error : Option String
  deriving DecidableEq, Repr

def Reading.failed (message : String) : Reading := ⟨[], [], some message⟩

def Reading.add (found : List Finding) (r : Reading) : Reading :=
  { r with findings := found ++ r.findings }

def Reading.leave (words : List String) (r : Reading) : Reading :=
  { r with leftOver := words ++ r.leftOver }

def argumentError (label message : String) : String :=
  "argument " ++ label ++ ": " ++ message

def choiceError (label chosen : String) (choices : List String) : String :=
  argumentError label ("invalid choice: " ++ Text.quoted chosen ++ " (choose from " ++
    ", ".intercalate (choices.map Text.quoted) ++ ")")

def Finding.checked (f : Finding) (operand : Option Operand) (rest : Unit → Reading) : Reading :=
  match f, operand with
  | .switch s (some argument), _ =>
      if s.choices.isEmpty || s.choices.contains argument then (rest ()).add [f]
      else .failed (choiceError s.label argument s.choices)
  | .operand (chosen :: _), some (.command name choices) =>
      if choices.contains chosen then (rest ()).add [f] else .failed (choiceError name chosen choices)
  | _, _ => (rest ()).add [f]

structure Cluster where
  findings : List Finding
  leftOver : List String
  wanting : Option Switch

def ignoredArgument (s : Switch) (text : List Char) : String :=
  argumentError s.label ("ignored explicit argument " ++ Text.quoted (String.ofList text))

def Interface.cluster (i : Interface) (s : Switch) (short equals : Bool) (text : List Char) :
    Except String Cluster :=
  if s.takesArgument then .ok ⟨[.switch s (some (String.ofList text))], [], none⟩
  else
    match text with
    | [] => .error (ignoredArgument s [])
    | c :: rest =>
        if !short || equals || c == '-' then .error (ignoredArgument s (c :: rest))
        else
          match i.spelled? (String.ofList ['-', c]) with
          | none => .ok ⟨[.switch s none], [String.ofList ('-' :: c :: rest)], none⟩
          | some next => do
              let tail ←
                match rest with
                | [] => .ok (if next.takesArgument then ⟨[], [], some next⟩ else ⟨[.switch next none], [], none⟩)
                | d :: more =>
                    if d == '=' then i.cluster next true true more else i.cluster next true false (d :: more)
              return { tail with findings := .switch s none :: tail.findings }
termination_by text.length
decreasing_by all_goals simp_all only [List.length_cons]; omega

def Interface.useCluster (i : Interface) (use : Use) : Except String Cluster :=
  match use.joined with
  | some joined => i.cluster use.switch (use.spelling.length == 2) joined.equals joined.text
  | none => .ok (if use.switch.takesArgument then ⟨[], [], some use.switch⟩ else ⟨[.switch use.switch none], [], none⟩)

def Interface.readMarked (i : Interface) (wanted : Option Operand) : List (String × Mark) → Reading
  | [] =>
      match wanted with
      | some operand => .failed ("the following arguments are required: " ++ operand.name)
      | none => ⟨[], [], none⟩
  | (word, .word) :: rest =>
      match wanted with
      | none => (i.readMarked none rest).leave [word]
      | some (.command ..) =>
          Finding.checked (.operand (word :: rest.map Prod.fst)) wanted (fun _ => ⟨[], [], none⟩)
      | some (.word _) =>
          match rest with
          | (_, .divider) :: more => (i.readMarked none more).add [.operand [word]]
          | _ => (i.readMarked none rest).add [.operand [word]]
  | (word, .divider) :: rest =>
      match wanted, rest with
      | none, _ => ⟨[], word :: rest.map Prod.fst, none⟩
      | some operand, [] => .failed ("the following arguments are required: " ++ operand.name)
      | some (.command ..), _ :: _ =>
          Finding.checked (.operand (word :: rest.map Prod.fst)) wanted (fun _ => ⟨[], [], none⟩)
      | some (.word _), (first, _) :: more => ⟨[.operand [first]], more.map Prod.fst, none⟩
  | (word, .unknownSwitch) :: rest => (i.readMarked wanted rest).leave [word]
  | (_, .switch use) :: rest =>
      match i.useCluster use with
      | .error message => .failed message
      | .ok ⟨found, leftOver, none⟩ =>
          match found with
          | [one] => Finding.checked one none (fun _ => (i.readMarked wanted rest).leave leftOver)
          | _ => ((i.readMarked wanted rest).leave leftOver).add found
      | .ok ⟨found, _, some s⟩ =>
          match rest with
          | (argument, .word) :: more =>
              (Finding.checked (.switch s (some argument)) none (fun _ => i.readMarked wanted more)).add found
          | _ => .failed (argumentError s.label "expected one argument")

def Interface.read (i : Interface) (words : List String) : Reading :=
  match i.markAll words with
  | .error message => .failed message
  | .ok marked => i.readMarked i.operand marked

end CallScript.CommandLine
