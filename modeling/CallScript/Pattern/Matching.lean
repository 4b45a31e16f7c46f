import CallScript.Pattern.Tree
import CallScript.Text.Blank
import CallScript.Text.Case
import CallScript.Text.Digit
import CallScript.Text.Word

/-! Matching by trial: a node is tried with a continuation that says whether the rest fits, and the first
way that fits decides. Repetitions stop when a round took no characters, so that they are bounded by
the text that is left. -/
namespace CallScript.Pattern

structure State where
  place : Nat
  groups : Array (Option (Nat × Nat))

abbrev Continuation := State → Option State

/-- A way of taking characters, given what follows. -/
abbrev Matcher := State → Continuation → Option State

def isWordCode (ascii : Bool) (c : Char) : Bool :=
  if ascii then c.isAlphanum || c == '_' else Text.isWordChar c

def Category.holds (ascii : Bool) (c : Char) : Category → Bool
  | .digit => if ascii then c.isDigit else Text.isDigit c
  | .space => if ascii then c == ' ' || (9 ≤ c.toNat && c.toNat ≤ 13) else Text.isBlank c
  | .word => isWordCode ascii c

def variants (o : Options) (c : Char) : List Nat :=
  if !o.ignoreCase then [c.toNat]
  else if o.ascii then
    let lower := Text.lowerAsciiCode c.toNat
    if 97 ≤ lower && lower ≤ 122 then [lower, lower - 32] else [c.toNat]
  else c.toNat :: Text.alike c.toNat

def Member.holds (o : Options) (c : Char) (codes : List Nat) : Member → Bool
  | .literal code => codes.contains code
  | .range low high => codes.any (fun code => low ≤ code && code ≤ high)
  | .category kind negated => kind.holds o.ascii c != negated

def setHolds (o : Options) (negated : Bool) (members : List Member) (c : Char) : Bool :=
  let codes := variants o c
  members.any (fun m => m.holds o c codes) != negated

def takeOne (text : Array Char) (test : Char → Bool) : Matcher := fun s k =>
  match text[s.place]? with
  | some c => if test c then k { s with place := s.place + 1 } else none
  | none => none

def wordAt (o : Options) (text : Array Char) (place : Nat) : Bool :=
  match text[place]? with
  | some c => isWordCode o.ascii c
  | none => false

def atWordEdge (o : Options) (text : Array Char) (place : Nat) : Bool :=
  (0 < place && wordAt o text (place - 1)) != wordAt o text place

def Boundary.holds (o : Options) (text : Array Char) (place : Nat) : Boundary → Bool
  | .textBeginning => place == 0
  | .beginning => place == 0 || (o.multiline && text[place - 1]? == some '\n')
  | .textEnding => place == text.size
  | .ending =>
      place == text.size || (text[place]? == some '\n' && (o.multiline || place + 1 == text.size))
  | .word => !text.isEmpty && atWordEdge o text place
  | .notWord => !text.isEmpty && !atWordEdge o text place

def lowerFor (o : Options) (c : Char) : Nat :=
  if !o.ignoreCase then c.toNat
  else if o.ascii then Text.lowerAsciiCode c.toNat
  else Text.lowerCode c.toNat

def takeAgain (o : Options) (text : Array Char) (group : Nat) : Matcher := fun s k =>
  match s.groups[group]? with
  | some (some (first, last)) =>
      let size := last - first
      let same := (List.range size).all (fun i =>
        match text[first + i]?, text[s.place + i]? with
        | some a, some b => lowerFor o a == lowerFor o b
        | _, _ => false)
      if same then k { s with place := s.place + size } else none
  | _ => none

def takeGreedy (body : Matcher) (least : Nat) (most : Option Nat) :
    Nat → Nat → Option Nat → Matcher
  | 0, _, _ => fun _ _ => none
  | bound + 1, count, last => fun s k =>
      if count < least then body s (fun s => takeGreedy body least most bound (count + 1) last s k)
      else if most.all (count < ·) && last != some s.place then
        match body s (fun t => takeGreedy body least most bound (count + 1) (some s.place) t k) with
        | some done => some done
        | none => k s
      else k s

def takeLazy (body : Matcher) (least : Nat) (most : Option Nat) :
    Nat → Nat → Option Nat → Matcher
  | 0, _, _ => fun _ _ => none
  | bound + 1, count, last => fun s k =>
      if count < least then body s (fun s => takeLazy body least most bound (count + 1) last s k)
      else
        match k s with
        | some done => some done
        | none =>
            if most.all (count < ·) && last != some s.place then
              body s (fun t => takeLazy body least most bound (count + 1) (some s.place) t k)
            else none

def takePossessive (body : Matcher) (least : Nat) (most : Option Nat) :
    Nat → Nat → Option Nat → State → Option State
  | 0, _, _, _ => none
  | bound + 1, count, last, s =>
      if count < least then
        match body s some with
        | some t => takePossessive body least most bound (count + 1) last t
        | none => none
      else if most.all (count < ·) && last != some s.place then
        match body s some with
        | some t => takePossessive body least most bound (count + 1) (some s.place) t
        | none => some s
      else some s

def takeRepeated (eagerness : Eagerness) (least : Nat) (most : Option Nat) (size : Nat) (body : Matcher) :
    Matcher := fun s k =>
  let bound := least + (size - s.place) + 3
  match eagerness with
  | .greedy => takeGreedy body least most bound 0 none s k
  | .lazy => takeLazy body least most bound 0 none s k
  | .possessive =>
      match takePossessive body least most bound 0 none s with
      | some t => k t
      | none => none

def Options.scoped (o : Options) (scoping : Scoping) : Options :=
  { ignoreCase := (o.ignoreCase || scoping.added.ignoreCase) && !scoping.removed.ignoreCase
    multiline := (o.multiline || scoping.added.multiline) && !scoping.removed.multiline
    dotAll := (o.dotAll || scoping.added.dotAll) && !scoping.removed.dotAll
    verbose := o.verbose
    ascii := scoping.added.ascii || (o.ascii && !scoping.unicode) }

mutual

def Node.take (text : Array Char) (o : Options) : Node → Matcher
  | .any => takeOne text (fun c => o.dotAll || c != '\n')
  | .set negated members => takeOne text (setHolds o negated members)
  | .boundary b => fun s k => if b.holds o text s.place then k s else none
  | .sequence nodes => takeAll text o nodes
  | .choice nodes => takeAny text o nodes
  | .capture group body => fun s k =>
      body.take text o s (fun t => k { t with groups := t.groups.setIfInBounds group (some (s.place, t.place)) })
  | .scoped scoping body => body.take text (o.scoped scoping)
  | .repeated eagerness least most body => takeRepeated eagerness least most text.size (body.take text o)
  | .reference group => takeAgain o text group
  | .conditional group matched unmatched => fun s k =>
      if (s.groups[group]?).join.isSome then matched.take text o s k else unmatched.take text o s k
  | .atomic body => fun s k =>
      match body.take text o s some with
      | some t => k t
      | none => none
  | .look behind negated body => fun s k =>
      let back := behind.getD 0
      let found := if s.place < back then none else body.take text o { s with place := s.place - back } some
      match found, negated with
      | some t, false => k { t with place := s.place }
      | none, true => k s
      | _, _ => none

def takeAll (text : Array Char) (o : Options) : List Node → Matcher
  | [] => fun s k => k s
  | node :: rest => fun s k => node.take text o s (fun t => takeAll text o rest t k)

def takeAny (text : Array Char) (o : Options) : List Node → Matcher
  | [] => fun _ _ => none
  | node :: rest => fun s k =>
      match node.take text o s k with
      | some done => some done
      | none => takeAny text o rest s k

end

end CallScript.Pattern
