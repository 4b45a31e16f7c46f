import CallScript.Syntax.Reading

/-! A script read from its text. At each place only the terminals that the phase wants are looked for;
where none of them stands there the script is at fault, and the message names the token that does stand
there, if any terminal at all fits. -/
namespace CallScript.Syntax

structure Position where
  line : Nat
  column : Nat
  deriving DecidableEq, Repr

def Position.start : Position := ⟨1, 1⟩

def Position.after (p : Position) (c : Char) : Position :=
  if c == '\n' then ⟨p.line + 1, 1⟩ else ⟨p.line, p.column + 1⟩

def Position.advance (p : Position) (cs : List Char) : Position :=
  cs.foldl Position.after p

inductive Misfit where
  /-- A token that may not stand where it does; the end of the script is placed at its last token. -/
  | token (t : Token) (place : Position)
  | character (c : Char) (place : Position)
  deriving DecidableEq, Repr

def tokenAt (kind : Terminal) (cs : List Char) : Token :=
  ⟨kind, String.ofList (cs.take (kind.width cs))⟩

theorem Terminal.width_pos_of_at? {wanted : Terminal → Bool} {cs : List Char} {kind : Terminal}
    (h : Terminal.at? wanted cs = some kind) : 0 < kind.width cs := by
  have := List.find?_some h
  simp only [Bool.and_eq_true, decide_eq_true_eq] at this
  exact this.2

def misfitAt (c : Char) (rest : List Char) (place : Position) : Misfit :=
  match Terminal.at? (fun _ => true) (c :: rest) with
  | some kind => .token (tokenAt kind (c :: rest)) place
  | none => .character c place

def Reading.run (r : Reading) (place last : Position) : List Char → Except Misfit (Tree Lexeme)
  | [] =>
      match r.finish with
      | some tree => .ok tree
      | none => .error (.token ⟨.ending, ""⟩ last)
  | c :: rest =>
      if _skip : 0 < skippedWidth (c :: rest) then
        r.run (place.advance ((c :: rest).take (skippedWidth (c :: rest)))) last
          ((c :: rest).drop (skippedWidth (c :: rest)))
      else
        match _kind : Terminal.at? r.phase.wants (c :: rest) with
        | none => .error (misfitAt c rest place)
        | some kind =>
            match r.step (tokenAt kind (c :: rest)) with
            | none => .error (.token (tokenAt kind (c :: rest)) place)
            | some next =>
                next.run (place.advance ((c :: rest).take (kind.width (c :: rest)))) place
                  ((c :: rest).drop (kind.width (c :: rest)))
termination_by cs => cs.length
decreasing_by
  · simp only [List.length_drop, List.length_cons] at *; omega
  · have := Terminal.width_pos_of_at? _kind
    simp only [List.length_drop, List.length_cons] at *; omega

def readTree (source : String) : Except Misfit (Tree Lexeme) :=
  Reading.start.run Position.start Position.start source.toList

def Misfit.message : Misfit → String
  | .token t place =>
      "Unexpected token Token(" ++ Text.quoted t.kind.label ++ ", " ++ Text.quoted t.text ++ ") at line " ++
        toString place.line ++ ", column " ++ toString place.column ++ "."
  | .character c place =>
      "No terminal matches '" ++ c.toString ++ "' in the current parser context, at line " ++
        toString place.line ++ " col " ++ toString place.column

end CallScript.Syntax
