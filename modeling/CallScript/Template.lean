/-! Print templates: text with directives that begin with a percent sign. A directive may name a key in
parentheses, then has flags, a width, a precision, a length mark that means nothing, and the letter of
its conversion; two percent signs stand for one. `pieces` reads a template to its end; what is wrong with a
directive only shows when it is filled in, after the arguments it takes on the way. -/
namespace CallScript.Template

structure Flags where
  left : Bool
  sign : Bool
  blank : Bool
  alternate : Bool
  zero : Bool
  deriving DecidableEq, Repr

inductive Size where
  | absent
  | given (n : Nat)
  | argument
  deriving DecidableEq, Repr

inductive Key where
  | absent
  | named (key : String)
  | unclosed
  deriving DecidableEq, Repr

structure Directive where
  key : Key
  flags : Flags
  width : Size
  precision : Size
  letter : Option Char
  position : Nat
  deriving DecidableEq, Repr

inductive Piece where
  | text (cs : List Char)
  | directive (d : Directive)
  deriving DecidableEq, Repr

def readKey : Nat → List Char → List Char → Key × List Char
  | _, _, [] => (.unclosed, [])
  | depth, key, c :: rest =>
      if c == ')' then
        match depth with
        | 0 => (.named (String.ofList key.reverse), rest)
        | depth + 1 => readKey depth (c :: key) rest
      else if c == '(' then readKey (depth + 1) (c :: key) rest
      else readKey depth (c :: key) rest

def readKey? : List Char → Key × List Char
  | '(' :: rest => readKey 0 [] rest
  | cs => (.absent, cs)

def isFlag (c : Char) : Bool :=
  c == '-' || c == '+' || c == ' ' || c == '#' || c == '0'

def Flags.ofChars (cs : List Char) : Flags :=
  ⟨cs.contains '-', cs.contains '+', cs.contains ' ', cs.contains '#', cs.contains '0'⟩

def readFlags (cs : List Char) : Flags × List Char :=
  (Flags.ofChars (cs.takeWhile isFlag), cs.dropWhile isFlag)

def naturalOf (cs : List Char) : Nat :=
  cs.foldl (fun n c => 10 * n + (c.toNat - 48)) 0

def readSize (missing : Size) (cs : List Char) : Size × List Char :=
  match cs with
  | '*' :: rest => (.argument, rest)
  | _ =>
      if (cs.takeWhile Char.isDigit).isEmpty then (missing, cs)
      else (.given (naturalOf (cs.takeWhile Char.isDigit)), cs.dropWhile Char.isDigit)

def readPrecision : List Char → Size × List Char
  | '.' :: rest => readSize (.given 0) rest
  | cs => (.absent, cs)

def dropLengthMark : List Char → List Char
  | c :: rest => if c == 'h' || c == 'l' || c == 'L' then rest else c :: rest
  | [] => []

def Directive.read (start : Nat) (cs : List Char) : Directive × List Char :=
  let (key, afterKey) := readKey? cs
  let (flags, afterFlags) := readFlags afterKey
  let (width, afterWidth) := readSize .absent afterFlags
  let (precision, afterPrecision) := readPrecision afterWidth
  let rest := dropLengthMark afterPrecision
  (⟨key, flags, width, precision, rest.head?, start + (cs.length - rest.length)⟩, rest.tail)

theorem length_readKey (depth : Nat) (key cs : List Char) : (readKey depth key cs).2.length ≤ cs.length := by
  induction cs generalizing depth key with
  | nil => simp [readKey]
  | cons c rest ih =>
      unfold readKey
      split
      · split
        · simp
        · exact Nat.le_succ_of_le (ih _ _)
      · split <;> exact Nat.le_succ_of_le (ih _ _)

theorem length_readKey? (cs : List Char) : (readKey? cs).2.length ≤ cs.length := by
  unfold readKey?
  split
  · exact Nat.le_succ_of_le (length_readKey 0 [] _)
  · exact Nat.le_refl _

theorem length_dropWhile_le (p : Char → Bool) (cs : List Char) : (cs.dropWhile p).length ≤ cs.length :=
  (List.dropWhile_suffix p).length_le

theorem length_readSize (missing : Size) (cs : List Char) : (readSize missing cs).2.length ≤ cs.length := by
  unfold readSize
  split
  · simp
  · split
    · exact Nat.le_refl _
    · exact length_dropWhile_le _ _

theorem length_readPrecision (cs : List Char) : (readPrecision cs).2.length ≤ cs.length := by
  unfold readPrecision
  split
  · exact Nat.le_succ_of_le (length_readSize _ _)
  · exact Nat.le_refl _

theorem length_dropLengthMark (cs : List Char) : (dropLengthMark cs).length ≤ cs.length := by
  unfold dropLengthMark
  split
  · split <;> simp
  · exact Nat.le_refl _

theorem Directive.length_read (start : Nat) (cs : List Char) : (Directive.read start cs).2.length ≤ cs.length := by
  unfold Directive.read
  have hKey := length_readKey? cs
  have hFlags := length_dropWhile_le isFlag (readKey? cs).2
  have hWidth := length_readSize .absent (readFlags (readKey? cs).2).2
  have hPrecision := length_readPrecision (readSize .absent (readFlags (readKey? cs).2).2).2
  have hMark := length_dropLengthMark (readPrecision (readSize .absent (readFlags (readKey? cs).2).2).2).2
  simp only [List.length_tail, readFlags] at *
  omega

def piecesFrom (start : Nat) : List Char → List Piece
  | [] => []
  | '%' :: '%' :: rest => .text ['%'] :: piecesFrom (start + 2) rest
  | '%' :: rest =>
      .directive (Directive.read (start + 1) rest).1 ::
        piecesFrom (start + 1 + (rest.length - (Directive.read (start + 1) rest).2.length))
          (Directive.read (start + 1) rest).2
  | c :: rest => .text [c] :: piecesFrom (start + 1) rest
termination_by cs => cs.length
decreasing_by
  · simp only [List.length_cons]; omega
  · exact Nat.lt_succ_of_le (Directive.length_read _ _)
  · exact Nat.lt_succ_self _

def pieces (s : String) : List Piece :=
  piecesFrom 0 s.toList

end CallScript.Template
