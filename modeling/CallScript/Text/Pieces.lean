/-! Texts cut at a separator. `pieces` gives one piece more than there are separators, and `joined` puts
them together again. -/
namespace CallScript.Text

def pieces (separator : Char) : List Char → List (List Char)
  | [] => [[]]
  | c :: rest =>
      if c == separator then [] :: pieces separator rest
      else
        match pieces separator rest with
        | [] => [[c]]
        | piece :: more => (c :: piece) :: more

def joined (separator : Char) : List (List Char) → List Char
  | [] => []
  | [piece] => piece
  | piece :: rest => piece ++ separator :: joined separator rest

theorem pieces_ne_nil (separator : Char) (cs : List Char) : pieces separator cs ≠ [] := by
  cases cs with
  | nil => simp [pieces]
  | cons c rest =>
      simp only [pieces]
      split
      · simp
      · split <;> simp

theorem joined_cons_cons (separator c : Char) (piece : List Char) (rest : List (List Char)) :
    joined separator ((c :: piece) :: rest) = c :: joined separator (piece :: rest) := by
  cases rest <;> simp [joined]

theorem joined_pieces (separator : Char) (cs : List Char) : joined separator (pieces separator cs) = cs := by
  induction cs with
  | nil => rfl
  | cons c rest ih =>
      simp only [pieces]
      split
      · rename_i same
        have : c = separator := by simpa using same
        cases h : pieces separator rest with
        | nil => exact absurd h (pieces_ne_nil separator rest)
        | cons piece more => rw [h] at ih; simp [joined, ih, this]
      · cases h : pieces separator rest with
        | nil => exact absurd h (pieces_ne_nil separator rest)
        | cons piece more => rw [h] at ih; simp [joined_cons_cons, ih]

end CallScript.Text
