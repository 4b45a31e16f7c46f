import CallScript.Fault

/-! Bytes read as text. A byte below 128 is a character of its own; a lead byte tells how many bytes
follow it, and bounds the first of them so that every character has one spelling only. Bytes that spell
no character are faulted from the lead byte to the last byte that could still have belonged to it. -/
namespace CallScript.Text

structure BadBytes where
  reason : String
  count : Nat

def isTrail (byte : Nat) : Bool := 0x80 ≤ byte && byte < 0xC0

def trailOf? (lead : Nat) : Option (Nat × Nat × Nat) :=
  if 0xC2 ≤ lead && lead < 0xE0 then some (1, 0x80, 0xBF)
  else if lead == 0xE0 then some (2, 0xA0, 0xBF)
  else if lead == 0xED then some (2, 0x80, 0x9F)
  else if 0xE1 ≤ lead && lead < 0xF0 then some (2, 0x80, 0xBF)
  else if lead == 0xF0 then some (3, 0x90, 0xBF)
  else if 0xF1 ≤ lead && lead < 0xF4 then some (3, 0x80, 0xBF)
  else if lead == 0xF4 then some (3, 0x80, 0x8F)
  else none

def fittingTrail (count low high : Nat) : List Nat → List Nat
  | [] => []
  | first :: rest =>
      if low ≤ first && first ≤ high then first :: (rest.take (count - 1)).takeWhile isTrail else []

def leadBits (lead count : Nat) : Nat :=
  lead % Nat.pow 2 (6 - count)

def firstCharacter (lead : Nat) (rest : List Nat) : Except BadBytes (Char × Nat) :=
  if lead < 0x80 then .ok (Char.ofNat lead, 1)
  else
    match trailOf? lead with
    | none => .error ⟨"invalid start byte", 1⟩
    | some (count, low, high) =>
        let trail := fittingTrail count low high rest
        if trail.length == count then
          .ok (Char.ofNat (trail.foldl (fun code byte => code * 64 + byte % 64) (leadBits lead count)), count + 1)
        else if trail.length == rest.length then .error ⟨"unexpected end of data", trail.length + 1⟩
        else .error ⟨"invalid continuation byte", trail.length + 1⟩

def decodeFrom (place : Nat) : List Nat → Except Fault (List Char)
  | [] => .ok []
  | lead :: rest =>
      match firstCharacter lead rest with
      | .error bad => .error (.undecodable lead place (place + bad.count - 1) bad.reason)
      | .ok (c, count) => do return c :: (← decodeFrom (place + count) (rest.drop (count - 1)))
termination_by bytes => bytes.length
decreasing_by simp only [List.length_drop, List.length_cons]; omega

def decodeText (bytes : List UInt8) : Except Fault String := do
  return String.ofList (← decodeFrom 0 (bytes.map UInt8.toNat))

def decodeLoosely : List Nat → List Char
  | [] => []
  | lead :: rest =>
      match firstCharacter lead rest with
      | .error bad => '\ufffd' :: decodeLoosely (rest.drop (bad.count - 1))
      | .ok (c, count) => c :: decodeLoosely (rest.drop (count - 1))
termination_by bytes => bytes.length
decreasing_by all_goals simp only [List.length_drop, List.length_cons]; omega

end CallScript.Text
