import CallScript.Json.Reading
import CallScript.Text.Pieces
import CallScript.Text.Utf8

/-! Addresses of requests: a path, and names with values after a question mark. Points and double points
in a path are resolved; what is escaped with a percent sign stands for bytes of text, in a path twice,
since the sender and the receiver both resolve escapes. -/
namespace CallScript.Service

structure Address where
  path : String
  query : List (String × String)
  deriving DecidableEq, Repr

def unescapedBytes : List Char → List Nat
  | '%' :: a :: b :: rest =>
      match Json.hexDigit? a, Json.hexDigit? b with
      | some high, some low => (16 * high + low) :: unescapedBytes rest
      | _, _ => 0x25 :: unescapedBytes (a :: b :: rest)
  | c :: rest => c.toString.toUTF8.toList.map UInt8.toNat ++ unescapedBytes rest
  | [] => []
termination_by cs => cs.length

def unescape (cs : List Char) : List Char :=
  Text.decodeLoosely (unescapedBytes cs)

def resolvePoints : List (List Char) → List (List Char) → List (List Char)
  | kept, [] => kept.reverse
  | kept, piece :: rest =>
      if piece == ['.'] then resolvePoints kept rest
      else if piece == ['.', '.'] then resolvePoints (if kept == [[]] then kept else kept.drop 1) rest
      else resolvePoints (piece :: kept) rest

def pathOf (cs : List Char) : String :=
  let rooted := '/' :: cs.dropWhile (· == '/')
  let resolved := Text.joined '/' (resolvePoints [] (Text.pieces '/' rooted))
  if resolved.isEmpty then "/" else String.ofList (unescape (unescape resolved))

def unescapeField (cs : List Char) : String :=
  String.ofList (unescape (cs.map (fun c => if c == '+' then ' ' else c)))

def queryOf (cs : List Char) : List (String × String) :=
  ((Text.pieces '&' cs).filter (fun piece => !piece.isEmpty)).map (fun piece =>
    let name := piece.takeWhile (· != '=')
    (unescapeField name, unescapeField (piece.drop (name.length + 1))))

def Address.ofText (s : String) : Address :=
  let cs := s.toList.takeWhile (· != '#')
  let path := cs.takeWhile (· != '?')
  ⟨pathOf path, queryOf (cs.drop (path.length + 1))⟩

def Address.value? (a : Address) (name : String) : Option String :=
  (a.query.reverse.find? (fun entry => entry.1 == name)).map Prod.snd

end CallScript.Service
