import SceneInspector.Forest
import SceneInspector.Text.Numeral

namespace SceneInspector.Summary.Path

def childs : List Char := "childs".toList

def render : Position → List Char
  | [] => []
  | [number] => '/' :: Nat.toDigits 10 number
  | number :: below => '/' :: Nat.toDigits 10 number ++ '/' :: childs ++ render below

def segments : List Char → List (List Char)
  | [] => [[]]
  | c :: rest =>
    if c = '/' then [] :: segments rest
    else match segments rest with
      | [] => [[c]]
      | segment :: others => (c :: segment) :: others

def numbers? : List (List Char) → Option Position
  | [] => none
  | [number] => (Text.unsigned? Text.maxUInt64 number).map ([·])
  | number :: word :: rest =>
    if word = childs then do
      let first ← Text.unsigned? Text.maxUInt64 number
      pure (first :: (← numbers? rest))
    else none

def parse? (path : List Char) : Option Position :=
  match path with
  | '/' :: rest => numbers? (segments rest)
  | _ => none

end SceneInspector.Summary.Path
