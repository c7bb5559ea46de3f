import SceneInspector.Decimal.Binary64
import SceneInspector.Dictionary
import SceneInspector.Text.Numeral

namespace SceneInspector

-- A number of a document keeps the difference between an integer of 64 bits and a number with a
-- fraction or an exponent.
inductive Json.Number where
  | integer (value : Int)
  | real (value : Binary64)
deriving DecidableEq, Repr

-- Members stand in the order in which a document has them, repeated ones included, until
-- `Json.canonical` sorts them.
inductive Json where
  | null
  | bool (value : Bool)
  | number (value : Json.Number)
  | string (value : String)
  | array (items : List Json)
  | object (members : List (String × Json))
deriving Inhabited, Repr

namespace Json

mutual
def decEq (left right : Json) : Decidable (left = right) :=
  match left, right with
  | .null, .null => isTrue rfl
  | .bool a, .bool b => if h : a = b then isTrue (h ▸ rfl) else isFalse (fun e => h (Json.bool.inj e))
  | .number a, .number b =>
    if h : a = b then isTrue (h ▸ rfl) else isFalse (fun e => h (Json.number.inj e))
  | .string a, .string b =>
    if h : a = b then isTrue (h ▸ rfl) else isFalse (fun e => h (Json.string.inj e))
  | .array a, .array b => match decEqItems a b with
    | isTrue h => isTrue (h ▸ rfl)
    | isFalse h => isFalse (fun e => h (Json.array.inj e))
  | .object a, .object b => match decEqMembers a b with
    | isTrue h => isTrue (h ▸ rfl)
    | isFalse h => isFalse (fun e => h (Json.object.inj e))
  | .null, .bool _ | .null, .number _ | .null, .string _ | .null, .array _ | .null, .object _
  | .bool _, .null | .bool _, .number _ | .bool _, .string _ | .bool _, .array _ | .bool _, .object _
  | .number _, .null | .number _, .bool _ | .number _, .string _ | .number _, .array _
  | .number _, .object _ | .string _, .null | .string _, .bool _ | .string _, .number _
  | .string _, .array _ | .string _, .object _ | .array _, .null | .array _, .bool _
  | .array _, .number _ | .array _, .string _ | .array _, .object _ | .object _, .null
  | .object _, .bool _ | .object _, .number _ | .object _, .string _ | .object _, .array _ =>
    isFalse nofun
termination_by structural left
def decEqItems (left right : List Json) : Decidable (left = right) :=
  match left, right with
  | [], [] => isTrue rfl
  | a :: restA, b :: restB => match decEq a b, decEqItems restA restB with
    | isTrue h, isTrue k => isTrue (h ▸ k ▸ rfl)
    | isFalse h, _ => isFalse (fun e => h (List.cons.inj e).1)
    | _, isFalse k => isFalse (fun e => k (List.cons.inj e).2)
  | [], _ :: _ | _ :: _, [] => isFalse nofun
termination_by structural left
def decEqMembers (left right : List (String × Json)) : Decidable (left = right) :=
  match left, right with
  | [], [] => isTrue rfl
  | (nameA, a) :: restA, (nameB, b) :: restB =>
    match decEq a b, decEqMembers restA restB with
    | isTrue h, isTrue k =>
      if n : nameA = nameB then isTrue (h ▸ k ▸ n ▸ rfl)
      else isFalse (fun e => n (Prod.mk.inj (List.cons.inj e).1).1)
    | isFalse h, _ => isFalse (fun e => h (Prod.mk.inj (List.cons.inj e).1).2)
    | _, isFalse k => isFalse (fun e => k (List.cons.inj e).2)
  | [], _ :: _ | _ :: _, [] => isFalse nofun
termination_by structural left
end

instance : DecidableEq Json := decEq

def integer (value : Int) : Json := .number (.integer value)

def natural (value : Nat) : Json := integer value

def real (value : Binary64) : Json := if value.isFinite then .number (.real value) else .null

def optional {α : Type} (write : α → Json) (value : Option α) : Json := value.elim .null write

def strings (values : List String) : Json := .array (values.map .string)

mutual
def canonical : Json → Json
  | .array items => .array (canonicalItems items)
  | .object members => .object (Dictionary.ofList (canonicalMembers members))
  | other => other
termination_by structural value => value
def canonicalItems : List Json → List Json
  | [] => []
  | item :: rest => item.canonical :: canonicalItems rest
termination_by structural items => items
def canonicalMembers : List (String × Json) → List (String × Json)
  | [] => []
  | (name, value) :: rest => (name, value.canonical) :: canonicalMembers rest
termination_by structural members => members
end

def natural? : Json → Option Nat
  | .number (.integer value) => if 0 ≤ value then some value.toNat else none
  | _ => none

def bounded? (limit : Nat) (value : Json) : Option Nat := value.natural?.filter (· ≤ limit)

def word? (value : Json) : Option UInt32 := (value.bounded? Text.maxUInt32).map UInt32.ofNat

def Number.toBinary64 : Number → Binary64
  | .integer value => .ofInt value
  | .real value => value

end SceneInspector.Json
