import BloodStakes.Json.Decimal

/-!
Typed reading of documents. A record is written as an object, in which unknown members are
passed over and a known one may stand only once, or as an array of its members in order, of
which the last ones may be missing.
-/
namespace BloodStakes.Json

def text? : Json → Option String
  | .string text? => text?
  | _ => none

def bool? : Json → Option Bool
  | .bool b => some b
  | _ => none

/-- A whole number from `least` to `greatest`. -/
def intWithin? (least greatest : Int) : Json → Option Int
  | .number n =>
    match n.quantity? with
    | some (.whole i) => if least ≤ i ∧ i ≤ greatest then some i else none
    | _ => none
  | _ => none

/-- A count that fits the given number of bits. -/
def count? (bits : Nat) (json : Json) : Option Nat :=
  (json.intWithin? 0 ((1 <<< bits : Nat) - 1)).map Int.toNat

/-- A signed number that fits the given number of bits. -/
def signed? (bits : Nat) (json : Json) : Option Int :=
  let bound : Nat := 1 <<< (bits - 1)
  json.intWithin? (-bound) (bound - 1)

def float? : Json → Option Float
  | .number n => n.quantity?.map fun
    | .whole i => Float.ofInt i
    | .fraction x => x
  | _ => none

def list? {α : Type} (item? : Json → Option α) : Json → Option (List α)
  | .array items => items.mapM item?
  | _ => none

def nullable? {α : Type} (value? : Json → Option α) : Json → Option (Option α)
  | .null => some none
  | json => (value? json).map some

/-- A word out of a fixed choice, alone or as the one name in an object, before `null`. -/
def word? {α : Type} (ofWord? : String → Option α) : Json → Option α
  | .string (some word) => ofWord? word
  | .object [(some word, .null)] => ofWord? word
  | _ => none

/-- A word as `word?` reads it, or as the one name in an object before an empty object. -/
def laxWord? {α : Type} (ofWord? : String → Option α) : Json → Option α
  | .object [(some word, .object [])] => ofWord? word
  | json => json.word? ofWord?

/-- The known members of a record. -/
structure Members where
  known : List (String × Json)

/-- The members of an object with these names; `none` if one is repeated, or if the name of
any member is no text. -/
def namedMembers? (names : List String) (members : List (Option String × Json)) :
    Option Members := do
  let members ← members.mapM fun (name?, json) => name?.map (·, json)
  let known := members.filter fun (name, _) => names.contains name
  if (known.map Prod.fst).Nodup then return ⟨known⟩ else none

def record? (names : List String) : Json → Option Members
  | .object members => namedMembers? names members
  | .array items => if items.length ≤ names.length then some ⟨names.zip items⟩ else none
  | _ => none

def Members.find? (members : Members) (name : String) : Option Json :=
  members.known.lookup name

def Members.get {α : Type} (members : Members) (name : String) (value? : Json → Option α) :
    Option α :=
  members.find? name >>= value?

def Members.getD {α : Type} (members : Members) (name : String) (missing : α)
    (value? : Json → Option α) : Option α :=
  match members.find? name with
  | some json => value? json
  | none => some missing

/-- Whether a part of a document can be read in full: every string is text, no number is too
large, and arrays and objects are nested at most `depth` deep. -/
def isPlain : (depth : Nat) → Json → Bool
  | _, .null => true
  | _, .bool _ => true
  | _, .number n => n.quantity?.isSome
  | _, .string text? => text?.isSome
  | 0, .array _ => false
  | 0, .object _ => false
  | depth + 1, .array items => items.all (isPlain depth)
  | depth + 1, .object members =>
    members.all fun (name?, json) => name?.isSome && isPlain depth json

end BloodStakes.Json
