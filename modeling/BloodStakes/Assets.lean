import BloodStakes.Catalog.Validation
import BloodStakes.Record.House
import BloodStakes.Json.Reader
import BloodStakes.Session.Basic

/-! Reading the rules and the catalog from the files of an asset directory. -/
namespace BloodStakes

/-- The contents of the files that are read; `none` is a file that is missing. -/
structure Assets where
  rules? : Option ByteArray := none
  daimons? : Option ByteArray := none
  tokens? : Option ByteArray := none

inductive AssetFile where
  | rules
  | daimons
  | tokens
  deriving DecidableEq, Repr

def AssetFile.name : AssetFile → String
  | rules => "rules.json"
  | daimons => "daimons.json"
  | tokens => "tokens.json"

inductive AssetError where
  /-- The file is missing or is no text. -/
  | unreadable (file : AssetFile)
  | malformed (file : AssetFile)
  | invalid (fault : CatalogFault)
  deriving DecidableEq, Repr

/-- The error as it is reported for a directory. -/
def AssetError.message (directory : String) : AssetError → String
  | unreadable file => s!"read {directory}/{file.name}"
  | malformed file => s!"parse {directory}/{file.name}"
  | invalid fault => fault.message

namespace Assets

def contents? (assets : Assets) : AssetFile → Option ByteArray
  | .rules => assets.rules?
  | .daimons => assets.daimons?
  | .tokens => assets.tokens?

def load {α : Type} (assets : Assets) (file : AssetFile) (value? : Json → Option α) :
    Except AssetError α :=
  match (assets.contents? file).bind String.fromUTF8? with
  | none => .error (.unreadable file)
  | some text =>
    match Json.ofText? text >>= value? with
    | none => .error (.malformed file)
    | some value => .ok value

def loadRules (assets : Assets) : Except AssetError Rules :=
  assets.load .rules Rules.ofJson?

def loadDaimons (assets : Assets) : Except AssetError (List Daimon) :=
  assets.load .daimons Daimon.listOfDocument?

def loadTokens (assets : Assets) : Except AssetError (List Token) :=
  assets.load .tokens Token.listOfDocument?

/-- The catalog, if it can be played. -/
def loadCatalog (assets : Assets) : Except AssetError Catalog := do
  let catalog : Catalog := { daimons := ← assets.loadDaimons, tokens := ← assets.loadTokens }
  match catalog.validate with
  | .ok () => return catalog
  | .error fault => .error (.invalid fault)

end Assets

end BloodStakes
