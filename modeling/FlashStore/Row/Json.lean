import FlashStore.Json.Shape
import FlashStore.Row

/-!
Fields as JSON: an object with the members `name` and `value`, or a list of the two. Neither may be
left out.
-/

namespace FlashStore.Field

open Json (ReadError)

def ofMembers (name value : Option String) : Except ReadError Field :=
  match name, value with
  | some name, some value => .ok ⟨name, value⟩
  | none, _ => .error (.mismatch (.missingMember "name"))
  | _, none => .error (.mismatch (.missingMember "value"))

def ofElements (name value : Option String) : Except ReadError Field :=
  let short (length : Nat) : Except ReadError Field :=
    .error (.mismatch (.wrongLength length "struct Field with 2 elements"))
  match name, value with
  | some name, some value => .ok ⟨name, value⟩
  | none, _ => short 0
  | _, none => short 1

def shape : Json.Shape String String Field where
  expected := "struct Field"
  first := "name"
  second := "value"
  readFirst := Json.readString "a string"
  readSecond := Json.readString "a string"
  ofObject := ofMembers
  ofList := ofElements

def ofJson (text : String) : Except ReadError Field := Json.readAll shape.read text

def toJson (field : Field) : String :=
  Json.writtenPair shape.first shape.second (Json.writtenText field.name)
    (Json.writtenText field.value)

end FlashStore.Field
