import ObjectStorage.Datum.Basic
import ObjectStorage.Number.Shortest
import ObjectStorage.Text.Quoted

/-!
# Text of data

The two texts of a datum: the described form, where texts stand in quotes and parts of a whole are
described in turn (`Datum.described`), and the plain form, which is the described form except where
a datum has a text of its own (`Datum.plain`). Secrets are not described.
-/

namespace ObjectStorage

open Text Number

def Location.described (location : Location) : Text :=
  "StorageLocation(scheme=" ++ quoted location.scheme ++ ", authority=" ++
    quoted location.authority ++ ", path=" ++ quoted location.path ++ ")"

def Time.Instant.described (t : Time.Instant) : Text :=
  "datetime.datetime(" ++ Text.intercalate ", " (t.describedParts.map natText) ++
    ", tzinfo=datetime.timezone.utc)"

def FaultKind.described (kind : FaultKind) : Text :=
  "<" ++ kind.text ++ ": " ++ quoted kind.name ++ ">"

namespace Datum

def boolText (value : Bool) : String :=
  if value then "True" else "False"

/-- What is shown in place of a secret: nothing, or that there is one. -/
def hidden (secret : Datum) : String :=
  if secret.truthy then "'***'" else "None"

mutual

def described : Datum → Text
  | .null => "None"
  | .bool value => boolText value
  | .int value => intText value
  | .real value => value.text
  | .text value => quoted value
  | .bytes value => quotedBytes value
  | .list items => "[" ++ Text.intercalate ", " (describedItems items) ++ "]"
  | .table entries => "\x7b" ++ Text.intercalate ", " (describedEntries entries) ++ "\x7d"
  | .instant value => value.described
  | .kind value => value.described
  | .location value => value.described
  | .options endpointUrl region accessKeyId secretAccessKey sessionToken pathStyle =>
    "S3BucketOptions(endpoint_url=" ++ described endpointUrl ++ ", region=" ++ described region ++
      ", access_key_id=" ++ described accessKeyId ++
      ", secret_access_key=" ++ hidden secretAccessKey ++
      ", session_token=" ++ hidden sessionToken ++
      ", path_style_access=" ++ described pathStyle ++ ")"

def describedItems : List Datum → List Text
  | [] => []
  | item :: rest => described item :: describedItems rest

def describedEntries : List (Text × Datum) → List Text
  | [] => []
  | (key, value) :: rest => (quoted key ++ ": " ++ described value) :: describedEntries rest

end

def plain : Datum → Text
  | .text value => value
  | .kind value => value.text
  | .location value => value.text
  | .instant value => value.textWith ' '
  | other => described other

example : plain (.list [.text "a", .int 1, .null]) = "['a', 1, None]" := by decide +kernel

end Datum

end ObjectStorage
