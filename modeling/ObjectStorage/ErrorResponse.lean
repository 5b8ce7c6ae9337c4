import ObjectStorage.Fault

/-!
# Error responses

The responses by which a remote service reports an error, and the fault made of one. Its text names
the operation, the code and the message, and says when the retries of the request were used up. A
response that is no table of tables gives no such fault, but a mishap (`Fault.ofResponse`); that of
a code and a message always does (`ofResponse_errorResponse`).
-/

namespace ObjectStorage

/-- A row of code points stands in another one. -/
def holdsRow (row : List CodePoint) : List CodePoint → Bool
  | [] => row.isEmpty
  | point :: rest => row.isPrefixOf (point :: rest) || holdsRow row rest

namespace Datum

def isText (text : Text) : Datum → Bool
  | .text value => value == text
  | .kind k => k.name == text
  | _ => false

/-- A datum has a text in it: a table among its keys, a list among its items, and a text among its
parts. -/
def holds (name : Text) : Datum → Except Fault Bool
  | .table entries => .ok (entries.lookup name).isSome
  | .list items => .ok (items.any (isText name))
  | .text value => .ok (holdsRow name.points value.points)
  | .kind k => .ok (holdsRow name.points (Text.ofString k.name).points)
  | _ => .error (.mishap (.wrongType "not a container"))

def tableEntries : Datum → Except Fault (List (Text × Datum))
  | .table entries => .ok entries
  | _ => .error (.mishap (.noMethod "object" "get"))

end Datum

/-- The text of an error with what is known of it. -/
def errorText (operation code retries message : Text) : Text :=
  "An error occurred (" ++ code ++ ") when calling the " ++ operation ++ " operation" ++ retries ++
    ": " ++ message

/-- What an error text adds when the retries of a request were used up. -/
def retriesText (response : Datum) : Except Fault Text := do
  if !(← response.holds "ResponseMetadata") then return ""
  match response with
  | .table entries =>
    let metadata ← ((entries.lookup ("ResponseMetadata" : Text)).getD .null).tableEntries
    match metadata.lookup ("MaxAttemptsReached" : Text),
        metadata.lookup ("RetryAttempts" : Text) with
    | some reached, some attempts =>
      return if reached.truthy then " (reached max retries: " ++ attempts.plain ++ ")" else ""
    | _, _ => return ""
  | _ => throw (.mishap (.wrongType "not a table"))

/-- The plain form of an entry, which may be missing. -/
def entryText (key : Text) (entries : List (Text × Datum)) : Text :=
  ((entries.lookup key).map Datum.plain).getD "Unknown"

/-- The text of the error that a response reports for an operation. -/
def responseText (operation : Text) (response : Datum) : Except Fault Text := do
  let retries ← retriesText response
  let entries ← response.tableEntries
  let error ← ((entries.lookup ("Error" : Text)).getD (.table [])).tableEntries
  return errorText operation (entryText "Code" error) retries (entryText "Message" error)

/-- The fault of a response that reports an error for an operation. -/
def Fault.ofResponse (operation : Text) (response : Datum) : Except Fault Fault := do
  return .service response (← responseText operation response)

/-- The response with a code, a message and a status. -/
def errorResponse (code message : Text) (status : Int) : Datum :=
  .table [
    ("Error", .table [("Code", .text code), ("Message", .text message)]),
    ("ResponseMetadata", .table [("HTTPStatusCode", .int status), ("HTTPHeaders", .table [])])]

/-- The error with a code, a message and a status. -/
def Fault.reported (operation code message : Text) (status : Int) : Fault :=
  .service (errorResponse code message status) (errorText operation code "" message)

theorem ofResponse_errorResponse (operation code message : Text) (status : Int) :
    Fault.ofResponse operation (errorResponse code message status) =
      .ok (.reported operation code message status) := rfl

end ObjectStorage
