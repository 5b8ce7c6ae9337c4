import ObjectStorage.Datum.Alike
import ObjectStorage.Datum.Reading

/-!
# Client options

How to connect to a bucket. Every option may be left open; the options of a bucket are laid over
the defaults field by field (`ClientOptions.laidOver`). The options that result identify the client:
buckets with alike options share one (`StoreOptions.identityOf`).
-/

namespace ObjectStorage

open Text Time

/-- The options of a connection. A null leaves an option open. -/
structure ClientOptions where
  endpointUrl : Datum
  region : Datum
  accessKeyId : Datum
  secretAccessKey : Datum
  sessionToken : Datum
  pathStyle : Datum

namespace ClientOptions

/-- All options open. -/
def empty : ClientOptions :=
  ⟨.null, .null, .null, .null, .null, .null⟩

def names : List Text :=
  ["endpoint_url", "region", "access_key_id", "secret_access_key", "session_token",
   "path_style_access"]

def toDatum (o : ClientOptions) : Datum :=
  .options o.endpointUrl o.region o.accessKeyId o.secretAccessKey o.sessionToken o.pathStyle

/-- The described form of options, which does not show secrets. -/
def described (o : ClientOptions) : Text :=
  o.toDatum.described

/-- Two options identify the same client. -/
def alike (o p : ClientOptions) : Bool :=
  o.toDatum.alike p.toDatum

/-- One option laid over a default: an open one leaves the default. -/
def overField (own default : Datum) : Datum :=
  match own with
  | .null => default
  | _ => own

def laidOver (own defaults : ClientOptions) : ClientOptions where
  endpointUrl := overField own.endpointUrl defaults.endpointUrl
  region := overField own.region defaults.region
  accessKeyId := overField own.accessKeyId defaults.accessKeyId
  secretAccessKey := overField own.secretAccessKey defaults.secretAccessKey
  sessionToken := overField own.sessionToken defaults.sessionToken
  pathStyle := overField own.pathStyle defaults.pathStyle

/-- The options in a table whose names are all known. -/
def ofEntries (entries : List (Text × Datum)) : ClientOptions :=
  let field := fun name => (entries.lookup name).getD .null
  ⟨field "endpoint_url", field "region", field "access_key_id", field "secret_access_key",
    field "session_token", field "path_style_access"⟩

/-- The names that are not those of options, each once and in order. -/
def unknownNames (given : List Text) : List Text :=
  sorted (given.filter fun name => !names.contains name).eraseDups

/-- The text of a name in a sequence of names. -/
def nameOf : Datum → Except Fault Text
  | .text name => .ok name
  | .kind kind => .ok kind.name
  | other =>
    match other.unkeyable? with
    | some typeName => .error (.mishap (.unkeyable typeName))
    | none => .error (.mishap (.wrongType "not a name"))

def ofDatum (data : Datum) : Except Fault ClientOptions := do
  let given ← (← data.items).mapM nameOf
  let unknown := unknownNames given
  if !unknown.isEmpty then throw (.mishap (.unknownOptions unknown))
  match data, given with
  | .table entries, _ => return ofEntries entries
  | _, [] => return empty
  | _, first :: _ => throw (.mishap (.notPairs first.length))

end ClientOptions

/-- The default options, the options of single buckets, and how long to wait when the service asks
to slow down and does not say for how long. -/
structure StoreOptions where
  defaults : ClientOptions
  buckets : List (Text × ClientOptions)
  retryAfter : Option Duration

namespace StoreOptions

/-- The options of a bucket laid over the defaults. -/
def effective (options : StoreOptions) (bucket : Text) : ClientOptions :=
  match options.buckets.lookup bucket with
  | some own => own.laidOver options.defaults
  | none => options.defaults

/-- A text has the mark of a location in it. -/
def looksLikeLocation (text : Text) : Bool :=
  (Location.cutScheme? text.points).isSome

/-- The bucket that a target names: the authority of a location, or the target's text itself. -/
def bucketOf (target : Datum) : Except Fault Text :=
  match target with
  | .location location => location.needAuthority
  | _ =>
    if looksLikeLocation target.plain then do (← target.toLocation).needAuthority
    else .ok target.plain

/-- The options that identify the client of a target. -/
def identityOf (options : StoreOptions) (target : Datum) : Except Fault ClientOptions := do
  return options.effective (← bucketOf target)

end StoreOptions

end ObjectStorage
