import ObjectStorage.Client.Options

/-!
# Connection parameters

What a connection to the service is opened with: the options that count as given, under the
service's names for them, and a configuration that leaves retries to the caller.
-/

namespace ObjectStorage

/-- The parameters of a connection. -/
structure Parameters where
  addressing : String
  named : List (Text × Datum)

namespace Parameters

/-- The service that connections are opened to. -/
def service : String := "s3"

/-- A parameter, if its option counts as given. -/
def parameter (name : Text) (option : Datum) : List (Text × Datum) :=
  if option.truthy then [(name, option)] else []

def ofOptions (options : ClientOptions) : Parameters where
  addressing := if options.pathStyle.truthy then "path" else "auto"
  named :=
    parameter "region_name" options.region ++
    parameter "endpoint_url" options.endpointUrl ++
    parameter "aws_access_key_id" options.accessKeyId ++
    parameter "aws_secret_access_key" options.secretAccessKey ++
    parameter "aws_session_token" options.sessionToken

def configuration (parameters : Parameters) : Datum :=
  .table [
    ("signature_version", .text "s3v4"),
    ("s3", .table [("addressing_style", .text parameters.addressing)]),
    ("retries", .table [("mode", .text "standard"), ("max_attempts", .int 1)])]

def toDatum (parameters : Parameters) : Datum :=
  .table (("config", parameters.configuration) :: parameters.named)

end Parameters

end ObjectStorage
