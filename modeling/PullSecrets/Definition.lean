import PullSecrets.Json.Basic
import PullSecrets.Puller.Basic

/-!
# The definition of pullers

The server of a cluster learns about pullers from a definition: their names, the columns in which
they are listed, and the schema that every puller has to follow.
-/

namespace PullSecrets.Definition

/-- The name of the definition. -/
def name : String := Names.plural ++ "." ++ Names.group

/-! ## Schemas -/

/-- A schema, given by its type and whatever else it says. -/
def schema (type : String) (fields : List (String × Json)) : Json :=
  .object (Dict.ofList (("type", .string type) :: fields)).entries

/-- What a schema says about its purpose. -/
def described (text : String) : String × Json := ("description", .string text)

/-- A schema that lets a value be null. -/
def nullable : String × Json := ("nullable", .bool true)

/-- The fields that an object has to have. -/
def required (names : List String) : String × Json := ("required", .ofStrings names)

/-- The fields of an object. -/
def properties (fields : List (String × Json)) : String × Json :=
  ("properties", .object (Dict.ofList fields).entries)

/-- A schema of texts. -/
def textSchema (fields : List (String × Json)) : Json := schema "string" fields

/-- A schema of lists. -/
def listSchema (items : Json) (fields : List (String × Json)) : Json :=
  schema "array" (("items", items) :: fields)

/-- The schema of credentials. -/
def registrySchema : Json :=
  schema "object" [
    described "Credentials for a single registry",
    properties [
      ("auth", textSchema [described "Pre-encoded \x60username:password\x60 auth token"]),
      ("email", textSchema []),
      ("password", textSchema []),
      ("server", textSchema [described "Registry host, e.g. \x60reg.example.com\x60"]),
      ("username", textSchema [])]]

/-- The schema of selectors. -/
def selectorSchema : Json :=
  schema "object" [
    described "Label selector choosing target namespaces\nWhen omitted, every namespace in the cluster is targeted",
    nullable,
    properties [
      ("matchExpressions", listSchema
        (schema "object" [
          properties [
            ("key", textSchema []),
            ("operator", textSchema []),
            ("values", listSchema (textSchema []) [])],
          required ["key", "operator"]])
        []),
      ("matchLabels", schema "object" [("additionalProperties", textSchema [])])]]

/-- What the schema of specifications says about its purpose. -/
def specDescription : String :=
  String.intercalate "\n" [
    "Puller Custom Resource Definition",
    "",
    "# Example",
    "",
    "\x60\x60\x60yaml",
    "apiVersion: puller.io/v1alpha1",
    "kind: Puller",
    "metadata:",
    "  name: creds1",
    "spec:",
    "  registries:",
    "    - server: reg.example.com",
    "      username: u",
    "      password: p",
    "  namespaceSelector:",
    "    matchLabels:",
    "      team: payments",
    "\x60\x60\x60"]

/-- The schema of specifications. -/
def specSchema : Json :=
  schema "object" [
    described specDescription,
    properties [
      ("namespaceSelector", selectorSchema),
      ("registries", listSchema registrySchema [
        ("default", .array []),
        described "Registry credentials to propagate\nEntries are keyed by server; a repeated server keeps the last entry"])]]

/-- The schema of conditions. -/
def conditionSchema : Json :=
  schema "object" [
    described "Condition represents a condition of a resource",
    properties [
      ("lastTransitionTime", textSchema [described "Last transition time (RFC3339)", nullable]),
      ("message", textSchema [described "Message describing the condition", nullable]),
      ("reason", textSchema [described "Reason for the condition", nullable]),
      ("status", textSchema [
        described "Status of the condition (True, False, Unknown)",
        ("enum", .ofStrings ([ConditionStatus.true, .false, .unknown].map ConditionStatus.text))]),
      ("type", textSchema [described "Type of condition (Ready, Error)"])],
    required ["status", "type"]]

/-- The schema of statuses. -/
def statusSchema : Json :=
  schema "object" [
    described "Status of the Puller resource\n\nA projection of the last reconcile outcome. The controller never reads it\nback to decide what to do.",
    nullable,
    properties [
      ("conditions", listSchema conditionSchema [
        described "Conditions represent the latest available observations"])]]

/-- The schema of pullers. -/
def pullerSchema : Json :=
  schema "object" [
    described "Auto-generated derived type for PullerSpec via \x60CustomResource\x60",
    properties [("spec", specSchema), ("status", statusSchema)],
    required ["spec"],
    ("title", .string Names.kind)]

/-! ## The definition -/

/-- A column in which pullers are listed. -/
def column (name type path : String) : Json :=
  .object [("jsonPath", .string path), ("name", .string name), ("type", .string type)]

/-- The version of pullers. -/
def version : Json :=
  .object [
    ("additionalPrinterColumns", .array [
      column "Ready" "string" ".status.conditions[?(@.type==\"Ready\")].status",
      column "Age" "date" ".metadata.creationTimestamp"]),
    ("name", .string Names.version),
    ("schema", .object [("openAPIV3Schema", pullerSchema)]),
    ("served", .bool true),
    ("storage", .bool true),
    ("subresources", .object [("status", .object [])])]

/-- The definition of pullers. -/
def definition : Json :=
  .object [
    ("apiVersion", .string "apiextensions.k8s.io/v1"),
    ("kind", .string "CustomResourceDefinition"),
    ("metadata", .object [("name", .string name)]),
    ("spec", .object [
      ("group", .string Names.group),
      ("names", .object [
        ("categories", .array []),
        ("kind", .string Names.kind),
        ("plural", .string Names.plural),
        ("shortNames", .ofStrings ["pl"]),
        ("singular", .string "puller")]),
      ("scope", .string "Cluster"),
      ("versions", .array [version])])]

end PullSecrets.Definition
