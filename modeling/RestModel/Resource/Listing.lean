import RestModel.Json.Basic
import RestModel.Lint.Basic
import RestModel.Resource.Descriptor

/-! # Listings of descriptors

The form in which descriptors and their parts are printed. What is absent is
left out. -/

namespace RestModel

def Wait.toJson (wait : Wait) : Json :=
  .object [("literal", .string wait.literal), ("seconds", .nat wait.seconds)]

def OperationSet.toJson (set : OperationSet) : Json :=
  .object [("operations", .strings (set.operations.map (·.name))), ("path", .string set.path),
    ("marker", .string set.marker)]

def ExtraMethod.toJson (method : ExtraMethod) : Json :=
  .ofMembers [("verb", some (.string method.verb.name)), ("path", some (.string method.path)),
    ("async_wait", method.wait.map (·.toJson))]

def RouteOverride.toJson (url : RouteOverride) : Json :=
  .object [("verb", .string url.verb.name), ("path", .string url.path)]

def Json.unlessEmpty (items : List Json) : Option Json :=
  if items.isEmpty then none else some (.array items)

def LegacyPaths.toJson? (legacy : LegacyPaths) : Option Json :=
  if legacy.details.isNone && legacy.upsert.isNone then
    none
  else
    some (.ofMembers [("details", legacy.details.map .string),
      ("upsert", legacy.upsert.map .string)])

def Descriptor.toJson (descriptor : Descriptor) : Json :=
  .ofMembers [("name", some (.string descriptor.name)),
    ("operation_set", descriptor.operationSet.map (·.toJson)),
    ("extra_methods", Json.unlessEmpty (descriptor.extraMethods.map (·.toJson))),
    ("legacy", descriptor.legacy.toJson?),
    ("request_url", descriptor.requestUrl.map (·.toJson)),
    ("response_url", descriptor.responseUrl.map (·.toJson)),
    ("origin", descriptor.origin.map .string)]

def Lint.toJson (lint : Lint) : Json :=
  .ofMembers [("location", some (.string lint.location)),
    ("severity", some (.string lint.severity.name)), ("kind", some (.string lint.kind.name)),
    ("message", some (.string lint.message)), ("suggestion", lint.suggestion.map .string)]

end RestModel
